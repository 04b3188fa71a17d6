import NextApp.Lib.TextSearch

/-! # Requests and their errors

The top-level `handleRequest`, which every form and page sends its requests through, and `downloadFile`, with the messages
that it throws. -/

namespace NextApp
open TextSearch

/-- What a request throws. -/
inductive Thrown where
  | submitException (title message : Text)
  | serverException (message : Text)
  | timeoutException
  | socketException
  | other
deriving DecidableEq, Repr

/-- What `handleRequest` does besides, in its order; `φ` is for what the callback may be. -/
inductive RequestEffect (φ : Type) where
  | pop
  | errorDialog (errorMessage : Text)
  | errorSnackBar (message error : Text)
  | snackBar (message : Text)
  | callback (onException : φ)
deriving DecidableEq, Repr

/-- How it ends: with what the request returns, with `false`, or by an error of its own. -/
inductive RequestEnd (β : Type) where
  | returned (value : β)
  | failed
  | rangeError
deriving DecidableEq, Repr

structure HandledRequest (β φ : Type) where
  effects : List (RequestEffect φ)
  ends : RequestEnd β
deriving DecidableEq, Repr

/-- `replaceAll(RegExp('<[^>]*>'), '')`, from within a tag or from outside. -/
def removeTags : Bool → Text → Text
  | _, [] => []
  | true, c :: text => removeTags (c ≠ 62) text
  | false, c :: text => if c = 60 ∧ 62 ∈ text then removeTags true text else c :: removeTags false text

/-- The part after the last `:` -/
def removeAllHtmlTags (text : Text) : Text := ((removeTags false text).reverse.takeWhile (· ≠ 58)).reverse

/-- `message.split('!!').first` -/
def firstPart (message : Text) : Text := (cut (codeUnits "!!") message).elim message Prod.fst

/-- What is shown of an exception: none when it throws. -/
def Thrown.report (φ : Type) : Thrown → Option (List (RequestEffect φ))
  | submitException _ message => some [.pop, .errorDialog (removeAllHtmlTags message)]
  | serverException message =>
    (substring message 22 message.length).map fun error => [.errorSnackBar (firstPart message) error]
  | timeoutException => some [.snackBar (codeUnits "connection lost")]
  | socketException => some [.snackBar (codeUnits "connection lost")]
  | other => some []

variable {β φ : Type}

namespace ServerRequest

def handleRequest (serverRequest : Except Thrown β) (onException : Option φ) : HandledRequest β φ :=
  match serverRequest with
  | .ok value => { effects := [], ends := .returned value }
  | .error e =>
    match e.report φ with
    | some effects => { effects := effects ++ onException.toList.map .callback, ends := .failed }
    | none => { effects := [], ends := .rangeError }

end ServerRequest

/-- How the download of `APIService.downloadFile` ends. -/
inductive DownloadReply where
  | written
  | dioException (connectionTimeout : Bool)
  | error
deriving DecidableEq, Repr

def downloadFile : DownloadReply → Except Thrown Unit
  | .written => .ok ()
  | .dioException true => .error (.serverException (codeUnits "connection time out"))
  | .dioException false => .error (.serverException (codeUnits "something went wrong :("))
  | .error => .error (.serverException (codeUnits "something went wrong :("))

/-- `openFile`, with the toast of its callback: the second component says that its loading dialog stays. -/
def openFile (reply : DownloadReply) : HandledRequest Unit String × Bool :=
  let handled := ServerRequest.handleRequest (downloadFile reply) (some "something went wrong :(")
  (handled, handled.ends = .rangeError)

end NextApp
