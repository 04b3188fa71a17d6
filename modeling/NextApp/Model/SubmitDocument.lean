import NextApp.Lib.Runs
import NextApp.Model.EditForm

/-! # Submitting and cancelling a document

`submitDocument` and `cancelledDocument` of the module provider on a page, with the requests of `APIService` and
`handleRequest` around them. The dialog that asks is closed by its answer. Neither call waits for the page that it loads
anew. -/

namespace NextApp

/-- How `dio.put` ends. -/
inductive DocReply where
  | response (statusCode : Nat) (data : Value)
  | failed

/-- How a request of `APIService` ends. -/
inductive Answer where
  | returned (value : Option Bool)
  | submitException (title message : String)
  | serverException (message : String)
deriving DecidableEq

namespace DocReply

/-- `data['message']['success_key'] == true`: none when it throws. -/
def succeeds? : Value → Option Bool
  | .map data =>
    match Doc.at data "message" with
    | .map message => some (Doc.at message "success_key" = .bool true)
    | _ => none
  | _ => none

/-- Whatever throws but a `SubmitException` is caught and gives null. -/
def submitDoc : DocReply → Answer
  | failed => .returned none
  | response statusCode data =>
    if statusCode = 200 then
      match succeeds? data with
      | some true => .returned (some true)
      | _ => .returned none
    else
      match data.asMap? with
      | none => .returned none
      | some data =>
        match (Doc.at data "exc_type").asString?, (Doc.at data "exception").asString? with
        | some title, some message => .submitException title message
        | _, _ => .returned none

/-- Whatever throws but a `ServerException` is caught and gives null. -/
def cancelDoc : DocReply → Answer
  | failed => .returned none
  | response statusCode data =>
    if statusCode = 200 then
      match succeeds? data with
      | some true => .returned (some true)
      | some false => .serverException "something went wrong :("
      | none => .returned none
    else .serverException "something went wrong :("

end DocReply

inductive PageRoute where
  | loadingDialog
  | errorDialog
  | other (i : Nat)
deriving DecidableEq, Repr

structure DocumentPage where
  provider : ModuleProvider
  /-- the top route first -/
  routes : List PageRoute
  /-- the snack bars shown, the last one first -/
  snackBars : List String := []
  /-- the page requests that have not been answered -/
  inFlight : List PageRequest := []
deriving DecidableEq

namespace DocumentPage

def push (s : DocumentPage) (r : PageRoute) : DocumentPage := { s with routes := r :: s.routes }

def pop (s : DocumentPage) : DocumentPage := { s with routes := s.routes.tail }

def showSnackBar (s : DocumentPage) (message : String) : DocumentPage := { s with snackBars := message :: s.snackBars }

/-- `loadPage` up to its `await`. -/
def loadPage (s : DocumentPage) : DocumentPage :=
  { s with provider := s.provider.startLoadPage.1, inFlight := s.inFlight ++ s.provider.startLoadPage.2.toList }

/-- `message.split('!!').first` -/
def beforeMark : List Char → List Char
  | '!' :: '!' :: _ => []
  | c :: cs => c :: beforeMark cs
  | [] => []

/-- `handleRequest`, with the value it returns. -/
def handleRequest (s : DocumentPage) : Answer → Outcome (DocumentPage × Option Bool)
  | .returned value => .done (s, value)
  | .submitException _ _ => .done (s.pop.push .errorDialog, some false)
  | .serverException message =>
    .need (s, some false) (substring? message 22) fun _ =>
      .done (s.showSnackBar (String.ofList (beforeMark message.toList)), some false)

/-- The filters are set to others and back, which only notifies the listeners. -/
def notifyFilter (s : DocumentPage) : DocumentPage :=
  { s with provider := (s.provider.setFilter [("notifyListeners", .bool true)]).setFilter s.provider.filter }

/-- The question names the module: without one it throws. -/
def submitDocument (s : DocumentPage) (answer : Bool) (reply : DocReply) : Outcome DocumentPage :=
  .need s s.provider.currentModule fun _ =>
    if answer then
      match (s.push .loadingDialog).handleRequest reply.submitDoc with
      | .threw (s, _) => .threw s
      | .done (s, response) =>
        if response = some true then
          let s := { s with provider := { s.provider with pageSubmitStatus := some 1 } }
          .done (s.notifyFilter.loadPage.pop.showSnackBar "Submitted Successfully")
        else .done s
    else .done s.loadPage

/-- Only the status depends on the response. -/
def cancelledDocument (s : DocumentPage) (answer : Bool) (reply : DocReply) : Outcome DocumentPage :=
  .need s s.provider.currentModule fun _ =>
    if answer then
      match (s.push .loadingDialog).handleRequest reply.cancelDoc with
      | .threw (s, _) => .threw s
      | .done (s, response) =>
        let s := if response = some true then { s with provider := { s.provider with pageSubmitStatus := some 1 } } else s
        .done (s.notifyFilter.loadPage.pop.showSnackBar "canceled Successfully")
    else .done s.loadPage

end DocumentPage

inductive DocumentCall where
  | submit
  | cancel
deriving DecidableEq

namespace DocumentCall

def request : DocumentCall → DocReply → Answer
  | submit => DocReply.submitDoc
  | cancel => DocReply.cancelDoc

def call : DocumentCall → DocumentPage → Bool → DocReply → Outcome DocumentPage
  | submit => DocumentPage.submitDocument
  | cancel => DocumentPage.cancelledDocument

end DocumentCall

inductive DocumentEvent where
  /-- a call with the answer of its dialog and, when it is asked for, the reply of the server -/
  | call (c : DocumentCall) (answer : Bool) (reply : DocReply)
  /-- the response to the page request at position `i`, none when it fails -/
  | loaded (i : Nat) (page : Option ServerPage)

def DocumentPage.step (s : DocumentPage) : DocumentEvent → Option DocumentPage
  | .call c answer reply => some (c.call s answer reply).state
  | .loaded i page => s.inFlight[i]?.map fun _ =>
    { s with provider := (s.provider.endLoadPage (responseBody page)).state, inFlight := s.inFlight.eraseIdx i }

end NextApp
