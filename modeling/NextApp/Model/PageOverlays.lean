import NextApp.Lib.Overlays
import NextApp.Lib.Runs
import NextApp.Model.ServerRequest

/-! # What is put up over a page

The menu of a `GenericPage` with its sheets, their dialogs, the loading dialogs of the requests that are made from them and from
the buttons of the page, and what each of these requests pops when it is over. A notification may open another page at any
time. A route is gone once it is popped. -/

namespace NextApp

inductive PageSheet where
  | comments
  | assignments
  | sharedWith
  | attachments
  | logs
deriving DecidableEq, Repr

inductive OverlayRoute where
  /-- a screen that pages are opened from -/
  | app
  | page
  | menu
  | sheet (sheet : PageSheet)
  | assignDialog
  | shareDialog
  | userList
  | formatDialog
  | actionDialog
  | pdfScreen
  | loadingDialog
deriving DecidableEq, Repr

inductive PageCall where
  | comment
  | pickFile
  | upload
  | openFile
  | assign
  | share
  | print
  /-- the document is shown by another app -/
  | layout
  | download
  | action
deriving DecidableEq, Repr

/-- How a request or a pick ends. -/
inductive CallReply where
  | done
  | failed (connectionTimeout : Bool)
deriving DecidableEq, Repr

def CallReply.download : CallReply → DownloadReply
  | done => .written
  | failed connectionTimeout => .dioException connectionTimeout

namespace PageCall

/-- What is taken down with it. -/
def own : PageCall → List OverlayRoute
  | comment | openFile | print | download => [.loadingDialog]
  | pickFile => [.sheet .attachments]
  | upload => [.loadingDialog, .sheet .attachments, .menu]
  | assign => [.loadingDialog, .assignDialog, .sheet .assignments, .menu]
  | share => [.loadingDialog, .shareDialog, .sheet .sharedWith, .menu]
  | layout => []
  | action => [.actionDialog]

def showsLoading : PageCall → Bool
  | comment | upload | openFile | assign | share | print | download => true
  | pickFile | layout | action => false

/-- How far below the top the route of its `context` lies: the sheets are opened with the context of the menu. -/
def depth : PageCall → Nat
  | comment | upload => 2
  | pickFile | openFile | assign | share | print | download => 1
  | layout | action => 0

/-- The calls of `Navigator.pop` at its end. -/
def pops : PageCall → CallReply → Nat
  | upload, _ => 3 -- two in `addAttachment` and one when it has completed
  | assign, _ => 4
  | share, _ => 4
  | openFile, reply => if (NextApp.openFile reply.download).2 then 0 else 1
  | layout, .done => 0
  | layout, .failed _ => 1 -- the `catch` pops once more
  | _, _ => 1

end PageCall

abbrev PageOverlays := Overlays OverlayRoute PageCall

inductive PageOverlayEvent where
  | openPage
  | notification
  | back
  | home
  | tapMenu
  | tapItem (sheet : PageSheet)
  /-- the button of a sheet -/
  | tapAdd
  | pickUser
  | send
  | openAttachment
  /-- `Add` in a dialog -/
  | confirm
  | print
  | download (oneFormat : Bool)
  | chooseFormat
  | tapAction
  | choose
  | ends (index : Nat) (reply : CallReply)
deriving DecidableEq, Repr

/-- What a tap does to the route on top of which it is made. -/
inductive OverlayAct where
  | push (route : OverlayRoute)
  | pop
  | call (call : PageCall)
deriving DecidableEq, Repr

namespace PageOverlayEvent

def acts : PageOverlayEvent → OverlayRoute → Option (List OverlayAct)
  | openPage, .app => some [.push .page]
  | back, .app => none
  | back, .loadingDialog => none
  | back, _ => some [.pop]
  | home, .page => some [.pop, .push .app]
  | tapMenu, .page => some [.push .menu]
  | tapItem sheet, .menu => some [.push (.sheet sheet)]
  | tapAdd, .sheet .assignments => some [.push .assignDialog]
  | tapAdd, .sheet .sharedWith => some [.push .shareDialog]
  | tapAdd, .sheet .attachments => some [.call .pickFile]
  | pickUser, .assignDialog => some [.push .userList]
  | pickUser, .shareDialog => some [.push .userList]
  | send, .sheet .comments => some [.call .comment]
  | openAttachment, .sheet .attachments => some [.call .openFile]
  | confirm, .assignDialog => some [.call .assign]
  | confirm, .shareDialog => some [.call .share]
  | print, .page => some [.call .print]
  | download true, .page => some [.call .download]
  | download false, .page => some [.push .formatDialog]
  | chooseFormat, .formatDialog => some [.pop, .call .download]
  | tapAction, .page => some [.push .actionDialog]
  | choose, .actionDialog => some [.call .action]
  | _, _ => none

end PageOverlayEvent

namespace PageOverlays

/-- The file picker is in front of the app. -/
def covered (s : PageOverlays) : Bool := s.calls.any fun c => c.1 = .pickFile

def call (s : PageOverlays) (call : PageCall) : PageOverlays :=
  (if call.showsLoading then s.push .loadingDialog else s).startAt call call.depth

def act (s : PageOverlays) : OverlayAct → PageOverlays
  | .push route => s.push route
  | .pop => s.drop 1
  | .call call => PageOverlays.call s call

/-- A call is over: whatever it does needs its context. -/
def ended (s : PageOverlays) (index : Nat) (c : PageCall × Nat) (reply : CallReply) : PageOverlays :=
  let t := s.endCall index
  if s.Mounted c.2 then
    match c.1, reply with
    | .pickFile, .done => (t.push .loadingDialog).start .upload c.2
    | .print, .done => (t.drop 1).start .layout c.2
    | .download, .done => (t.drop 1).push .pdfScreen
    | call, reply => t.drop (call.pops reply)
  else t

def step (s : PageOverlays) : PageOverlayEvent → Option PageOverlays
  | .notification => some (s.push .page)
  | .ends index reply => s.calls[index]?.map fun c => ended s index c reply
  | e =>
    if covered s then none
    else s.shown.head?.bind fun route => (e.acts route).map fun acts => acts.foldl act s

def start : PageOverlays := { routes := [(0, .app)], opened := 1 }

end PageOverlays

end NextApp
