import Mathlib.Logic.Function.Basic
import NextApp.Lib.Polled
import NextApp.Lib.Runs

/-! # The workflow panel of a page

`ActionWidget` on top of a `GenericPage` shows the workflow status of the document and offers the actions on it in a dialog. An
action goes to the server as a change of its own, which pops the dialog when it returns; when the dialog is popped, status and
actions are asked for again. Replies and changes are on their way side by side. -/

namespace NextApp

/-- The workflow as the server has it; an action may be refused. -/
structure Workflow (σ : Type*) where
  actions : σ → List String
  status : σ → Option String
  update : String → σ → Option σ

structure WorkflowUpdate where
  docname : String
  action : String
  /-- the number of the dialog it was chosen in -/
  dialog : Nat
  served : Bool := false
deriving DecidableEq, Repr

structure WorkflowPanel (σ : Type*) where
  documents : String → σ
  /-- the document of the page, if one is open -/
  pageId : Option String := none
  actionsList : Polled String (List String) := ⟨[], []⟩
  workflowStatus : Polled String (Option String) := ⟨none, []⟩
  dialog : Bool := false
  /-- how many dialogs have been opened -/
  dialogs : Nat := 0
  updates : List WorkflowUpdate := []

inductive WorkflowPanelEvent where
  | openPage (pageId : String)
  | back
  | tapAction
  | choose (index : Nat)
  /-- a tap beside the dialog -/
  | dismiss
  /-- the server answers a query, or makes a change -/
  | answerActions (index : Nat)
  | answerStatus (index : Nat)
  | applyUpdate (index : Nat)
  /-- an answer arrives, or the failure of its request -/
  | actionsArrive (index : Nat) (ok : Bool)
  | statusArrives (index : Nat) (ok : Bool)
  | updateReturns (index : Nat)
deriving DecidableEq

namespace WorkflowPanel
variable {σ : Type*} (w : Workflow σ)

/-- `getActionList` and `getWorkflowStatus` until their requests. -/
def refresh (s : WorkflowPanel σ) (pageId : String) : WorkflowPanel σ :=
  { s with actionsList := s.actionsList.ask pageId, workflowStatus := s.workflowStatus.ask pageId }

/-- The dialog is popped: `whenComplete`. -/
def closeDialog (s : WorkflowPanel σ) : WorkflowPanel σ := s.pageId.elim { s with dialog := false } { s with dialog := false }.refresh

/-- `Navigator.pop(context)` of a change that has returned: the context is in the dialog, and it throws once that is gone. -/
def popAfter (s : WorkflowPanel σ) (update : WorkflowUpdate) : WorkflowPanel σ :=
  if s.dialog ∧ update.dialog = s.dialogs then s.closeDialog else s

/-- `genericGet` returns no message when the request fails. -/
def step (s : WorkflowPanel σ) : WorkflowPanelEvent → Option (WorkflowPanel σ)
  | .openPage pageId =>
    if s.dialog then none else some ({ s with pageId := some pageId }.refresh pageId)
  | .back => if s.dialog ∨ s.pageId = none then none else some { s with pageId := none }
  | .tapAction =>
    if s.dialog ∨ s.pageId = none then none
    else if s.actionsList.shown = [] then some s
    else some { s with dialog := true, dialogs := s.dialogs + 1 }
  | .choose index =>
    if s.dialog then
      s.pageId.bind fun pageId => s.actionsList.shown[index]?.map fun action =>
        { s with updates := s.updates ++ [{ docname := pageId, action, dialog := s.dialogs }] }
    else none
  | .dismiss => if s.dialog then some s.closeDialog else none
  | .answerActions index => some { s with actionsList := s.actionsList.answer (fun d => w.actions (s.documents d)) index }
  | .answerStatus index => some { s with workflowStatus := s.workflowStatus.answer (fun d => w.status (s.documents d)) index }
  | .applyUpdate index =>
    s.updates[index]?.bind fun update =>
      if update.served then none
      else
        some { s with
          updates := s.updates.set index { update with served := true }
          documents := ((w.update update.action (s.documents update.docname)).elim s.documents
            (Function.update s.documents update.docname)) }
  | .actionsArrive index ok =>
    s.actionsList.queries[index]?.bind fun query =>
      if ok then query.2.map fun message => { s with actionsList := s.actionsList.arrive index message }
      else some { s with actionsList := s.actionsList.arrive index [] }
  | .statusArrives index ok =>
    s.workflowStatus.queries[index]?.bind fun query =>
      if ok then query.2.map fun message => { s with workflowStatus := s.workflowStatus.arrive index message }
      else some { s with workflowStatus := s.workflowStatus.arrive index none }
  | .updateReturns index =>
    s.updates[index]?.map fun update => { s with updates := s.updates.eraseIdx index }.popAfter update

end WorkflowPanel

end NextApp
