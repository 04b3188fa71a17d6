import NextApp.Lib.Runs
import NextApp.Model.RowForm

/-! # The workflow form, opened again and again

The two tables of the workflow form are lists of the provider that outlive the form: after an edit they are those of the
page. What `WorkflowForm` does to them from one form to the next. -/

namespace NextApp

def WorkflowList.key : WorkflowList → String
  | .states => "states"
  | .transitions => "transitions"

/-- The rows of both tables of a workflow. -/
abbrev WorkflowRows := WorkflowList → List (ItemRow Num)

namespace RowSession

/-- `initState` before anything is loaded: the lists of the provider are emptied, and are the form's own. -/
def clearWorkflow (s : RowSession) : RowSession :=
  { s with
    store := (s.store.setList s.workflowStates []).setList s.workflowTransitions []
    data := { lists := [("states", s.workflowStates), ("transitions", s.workflowTransitions)] } }

/-- What `initState` delays in the editing and the duplicate mode. -/
def loadWorkflow (s : RowSession) : RowSession := { s with data := s.page.updateData }.takeWorkflow

/-- The rows on the screen. -/
def shownRows (s : RowSession) : WorkflowRows := fun list => (s.store.lists (s.workflowList list)).map s.store.rows

/-- The rows that a save sends, none when the data has no such table. -/
def sentRows (s : RowSession) (list : WorkflowList) : Option (List (ItemRow Num)) :=
  (s.data.lists.get? list.key).map fun l => (s.store.lists l).map s.store.rows

end RowSession

structure WorkflowForms where
  session : RowSession
  /-- the rows the page was loaded with -/
  loaded : WorkflowRows := fun _ => []
  /-- the rows that the open form should have: those it was opened for, with the edits made in it -/
  form : Option WorkflowRows := none

/-- A failed save closes nothing and is left out, as are the fields of the form. -/
inductive WorkflowFormEvent where
  /-- `pushPage`, before the response -/
  | push
  /-- the response of `loadPage` -/
  | load (fields : Doc) (rows : WorkflowRows)
  /-- the add button of the list -/
  | openNew
  | openEdit
  | openDuplicate
  | add (list : WorkflowList) (row : ItemRow Num)
  | remove (list : WorkflowList) (index : Nat)
  /-- the form is left, or its save went through -/
  | close

namespace WorkflowForms

def start : WorkflowForms where
  session :=
    { mode := .edit
      store := { rows := fun _ => {}, lists := fun _ => [], nextRow := 0, nextList := 2 }
      page := {}
      data := {}
      workflowStates := 0
      workflowTransitions := 1 }

def load (s : WorkflowForms) (fields : Doc) (rows : WorkflowRows) : WorkflowForms :=
  let read := s.session.store.load [("states", rows .states), ("transitions", rows .transitions)]
  { s with session := { s.session with store := read.1, page := { fields, lists := read.2 } }, loaded := rows }

def openPage (s : WorkflowForms) (mode : OpenMode) : WorkflowForms :=
  { s with session := { s.session with mode }.clearWorkflow.loadWorkflow, form := some s.loaded }

/-- `edit` changes the rows of one table as `e` changes the lists. -/
def editWith (s : WorkflowForms) (e : RowEvent) (list : WorkflowList) (edit : List (ItemRow Num) → List (ItemRow Num)) :
    Option WorkflowForms :=
  s.form.bind fun rows => (s.session.step .workflow e).map fun session =>
    { s with session, form := some (Function.update rows list (edit (rows list))) }

def step (s : WorkflowForms) : WorkflowFormEvent → Option WorkflowForms
  | .push => some { s with session := { s.session with page := {} } }
  | .load fields rows => some (s.load fields rows)
  | .openNew => if s.form = none then some { s with session := s.session.clearWorkflow, form := some fun _ => [] } else none
  | .openEdit => if s.form = none then some (s.openPage .edit) else none
  | .openDuplicate => if s.form = none then some (s.openPage .duplicate) else none
  | .add list row => s.editWith (.addState list row) list (· ++ [row])
  | .remove list index => s.editWith (.removeState list index) list (·.eraseIdx index)
  | .close => s.form.map fun _ => { s with session := s.session.leave, form := none }

end WorkflowForms

end NextApp
