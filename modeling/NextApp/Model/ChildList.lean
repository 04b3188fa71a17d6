import NextApp.Lib.Runs
import NextApp.Model.RowForm

/-! # The lists of time logs and operations

`TimesheetForm` and the `TimingDetailsForm` of a job card show the provider's list of time logs, the `Group2` of a bill
of materials its list of operations. Their `build` puts the provider's list into the form's data and, while a document is
edited, amended or duplicated, adds the rows of the list that was there before to the provider's. -/

namespace NextApp

inductive ChildForm where
  | timesheet
  | jobCard
  | bom
deriving DecidableEq, Repr

/-- `Provider.of` in `build`: every notification of the provider builds the form. The job card reads. -/
def ChildForm.listens : ChildForm → Bool
  | timesheet | bom => true
  | jobCard => false

/-- `isEditing`, `isAmendingMode` or `duplicateMode` is up. -/
def OpenMode.copies : OpenMode → Bool
  | edit | amend | duplicate => true
  | createFrom _ => false

/-- An open form: `mode` is none for a new document. The last three are for the record: the rows of the document and
    those added in the form, the list that is due, and whether a build has thrown. -/
structure OpenChildForm where
  form : ChildForm
  mode : Option OpenMode
  /-- the list under the form's key in its data -/
  data : Option Nat := none
  /-- the timer that loads the document has not run -/
  timer : Bool
  own : List Nat
  due : List Nat := []
  threw : Bool := false

/-- The provider's lists, the list of the page that it holds, and the form. -/
structure ChildSession where
  store : Store Doc := ⟨fun _ => [], fun _ => [], 0, 2⟩
  timeSheetData : Nat := 0
  bomOperations : Nat := 1
  page : Option Nat := none
  form : Option OpenChildForm := none

inductive ListEvent where
  | build
  | add (row : Doc)
  | remove (index : Nat)

inductive ChildEvent where
  | loadPage (rows : Option (List Doc))
  | openForm (form : ChildForm) (mode : Option OpenMode)
  /-- the timer of `initState` -/
  | load
  | list (e : ListEvent)
  | submit
  | leave

namespace ChildSession

/-- The provider's list that the form shows. -/
def listOf (s : ChildSession) : ChildForm → Nat
  | .timesheet | .jobCard => s.timeSheetData
  | .bom => s.bomOperations

/-- The rows that the form shows. -/
def shown (s : ChildSession) (form : ChildForm) : List Nat := s.store.lists (s.listOf form)

/-- The rows that the form submits under its key. -/
def submitted (s : ChildSession) (f : OpenChildForm) : List Nat := f.data.elim [] s.store.lists

/-- The rows of the page that the provider holds. -/
def pageRows (s : ChildSession) : List Nat := s.page.elim [] s.store.lists

/-- `clearTimeSheet = []`. -/
def clearTimeSheet (s : ChildSession) : ChildSession :=
  { s with store := s.store.newList [], timeSheetData := s.store.nextList }

/-- What `initState` does to the lists of the provider. -/
def initState (s : ChildSession) (form : ChildForm) : ChildSession := if form = .timesheet then s.clearTimeSheet else s

def openForm (s : ChildSession) (form : ChildForm) (mode : Option OpenMode) : ChildSession :=
  let s := s.initState form
  { s with form := some { form, mode, timer := mode.isSome, own := if mode.isSome then s.pageRows else [] } }

/-- `data = provider.updateData`, or `createFromPageData`. -/
def load (s : ChildSession) (f : OpenChildForm) : ChildSession :=
  { s with form := some { f with data := s.page, timer := false, own := f.own ++ s.pageRows, due := s.pageRows } }

def build (s : ChildSession) (f : OpenChildForm) : ChildSession :=
  let logs := f.data
  let f := { f with data := some (s.listOf f.form) }
  if f.mode.any OpenMode.copies then
    match logs with
    | none => { s with form := some f }
    | some logs =>
      match s.store.appendAll logs (s.listOf f.form) with
      | .done store => { s with store, form := some f }
      | .threw store => { s with store, form := some { f with threw := true } }
  else { s with form := some f }

/-- `setTimeSheet` and `setBomOperations`, from the dialog of the form. -/
def add (s : ChildSession) (f : OpenChildForm) (row : Doc) : ChildSession :=
  let l := s.listOf f.form
  let r := s.store.nextRow
  let s := { s with store := (s.store.newRow row).setList l (s.store.lists l ++ [r]) }
  let f := { f with own := f.own ++ [r], due := f.due ++ [r] }
  if f.form.listens then s.build f else { s with form := some f }

/-- `setState(() => list.removeAt(index))`. -/
def remove (s : ChildSession) (f : OpenChildForm) (index : Nat) : ChildSession :=
  let l := s.listOf f.form
  ({ s with store := s.store.setList l ((s.store.lists l).eraseIdx index) } : ChildSession).build
    { f with due := f.due.eraseIdx index }

def editList (s : ChildSession) (f : OpenChildForm) : ListEvent → Option ChildSession
  | .build => some (s.build f)
  | .add row => some (s.add f row)
  | .remove index => if index < (s.shown f.form).length then some (s.remove f index) else none

/-- `deactivate` of the form: the one of the job card starts a function that it does not call. -/
def leave (s : ChildSession) (f : OpenChildForm) : ChildSession :=
  let s := { s with form := none }
  if f.form = .bom then s.clearTimeSheet else s

def listStep (s : ChildSession) (e : ListEvent) : Option ChildSession := s.form.bind fun f => s.editList f e

def step (s : ChildSession) : ChildEvent → Option ChildSession
  | .loadPage none => some { s with page := none }
  | .loadPage (some rows) =>
    let new := s.store.newRows rows
    some { s with store := new.1.newList new.2, page := some new.1.nextList }
  | .openForm form mode => if s.form.isNone then some (s.openForm form mode) else none
  | .load => (s.form.filter OpenChildForm.timer).map s.load
  | .list e => s.listStep e
  | .submit => s.form.map fun _ => s
  | .leave => s.form.map s.leave

end ChildSession

end NextApp
