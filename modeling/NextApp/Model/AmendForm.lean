import NextApp.Lib.Runs
import NextApp.Model.RowForm

/-! # Amending forms

A form that `AmendDocButton` opens: it is written and submitted like the form of a duplicate, and its page is loaded once,
in the timer that its `initState` starts. -/

namespace NextApp.DuplicateForm

/-- A press of the button on a page of `m`: a form without a branch for the mode keeps the data of a new document. -/
def amend (m : ModuleType) (page : ModuleProvider) (data : Doc) : DuplicateForm :=
  let provider := { page with currentModule := some m }.setAmendDoc true
  { module := m, provider, data := if m.opensPage .amend then provider.updateData else data }

def amendStep (s : DuplicateForm) : DuplicateEvent → Option DuplicateForm
  | .load => none
  | e => s.step e

end NextApp.DuplicateForm
