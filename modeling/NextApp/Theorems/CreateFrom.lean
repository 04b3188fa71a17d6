import NextApp.Lib.Nested
import NextApp.Model.ModuleProvider

/-! # Documents created from documents

`pushCreateFromPage` saves the page fields in one map and `removeCreateFromPage` takes them back and
clears it. Between the two a form may push the page of the document it has created, which offers to
create another one. -/

namespace NextApp.CreateFrom
open ModuleProvider

/-- What happens between a push and its remove: a page is pushed, or a page request is answered. -/
inductive PageAct where
  | pushPage (pageId : String)
  | answered (data : Doc)

structure PushArgs where
  pageData : Doc
  doctype : String

/-- Pushes and removes of create-from forms as calls that should keep the page fields. -/
def semantics : NestedCalls.Semantics PageAct PushArgs ModuleProvider PageFields where
  act
    | .pushPage pageId, s => (s.pushPage pageId).1
    | .answered data, s => (s.endLoadPage data).state
  enter args s := s.pushCreateFromPage args.pageData args.doctype
  leave := removeCreateFromPage
  view := pageFields

theorem endLoadPage_createFromPageData (s : ModuleProvider) (data : Doc) :
    (s.endLoadPage data).state.createFromPageData = s.createFromPageData := by
  rw [endLoadPage]
  split
  · rename_i page _
    cases (Doc.at page "docstatus").asIntOrNull? with
    | none => rfl
    | some docstatus => cases hasPrintFormats? page <;> rfl
  · rfl

theorem removeCreateFromPage_of_read_none {s : ModuleProvider} (h : readFields? s.createFromPageData = none) :
    ∃ t, s.removeCreateFromPage = .threw t ∧ t.createFromPageData = s.createFromPageData := by
  obtain ⟨f, -, hthrew⟩ := restoreFields_of_read_none (s := s) h
  exact ⟨s.withFields f, by rw [removeCreateFromPage, hthrew, Outcome.bind_threw], rfl⟩

/-- All pushes save into the one map. -/
theorem savesInSlot : NestedCalls.SavesInSlot semantics fun s => readFields? s.createFromPageData where
  act_slot a s := by
    cases a with
    | pushPage pageId => rfl
    | answered data => exact congrArg readFields? (endLoadPage_createFromPageData s data)
  enter_slot args s := readFields?_saveFields args.pageData s
  leave_some s f h := ⟨_, removeCreateFromPage_of_read h, rfl, rfl⟩
  leave_none s h := by
    obtain ⟨t, ht, hdata⟩ := removeCreateFromPage_of_read_none h
    exact ⟨t, ht, (congrArg readFields? hdata).trans h⟩

/-- Every remove completes and takes back the page fields of its push exactly when no create-from form is
    opened inside another one. -/
theorem removeCreateFromPage_restores_iff (f : NestedCalls PageAct PushArgs) (s : ModuleProvider) :
    f.Restores semantics s ↔ f.Unnested :=
  savesInSlot.restores_iff f s

/-- A payment is created from the invoice that was created from an order: the remove for the order throws. -/
theorem removeCreateFromPage_throws_nested :
    ¬ NestedCalls.Restores semantics
      (.call ⟨[("doctype", .str "Sales Order")], "Sales Invoice"⟩
        (.act (.pushPage "SINV-1") (.act (.answered [("message", .map [("name", .str "SINV-1"), ("docstatus", .int 1)])])
          (.call ⟨[("doctype", .str "Sales Invoice")], "Payment Entry"⟩ .done .done))) .done)
      { currentModule := some .salesOrder, pageId := "SO-1"
        pageData := [("name", .str "SO-1"), ("docstatus", .int 1)], pageSubmitStatus := some 1 } := by
  rintro ⟨-, ⟨t, ht, -⟩, -⟩
  cases ht

end NextApp.CreateFrom
