import Mathlib.Data.List.InsertIdx
import NextApp.Model.WorkflowForm
import NextApp.Theorems.RowForm

/-! # The tables of a workflow form

From one form to the next, the rows on the screen and the rows that a save sends are those the form was opened for, with
the edits made in it, as long as no page that has rows is opened a second time before it is loaded again. -/

namespace NextApp
open Runs

/-- The two lists of the tables, where the map has them. -/
def tableRefs (refs : WorkflowList → Nat) : Dict String Nat :=
  [(WorkflowList.key .states, refs .states), (WorkflowList.key .transitions, refs .transitions)]

@[simp] theorem get?_tableRefs {refs : WorkflowList → Nat} (list : WorkflowList) :
    (tableRefs refs).get? list.key = some (refs list) := by
  cases list <;> rfl

theorem updateData_nil {d : PageData} (h : d.lists = []) : d.updateData.lists = [] := by
  rw [PageData.updateData, PageData.remove, h]
  rfl

theorem updateData_tableRefs {d : PageData} {refs : WorkflowList → Nat} (h : d.lists = tableRefs refs) :
    d.updateData.lists = tableRefs refs := by
  rw [PageData.updateData, PageData.remove, h]
  rfl

/-! ### What opening does -/

namespace RowSession
variable {s : RowSession} {list : WorkflowList} {mode : OpenMode} {p : ProviderPage} {sort : RowSort}
  {refs : WorkflowList → Nat}

/-- A form on a page opens as the session of its rows does. -/
theorem opened_workflow_eq (h : mode.isCreateFrom = false) (ho : ModuleType.opensPage .workflow mode = true) :
    opened .workflow mode p sort = (start mode p).clearWorkflow.loadWorkflow := by
  cases mode with
  | edit => rfl
  | duplicate => rfl
  | amend => cases ho
  | createFrom doctype => cases h

theorem shownRows_clearWorkflow : s.clearWorkflow.shownRows list = [] := by
  cases list with
  | states =>
    by_cases h : s.workflowStates = s.workflowTransitions
    · simp [shownRows, clearWorkflow, workflowList, h]
    · simp [shownRows, clearWorkflow, workflowList, h]
  | transitions => simp [shownRows, clearWorkflow, workflowList]

theorem lists_clearWorkflow_ne {l : Nat} (h : ∀ list, l ≠ s.workflowList list) :
    s.clearWorkflow.store.lists l = s.store.lists l :=
  (Store.lists_setList_ne (h .transitions)).trans (Store.lists_setList_ne (h .states))

theorem workflowList_clearWorkflow : s.clearWorkflow.workflowList = s.workflowList := by
  funext list
  cases list <;> rfl

/-- A page without its tables leaves the form without any: the assignment throws. -/
theorem loadWorkflow_of_nil (h : s.page.lists = []) : s.loadWorkflow = { s with data := s.page.updateData } := by
  have hnone : s.page.updateData.lists.get? "states" = none := by rw [updateData_nil h, Dict.get?_nil]
  rw [loadWorkflow, takeWorkflow, hnone]

theorem loadWorkflow_of_tables (h : s.page.lists = tableRefs refs) : s.loadWorkflow =
    { s with data := s.page.updateData, workflowStates := refs .states, workflowTransitions := refs .transitions } := by
  have hstates : s.page.updateData.lists.get? "states" = some (refs .states) := by
    rw [updateData_tableRefs h]
    exact get?_tableRefs .states
  have htransitions : s.page.updateData.lists.get? "transitions" = some (refs .transitions) := by
    rw [updateData_tableRefs h]
    exact get?_tableRefs .transitions
  simp only [loadWorkflow, takeWorkflow, hstates, htransitions]

end RowSession

namespace WorkflowForms
variable {s t : WorkflowForms} {e : WorkflowFormEvent} {refs : WorkflowList → Nat}

/-! ### The invariant -/

/-- An open form shows the rows it was opened for, with its edits, and a save would send the same. -/
def ShowsEdits (s : WorkflowForms) : Prop :=
  ∀ rows ∈ s.form, ∀ list, s.session.shownRows list = rows list ∧ s.session.sentRows list = some (rows list)

/-- The lists of the page are those of the provider: an earlier form took them. -/
def Taken (s : WorkflowForms) : Prop := s.session.page.lists.get? "states" = some s.session.workflowStates

/-- A form opens on a page that has been loaded, and on one that an earlier form took only where it was loaded
    without rows. -/
def Guard (s : WorkflowForms) : WorkflowFormEvent → Prop
  | .openEdit | .openDuplicate => s.session.page.lists ≠ [] ∧ (s.Taken → ∀ list, s.loaded list = [])
  | .push | .load _ _ | .openNew | .add _ _ | .remove _ _ | .close => True

/-- Lists that no form has taken: they have the rows that were loaded. -/
structure Fresh (s : WorkflowForms) (refs : WorkflowList → Nat) : Prop where
  below : ∀ list, refs list < s.session.store.nextList
  rowsBelow : ∀ list, ∀ r ∈ s.session.store.lists (refs list), r < s.session.store.nextRow
  apart : Function.Injective refs
  own : ∀ list list', refs list ≠ s.session.workflowList list'
  rows : ∀ list, (s.session.store.lists (refs list)).map s.session.store.rows = s.loaded list

/-- The page is not loaded, or a form has taken its tables, or none has. -/
inductive Page (s : WorkflowForms) : Prop where
  | unloaded (h : s.session.page.lists = [])
  | taken (h : s.session.page.lists = tableRefs s.session.workflowList)
  | fresh (refs : WorkflowList → Nat) (h : s.session.page.lists = tableRefs refs) (hfresh : s.Fresh refs)

structure Inv (s : WorkflowForms) : Prop where
  below : ∀ list, s.session.workflowList list < s.session.store.nextList
  rowsBelow : ∀ list, ∀ r ∈ s.session.store.lists (s.session.workflowList list), r < s.session.store.nextRow
  apart : Function.Injective s.session.workflowList
  page : s.Page
  data : ∀ rows ∈ s.form, ∀ list, s.session.data.lists.get? list.key = some (s.session.workflowList list)
  shown : ∀ rows ∈ s.form, s.session.shownRows = rows

theorem inv_start : start.Inv where
  below list := by cases list <;> decide
  rowsBelow _ _ h := absurd h List.not_mem_nil
  apart list list' h := by
    cases list <;> cases list' <;> first | rfl | cases h
  page := .unloaded rfl
  data := nofun
  shown := nofun

theorem showsEdits_of_inv (h : s.Inv) : s.ShowsEdits := by
  intro rows hrows list
  have hshown : s.session.shownRows list = rows list := congrFun (h.shown rows hrows) list
  refine ⟨hshown, ?_⟩
  rw [RowSession.sentRows, h.data rows hrows list, Option.map_some]
  exact congrArg some hshown

/-! ### Steps -/

theorem inv_push (h : s.Inv) : ({ s with session := { s.session with page := {} } } : WorkflowForms).Inv where
  below := h.below
  rowsBelow := h.rowsBelow
  apart := h.apart
  page := .unloaded rfl
  data := h.data
  shown := h.shown

theorem load_lists (s : WorkflowForms) (fields : Doc) (rows : WorkflowRows) : (s.load fields rows).session.page.lists =
    tableRefs (fun list => s.session.store.nextList + match list with | .states => 0 | .transitions => 1) :=
  Store.refs_load _

theorem inv_load (h : s.Inv) {fields : Doc} {rows : WorkflowRows} : (s.load fields rows).Inv := by
  have hloaded := Store.loaded s.session.store [("states", rows .states), ("transitions", rows .transitions)]
  have hlists := s.load_lists fields rows
  have hold : ∀ list, (s.load fields rows).session.store.lists (s.session.workflowList list) =
      s.session.store.lists (s.session.workflowList list) := fun list => hloaded.old.lists _ (h.below list)
  set refs : WorkflowList → Nat := fun list => s.session.store.nextList + match list with | .states => 0 | .transitions => 1
  have hholds : ∀ list, Store.HoldsList (s.load fields rows).session.page.lists (refs list) := by
    intro list
    rw [hlists]
    cases list with
    | states => exact ⟨_, List.mem_cons_self, rfl⟩
    | transitions => exact ⟨_, List.mem_cons_of_mem _ List.mem_cons_self, rfl⟩
  refine ⟨fun list => ?_, fun list r hr => ?_, h.apart, .fresh refs hlists ?_, h.data, ?_⟩
  · exact Nat.lt_of_lt_of_le (h.below list) hloaded.old.nextList
  · rw [show (s.load fields rows).session.workflowList = s.session.workflowList from rfl, hold] at hr
    exact Nat.lt_of_lt_of_le (h.rowsBelow list r hr) hloaded.old.nextRow
  · refine ⟨fun list => hloaded.below.lists _ (hholds list), fun list r hr => ?_, ?_, fun list list' heq => ?_, ?_⟩
    · obtain ⟨e, he, heq⟩ := hholds list
      exact hloaded.below.rows r ⟨e, he, heq ▸ hr⟩
    · intro list list' heq
      cases list <;> cases list' <;> simp [refs] at heq ⊢
    · have hlt : s.session.workflowList list' < s.session.store.nextList := h.below list'
      have hge : s.session.store.nextList ≤ refs list := Nat.le_add_right _ _
      exact absurd heq (Nat.ne_of_gt (Nat.lt_of_lt_of_le hlt hge))
    · have hreads : (s.load fields rows).session.store.read (tableRefs refs) =
          [("states", rows .states), ("transitions", rows .transitions)] := hlists ▸ hloaded.reads
      intro list
      cases list with
      | states => exact congrArg Prod.snd (List.cons.inj hreads).1
      | transitions => exact congrArg Prod.snd (List.cons.inj (List.cons.inj hreads).2).1
  · intro rows' hrows'
    rw [← h.shown rows' hrows']
    funext list
    have hsame : ∀ r ∈ s.session.store.lists (s.session.workflowList list),
        (s.load fields rows).session.store.rows r = s.session.store.rows r :=
      fun r hr => hloaded.old.rows r (h.rowsBelow list r hr)
    rw [RowSession.shownRows, show (s.load fields rows).session.workflowList = s.session.workflowList from rfl, hold]
    exact List.map_congr_left hsame

/-- Lists that no form has taken are left alone by what writes to the lists of the provider only. -/
theorem Fresh.keep (h : s.Fresh refs) (hloaded : t.loaded = s.loaded)
    (hown : t.session.workflowList = s.session.workflowList)
    (hlists : ∀ list, t.session.store.lists (refs list) = s.session.store.lists (refs list))
    (hrows : ∀ r < s.session.store.nextRow, t.session.store.rows r = s.session.store.rows r)
    (hnextRow : s.session.store.nextRow ≤ t.session.store.nextRow)
    (hnextList : s.session.store.nextList ≤ t.session.store.nextList) : t.Fresh refs where
  below list := Nat.lt_of_lt_of_le (h.below list) hnextList
  rowsBelow list r hr := by
    rw [hlists] at hr
    exact Nat.lt_of_lt_of_le (h.rowsBelow list r hr) hnextRow
  apart := h.apart
  own list list' := by
    rw [hown]
    exact h.own list list'
  rows list := by
    rw [hlists, hloaded, ← h.rows list]
    exact List.map_congr_left fun r hr => hrows r (h.rowsBelow list r hr)

theorem rowsBelow_clearWorkflow (list : WorkflowList) :
    s.session.clearWorkflow.store.lists (s.session.clearWorkflow.workflowList list) = [] := by
  have hnil : s.session.clearWorkflow.shownRows list = [] := RowSession.shownRows_clearWorkflow
  exact List.map_eq_nil_iff.mp hnil

theorem Page.openNew (h : s.Page) :
    ({ s with session := s.session.clearWorkflow, form := some fun _ => [] } : WorkflowForms).Page := by
  cases h with
  | unloaded h => exact .unloaded h
  | taken h => exact .taken (h.trans (congrArg tableRefs RowSession.workflowList_clearWorkflow.symm))
  | fresh refs h hfresh =>
    refine .fresh refs h (hfresh.keep rfl RowSession.workflowList_clearWorkflow (fun list => ?_) (fun _ _ => rfl)
      (Nat.le_refl _) (Nat.le_refl _))
    exact RowSession.lists_clearWorkflow_ne (hfresh.own list)

theorem inv_openNew (h : s.Inv) :
    ({ s with session := s.session.clearWorkflow, form := some fun _ => [] } : WorkflowForms).Inv where
  below list := by
    rw [RowSession.workflowList_clearWorkflow]
    exact h.below list
  rowsBelow list r hr := by
    rw [rowsBelow_clearWorkflow] at hr
    cases hr
  apart := by
    rw [RowSession.workflowList_clearWorkflow]
    exact h.apart
  page := h.page.openNew
  data rows _ list := by
    cases list <;> rfl
  shown rows hrows := by
    obtain rfl := Option.some.inj hrows
    funext list
    exact RowSession.shownRows_clearWorkflow

/-! ### Opening a page -/

/-- The form takes the lists of the page, and the provider has them from then on. -/
theorem session_openPage {mode : OpenMode} (h : s.session.page.lists = tableRefs refs) : (s.openPage mode).session =
    { s.session.clearWorkflow with
      mode, data := s.session.page.updateData, workflowStates := refs .states, workflowTransitions := refs .transitions } :=
  RowSession.loadWorkflow_of_tables h

theorem workflowList_openPage {mode : OpenMode} (h : s.session.page.lists = tableRefs refs) :
    (s.openPage mode).session.workflowList = refs := by
  funext list
  rw [session_openPage h]
  cases list <;> rfl

theorem shownRows_openPage {mode : OpenMode} (h : s.session.page.lists = tableRefs refs) (list : WorkflowList) :
    (s.openPage mode).session.shownRows list = (s.session.clearWorkflow.store.lists (refs list)).map s.session.store.rows := by
  rw [RowSession.shownRows, workflowList_openPage h, session_openPage h]
  rfl

theorem inv_openPage {mode : OpenMode} (h : s.Inv) (hpage : s.session.page.lists ≠ [])
    (htaken : s.Taken → ∀ list, s.loaded list = []) : (s.openPage mode).Inv := by
  have hopen (refs : WorkflowList → Nat) (hlists : s.session.page.lists = tableRefs refs)
      (hbelow : ∀ list, refs list < s.session.store.nextList)
      (hrows : ∀ list, ∀ r ∈ s.session.clearWorkflow.store.lists (refs list), r < s.session.store.nextRow)
      (hapart : Function.Injective refs)
      (hshown : ∀ list, (s.session.clearWorkflow.store.lists (refs list)).map s.session.store.rows = s.loaded list) :
      (s.openPage mode).Inv := by
    refine ⟨?_, ?_, ?_, .taken ?_, fun _ _ list => ?_, ?_⟩
    · rw [workflowList_openPage hlists, session_openPage hlists]
      exact hbelow
    · rw [workflowList_openPage hlists, session_openPage hlists]
      exact hrows
    · rw [workflowList_openPage hlists]
      exact hapart
    · rw [workflowList_openPage hlists, session_openPage hlists]
      exact hlists
    · rw [workflowList_openPage hlists, session_openPage hlists]
      exact (congrArg (Dict.get? · list.key) (updateData_tableRefs hlists)).trans (get?_tableRefs list)
    · rintro rows ⟨rfl⟩
      funext list
      rw [shownRows_openPage hlists]
      exact hshown list
  cases h.page with
  | unloaded hnil => exact absurd hnil hpage
  | taken hlists =>
    have hnil : ∀ list, s.session.clearWorkflow.store.lists (s.session.workflowList list) = [] := by
      intro list
      rw [← RowSession.workflowList_clearWorkflow]
      exact rowsBelow_clearWorkflow list
    have hstates : s.Taken := by
      rw [Taken, hlists]
      exact get?_tableRefs .states
    refine hopen _ hlists h.below (fun list r hr => ?_) h.apart fun list => ?_
    · rw [hnil] at hr
      cases hr
    · rw [hnil, htaken hstates list]
      rfl
  | fresh refs hlists hfresh =>
    have hsame : ∀ list, s.session.clearWorkflow.store.lists (refs list) = s.session.store.lists (refs list) :=
      fun list => RowSession.lists_clearWorkflow_ne (hfresh.own list)
    refine hopen refs hlists hfresh.below (fun list r hr => ?_) hfresh.apart fun list => ?_
    · rw [hsame] at hr
      exact hfresh.rowsBelow list r hr
    · rw [hsame]
      exact hfresh.rows list

/-! ### Edits -/

/-- The form after an edit: one list of the provider has other rows. -/
def edited (s : WorkflowForms) (st : Store (ItemRow Num)) (list : WorkflowList) (rs : List Nat) (rows : WorkflowRows) :
    WorkflowForms :=
  { s with session := { s.session with store := st.setList (s.session.workflowList list) rs }, form := some rows }

theorem lists_edited_self {st : Store (ItemRow Num)} {list : WorkflowList} {rs : List Nat} {rows : WorkflowRows} :
    (s.edited st list rs rows).session.store.lists (s.session.workflowList list) = rs := Store.lists_setList_self

theorem lists_edited_ne {st : Store (ItemRow Num)} {list : WorkflowList} {rs : List Nat} {rows : WorkflowRows}
    (hgrow : s.session.store.Extends st) {l : Nat} (hl : l < s.session.store.nextList)
    (hne : l ≠ s.session.workflowList list) :
    (s.edited st list rs rows).session.store.lists l = s.session.store.lists l :=
  (Store.lists_setList_ne hne).trans (hgrow.lists l hl)

theorem inv_edited {st : Store (ItemRow Num)} {rs : List Nat} {rows : WorkflowRows} (list : WorkflowList) (h : s.Inv)
    (hform : s.form = some rows) (hgrow : s.session.store.Extends st) (hrs : ∀ r ∈ rs, r < st.nextRow) :
    (s.edited st list rs (Function.update rows list (rs.map st.rows))).Inv := by
  have hne {list' : WorkflowList} (hlist : list' ≠ list) : s.session.workflowList list' ≠ s.session.workflowList list :=
    fun heq => hlist (h.apart heq)
  refine ⟨fun list' => Nat.lt_of_lt_of_le (h.below list') hgrow.nextList, fun list' r hr => ?_, h.apart, ?_,
    fun rows' _ => h.data rows hform, ?_⟩
  · by_cases hlist : list' = list
    · subst hlist
      rw [show (s.edited st list' rs _).session.workflowList = s.session.workflowList from rfl, lists_edited_self] at hr
      exact hrs r hr
    · rw [show (s.edited st list rs _).session.workflowList = s.session.workflowList from rfl,
        lists_edited_ne hgrow (h.below list') (hne hlist)] at hr
      exact Nat.lt_of_lt_of_le (h.rowsBelow list' r hr) hgrow.nextRow
  · cases h.page with
    | unloaded hnil => exact .unloaded hnil
    | taken hlists => exact .taken hlists
    | fresh refs hlists hfresh =>
      refine .fresh refs hlists (hfresh.keep rfl rfl (fun list' => ?_) hgrow.rows hgrow.nextRow hgrow.nextList)
      exact lists_edited_ne hgrow (hfresh.below list') (hfresh.own list' list)
  · rintro rows' ⟨rfl⟩
    funext list'
    by_cases hlist : list' = list
    · subst hlist
      rw [Function.update_self]
      exact congrArg (List.map st.rows) lists_edited_self
    · rw [Function.update_of_ne hlist, ← h.shown rows hform]
      have hlists : (s.edited st list rs rows).session.store.lists (s.session.workflowList list') =
          s.session.store.lists (s.session.workflowList list') := lists_edited_ne hgrow (h.below list') (hne hlist)
      exact (congrArg (List.map st.rows) hlists).trans
        (List.map_congr_left fun r hr => hgrow.rows r (h.rowsBelow list' r hr))

theorem inv_add {list : WorkflowList} {row : ItemRow Num} (h : s.Inv) (ht : step s (.add list row) = some t) : t.Inv := by
  obtain ⟨rows, hrows, ht⟩ := Option.bind_eq_some_iff.mp ht
  obtain rfl := Option.some.inj ht
  have hmap : (s.session.store.lists (s.session.workflowList list) ++ [s.session.store.nextRow]).map
      (s.session.store.newRow row).rows = rows list ++ [row] := by
    rw [List.map_append, ← h.shown rows hrows]
    refine congrArg₂ (· ++ ·) ?_ ?_
    · exact List.map_congr_left fun r hr => Store.extends_newRow.rows r (h.rowsBelow list r hr)
    · exact congrArg (fun v => [v]) Store.rows_setRow_self
  have hinv := inv_edited list h hrows (Store.extends_newRow (v := row))
    (Store.inUse_append_newRow (h.rowsBelow list))
  rw [hmap] at hinv
  exact hinv

theorem inv_remove {list : WorkflowList} {index : Nat} (h : s.Inv) (ht : step s (.remove list index) = some t) :
    t.Inv := by
  obtain ⟨rows, hrows, ht⟩ := Option.bind_eq_some_iff.mp ht
  obtain rfl := Option.some.inj ht
  have hmap : ((s.session.store.lists (s.session.workflowList list)).eraseIdx index).map s.session.store.rows =
      (rows list).eraseIdx index := by
    rw [← List.eraseIdx_map, ← h.shown rows hrows]
    rfl
  have hinv := inv_edited list h hrows (.refl _)
    fun r hr => h.rowsBelow list r (List.mem_of_mem_eraseIdx (i := index) hr)
  rw [hmap] at hinv
  exact hinv

theorem inv_close (h : s.Inv) : ({ s with session := s.session.leave, form := none } : WorkflowForms).Inv where
  below := h.below
  rowsBelow := h.rowsBelow
  apart := h.apart
  page := by
    cases h.page with
    | unloaded hnil => exact .unloaded hnil
    | taken hlists => exact .taken hlists
    | fresh refs hlists hfresh =>
      exact .fresh refs hlists (hfresh.keep rfl rfl (fun _ => rfl) (fun _ _ => rfl) (Nat.le_refl _) (Nat.le_refl _))
  data := nofun
  shown := nofun

/-! ### Runs -/

theorem inv_step (h : s.Inv) (ht : step s e = some t) (hg : Guard s e) : t.Inv := by
  cases e with
  | push =>
    cases ht
    exact inv_push h
  | load fields rows =>
    cases ht
    exact inv_load h
  | openNew =>
    obtain ⟨-, ht⟩ := Option.ite_none_right_eq_some.mp ht
    obtain rfl := Option.some.inj ht
    exact inv_openNew h
  | openEdit =>
    obtain ⟨-, ht⟩ := Option.ite_none_right_eq_some.mp ht
    obtain rfl := Option.some.inj ht
    exact inv_openPage h hg.1 hg.2
  | openDuplicate =>
    obtain ⟨-, ht⟩ := Option.ite_none_right_eq_some.mp ht
    obtain rfl := Option.some.inj ht
    exact inv_openPage h hg.1 hg.2
  | add list row => exact inv_add h ht
  | remove list index => exact inv_remove h ht
  | close =>
    obtain ⟨_, -, rfl⟩ := Option.map_eq_some_iff.mp ht
    exact inv_close h

/-- A form on a page that is not loaded sends no table, and one on lists that an earlier form took shows none of their
    rows. -/
theorem guard_of_openPage {mode : OpenMode} (h : s.Inv) (hshows : (s.openPage mode).ShowsEdits) :
    s.session.page.lists ≠ [] ∧ (s.Taken → ∀ list, s.loaded list = []) := by
  have hrows := hshows s.loaded rfl
  constructor
  · intro hnil
    have hopen : (s.openPage mode).session = { { s.session with mode }.clearWorkflow with data := s.session.page.updateData } :=
      RowSession.loadWorkflow_of_nil hnil
    have hdata : (s.openPage mode).session.data.lists = [] := by
      rw [hopen]
      exact updateData_nil hnil
    have hsome := (hrows .states).2
    rw [RowSession.sentRows, hdata] at hsome
    cases hsome
  · intro htaken list
    cases h.page with
    | unloaded hnil =>
      rw [Taken, hnil] at htaken
      cases htaken
    | taken hlists =>
      rw [← (hrows list).1, shownRows_openPage hlists, ← RowSession.workflowList_clearWorkflow, rowsBelow_clearWorkflow]
      rfl
    | fresh refs hlists hfresh =>
      rw [Taken, hlists] at htaken
      have heq : refs .states = s.session.workflowStates := Option.some.inj ((get?_tableRefs .states).symm.trans htaken)
      exact absurd heq (hfresh.own .states .states)

theorem guard_step (h : s.Inv) (ht : step s e = some t) (hshows : t.ShowsEdits) : Guard s e := by
  cases e with
  | openEdit =>
    obtain ⟨-, ht⟩ := Option.ite_none_right_eq_some.mp ht
    obtain rfl := Option.some.inj ht
    exact guard_of_openPage h hshows
  | openDuplicate =>
    obtain ⟨-, ht⟩ := Option.ite_none_right_eq_some.mp ht
    obtain rfl := Option.some.inj ht
    exact guard_of_openPage h hshows
  | push | load _ _ | openNew | add _ _ | remove _ _ | close => trivial

/-- In a run of any length, every form shows and would send the rows it was opened for with its own edits, exactly
    when none is opened on a page that is not loaded, or that has rows and was taken by an earlier form. -/
theorem showsEdits_iff (es : List WorkflowFormEvent) :
    Along step ShowsEdits start es ↔ Guarded step Guard start es :=
  along_iff_guarded (I := Inv) (fun _ => showsEdits_of_inv) (fun _ _ _ h ht hg => inv_step h ht hg)
    (fun _ _ _ h ht hshows => guard_step h ht hshows) inv_start

/-- A workflow with one state is edited, left without a change, and edited again: its state is gone from the form. -/
example : ¬ Guarded step Guard start
    [.load [] fun _ => [{ others := [("state", .str "Draft")] }], .openEdit, .close, .openEdit] := by
  intro h
  have hsecond := (h _ rfl).2 _ rfl |>.2 _ rfl |>.2 _ rfl |>.1
  exact absurd (hsecond.2 rfl .states) (List.cons_ne_nil _ _)

end WorkflowForms

end NextApp
