import Mathlib.Tactic.ByContra
import NextApp.Model.ChildList

/-! # The rows of the child lists

From the second build on, a form that edits a document adds its list to itself: it survives only while the list is empty.
And a form that does not clear its list when it opens submits what the form before has left there. -/

namespace NextApp.ChildSession
open Runs

variable {s t : ChildSession} {f : OpenChildForm} {form : ChildForm} {es : List ListEvent} {l index : Nat} {row : Doc}

/-- The lists of the session are in use, and the page's is not one of the provider's. -/
structure Sound (s : ChildSession) : Prop where
  timeSheetData : s.timeSheetData < s.store.nextList
  bomOperations : s.bomOperations < s.store.nextList
  page : ∀ l ∈ s.page, l < s.store.nextList ∧ l ≠ s.timeSheetData ∧ l ≠ s.bomOperations
  data : ∀ f ∈ s.form, ∀ l ∈ f.data, l < s.store.nextList

theorem listOf_eq (s : ChildSession) (form : ChildForm) :
    s.listOf form = s.timeSheetData ∨ s.listOf form = s.bomOperations := by
  cases form
  · exact Or.inl rfl
  · exact Or.inl rfl
  · exact Or.inr rfl

theorem Sound.listOf (h : s.Sound) (form : ChildForm) : s.listOf form < s.store.nextList := by
  rcases s.listOf_eq form with hl | hl
  · exact hl ▸ h.timeSheetData
  · exact hl ▸ h.bomOperations

theorem Sound.page_ne (h : s.Sound) (hl : s.page = some l) (form : ChildForm) : l ≠ s.listOf form := by
  obtain ⟨_, htime, hbom⟩ := h.page l hl
  rcases s.listOf_eq form with heq | heq
  · exact heq ▸ htime
  · exact heq ▸ hbom

/-! ### Builds -/

/-- A build of any form: what it writes besides the rows that it adds to the list. -/
theorem build_cases (s : ChildSession) (f : OpenChildForm) :
    ∃ rs threw, (∀ r ∈ rs, r ∈ s.submitted f) ∧
      s.build f = { s with
        store := s.store.setList (s.listOf f.form) (s.shown f.form ++ rs)
        form := some { f with data := some (s.listOf f.form), threw } } := by
  have hsame : s.store.setList (s.listOf f.form) (s.shown f.form ++ []) = s.store := by
    rw [List.append_nil, shown, Store.setList, Function.update_eq_self]
  unfold build
  dsimp only
  split_ifs
  · cases hdata : f.data with
    | none => exact ⟨[], f.threw, fun _ hr => absurd hr List.not_mem_nil, by rw [hsame]⟩
    | some logs =>
      obtain ⟨rs, hrs, hstore⟩ := s.store.appendAll_adds logs (s.listOf f.form)
      dsimp only
      split
      · next store happend =>
        rw [happend] at hstore
        exact ⟨rs, f.threw, fun r hr => by rw [submitted, hdata]; exact hrs r hr, by rw [shown, ← hstore]; rfl⟩
      · next store happend =>
        rw [happend] at hstore
        exact ⟨rs, true, fun r hr => by rw [submitted, hdata]; exact hrs r hr, by rw [shown, ← hstore]; rfl⟩
  · exact ⟨[], f.threw, fun _ hr => absurd hr List.not_mem_nil, by rw [hsame]⟩

/-! ### What stays in use -/

theorem sound_start : Sound {} where
  timeSheetData := by decide
  bomOperations := by decide
  page l hl := by cases hl
  data f hf := by cases hf

theorem Sound.write (h : s.Sound) {store : Store Doc} {form : Option OpenChildForm}
    (hstore : s.store.nextList ≤ store.nextList) (hdata : ∀ f ∈ form, ∀ l ∈ f.data, l < store.nextList) :
    Sound { s with store, form } where
  timeSheetData := Nat.lt_of_lt_of_le h.timeSheetData hstore
  bomOperations := Nat.lt_of_lt_of_le h.bomOperations hstore
  page l hl := ⟨Nat.lt_of_lt_of_le (h.page l hl).1 hstore, (h.page l hl).2⟩
  data := hdata

theorem Sound.clearTimeSheet (h : s.Sound) : s.clearTimeSheet.Sound where
  timeSheetData := Nat.lt_succ_self _
  bomOperations := Nat.lt_succ_of_lt h.bomOperations
  page l hl := ⟨Nat.lt_succ_of_lt (h.page l hl).1, Nat.ne_of_lt (h.page l hl).1, (h.page l hl).2.2⟩
  data f hf l hl := Nat.lt_succ_of_lt (h.data f hf l hl)

theorem Sound.initState (h : s.Sound) (form : ChildForm) : (s.initState form).Sound := by
  unfold ChildSession.initState
  split_ifs
  · exact h.clearTimeSheet
  · exact h

theorem Sound.build (h : s.Sound) (f : OpenChildForm) : (s.build f).Sound := by
  obtain ⟨rs, threw, _, heq⟩ := s.build_cases f
  rw [heq]
  refine h.write (Nat.le_refl _) fun g hg l hl => ?_
  obtain rfl := Option.mem_some_iff.mp hg
  obtain rfl := Option.mem_some_iff.mp hl
  exact h.listOf f.form

theorem Sound.listStep (h : s.Sound) {e : ListEvent} (hstep : s.listStep e = some t) : t.Sound := by
  obtain ⟨f, hf, hedit⟩ := Option.bind_eq_some_iff.mp hstep
  cases e with
  | build =>
    cases hedit
    exact h.build f
  | add row =>
    cases hedit
    have hadded : Sound { s with
        store := (s.store.newRow row).setList (s.listOf f.form) (s.shown f.form ++ [s.store.nextRow]) } :=
      h.write (Nat.le_refl _) h.data
    unfold add
    dsimp only
    split_ifs
    · exact hadded.build _
    · refine h.write (Nat.le_refl _) fun g hg l hl => ?_
      obtain rfl := Option.mem_some_iff.mp hg
      exact h.data f hf l hl
  | remove index =>
    obtain ⟨_, hedit⟩ := Option.ite_none_right_eq_some.mp hedit
    cases hedit
    have hremoved : Sound { s with
        store := s.store.setList (s.listOf f.form) ((s.shown f.form).eraseIdx index) } :=
      h.write (Nat.le_refl _) h.data
    exact hremoved.build _

theorem sound_step (h : s.Sound) {e : ChildEvent} (hstep : step s e = some t) : t.Sound := by
  cases e with
  | loadPage rows =>
    cases rows with
    | none =>
      cases hstep
      refine ⟨h.timeSheetData, h.bomOperations, fun l hl => ?_, h.data⟩
      cases hl
    | some rows =>
      cases hstep
      have hnext : s.store.nextList ≤ (s.store.newRows rows).1.nextList := (Store.extends_newRows rows).nextList
      refine ⟨?_, ?_, fun l hl => ?_, fun f hf l hl => ?_⟩
      · exact Nat.lt_succ_of_lt (Nat.lt_of_lt_of_le h.timeSheetData hnext)
      · exact Nat.lt_succ_of_lt (Nat.lt_of_lt_of_le h.bomOperations hnext)
      · obtain rfl := Option.mem_some_iff.mp hl
        exact ⟨Nat.lt_succ_self _, Nat.ne_of_gt (Nat.lt_of_lt_of_le h.timeSheetData hnext),
          Nat.ne_of_gt (Nat.lt_of_lt_of_le h.bomOperations hnext)⟩
      · exact Nat.lt_succ_of_lt (Nat.lt_of_lt_of_le (h.data f hf l hl) hnext)
  | openForm form mode =>
    obtain ⟨_, hstep⟩ := Option.ite_none_right_eq_some.mp hstep
    cases hstep
    refine (h.initState form).write (Nat.le_refl _) fun g hg l hl => ?_
    obtain rfl := Option.mem_some_iff.mp hg
    cases hl
  | load =>
    obtain ⟨f, hf, rfl⟩ := Option.map_eq_some_iff.mp hstep
    refine h.write (Nat.le_refl _) fun g hg l hl => ?_
    obtain rfl := Option.mem_some_iff.mp hg
    exact (h.page l hl).1
  | list e => exact h.listStep hstep
  | submit =>
    obtain ⟨f, _, rfl⟩ := Option.map_eq_some_iff.mp hstep
    exact h
  | leave =>
    obtain ⟨f, _, rfl⟩ := Option.map_eq_some_iff.mp hstep
    have hclosed : Sound { s with form := none } := h.write (Nat.le_refl _) fun g hg => by cases hg
    unfold leave
    dsimp only
    split_ifs
    · exact hclosed.clearTimeSheet
    · exact hclosed

/-! ### Builds after the first -/

/-- No build of the form has thrown, and the list that it shows and submits is the one that is due. -/
def Survives (s : ChildSession) : Prop :=
  ∀ f ∈ s.form, f.threw = false ∧ s.shown f.form = f.due ∧ s.submitted f = f.due

/-- The event does not build a form whose list has a row. -/
def BuildsEmpty (s : ChildSession) (e : ListEvent) : Prop :=
  ∀ f ∈ s.form,
    match e with
    | .build => s.shown f.form = []
    | .add _ => f.form = .jobCard
    | .remove _ => (s.shown f.form).length = 1

/-- The form of a document after its first build. -/
structure Built (s : ChildSession) (f : OpenChildForm) : Prop where
  copies : f.mode.any OpenMode.copies = true
  data : f.data = some (s.listOf f.form)
  threw : f.threw = false
  shown : s.shown f.form = f.due

theorem build_of_nil (hdata : f.data = some (s.listOf f.form)) (hnil : s.shown f.form = []) :
    s.build f = { s with form := some f } := by
  unfold build
  dsimp only
  rw [hdata]
  dsimp only
  rw [Store.appendAll_self, show s.store.lists (s.listOf f.form) = [] from hnil, ← hdata]
  split_ifs <;> rfl

theorem build_of_ne_nil (hcopies : f.mode.any OpenMode.copies = true) (hdata : f.data = some (s.listOf f.form))
    (hne : s.shown f.form ≠ []) : ∃ store, s.build f = { s with store, form := some { f with threw := true } } := by
  obtain ⟨r, rs, hlist⟩ := List.exists_cons_of_ne_nil hne
  refine ⟨s.store.setList (s.listOf f.form) (r :: rs ++ [r]), ?_⟩
  unfold build
  dsimp only
  rw [if_pos hcopies, hdata]
  dsimp only
  rw [Store.appendAll_self, show s.store.lists (s.listOf f.form) = r :: rs from hlist]

theorem not_survives_of_threw {store : Store Doc} : ¬ Survives { s with store, form := some { f with threw := true } } :=
  fun h => Bool.noConfusion (h _ rfl).1

theorem survives_of_built (h : s.Built f) (hf : s.form = some f) : s.Survives := by
  intro g hg
  obtain rfl : f = g := Option.some.inj (hf.symm.trans hg)
  refine ⟨h.threw, h.shown, ?_⟩
  rw [submitted, h.data]
  exact h.shown

/-- The list after an event, before it builds. -/
def afterEdit (s : ChildSession) (f : OpenChildForm) (rows : List Nat) : ChildSession :=
  { s with store := s.store.setList (s.listOf f.form) rows }

theorem shown_afterEdit (rows : List Nat) : (s.afterEdit f rows).shown f.form = rows := Store.lists_setList_self

theorem built_step (hf : s.form = some f) (hbuilt : s.Built f) {e : ListEvent} (hstep : s.listStep e = some t)
    (hg : s.BuildsEmpty e) : ∃ g, t.form = some g ∧ t.Built g := by
  rw [listStep, hf, Option.bind_some] at hstep
  cases e with
  | build =>
    cases hstep
    rw [build_of_nil hbuilt.data (hg f hf)]
    exact ⟨f, rfl, hbuilt.copies, hbuilt.data, hbuilt.threw, hbuilt.shown⟩
  | add row =>
    cases hstep
    have hform : f.form = .jobCard := hg f hf
    have hlistens : f.form.listens = false := by rw [hform]; rfl
    unfold add
    dsimp only
    rw [if_neg (ne_true_of_eq_false hlistens)]
    refine ⟨_, rfl, hbuilt.copies, hbuilt.data, hbuilt.threw, ?_⟩
    exact Store.lists_setList_self.trans (congrArg (· ++ [s.store.nextRow]) hbuilt.shown)
  | remove index =>
    obtain ⟨hlt, hstep⟩ := Option.ite_none_right_eq_some.mp hstep
    cases hstep
    have hone : (s.shown f.form).length = 1 := hg f hf
    obtain ⟨r, hr⟩ := List.length_eq_one_iff.mp hone
    obtain rfl : index = 0 := by omega
    have hnil : (s.shown f.form).eraseIdx 0 = [] := by rw [hr]; rfl
    have hbuild : s.remove f 0 =
        { s.afterEdit f ((s.shown f.form).eraseIdx 0) with form := some { f with due := f.due.eraseIdx 0 } } :=
      build_of_nil (s := s.afterEdit f ((s.shown f.form).eraseIdx 0)) (f := { f with due := f.due.eraseIdx 0 })
        hbuilt.data ((shown_afterEdit _).trans hnil)
    rw [hbuild]
    refine ⟨_, rfl, hbuilt.copies, hbuilt.data, hbuilt.threw, ?_⟩
    exact (shown_afterEdit _).trans (congrArg (·.eraseIdx 0) hbuilt.shown)

theorem buildsEmpty_of_survives (hf : s.form = some f) (hbuilt : s.Built f) {e : ListEvent}
    (hstep : s.listStep e = some t) (ht : t.Survives) : s.BuildsEmpty e := by
  intro g hg
  obtain rfl : f = g := Option.some.inj (hf.symm.trans hg)
  rw [listStep, hf, Option.bind_some] at hstep
  cases e with
  | build =>
    cases hstep
    by_contra hne
    obtain ⟨store, heq⟩ := build_of_ne_nil hbuilt.copies hbuilt.data hne
    exact not_survives_of_threw (heq ▸ ht)
  | add row =>
    cases hstep
    by_contra hform
    have hlistens : f.form.listens = true := by
      cases hcase : f.form with
      | jobCard => exact absurd hcase hform
      | timesheet | bom => rfl
    unfold add at ht
    dsimp only at ht
    rw [if_pos hlistens] at ht
    obtain ⟨store, heq⟩ := build_of_ne_nil
      (s := { s with store := (s.store.newRow row).setList (s.listOf f.form) (s.shown f.form ++ [s.store.nextRow]) })
      (f := { f with own := f.own ++ [s.store.nextRow], due := f.due ++ [s.store.nextRow] })
      hbuilt.copies hbuilt.data (by simp [ChildSession.shown, listOf])
    exact not_survives_of_threw (heq ▸ ht)
  | remove index =>
    obtain ⟨hlt, hstep⟩ := Option.ite_none_right_eq_some.mp hstep
    cases hstep
    by_contra hlen
    have hne : (s.shown f.form).eraseIdx index ≠ [] := by
      intro hnil
      have hlength := List.length_eraseIdx_of_lt hlt
      rw [hnil, List.length_nil] at hlength
      exact hlen (by omega)
    obtain ⟨store, heq⟩ := build_of_ne_nil (s := s.afterEdit f ((s.shown f.form).eraseIdx index))
      (f := { f with due := f.due.eraseIdx index }) hbuilt.copies hbuilt.data (by rwa [shown_afterEdit])
    have hbuild : s.remove f index =
        (s.afterEdit f ((s.shown f.form).eraseIdx index)).build { f with due := f.due.eraseIdx index } := rfl
    rw [hbuild, heq] at ht
    exact not_survives_of_threw ht

/-! ### The first build -/

/-- What is in the list of a form when it is built for the first time. -/
def leftover (s : ChildSession) (form : ChildForm) : List Nat := if form = .timesheet then [] else s.shown form

theorem shown_initState (s : ChildSession) (form : ChildForm) : (s.initState form).shown form = s.leftover form := by
  unfold initState leftover
  split_ifs with h
  · subst h
    exact Store.lists_setList_self
  · rfl

theorem build_of_page (h : s.Sound) (hcopies : f.mode.any OpenMode.copies = true) (hdata : f.data = s.page) :
    s.build f = { s with
      store := s.store.setList (s.listOf f.form) (s.shown f.form ++ s.pageRows)
      form := some { f with data := some (s.listOf f.form) } } := by
  unfold build pageRows
  dsimp only
  rw [if_pos hcopies, hdata]
  cases hpage : s.page with
  | none =>
    rw [Option.elim_none, List.append_nil, shown, Store.setList, Function.update_eq_self]
  | some l =>
    dsimp only
    rw [Store.appendAll_ne (h.page_ne hpage f.form)]
    rfl

theorem opened_cases (h : s.Sound) {mode : OpenMode} (hmode : mode.copies = true)
    (hrun : run step s [.openForm form (some mode), .load, .list .build] = some t) :
    ∃ f, t.form = some f ∧ f.form = form ∧ f.mode = some mode ∧ f.data = some (t.listOf form) ∧ f.threw = false ∧
      t.shown form = s.leftover form ++ f.due := by
  obtain ⟨u, hu, hrun⟩ := Option.bind_eq_some_iff.mp hrun
  have hopened : u.Sound := sound_step h hu
  obtain ⟨_, hu⟩ := Option.ite_none_right_eq_some.mp hu
  cases hu
  obtain ⟨v, hv, hrun⟩ := Option.bind_eq_some_iff.mp hrun
  have hloaded : v.Sound := sound_step hopened hv
  cases hv
  obtain ⟨w, hw, hrun⟩ := Option.bind_eq_some_iff.mp hrun
  cases hrun
  -- the build after the timer has loaded the page
  have hbuild := Option.some.inj (hw.symm.trans (congrArg some (build_of_page hloaded hmode rfl)))
  refine ⟨_, congrArg ChildSession.form hbuild, rfl, rfl, ?_, rfl, ?_⟩
  · rw [hbuild]
    rfl
  · rw [hbuild]
    exact Store.lists_setList_self.trans (congrArg (· ++ _) (shown_initState s form))

/-- A form that edits, amends or duplicates a document, with a list of any rows, survives its builds exactly when its
    list was empty when it opened and it is never built again while it has a row. -/
theorem survives_iff {es₀ : List ChildEvent} (hrun : run step {} es₀ = some s) {mode : OpenMode}
    (hmode : mode.copies = true) (hopen : run step s [.openForm form (some mode), .load, .list .build] = some t)
    (es : List ListEvent) :
    Along listStep Survives t es ↔ s.leftover form = [] ∧ Guarded listStep BuildsEmpty t es := by
  have hsound : s.Sound := invariant_run (fun _ _ _ h hstep => sound_step h hstep) sound_start hrun
  obtain ⟨f, hf, hform, hfmode, hdata, hthrew, hshown⟩ := opened_cases hsound hmode hopen
  subst hform
  by_cases hnil : s.leftover f.form = []
  · rw [hnil, List.nil_append] at hshown
    have hbuilt : t.Built f := ⟨by rw [hfmode]; exact hmode, hdata, hthrew, hshown⟩
    rw [and_iff_right hnil]
    refine along_iff_guarded (I := fun s => ∃ f, s.form = some f ∧ s.Built f) ?_ ?_ ?_ ⟨f, hf, hbuilt⟩
    · rintro s ⟨f, hf, hbuilt⟩
      exact survives_of_built hbuilt hf
    · rintro s e t ⟨f, hf, hbuilt⟩ hstep hg
      exact built_step hf hbuilt hstep hg
    · rintro s e t ⟨f, hf, hbuilt⟩ hstep ht
      exact buildsEmpty_of_survives hf hbuilt hstep ht
  · refine iff_of_false (fun hall => hnil ?_) fun h => hnil h.1
    have hdue := (hall.head f hf).2.1
    rw [hshown] at hdue
    exact List.append_left_eq_self.mp hdue

/-- A job card is edited and a row is added: its form is not built again. -/
theorem survives_of_jobCard :
    ∃ t ∈ run step {} [.loadPage (some [[("idx", .int 1)], [("idx", .int 2)]]), .openForm .jobCard (some .edit), .load,
      .list .build], Along listStep Survives t [.add [("idx", .int 3)]] := by
  have hpage : run step {} [.loadPage (some [[("idx", .int 1)], [("idx", .int 2)]])] = some _ := rfl
  have hmode : OpenMode.edit.copies = true := rfl
  refine ⟨_, rfl, (survives_iff hpage hmode rfl _).mpr ⟨rfl, fun t _ => ⟨fun f hf => ?_, trivial⟩⟩⟩
  cases hf
  rfl

/-- A timesheet of one row is edited, and its form is built a second time. -/
theorem second_build_throws :
    let es : List ChildEvent := [.loadPage (some [[("idx", .int 1)]]), .openForm .timesheet (some .edit), .load, .list .build]
    (∃ t ∈ run step {} es, ¬ Along listStep Survives t [.build]) ∧
      (run step {} (es ++ [.list .build])).map (fun t => (t.form.map OpenChildForm.threw,
        (t.shown .timesheet).map t.store.rows)) = some (some true, [[("idx", .int 1)], [("idx", .int 1)]]) := by
  refine ⟨⟨_, rfl, fun h => ?_⟩, by decide +kernel⟩
  exact Bool.noConfusion ((h.2 _ rfl _ rfl).1)

end NextApp.ChildSession
