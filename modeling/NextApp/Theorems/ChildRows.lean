import NextApp.Theorems.ChildList

/-! # Where the rows of the child lists come from

A form submits rows of its document, rows added in it, and whatever its list held when it opened: only the timesheet form
clears its list then, and no form clears the list of operations. -/

namespace NextApp.ChildSession
open Runs

variable {s t : ChildSession} {f g : OpenChildForm} {form : ChildForm} {es : List ChildEvent} {e : ChildEvent}

/-- A form submits only rows of its document and rows added in it. -/
def SubmitsOwn (s : ChildSession) (e : ChildEvent) (_ : ChildSession) : Prop :=
  e = .submit → ∀ f ∈ s.form, ∀ r ∈ s.submitted f, r ∈ f.own

/-- A bill of materials or a job card opens while its list holds nothing but rows of its document. -/
def OpensOwn (s : ChildSession) : ChildEvent → Prop
  | .openForm form mode => ∀ r ∈ s.leftover form, mode.isSome = true ∧ r ∈ s.pageRows
  | _ => True

/-- What happens to a form before its rows are sent. -/
def Closing (e : ChildEvent) : Prop := e = .list .build ∨ e = .submit

/-- The rows that the form shows and those that it would submit are its own. -/
structure Owns (s : ChildSession) (f : OpenChildForm) : Prop where
  shown : ∀ r ∈ s.shown f.form, r ∈ f.own
  submitted : ∀ r ∈ s.submitted f, r ∈ f.own

structure Clean (s : ChildSession) : Prop where
  sound : s.Sound
  owns : ∀ f ∈ s.form, s.Owns f

theorem clean_start : Clean {} := ⟨sound_start, fun f hf => by cases hf⟩

/-! ### One lemma for each event -/

theorem owns_build (h : s.Owns f) : ∀ g ∈ (s.build f).form, (s.build f).Owns g := by
  obtain ⟨rs, threw, hrs, heq⟩ := s.build_cases f
  rw [heq]
  intro g hg
  obtain rfl := Option.mem_some_iff.mp hg
  have hlist : ∀ r ∈ s.shown f.form ++ rs, r ∈ f.own := by
    intro r hr
    rcases List.mem_append.mp hr with hr | hr
    · exact h.shown r hr
    · exact h.submitted r (hrs r hr)
  constructor
  · intro r hr
    exact hlist r (Store.mem_setList.mp hr)
  · intro r hr
    exact hlist r (Store.mem_setList.mp hr)

theorem owns_setList (h : s.Owns f) (store : Store Doc) {rows : List Nat}
    (hlists : store.lists = s.store.lists) (hform : g.form = f.form) (hdata : g.data = f.data)
    (hown : ∀ r ∈ f.own, r ∈ g.own) (hrows : ∀ r ∈ rows, r ∈ g.own) :
    Owns { s with store := store.setList (s.listOf f.form) rows } g := by
  constructor
  · intro r hr
    rw [hform] at hr
    exact hrows r (Store.mem_setList.mp hr)
  · intro r hr
    rw [submitted, hdata] at hr
    cases hl : f.data with
    | none =>
      rw [hl] at hr
      cases hr
    | some l =>
      rw [hl] at hr
      by_cases heq : l = s.listOf f.form
      · subst heq
        exact hrows r (Store.mem_setList.mp hr)
      · have hr : r ∈ store.lists l := Store.lists_setList_ne heq ▸ hr
        refine hown r (h.submitted r ?_)
        rw [submitted, hl]
        exact hlists ▸ hr

theorem owns_listStep (h : ∀ f ∈ s.form, s.Owns f) {e : ListEvent} (hstep : s.listStep e = some t) :
    ∀ f ∈ t.form, t.Owns f := by
  obtain ⟨f, hf, hedit⟩ := Option.bind_eq_some_iff.mp hstep
  have howns : s.Owns f := h f hf
  cases e with
  | build =>
    cases hedit
    exact owns_build howns
  | add row =>
    cases hedit
    have hrows : ∀ r ∈ s.shown f.form ++ [s.store.nextRow], r ∈ f.own ++ [s.store.nextRow] := by
      intro r hr
      rcases List.mem_append.mp hr with hr | hr
      · exact List.mem_append_left _ (howns.shown r hr)
      · exact List.mem_append_right _ hr
    have hadded := owns_setList (g := { f with own := f.own ++ [s.store.nextRow], due := f.due ++ [s.store.nextRow] })
      howns (s.store.newRow row) rfl rfl rfl (fun r hr => List.mem_append_left _ hr) hrows
    unfold add
    dsimp only
    split_ifs
    · exact owns_build hadded
    · intro g hg
      obtain rfl := Option.mem_some_iff.mp hg
      exact ⟨hadded.shown, hadded.submitted⟩
  | remove index =>
    obtain ⟨_, hedit⟩ := Option.ite_none_right_eq_some.mp hedit
    cases hedit
    have hrows : ∀ r ∈ (s.shown f.form).eraseIdx index, r ∈ f.own :=
      fun r hr => howns.shown r (List.mem_of_mem_eraseIdx hr)
    exact owns_build (owns_setList (g := { f with due := f.due.eraseIdx index }) howns s.store rfl rfl rfl
      (fun _ hr => hr) hrows)

theorem owns_extends (hs : s.Sound) (h : s.Owns f) (hf : s.form = some f) {store : Store Doc} {page : Option Nat}
    (hstore : s.store.Extends store) : Owns { s with store, page } f := by
  constructor
  · intro r hr
    exact h.shown r ((hstore.mem (hs.listOf f.form)).mp hr)
  · intro r hr
    refine h.submitted r ?_
    rw [submitted] at hr ⊢
    cases hl : f.data with
    | none =>
      rw [hl] at hr
      cases hr
    | some l =>
      rw [hl] at hr
      exact (hstore.mem (hs.data f hf l hl)).mp hr

theorem pageRows_initState (h : s.Sound) (form : ChildForm) : (s.initState form).pageRows = s.pageRows := by
  unfold initState
  split_ifs
  · rw [pageRows, pageRows]
    cases hpage : s.page with
    | none => simp [clearTimeSheet, hpage]
    | some l =>
      simp only [clearTimeSheet, hpage, Option.elim_some]
      exact Store.extends_newList.lists l (h.page l hpage).1
  · rfl

theorem own_openForm (h : s.Sound) (form : ChildForm) (mode : Option OpenMode) (r : Nat) :
    (r ∈ if mode.isSome then (s.initState form).pageRows else []) ↔ mode.isSome = true ∧ r ∈ s.pageRows := by
  rw [pageRows_initState h form]
  split_ifs with hmode <;> simp [hmode]

theorem clean_step (h : s.Clean) (hstep : step s e = some t) (hg : OpensOwn s e) : t.Clean := by
  refine ⟨sound_step h.sound hstep, ?_⟩
  cases e with
  | loadPage rows =>
    cases rows with
    | none =>
      cases hstep
      exact fun f hf => owns_extends h.sound (h.owns f hf) hf (.refl _)
    | some rows =>
      cases hstep
      exact fun f hf => owns_extends h.sound (h.owns f hf) hf ((Store.extends_newRows rows).trans Store.extends_newList)
  | openForm form mode =>
    obtain ⟨_, hstep⟩ := Option.ite_none_right_eq_some.mp hstep
    cases hstep
    intro f hf
    obtain rfl := Option.mem_some_iff.mp hf
    refine ⟨fun r hr => ?_, fun r hr => by cases hr⟩
    have hleft : r ∈ s.leftover form := shown_initState s form ▸ hr
    exact (own_openForm h.sound form mode r).mpr (hg r hleft)
  | load =>
    obtain ⟨f, hf, rfl⟩ := Option.map_eq_some_iff.mp hstep
    have howns : s.Owns f := h.owns f (Option.filter_eq_some_iff.mp hf).1
    intro g hg
    obtain rfl := Option.mem_some_iff.mp hg
    exact ⟨fun r hr => List.mem_append_left _ (howns.shown r hr), fun r hr => List.mem_append_right _ hr⟩
  | list e => exact owns_listStep h.owns hstep
  | submit =>
    obtain ⟨f, _, rfl⟩ := Option.map_eq_some_iff.mp hstep
    exact h.owns
  | leave =>
    obtain ⟨f, _, rfl⟩ := Option.map_eq_some_iff.mp hstep
    intro g hg
    unfold leave at hg
    dsimp only at hg
    split_ifs at hg <;> cases hg

/-! ### Runs -/

theorem submitsOwn_of_clean (h : s.Clean) : SubmitsOwn s e t := fun _ f hf => (h.owns f hf).submitted

theorem build_of_none (hdata : f.data = none) :
    s.build f = { s with form := some { f with data := some (s.listOf f.form) } } := by
  unfold build
  rw [hdata]
  dsimp only
  split_ifs <;> rfl

/-- A form that opens on a row of others submits it when it is saved at once. -/
theorem submits_leftover (hs : s.Sound) {form : ChildForm} {mode : Option OpenMode}
    (hstep : step s (.openForm form mode) = some t) {r : Nat} (hr : r ∈ s.leftover form)
    (hnot : ¬ (mode.isSome = true ∧ r ∈ s.pageRows)) :
    ¬ Each step SubmitsOwn s [.openForm form mode, .list .build, .submit] := by
  intro hall
  obtain ⟨_, heach⟩ := hall t hstep
  obtain ⟨_, hopened⟩ := Option.ite_none_right_eq_some.mp hstep
  cases hopened
  obtain ⟨_, heach⟩ := heach _ rfl
  rw [build_of_none rfl] at heach
  have hshown : r ∈ (s.initState form).shown form := (shown_initState s form).symm ▸ hr
  exact hnot ((own_openForm hs form mode r).mp ((heach _ rfl).1 rfl _ rfl r hshown))

/-- However a session goes on from any point of it with builds and submits, the forms submit only rows of their own,
    exactly when no bill of materials and no job card opens while its list holds a row of others. -/
theorem submitsOwn_iff (es : List ChildEvent) :
    (∀ p, p <+: es → ∀ bs, (∀ b ∈ bs, Closing b) → Each step SubmitsOwn {} (p ++ bs)) ↔ Guarded step OpensOwn {} es := by
  refine each_closed_iff_guarded (I := Clean) (fun _ _ _ => clean_step) (fun _ _ _ h _ _ => submitsOwn_of_clean h) ?_ ?_
    clean_start
  · rintro s e (rfl | rfl) <;> trivial
  · intro s e t h hstep hnot
    cases e with
    | openForm form mode =>
      obtain ⟨r, hr, hforeign⟩ : ∃ r ∈ s.leftover form, ¬ (mode.isSome = true ∧ r ∈ s.pageRows) := by
        simpa only [OpensOwn, not_forall, exists_prop] using hnot
      refine ⟨[.list .build, .submit], ?_, submits_leftover h.sound hstep hr hforeign⟩
      intro b hb
      rcases List.mem_pair.mp hb with rfl | rfl
      · exact Or.inl rfl
      · exact Or.inr rfl
    | loadPage _ | load | list _ | submit | leave => exact absurd trivial hnot

/-- A job card is abandoned with a time log, and a second one is sent with it. -/
theorem leak_to_jobCard :
    let es : List ChildEvent :=
      [.openForm .jobCard none, .list .build, .list (.add [("employee", .str "HR-1")]), .leave, .openForm .jobCard none,
        .list .build]
    (run step {} es).map (fun t => t.form.map fun f => ((t.submitted f).map t.store.rows, f.own)) =
        some (some ([[("employee", .str "HR-1")]], [])) ∧
      ¬ Each step SubmitsOwn {} (es ++ [.submit]) := by
  refine ⟨by decide +kernel, fun h => ?_⟩
  have hlast := (h _ rfl).2 _ rfl |>.2 _ rfl |>.2 _ rfl |>.2 _ rfl |>.2 _ rfl |>.2 _ rfl
  exact absurd (hlast.1 rfl _ rfl 0 (by decide)) (by decide)

end NextApp.ChildSession
