import NextApp.Model.ModuleList

/-! # The module list loads

The first build of the list asks for nothing: the list waits for a later flip of `reset`, and nothing but the statistics of
the module brings one by itself. -/

namespace NextApp.ModuleList
open Runs
variable {α : Type} {s t : ModuleList α} {e : ModuleListEvent α} {q : ScreenQuery}

/-! ### The property and the condition -/

def Current (s : ModuleList α) (q : ScreenQuery) : Prop := q.1 = s.query.1 ∧ q.2.Same s.filter

/-- Nothing runs, and no statistics are waited for. -/
def Quiescent (s : ModuleList α) : Prop := s.list.running = [] ∧ s.statistics = 0

/-- At rest the rows of the query of the screen have been asked for and have come, and the list does not show that it loads. -/
def Loaded (s : ModuleList α) : Prop :=
  s.Quiescent → (∃ q ∈ s.completed, s.Current q) ∧ s.list.state.isLoading = false

/-- No call of `getItems` has been made yet. -/
def Waiting (s : ModuleList α) : Prop := s.list.running = [] ∧ s.completed = []

/-- Where the last statistics fail, the list does not wait any more. -/
def Guard (s : ModuleList α) : ModuleListEvent α → Prop
  | .statistics .null | .statistics .exception => s.statistics = 1 → ¬ s.Waiting
  | _ => True

/-! ### The invariant -/

/-- A call asks for the rows of the query of the screen, or will, or has got them. -/
def Loads (s : ModuleList α) : Prop :=
  (∃ q ∈ s.completed, s.Current q) ∨ ∃ r ∈ s.list.running, r = .counting ∨ ∃ q start, r = .asked q start ∧ s.Current q

structure Inv (s : ModuleList α) : Prop where
  heard : s.oldValue = s.reset
  built : s.filter.Same s.value
  loads : s.Waiting ∧ s.list.state.items = [] ∧ 0 < s.statistics ∨ s.Loads
  rests : s.list.running = [] → s.completed ≠ [] → s.list.state.isLoading = false

theorem Inv.loaded (h : Inv s) : s.Loaded := by
  rintro ⟨hrunning, hstatistics⟩
  rcases h.loads with ⟨-, -, hpos⟩ | ⟨q, hq, hcurrent⟩ | ⟨r, hr, -⟩
  · exact absurd hstatistics hpos.ne'
  · exact ⟨⟨q, hq, hcurrent⟩, h.rests hrunning (List.ne_nil_of_mem hq)⟩
  · rw [hrunning] at hr
    cases hr

theorem inv_mounted (filter : Doc) : Inv (mounted (α := α) filter) where
  heard := rfl
  built := Dict.Same.refl _
  loads := Or.inl ⟨⟨rfl, rfl⟩, rfl, Nat.one_pos⟩
  rests _ h := absurd rfl h

theorem flip_eq (h : s.oldValue = s.reset) :
    s.flip = { s with reset := !s.reset, oldValue := !s.reset, list := s.list.reset s.query } := by
  have hne : (!s.reset) ≠ s.oldValue := by
    rw [h]
    cases s.reset <;> decide
  rw [flip, resetList, if_pos hne]
  rfl

theorem inv_flip (hheard : s.oldValue = s.reset) (hbuilt : s.filter.Same s.value) : Inv s.flip := by
  rw [flip_eq hheard]
  exact ⟨rfl, hbuilt, Or.inr (Or.inr ⟨.counting, by simp [PaginationList.reset, PaginationList.getItems], Or.inl rfl⟩),
    fun hnil => absurd hnil (by simp [PaginationList.reset, PaginationList.getItems])⟩

theorem inv_build (h : s.oldValue = s.reset) : Inv s.build := inv_flip h (Dict.Same.refl _)

/-! ### The calls of the list -/

section
variable {l l' : PaginationList ScreenQuery α} {i : Nat} {count : String} {rows : ScreenQuery → Int → Option (List α)}

theorem inv_getItems (h : Inv s) : Inv { s with list := l.getItems } where
  heard := h.heard
  built := h.built
  loads := Or.inr (Or.inr ⟨.counting, by simp [PaginationList.getItems], Or.inl rfl⟩)
  rests hnil := absurd hnil (by simp [PaginationList.getItems])

theorem loadMore_cases (h : s.list.loadMore = some l) : l = s.list ∨ l = s.list.getItems := by
  rw [PaginationList.loadMore] at h
  split at h
  · cases h
  · split at h
    · exact Or.inl (Option.some.inj h).symm
    · exact Or.inr (Option.some.inj h).symm

theorem counted_spec (h : l.counted i count = some l') :
    ∃ query, l.query = some query ∧ l.running[i]? = some .counting ∧
      l'.running = l.running.set i (.asked query l.state.pageCount) := by
  unfold PaginationList.counted at h
  split at h
  · next query hrunning hquery =>
    refine ⟨query, hquery, hrunning, ?_⟩
    rw [← Option.some.inj h]
  · cases h

theorem answered_spec {query : ScreenQuery} {start : Int} (hrunning : l.running[i]? = some (.asked query start))
    (h : l.answered i rows = some l') :
    l'.running = l.running.eraseIdx i ∧ l'.state.isLoading = false := by
  simp only [PaginationList.answered, hrunning, Option.some.injEq] at h
  rw [← h]
  exact ⟨rfl, rfl⟩

end

theorem current_of_same {values : Doc} (h : s.Current q) (hsame : s.filter.Same values) :
    Current { s with filter := values } q := ⟨h.1, h.2.trans hsame⟩

theorem inv_step (h : Inv s) (hs : s.step e = some t) (hg : s.Guard e) : Inv t := by
  cases e with
  | search value =>
    cases hs
    exact inv_flip h.heard h.built
  | setFilter values =>
    rw [step] at hs
    split at hs
    · next hsame =>
      cases hs
      have hvalues : s.filter.Same values := h.built.trans hsame.symm
      refine ⟨h.heard, hsame, h.loads.imp_right ?_, h.rests⟩
      rintro (⟨q, hq, hcurrent⟩ | ⟨r, hr, hcounting | ⟨q, start, rfl, hcurrent⟩⟩)
      · exact Or.inl ⟨q, hq, current_of_same hcurrent hvalues⟩
      · exact Or.inr ⟨r, hr, Or.inl hcounting⟩
      · exact Or.inr ⟨_, hr, Or.inr ⟨q, start, rfl, current_of_same hcurrent hvalues⟩⟩
    · cases hs
      exact inv_build h.heard
  | rebuild =>
    cases hs
    exact inv_build h.heard
  | didChangeDependencies =>
    cases hs
    exact inv_build h.heard
  | statistics result =>
    obtain ⟨hpos, hs⟩ := Option.ite_none_left_eq_some.mp hs
    have hfails (hguard : s.statistics = 1 → ¬ s.Waiting) : Inv { s with statistics := s.statistics - 1 } := by
      refine ⟨h.heard, h.built, ?_, h.rests⟩
      rcases h.loads with ⟨hwaiting, hitems, -⟩ | hloads
      · refine Or.inl ⟨hwaiting, hitems, ?_⟩
        have hne : s.statistics ≠ 1 := fun h1 => hguard h1 hwaiting
        change 0 < s.statistics - 1
        omega
      · exact Or.inr hloads
    cases result with
    | success =>
      cases hs
      exact inv_build h.heard
    | null =>
      cases hs
      exact hfails hg
    | exception =>
      cases hs
      exact hfails hg
  | loadMore =>
    obtain ⟨l, hl, rfl⟩ := Option.map_eq_some_iff.mp hs
    rcases loadMore_cases hl with rfl | rfl
    · exact h
    · exact inv_getItems h
  | refresh =>
    obtain ⟨l, hl, rfl⟩ := Option.map_eq_some_iff.mp hs
    rw [PaginationList.refresh] at hl
    split at hl
    · cases hl
    · cases hl
      exact inv_getItems h
  | counted i count =>
    obtain ⟨l, hl, rfl⟩ := Option.map_eq_some_iff.mp hs
    obtain ⟨query, hquery, hcounting, hrunning⟩ := counted_spec hl
    cases hquery
    have hlt : i < s.list.running.length := (List.getElem?_eq_some_iff.mp hcounting).1
    have hasked : RunningItems.asked s.query s.list.state.pageCount ∈ l.running := by
      rw [hrunning]
      exact List.mem_set hlt _
    exact ⟨h.heard, h.built, Or.inr (Or.inr ⟨_, hasked, Or.inr ⟨s.query, _, rfl, rfl, Dict.Same.refl _⟩⟩),
      fun hnil => absurd hnil (List.ne_nil_of_mem hasked)⟩
  | answered i rows =>
    rw [step] at hs
    split at hs
    · next query start hasked =>
      obtain ⟨l, hl, rfl⟩ := Option.map_eq_some_iff.mp hs
      obtain ⟨hrunning, hloading⟩ := answered_spec hasked hl
      refine ⟨h.heard, h.built, Or.inr ?_, fun _ _ => hloading⟩
      rcases h.loads with ⟨⟨hnil, -⟩, -⟩ | ⟨q, hq, hcurrent⟩ | ⟨r, hr, hcase⟩
      · rw [hnil] at hasked
        cases hasked
      · exact Or.inl ⟨q, List.mem_cons_of_mem _ hq, hcurrent⟩
      · -- the call that has ended is the one that asked for the query of the screen, or that one still runs
        obtain ⟨j, hj⟩ := List.mem_iff_getElem?.mp hr
        by_cases hij : j = i
        · rw [hij, hasked, Option.some_inj] at hj
          rcases hcase with hcounting | ⟨q, start', hq, hcurrent⟩
          · cases hj.trans hcounting
          · cases hj.trans hq
            exact Or.inl ⟨query, List.mem_cons_self, hcurrent⟩
        · refine Or.inr ⟨r, ?_, hcase⟩
          rw [hrunning]
          exact List.mem_eraseIdx_iff_getElem?.mpr ⟨j, hij, hj⟩
    · cases hs

theorem guard_of_loaded (hs : s.step e = some t) (ht : t.Loaded) : s.Guard e := by
  have hfails (hlast : s.statistics = 1) (ht : Loaded { s with statistics := s.statistics - 1 }) : ¬ s.Waiting := by
    rintro ⟨hrunning, hcompleted⟩
    obtain ⟨⟨q, hq, -⟩, -⟩ := ht ⟨hrunning, by rw [hlast]⟩
    rw [hcompleted] at hq
    cases hq
  cases e with
  | statistics result =>
    obtain ⟨-, hs⟩ := Option.ite_none_left_eq_some.mp hs
    cases result with
    | success => trivial
    | null =>
      cases hs
      exact fun hlast => hfails hlast ht
    | exception =>
      cases hs
      exact fun hlast => hfails hlast ht
  | _ => trivial

/-- Through every sequence of searches, filters, builds, results of the statistics and steps of the calls of `getItems`, the
    rows of the query of the screen have come whenever nothing runs, exactly when the last of the statistics fail only after
    a call has been started. -/
theorem loaded_run_iff (filter : Doc) (es : List (ModuleListEvent α)) :
    Along step Loaded (mounted filter) es ↔ Guarded step Guard (mounted filter) es :=
  along_iff_guarded (fun _ h => h.loaded) (fun _ _ _ => inv_step) (fun _ _ _ _ => guard_of_loaded) (inv_mounted filter)

/-- A list is opened whose statistics the server does not have. -/
theorem not_loaded_without_statistics : ¬ Along step Loaded (mounted (α := Doc) []) [.statistics .null] := by
  intro h
  have hloaded : Loaded { mounted (α := Doc) [] with statistics := 0 } := (h.2 _ rfl).head
  obtain ⟨⟨q, hq, -⟩, -⟩ := hloaded ⟨rfl, rfl⟩
  cases hq

end NextApp.ModuleList
