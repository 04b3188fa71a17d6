import NextApp.Model.FilterScreen

/-! # Filters and sorting

What a screen applies differs from the filters of the provider in its own keys only. What it clears is everything, and what is
left is an entry with an empty key. -/

namespace NextApp.FilterScreens
open Runs
variable {s t : FilterScreens} {e : FilterScreenEvent} {kind : FilterScreenKind} {values : Doc} {k : String}

/-- The keys that a screen is for. -/
def Owns : FilterScreenKind → String → Prop
  | .sorting, k => k ∈ sortKeys
  | .filter, k => k ∉ sortKeys ∧ k ≠ ""

/-- The entries of the other screen stay as they are when one applies or clears, and all of them at any other time. -/
def Kept (s : FilterScreens) (e : FilterScreenEvent) (t : FilterScreens) : Prop :=
  match e, s.screen with
  | .clear, some (kind, _) | .apply, some (kind, _) => ∀ k, ¬ Owns kind k → k ≠ "" → t.filter.get? k = s.filter.get? k
  | _, _ => t.filter = s.filter

def NoEmptyKey (s : FilterScreens) : Prop := s.filter.get? "" = none

/-- There is nothing of the other screen's to clear. -/
def Alone (s : FilterScreens) : FilterScreenEvent → Prop
  | .clear => ∀ screen ∈ s.screen, ∀ k, ¬ Owns screen.1 k → k ≠ "" → s.filter.get? k = none
  | _ => True

/-- What is open differs from the filters of the provider in its own keys. -/
def Inv (s : FilterScreens) : Prop :=
  ∀ screen ∈ s.screen, ∀ k, ¬ Owns screen.1 k → screen.2.get? k = s.filter.get? k

theorem not_owns_empty (kind : FilterScreenKind) : ¬ Owns kind "" := by
  cases kind <;> simp [Owns, sortKeys]

theorem get?_write (key : String) (value : Option Value) (h : key ≠ k) : (write values key value).get? k = values.get? k := by
  cases value with
  | none => exact Dict.get?_remove_ne h
  | some value => exact Dict.get?_set_ne h

theorem inv_edit {key : String} {value : Option Value} (h : Inv s) (hs : s.screen = some (kind, values)) (hkey : Owns kind key) :
    Inv { s with screen := some (kind, write values key value) } := by
  rintro screen ⟨⟩ k hk
  rw [get?_write key value fun heq => hk (heq ▸ hkey)]
  exact h _ hs k hk

theorem inv_openScreen (s : FilterScreens) (kind : FilterScreenKind) : Inv (s.openScreen kind) := by
  rintro screen ⟨⟩ k -
  rfl

theorem inv_step (h : Inv s) (hs : s.step e = some t) : Inv t := by
  have hsort : Owns .sorting "sort_field" ∧ Owns .sorting "sort_type" := by simp [Owns, sortKeys]
  cases e with
  | «open» kind =>
    obtain ⟨-, hs⟩ := Option.ite_none_right_eq_some.mp hs
    cases hs
    exact inv_openScreen s kind
  | edit key value =>
    rw [step] at hs
    split at hs
    · next values hscreen =>
      cases hs
      exact inv_edit h hscreen ⟨key.2.2, key.2.1⟩
    · cases hs
  | sortField value =>
    rw [step] at hs
    split at hs
    · next values hscreen =>
      cases hs
      exact inv_edit h hscreen hsort.1
    · cases hs
  | sortType value =>
    rw [step] at hs
    split at hs
    · next values hscreen =>
      cases hs
      exact inv_edit h hscreen hsort.2
    · cases hs
  | clear =>
    obtain ⟨screen, -, rfl⟩ := Option.map_eq_some_iff.mp hs
    exact inv_openScreen _ _
  | apply =>
    obtain ⟨screen, -, rfl⟩ := Option.map_eq_some_iff.mp hs
    exact fun screen hscreen => absurd hscreen (Option.not_mem_none screen)
  | back =>
    obtain ⟨screen, -, rfl⟩ := Option.map_eq_some_iff.mp hs
    exact fun screen hscreen => absurd hscreen (Option.not_mem_none screen)

theorem filter_step (hs : s.step e = some t) : t.filter = s.filter ∨ e = .clear ∨ e = .apply := by
  cases e with
  | «open» kind =>
    obtain ⟨-, hs⟩ := Option.ite_none_right_eq_some.mp hs
    cases hs
    exact Or.inl rfl
  | edit key value =>
    rw [step] at hs
    split at hs
    · cases hs
      exact Or.inl rfl
    · cases hs
  | sortField value =>
    rw [step] at hs
    split at hs
    · cases hs
      exact Or.inl rfl
    · cases hs
  | sortType value =>
    rw [step] at hs
    split at hs
    · cases hs
      exact Or.inl rfl
    · cases hs
  | back =>
    obtain ⟨screen, -, rfl⟩ := Option.map_eq_some_iff.mp hs
    exact Or.inl rfl
  | clear => exact Or.inr (Or.inl rfl)
  | apply => exact Or.inr (Or.inr rfl)

theorem get?_cleared (h : k ≠ "") : Dict.get? ([("", .str "")] : Doc) k = none := by
  simp [Dict.get?, Ne.symm h]

theorem kept_iff (h : Inv s) (hs : s.step e = some t) : Kept s e t ↔ s.Alone e := by
  cases e with
  | clear =>
    obtain ⟨⟨kind, values⟩, hscreen, rfl⟩ := Option.map_eq_some_iff.mp hs
    simp only [Kept, Alone, hscreen, openScreen, Option.mem_def, Option.some.injEq, forall_eq']
    refine forall₃_congr fun k _ hne => ?_
    rw [get?_cleared hne]
    exact eq_comm
  | apply =>
    obtain ⟨⟨kind, values⟩, hscreen, rfl⟩ := Option.map_eq_some_iff.mp hs
    refine iff_of_true ?_ trivial
    simp only [Kept, hscreen]
    exact fun k hk _ => h _ hscreen k hk
  | _ =>
    refine iff_of_true ?_ trivial
    rcases filter_step hs with hfilter | hclear | happly
    · exact hfilter
    · cases hclear
    · cases happly

theorem noEmptyKey_step (h : Inv s) (hempty : s.NoEmptyKey) (hs : s.step e = some t) : t.NoEmptyKey ↔ e ≠ .clear := by
  rcases filter_step hs with hfilter | rfl | rfl
  · refine iff_of_true (by rw [NoEmptyKey, hfilter]; exact hempty) ?_
    rintro rfl
    obtain ⟨screen, -, rfl⟩ := Option.map_eq_some_iff.mp hs
    rw [NoEmptyKey, ← hfilter] at hempty
    cases hempty
  · obtain ⟨screen, -, rfl⟩ := Option.map_eq_some_iff.mp hs
    exact iff_of_false (fun hnone => by cases hnone) fun hne => hne rfl
  · obtain ⟨screen, hscreen, rfl⟩ := Option.map_eq_some_iff.mp hs
    refine iff_of_true ?_ (by simp)
    exact (h screen hscreen "" (not_owns_empty screen.1)).trans hempty

theorem inv_opened (filters : List (FilterKey × Value)) : Inv (opened filters) := fun screen hscreen =>
  absurd hscreen (Option.not_mem_none screen)

theorem noEmptyKey_opened (filters : List (FilterKey × Value)) : NoEmptyKey (opened filters) := by
  have hkeys : "" ∉ (filters.map fun e => (e.1.1, e.2)).map Prod.fst := by
    simp only [List.map_map, List.mem_map, not_exists, not_and]
    exact fun e _ heq => e.1.2.1 heq
  rw [NoEmptyKey, opened, Dict.get?_set_ne (by decide), Dict.get?_set_ne (by decide), Dict.get?_addAll_of_not_mem hkeys]
  rfl

/-- Through every sequence of what the two screens are for, the entries of the other screen are kept exactly when a clear finds
    none of them; and no map has an empty key besides exactly when nothing is cleared. -/
theorem independent_iff (filters : List (FilterKey × Value)) (es : List FilterScreenEvent) :
    (Each step Kept (opened filters) es ↔ Guarded step Alone (opened filters) es) ∧
    (NoEmptyKey (opened filters) ∧ Each step (fun s e t => Kept s e t ∧ NoEmptyKey t) (opened filters) es ↔
      Guarded step (fun _ e => e ≠ .clear) (opened filters) es) := by
  refine ⟨each_iff_guarded (fun _ _ _ h hs _ => inv_step h hs) (fun _ _ _ => kept_iff) (inv_opened filters), ?_⟩
  rw [and_iff_right (noEmptyKey_opened filters)]
  refine each_iff_guarded (I := fun s => Inv s ∧ s.NoEmptyKey) (fun s e t h hs hne => ?_) (fun s e t h hs => ?_)
    ⟨inv_opened filters, noEmptyKey_opened filters⟩
  · exact ⟨inv_step h.1 hs, (noEmptyKey_step h.1 h.2 hs).mpr hne⟩
  · rw [noEmptyKey_step h.1 h.2 hs, kept_iff h.1 hs, and_iff_right_iff_imp]
    intro hne
    cases e with
    | clear => exact absurd rfl hne
    | _ => trivial

/-- A status is chosen, and then the sorting is cleared. -/
theorem cleared_sorting_clears_filters :
    ¬ Each step Kept (opened [])
      [.open .filter, .edit ⟨"filter1", by decide⟩ (some (.str "Draft")), .apply, .open .sorting, .clear] ∧
    ¬ Each step (fun _ _ t => NoEmptyKey t) (opened []) [.open .sorting, .clear] := by
  refine ⟨fun h => ?_, fun h => ?_⟩
  · have hkept : Kept _ _ _ := (((((h _ rfl).2 _ rfl).2 _ rfl).2 _ rfl).2 _ rfl).1
    exact absurd (hkept "filter1" (by simp [Owns, sortKeys]) (by decide)) (by decide)
  · have hempty : NoEmptyKey _ := ((h _ rfl).2 _ rfl).1
    cases hempty

end NextApp.FilterScreens
