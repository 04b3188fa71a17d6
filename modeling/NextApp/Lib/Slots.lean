import Mathlib.Logic.Function.Basic

/-! # Lists that are built lazily

A list keeps a state for each place that is built, by the place and not by the row there. `rebuild f` builds the list anew:
where `f` has nothing for a place it is dropped with its state. -/

abbrev Slots (α : Type*) := Nat → Option α

namespace Slots
variable {α : Type*}

def empty : Slots α := fun _ => none

def put (s : Slots α) (i : Nat) (a : α) : Slots α := Function.update s i (some a)

def drop (s : Slots α) (i : Nat) : Slots α := Function.update s i none

def rebuild (s : Slots α) (f : Nat → Option (α → α)) : Slots α := fun i => (f i).bind fun g => (s i).map g

/-- Every state that is kept has `P` at its place. -/
def All (P : Nat → α → Prop) (s : Slots α) : Prop := ∀ i, ∀ a ∈ s i, P i a

variable {s : Slots α} {i j : Nat} {a b : α} {f : Nat → Option (α → α)} {P Q : Nat → α → Prop}

@[simp] theorem put_self : s.put i a i = some a := Function.update_self ..

theorem mem_put (h : a ∈ s.put j b i) : (i = j ∧ a = b) ∨ (i ≠ j ∧ a ∈ s i) := by
  by_cases hij : i = j
  · subst hij
    exact .inl ⟨rfl, (Option.some.inj (put_self.symm.trans h)).symm⟩
  · exact .inr ⟨hij, by rwa [put, Function.update_of_ne hij] at h⟩

theorem isSome_put (h : (s i).isSome) : (s.put j b i).isSome := by
  by_cases hij : i = j
  · rw [hij, put_self]
    rfl
  · rwa [put, Function.update_of_ne hij]

theorem mem_drop (h : a ∈ s.drop j i) : i ≠ j ∧ a ∈ s i := by
  by_cases hij : i = j
  · subst hij
    rw [drop, Function.update_self] at h
    cases h
  · exact ⟨hij, by rwa [drop, Function.update_of_ne hij] at h⟩

theorem mem_rebuild : a ∈ s.rebuild f i ↔ ∃ g ∈ f i, ∃ b ∈ s i, g b = a := by
  simp [rebuild, Option.bind_eq_some_iff]

theorem all_empty : empty.All P := fun _ _ h => by cases h

theorem All.put (h : s.All P) (ha : P i a) : (s.put i a).All P := by
  intro j b hb
  rcases mem_put hb with ⟨rfl, rfl⟩ | ⟨-, hb⟩
  · exact ha
  · exact h j b hb

theorem All.drop (h : s.All P) : (s.drop i).All P := fun j b hb => h j b (mem_drop hb).2

theorem all_rebuild_iff : (s.rebuild f).All P ↔ s.All fun i a => ∀ g ∈ f i, P i (g a) := by
  refine ⟨fun h i a ha g hg => h i _ (mem_rebuild.mpr ⟨g, hg, a, ha, rfl⟩), fun h i a ha => ?_⟩
  obtain ⟨g, hg, b, hb, rfl⟩ := mem_rebuild.mp ha
  exact h i b hb g hg

theorem All.mono (h : s.All P) (hPQ : ∀ i a, P i a → Q i a) : s.All Q := fun i a ha => hPQ i a (h i a ha)

end Slots
