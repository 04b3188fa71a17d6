import Mathlib.Data.List.Basic
import Mathlib.Tactic.TypeStar

/-! # Decoding a list

A list is decoded entry by entry; an entry that cannot be decoded leaves nothing of the list. -/

namespace Decode
variable {α β : Type*} {f : α → Option β} {xs : List α} {ys : List β}

theorem mapM_eq_some_iff : xs.mapM f = some ys ↔ xs.map f = ys.map some := by
  induction xs generalizing ys with
  | nil => cases ys <;> simp
  | cons x xs ih =>
    have hcons : (x :: xs).mapM f = (f x).bind fun y => (xs.mapM f).map (y :: ·) := by
      cases hx : f x <;> cases hxs : xs.mapM f <;> simp [List.mapM_cons, hx, hxs]
    simp only [hcons, Option.bind_eq_some_iff, Option.map_eq_some_iff, ih, List.map_cons]
    cases ys with
    | nil => simp
    | cons y ys => simp

theorem mapM_ne_none_iff : xs.mapM f ≠ none ↔ ∀ x ∈ xs, f x ≠ none := by
  constructor
  · intro h x hx hnone
    obtain ⟨ys, hys⟩ := Option.ne_none_iff_exists'.mp h
    have hmem : f x ∈ ys.map some := mapM_eq_some_iff.mp hys ▸ List.mem_map_of_mem hx
    rw [hnone] at hmem
    simp at hmem
  · intro h
    induction xs with
    | nil => simp
    | cons x xs ih =>
      obtain ⟨hx, hxs⟩ := List.forall_mem_cons.mp h
      obtain ⟨y, hy⟩ := Option.ne_none_iff_exists'.mp hx
      obtain ⟨ys, hys⟩ := Option.ne_none_iff_exists'.mp (ih hxs)
      simp [List.mapM_cons, hy, hys]

end Decode
