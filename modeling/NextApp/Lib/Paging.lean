import Mathlib.Data.List.Basic
import Mathlib.Data.List.Infix
import Mathlib.Data.List.Nodup

/-! # Pages of a list

A list read in pages of `p` rows: the page at offset `s` is `slice l s p`. Pages read without a gap
append to a prefix of the list, and a page shorter than `p` is the last one. Pages read over a gap do
not, when the rows of the list are distinct. -/

namespace Paging
variable {α : Type*} {l : List α} {s p m : Nat}

def slice (l : List α) (s p : Nat) : List α := (l.drop s).take p

theorem take_append_slice (l : List α) (s p : Nat) : l.take s ++ slice l s p = l.take (s + p) :=
  List.take_add.symm

theorem length_slice (l : List α) (s p : Nat) : (slice l s p).length = min p (l.length - s) := by
  simp [slice]

@[simp] theorem slice_of_length_le (h : l.length ≤ s) : slice l s p = [] := by
  simp [slice, List.drop_eq_nil_of_le h]

theorem take_append_slice_of_short (h : (slice l s p).length < p) : l.take s ++ slice l s p = l := by
  rw [take_append_slice]
  rw [length_slice] at h
  exact List.take_of_length_le (by omega)

theorem append_slice_prefix {xs : List α} (h : xs <+: l) : xs ++ slice l xs.length p <+: l := by
  have htake : xs = l.take xs.length := List.prefix_iff_eq_take.mp h
  generalize xs.length = n at htake
  rw [htake, take_append_slice]
  exact List.take_prefix _ _

/-- With distinct rows, a page read past a row that was left out does not continue the prefix. -/
theorem not_prefix_of_gap (hn : l.Nodup) (hms : m < s) (hs : s < l.length) (hp : 0 < p) :
    ¬ l.take m ++ slice l s p <+: l := by
  intro h
  have hm : m < l.length := by omega
  have hlen : m < (l.take m ++ slice l s p).length := by
    rw [List.length_append, List.length_take, length_slice]
    omega
  have hrow : (l.take m ++ slice l s p)[m] = l[m] := h.getElem hlen
  have hgap : (l.take m ++ slice l s p)[m] = l[s] := by
    have hlt : (l.take m).length = m := List.length_take_of_le (by omega)
    simp [slice, hlt]
  have hne : m = s := hn.getElem_inj_iff.mp (hrow.symm.trans hgap)
  omega

end Paging
