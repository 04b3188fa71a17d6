import Mathlib.Data.List.Basic

/-! # Columns of rows

A column shows rows of cells, each as one item. A divider stands between a row and the next, but not below an empty row: the
place of a row in the column depends on the empty rows above it. -/

namespace Grid
variable {α β γ : Type}

/-- Indexing that fails outside of the list. -/
def at? (xs : List α) (i : Int) : Option α := if 0 ≤ i then xs[i.toNat]? else none

def setAt? (xs : List α) (i : Int) (a : α) : Option (List α) :=
  if 0 ≤ i ∧ i < xs.length then some (xs.set i.toNat a) else none

/-- The items of a column: `row` shows a row. -/
def column (row : List α → β) (divider : β) : List (List α) → List β
  | [] => []
  | cells :: rest => row cells :: ((if rest ≠ [] ∧ cells ≠ [] then [divider] else []) ++ column row divider rest)

/-- Where a row stands in the column. -/
def place : List (List α) → Nat → Nat
  | cells :: rest, i + 1 => (if cells = [] then 1 else 2) + place rest i
  | _, _ => 0

def cell (grid : List (List α)) (i j : Nat) : Option α := grid[i]?.bind fun cells => cells[j]?

def modify (grid : List (List α)) (i j : Nat) (f : α → α) : List (List α) := grid.modify i fun cells => cells.modify j f

variable {grid : List (List α)} {cells cells' : List α} {row : List α → β} {divider : β} {i j k l n : Nat} {a : α} {f : α → α}

/-! ### Indices -/

theorem at?_natCast (xs : List α) (n : Nat) : at? xs n = xs[n]? := by
  rw [at?, if_pos (Int.natCast_nonneg n), Int.toNat_natCast]

theorem setAt?_natCast {xs : List α} (h : n < xs.length) (a : α) : setAt? xs n a = some (xs.set n a) := by
  rw [setAt?, if_pos ⟨Int.natCast_nonneg n, Int.ofNat_lt.mpr h⟩, Int.toNat_natCast]

theorem getElem?_of_setAt? {xs ys : List α} {i : Int} (h : setAt? xs i a = some ys) (hn : (n : Int) ≠ i) : ys[n]? = xs[n]? := by
  obtain ⟨hin, h⟩ := Option.ite_none_right_eq_some.mp h
  cases h
  exact List.getElem?_set_ne (by omega)

/-! ### Places -/

theorem place_cons_succ (cells : List α) (rest : List (List α)) (i : Nat) :
    place (cells :: rest) (i + 1) = (if cells = [] then 1 else 2) + place rest i := rfl

theorem place_map (g : α → γ) (grid : List (List α)) (i : Nat) : place (grid.map (List.map g)) i = place grid i := by
  induction grid generalizing i with
  | nil => rfl
  | cons cells rest ih =>
    cases i with
    | zero => rfl
    | succ i => simp only [List.map_cons, place_cons_succ, ih, List.map_eq_nil_iff]

theorem place_lt (hj : j ≤ grid.length) (h : i < j) : place grid i < place grid j := by
  induction grid generalizing i j with
  | nil => simp at hj; omega
  | cons cells rest ih =>
    obtain ⟨j, rfl⟩ := Nat.exists_eq_succ_of_ne_zero (Nat.ne_zero_of_lt h)
    cases i with
    | zero =>
      have hzero : place (cells :: rest) 0 = 0 := rfl
      rw [hzero, place_cons_succ]
      split <;> omega
    | succ i =>
      have hlt := ih (Nat.le_of_succ_le_succ hj) (Nat.lt_of_succ_lt_succ h)
      rw [place_cons_succ, place_cons_succ]
      omega

theorem place_inj (hi : i ≤ grid.length) (hj : j ≤ grid.length) (h : place grid i = place grid j) : i = j := by
  rcases Nat.lt_trichotomy i j with hlt | heq | hlt
  · exact absurd h (Nat.ne_of_lt (place_lt hj hlt))
  · exact heq
  · exact absurd h (Nat.ne_of_gt (place_lt hi hlt))

theorem place_le (grid : List (List α)) (i : Nat) : place grid i ≤ 2 * i := by
  induction grid generalizing i with
  | nil => cases i <;> exact Nat.zero_le _
  | cons cells rest ih =>
    cases i with
    | zero => exact Nat.le_refl _
    | succ i =>
      have hle := ih i
      rw [place_cons_succ]
      split <;> omega

/-- Two places for each row above, exactly when none of them is empty. -/
theorem place_eq_iff (h : i ≤ grid.length) : place grid i = 2 * i ↔ ∀ cells ∈ grid.take i, cells ≠ [] := by
  induction grid generalizing i with
  | nil =>
    obtain rfl := Nat.le_zero.mp h
    simp [place]
  | cons cells rest ih =>
    cases i with
    | zero => simp [place]
    | succ i =>
      have hle := place_le rest i
      rw [place_cons_succ, List.take_succ_cons, List.forall_mem_cons, ← ih (Nat.le_of_succ_le_succ h)]
      by_cases hcells : cells = []
      · rw [if_pos hcells]
        exact iff_of_false (by omega) fun hne => hne.1 hcells
      · rw [if_neg hcells, and_iff_right hcells]
        omega

/-! ### The column -/

theorem column_cons (row : List α → β) (divider : β) (cells : List α) (rest : List (List α)) :
    column row divider (cells :: rest) =
      row cells :: ((if rest ≠ [] ∧ cells ≠ [] then [divider] else []) ++ column row divider rest) := rfl

theorem getElem?_column (h : grid[i]? = some cells) : (column row divider grid)[place grid i]? = some (row cells) := by
  induction grid generalizing i with
  | nil => cases h
  | cons top rest ih =>
    cases i with
    | zero =>
      cases h
      rfl
    | succ i =>
      have hrest : rest ≠ [] := List.ne_nil_of_mem (List.mem_of_getElem? h)
      rw [column_cons, place_cons_succ]
      by_cases htop : top = []
      · rw [if_pos htop, if_neg fun hne => hne.2 htop, Nat.add_comm]
        exact ih h
      · rw [if_neg htop, if_pos ⟨hrest, htop⟩, Nat.add_comm]
        exact ih h

/-- To show another row of as many cells is to write at its place. -/
theorem set_column (h : grid[i]? = some cells) (hempty : cells' = [] ↔ cells = []) :
    (column row divider grid).set (place grid i) (row cells') = column row divider (grid.set i cells') := by
  induction grid generalizing i with
  | nil => cases h
  | cons top rest ih =>
    cases i with
    | zero =>
      cases h
      simp only [place, List.set_cons_zero, column_cons, ne_eq, hempty]
    | succ i =>
      have hrest : rest ≠ [] := List.ne_nil_of_mem (List.mem_of_getElem? h)
      have hset : rest.set i cells' ≠ [] := by rwa [ne_eq, List.set_eq_nil_iff]
      rw [List.set_cons_succ, column_cons, column_cons, place_cons_succ, ← ih h]
      by_cases htop : top = []
      · rw [if_pos htop, if_neg fun hne => hne.2 htop, if_neg fun hne => hne.2 htop, Nat.add_comm]
        rfl
      · rw [if_neg htop, if_pos ⟨hrest, htop⟩, if_pos ⟨hset, htop⟩, Nat.add_comm]
        rfl

/-! ### Cells -/

theorem modify_eq_set {xs : List α} (h : xs[i]? = some a) (f : α → α) : xs.modify i f = xs.set i (f a) := by
  rw [List.modify_eq_set_getElem?, h]
  rfl

theorem map_modify_eq {g : α → γ} (hf : ∀ a, g (f a) = g a) (xs : List α) (i : Nat) : (xs.modify i f).map g = xs.map g := by
  refine List.ext_getElem? fun k => ?_
  rw [List.getElem?_map, List.getElem?_map, List.getElem?_modify]
  cases xs[k]? with
  | none => rfl
  | some a =>
    simp only [Option.map_eq_map, Option.map_some]
    split
    · rw [hf]
    · rfl

theorem map_modify {g : α → γ} (hf : ∀ a, g (f a) = g a) (grid : List (List α)) (i j : Nat) :
    (modify grid i j f).map (List.map g) = grid.map (List.map g) :=
  map_modify_eq (fun cells => map_modify_eq hf cells j) grid i

theorem cell_modify (grid : List (List α)) (i j k l : Nat) (f : α → α) :
    cell (modify grid i j f) k l = if i = k ∧ j = l then (cell grid k l).map f else cell grid k l := by
  rw [cell, modify, List.getElem?_modify, cell]
  cases grid[k]? with
  | none => simp
  | some cells =>
    by_cases hi : i = k
    · by_cases hj : j = l
      · simp [hi, hj]
      · simp [hi, hj]
    · simp [hi]

theorem set_intersperse (sep : α) (cells : List α) (j : Nat) (a : α) :
    (cells.intersperse sep).set (2 * j) a = (cells.set j a).intersperse sep := by
  refine List.ext_getElem? fun k => ?_
  rw [List.getElem?_set, List.length_intersperse, List.getElem?_intersperse, List.getElem?_intersperse, List.getElem?_set,
    List.length_set]
  by_cases heven : k % 2 = 0
  · have hplace : 2 * j = k ↔ j = k / 2 := by omega
    have hin : 2 * j < 2 * cells.length - 1 ↔ j < cells.length := by omega
    simp only [hplace, hin, if_pos heven]
  · rw [if_neg (by omega), if_neg heven, if_neg heven]

theorem intersperse_inj {sep : α} (h : cells.intersperse sep = cells'.intersperse sep) : cells = cells' := by
  refine List.ext_getElem? fun k => ?_
  have hplace : (cells.intersperse sep)[2 * k]? = (cells'.intersperse sep)[2 * k]? := by rw [h]
  rwa [List.getElem?_intersperse_two_mul, List.getElem?_intersperse_two_mul] at hplace

end Grid
