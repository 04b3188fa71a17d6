import Mathlib.Data.List.TakeWhile

/-! # Backtracking matchers

A matcher gives the ways in which it can match the start of a text, the preferred one first: each is what it has read,
with the rest of the text. A text is matched by the first way that leaves no rest. -/

def Matcher (α : Type) := List Char → List (α × List Char)

namespace Matcher
variable {α β : Type} {c : Char} {cs ds rest : List Char} {p : Char → Bool} {least most n : Nat}

instance : Monad Matcher where
  pure a := fun cs => [(a, cs)]
  bind m f := fun cs => (m cs).flatMap fun x => f x.1 x.2

def char (p : Char → Bool) : Matcher Char
  | [] => []
  | c :: cs => if p c then [(c, cs)] else []

/-- Greedy: the way without `m` comes last. -/
def optional (m : Matcher α) : Matcher (Option α) := fun cs => (m cs).map (fun x => (some x.1, x.2)) ++ [(none, cs)]

def orElse (m m' : Matcher α) : Matcher α := fun cs => m cs ++ m' cs

/-- From `least` to `most` digits, and as many as there are first. -/
def digits (least most : Nat) : Matcher (List Char) := fun cs =>
  ((List.range' least (min (cs.takeWhile Char.isDigit).length most + 1 - least)).reverse).map fun n => (cs.take n, cs.drop n)

/-- One digit or more. -/
def digits1 : Matcher (List Char) := fun cs => digits 1 cs.length cs

def full (m : Matcher α) (cs : List Char) : Option α := ((m cs).find? fun x => x.2.isEmpty).map Prod.fst

@[simp] theorem pure_apply (a : α) (cs : List Char) : (pure a : Matcher α) cs = [(a, cs)] := rfl

@[simp] theorem bind_apply (m : Matcher α) (f : α → Matcher β) (cs : List Char) :
    (m >>= f) cs = (m cs).flatMap fun x => f x.1 x.2 := rfl

@[simp] theorem char_cons : char p (c :: cs) = if p c then [(c, cs)] else [] := rfl

@[simp] theorem optional_apply (m : Matcher α) (cs : List Char) :
    optional m cs = (m cs).map (fun x => (some x.1, x.2)) ++ [(none, cs)] := rfl

/-- Digits that no further digit follows are read in one way when they are the least there may be. -/
theorem digits_of_stop (hds : ∀ c ∈ ds, c.isDigit) (hlen : ds.length = least) (hmost : least ≤ most)
    (hstop : rest.takeWhile Char.isDigit = []) : digits least most (ds ++ rest) = [(ds, rest)] := by
  have htake : ((ds ++ rest).takeWhile Char.isDigit).length = least := by
    rw [List.takeWhile_append_of_pos hds, hstop, List.append_nil, hlen]
  rw [digits, htake, Nat.min_eq_left hmost, Nat.add_sub_cancel_left]
  subst hlen
  simp

/-- A fixed number of digits is read in one way. -/
theorem digits_self (hds : ∀ c ∈ ds, c.isDigit) (hlen : ds.length = n) : digits n n (ds ++ rest) = [(ds, rest)] := by
  have htake : n ≤ ((ds ++ rest).takeWhile Char.isDigit).length := by
    rw [List.takeWhile_append_of_pos hds, List.length_append, hlen]
    omega
  rw [digits, Nat.min_eq_right htake, Nat.add_sub_cancel_left]
  subst hlen
  simp

theorem digits_of_short (hds : (cs.takeWhile Char.isDigit).length < least) : digits least most cs = [] := by
  have hzero : min (cs.takeWhile Char.isDigit).length most + 1 - least = 0 := by omega
  rw [digits, hzero]
  rfl

/-! ### The preferred way -/

variable {m : Matcher α} {f : α → Matcher β} {a : α} {b : β} {cs' cs'' : List Char}

theorem head_bind (h : (m cs).head? = some (a, cs')) (hf : (f a cs').head? = some (b, cs'')) :
    ((m >>= f) cs).head? = some (b, cs'') := by
  obtain ⟨ways, hways⟩ := List.head?_eq_some_iff.mp h
  rw [bind_apply, hways, List.flatMap_cons, List.head?_append, hf, Option.some_or]

theorem head_optional (h : (m cs).head? = some (a, cs')) : (optional m cs).head? = some (some a, cs') := by
  obtain ⟨ways, hways⟩ := List.head?_eq_some_iff.mp h
  rw [optional_apply, hways]
  rfl

theorem head_optional_none (h : m cs = []) : (optional m cs).head? = some (none, cs) := by
  rw [optional_apply, h]
  rfl

theorem head_digits (hds : ∀ c ∈ ds, c.isDigit) (hleast : least ≤ ds.length) (hmost : ds.length ≤ most)
    (hstop : rest.takeWhile Char.isDigit = []) : (digits least most (ds ++ rest)).head? = some (ds, rest) := by
  have htake : ((ds ++ rest).takeWhile Char.isDigit).length = ds.length := by
    rw [List.takeWhile_append_of_pos hds, hstop, List.append_nil]
  have hlast : (List.range' least (ds.length + 1 - least)).getLast? = some ds.length := by
    rw [List.getLast?_range', if_neg (by omega), Option.some_inj]
    omega
  rw [digits, htake, Nat.min_eq_left hmost, List.head?_map, List.head?_reverse, hlast]
  simp

theorem head_digits1 (hds : ∀ c ∈ ds, c.isDigit) (hne : ds ≠ []) (hstop : rest.takeWhile Char.isDigit = []) :
    (digits1 (ds ++ rest)).head? = some (ds, rest) :=
  head_digits hds (List.length_pos_iff.mpr hne) (by simp) hstop

theorem full_of_head (h : (m cs).head? = some (a, [])) : full m cs = some a := by
  obtain ⟨ways, hways⟩ := List.head?_eq_some_iff.mp h
  rw [full, hways]
  rfl

end Matcher
