import Mathlib.Data.List.Infix

/-! # Searching and replacing in texts

Texts are lists, over any type of units. A search finds the first place where a pattern stands; a pass over the separators of
a text, which drops those that another one follows, commutes with the search for a pattern that holds none. -/

/-- A string by its code units in UTF-16; its surrogates may be alone. -/
abbrev Text := List UInt16

def codeUnits (s : String) : Text :=
  s.toList.flatMap fun c =>
    if c.toNat < 0x10000 then [c.toNat.toUInt16]
    else [(0xD800 + (c.toNat - 0x10000) / 0x400).toUInt16, (0xDC00 + (c.toNat - 0x10000) % 0x400).toUInt16]

namespace TextSearch
variable {α : Type} [DecidableEq α] {c d sep : α} {p q r x y a b u v : List α} {n : Nat}

/-- What stands before the first `p`, and what stands after it. -/
def cut (p : List α) : List α → Option (List α × List α)
  | [] => if p = [] then some ([], []) else none
  | c :: x => if p <+: c :: x then some ([], (c :: x).drop p.length) else (cut p x).map fun y => (c :: y.1, y.2)

def contains (p x : List α) : Bool := (cut p x).isSome

/-- `-1` when the pattern is nowhere. -/
def indexOf (p x : List α) : Int := (cut p x).elim (-1) fun y => y.1.length

/-- The part between two places: none when there is no such part. -/
def substring (x : List α) (start stop : Int) : Option (List α) :=
  if 0 ≤ start ∧ start ≤ stop ∧ stop ≤ x.length then some ((x.drop start.toNat).take (stop - start).toNat) else none

/-- A pass that still skips `n` units of the last place. -/
def replaceFrom (p q : List α) : Nat → List α → List α
  | _, [] => []
  | n + 1, _ :: x => replaceFrom p q n x
  | 0, c :: x => if p <+: c :: x then q ++ replaceFrom p q (p.length - 1) x else c :: replaceFrom p q 0 x

/-- Each place of a pattern that is not empty, from the left, is replaced. -/
def replaceAll (x p q : List α) : List α := replaceFrom p q 0 x

/-- A separator that another one follows is dropped. -/
def squash (sep : α) : List α → List α
  | [] => []
  | c :: x => if c = sep ∧ x.head? = some sep then squash sep x else c :: squash sep x

/-- A separator that another one follows, or nothing, is dropped. -/
def collapse (sep : α) : List α → List α
  | [] => []
  | c :: x => if c = sep ∧ (x = [] ∨ x.head? = some sep) then collapse sep x else c :: collapse sep x

/-! ### The first place -/

theorem cut_at_head (h : p <+: x) : cut p x = some ([], x.drop p.length) := by
  cases x with
  | nil => rw [cut, if_pos (List.prefix_nil.mp h), List.drop_nil]
  | cons c x => exact if_pos h

theorem cut_cons (h : ¬ p <+: c :: x) : cut p (c :: x) = (cut p x).map fun y => (c :: y.1, y.2) := if_neg h

theorem append_of_cut (h : cut p x = some (a, b)) : a ++ (p ++ b) = x := by
  induction x generalizing a with
  | nil =>
    obtain ⟨rfl, h⟩ := Option.ite_none_right_eq_some.mp h
    cases h
    rfl
  | cons c x ih =>
    by_cases hp : p <+: c :: x
    · rw [cut_at_head hp] at h
      cases h
      exact List.prefix_iff_eq_append.mp hp
    · rw [cut_cons hp] at h
      obtain ⟨⟨a', b'⟩, hcut, h⟩ := Option.map_eq_some_iff.mp h
      cases h
      rw [List.cons_append, ih hcut]

theorem contains_of_cut (h : cut p x = some (a, b)) : contains p x = true := by rw [contains, h, Option.isSome_some]

theorem indexOf_of_cut (h : cut p x = some (a, b)) : indexOf p x = a.length := by rw [indexOf, h, Option.elim_some]

theorem indexOf_of_none (h : cut p x = none) : indexOf p x = -1 := by rw [indexOf, h, Option.elim_none]

/-- A pattern cannot stand across a unit that it has at its head only. -/
theorem cut_append_cons (hc : c ∉ p.tail) (x y : List α) :
    cut p (x ++ c :: y) =
      match cut p x with
      | some (a, b) => some (a, b ++ c :: y)
      | none => (cut p (c :: y)).map fun z => (x ++ z.1, z.2) := by
  induction x with
  | nil =>
    by_cases hp : p = []
    · rw [hp]
      rfl
    · rw [cut, if_neg hp]
      simp
  | cons d x ih =>
    have hstarts : p <+: d :: x ++ c :: y ↔ p <+: d :: x := by
      refine ⟨fun h => ?_, fun h => h.trans (List.prefix_append _ _)⟩
      rcases List.prefix_or_prefix_of_prefix h (List.prefix_append (d :: x) (c :: y)) with hle | hle
      · exact hle
      · obtain ⟨rest, rfl⟩ := hle
        cases rest with
        | nil => simp
        | cons e rest =>
          obtain ⟨rfl, -⟩ := List.cons_prefix_cons.mp ((List.prefix_append_right_inj (d :: x)).mp h)
          exact absurd (by simp) hc
    by_cases hp : p <+: d :: x
    · have hdrop : (d :: x ++ c :: y).drop p.length = (d :: x).drop p.length ++ c :: y :=
        List.drop_append_of_le_length hp.length_le
      rw [cut_at_head hp, cut_at_head (hstarts.mpr hp), hdrop]
    · have hcons : cut p (d :: x ++ c :: y) = (cut p (x ++ c :: y)).map fun z => (d :: z.1, z.2) :=
        cut_cons fun h => hp (hstarts.mp h)
      rw [cut_cons hp, hcons, ih]
      cases cut p x with
      | none => exact Option.map_map _ _ _
      | some z => rfl

omit [DecidableEq α] in
theorem substring_append (x y z : List α) : substring (x ++ (y ++ z)) x.length (x.length + y.length) = some y := by
  have hin : (0 : Int) ≤ x.length ∧ (x.length : Int) ≤ x.length + y.length ∧
      (x.length : Int) + y.length ≤ (x ++ (y ++ z)).length := by
    simp only [List.length_append]
    omega
  have hlength : ((x.length : Int) + y.length - x.length).toNat = y.length := by omega
  rw [substring, if_pos hin, hlength, Int.toNat_natCast, List.drop_left, List.take_left]

omit [DecidableEq α] in
theorem substring_of_lt {start stop : Int} (h : stop < start) (x : List α) : substring x start stop = none :=
  if_neg fun hin => absurd hin.2.1 (by omega)

theorem cut_eq_none (h : ¬ p <:+: x) : cut p x = none := by
  cases hcut : cut p x with
  | none => rfl
  | some parts =>
    refine absurd ⟨parts.1, parts.2, ?_⟩ h
    rw [List.append_assoc]
    exact append_of_cut hcut

/-! ### What a replacement may create -/

/-- No place of `r` is broken off by a unit `c`. -/
def Unbroken (c : α) (r x : List α) : Prop := ∀ k, 1 ≤ k → k < r.length → ¬ r.take k ++ [c] <:+: x

omit [DecidableEq α] in
theorem Unbroken.tail (h : Unbroken c r (d :: x)) : Unbroken c r x := fun k hk hlt hinfix =>
  h k hk hlt (List.infix_cons hinfix)

/-- Where a part `u` of `r` has been kept, the rest of it has been. -/
theorem prefix_of_replaceFrom (h : Unbroken c r x) (hc : p.head? = some c) (hu : u ≠ []) (hr : u ++ v = r) (hx : u ++ y <:+: x)
    (hv : v <+: replaceFrom p q 0 y) : v <+: y := by
  induction v generalizing u y with
  | nil => exact List.nil_prefix
  | cons e v ih =>
    cases y with
    | nil => exact hv
    | cons f y =>
      by_cases hp : p <+: f :: y
      · obtain ⟨p, rfl⟩ := List.head?_eq_some_iff.mp hc
        obtain ⟨rfl, -⟩ := List.cons_prefix_cons.mp hp
        refine absurd ?_ (h u.length (List.length_pos_iff.mpr hu) ?_)
        · rw [← hr, List.take_left]
          exact ((List.prefix_append_right_inj u).mpr (List.prefix_append [c] y)).isInfix.trans hx
        · rw [← hr, List.length_append]
          simp
      · rw [replaceFrom, if_neg hp] at hv
        obtain ⟨rfl, hrest⟩ := List.cons_prefix_cons.mp hv
        refine List.cons_prefix_cons.mpr ⟨rfl, ih (u := u ++ [e]) ?_ ?_ ?_ hrest⟩
        · simp
        · simpa using hr
        · simpa using hx

/-- What is found from a unit that is kept on is found there before. -/
theorem prefix_of_kept (h : Unbroken c r (d :: x)) (hc : p.head? = some c) (hr : r <+: d :: replaceFrom p q 0 x) :
    r <+: d :: x := by
  cases r with
  | nil => exact List.nil_prefix
  | cons e r =>
    obtain ⟨rfl, hrest⟩ := List.cons_prefix_cons.mp hr
    exact List.cons_prefix_cons.mpr ⟨rfl, prefix_of_replaceFrom (u := [e]) h hc (by simp) rfl (List.infix_refl _) hrest⟩

omit [DecidableEq α] in
theorem infix_of_append (hq : ∀ d ∈ q, d ∉ r) (h : r <:+: q ++ x) : r <:+: x := by
  induction q with
  | nil => exact h
  | cons d q ih =>
    obtain ⟨hd, hq⟩ := List.forall_mem_cons.mp hq
    rw [List.cons_append, List.infix_cons_iff] at h
    rcases h with h | h
    · cases r with
      | nil => exact List.nil_infix
      | cons e r => exact absurd (List.cons_prefix_cons.mp h).1 (List.ne_of_not_mem_cons hd).symm
    · exact ih hq h

/-- A replacement that has no unit of a pattern does not create it where it is not broken off. -/
theorem infix_of_replaceFrom (hc : p.head? = some c) (hq : ∀ d ∈ q, d ∉ r) (h : Unbroken c r x)
    (hr : r <:+: replaceFrom p q n x) : r <:+: x := by
  induction x generalizing n with
  | nil => cases n <;> exact hr
  | cons d x ih =>
    cases n with
    | succ n => exact List.infix_cons (ih h.tail hr)
    | zero =>
      by_cases hp : p <+: d :: x
      · rw [replaceFrom, if_pos hp] at hr
        exact List.infix_cons (ih h.tail (infix_of_append hq hr))
      · rw [replaceFrom, if_neg hp, List.infix_cons_iff] at hr
        rcases hr with hr | hr
        · exact (prefix_of_kept h hc hr).isInfix
        · exact List.infix_cons (ih h.tail hr)

/-- Nor does it leave the pattern that it replaces. -/
theorem not_infix_replaceFrom (hc : p.head? = some c) (hq : ∀ d ∈ q, d ∉ p) (h : Unbroken c p x) :
    ¬ p <:+: replaceFrom p q n x := by
  have hnil : ¬ p <:+: [] := by
    obtain ⟨p, rfl⟩ := List.head?_eq_some_iff.mp hc
    simp
  induction x generalizing n with
  | nil => cases n <;> exact hnil
  | cons d x ih =>
    cases n with
    | succ n => exact ih h.tail
    | zero =>
      by_cases hp : p <+: d :: x
      · rw [replaceFrom, if_pos hp]
        exact fun hinfix => ih h.tail (infix_of_append hq hinfix)
      · rw [replaceFrom, if_neg hp, List.infix_cons_iff]
        rintro (hstarts | hinfix)
        · exact hp (prefix_of_kept h hc hstarts)
        · exact ih h.tail hinfix

/-! ### The separators -/

theorem head?_squash (sep : α) (x : List α) : (squash sep x).head? = x.head? := by
  induction x with
  | nil => rfl
  | cons c x ih =>
    rw [squash]
    split
    · next h => rw [ih, h.1, h.2, List.head?_cons]
    · rfl

theorem getLast?_squash (sep : α) (x : List α) : (squash sep x).getLast? = x.getLast? := by
  induction x with
  | nil => rfl
  | cons c x ih =>
    rw [squash]
    split
    · next h =>
      obtain ⟨rest, rfl⟩ := List.head?_eq_some_iff.mp h.2
      rw [ih, List.getLast?_cons_cons]
    · rw [List.getLast?_cons, List.getLast?_cons, ih]

theorem squash_spaced (sep : α) (x : List α) : ¬ [sep, sep] <:+: squash sep x := by
  induction x with
  | nil => simp [squash]
  | cons c x ih =>
    rw [squash]
    split
    · exact ih
    · next h =>
      rw [List.infix_cons_iff]
      rintro (hstarts | hinfix)
      · obtain ⟨rfl, hnext⟩ := List.cons_prefix_cons.mp hstarts
        obtain ⟨rest, hrest⟩ := hnext
        refine h ⟨rfl, ?_⟩
        rw [← head?_squash sep x, ← hrest]
        rfl
      · exact ih hinfix

theorem squash_append (hy : y.head? ≠ some sep) (x : List α) : squash sep (x ++ y) = squash sep x ++ squash sep y := by
  induction x with
  | nil => rfl
  | cons c x ih =>
    have hhead : (x ++ y).head? = some sep ↔ x.head? = some sep := by
      cases x with
      | nil => simpa using hy
      | cons d x => rfl
    by_cases hc : c = sep ∧ x.head? = some sep
    · rw [List.cons_append, squash, squash, if_pos hc, if_pos ⟨hc.1, hhead.mpr hc.2⟩, ih]
    · rw [List.cons_append, squash, squash, if_neg hc, if_neg fun h => hc ⟨h.1, hhead.mp h.2⟩, ih, List.cons_append]

theorem squash_pattern (hp : sep ∉ p) (x : List α) : squash sep (p ++ x) = p ++ squash sep x := by
  induction p with
  | nil => rfl
  | cons c p ih =>
    rw [List.mem_cons, not_or] at hp
    rw [List.cons_append, squash, if_neg fun hc => hp.1 hc.1.symm, ih hp.2, List.cons_append]

theorem squash_append_pattern (hp : sep ∉ p) (hne : p ≠ []) (x y : List α) :
    squash sep (x ++ (p ++ y)) = squash sep x ++ (p ++ squash sep y) := by
  have hhead : (p ++ y).head? ≠ some sep := by
    obtain ⟨c, p, rfl⟩ := List.exists_cons_of_ne_nil hne
    rw [List.mem_cons, not_or] at hp
    exact fun hc => hp.1 (Option.some.inj hc).symm
  rw [squash_append hhead, squash_pattern hp]

/-- The last separator is all that the two passes differ in. -/
theorem squash_eq (sep : α) (x : List α) :
    squash sep x = collapse sep x ++ if x.getLast? = some sep then [sep] else [] := by
  induction x with
  | nil => rfl
  | cons c x ih =>
    cases x with
    | nil =>
      by_cases hc : c = sep
      · simp [squash, collapse, hc]
      · simp [squash, collapse, hc]
    | cons d x =>
      rw [squash, collapse, List.getLast?_cons_cons, ih]
      by_cases hc : c = sep ∧ d = sep
      · simp [hc]
      · simp [hc]

theorem collapse_spaced (sep : α) (x : List α) : ¬ [sep, sep] <:+: collapse sep x := by
  intro h
  refine squash_spaced sep x (h.trans ?_)
  rw [squash_eq]
  exact (List.prefix_append _ _).isInfix

theorem getLast?_collapse (sep : α) (x : List α) : (collapse sep x).getLast? ≠ some sep := by
  intro h
  have heq := squash_eq sep x
  by_cases hx : x.getLast? = some sep
  · obtain ⟨rest, hrest⟩ := List.getLast?_eq_some_iff.mp h
    refine squash_spaced sep x ⟨rest, [], ?_⟩
    rw [heq, hrest, if_pos hx]
    simp
  · rw [if_neg hx, List.append_nil] at heq
    rw [← heq, getLast?_squash] at h
    exact hx h

theorem collapse_pattern (hp : sep ∉ p) (x : List α) : collapse sep (p ++ x) = p ++ collapse sep x := by
  induction p with
  | nil => rfl
  | cons c p ih =>
    rw [List.mem_cons, not_or] at hp
    rw [List.cons_append, collapse, if_neg fun hc => hp.1 hc.1.symm, ih hp.2, List.cons_append]

theorem head?_collapse (sep : α) (x : List α) (h : x.head? = some sep) :
    collapse sep x = [] ∨ (collapse sep x).head? = some sep := by
  induction x with
  | nil => cases h
  | cons c x ih =>
    cases h
    rw [collapse]
    split
    · next hx =>
      rcases hx.2 with rfl | hhead
      · exact Or.inl rfl
      · exact ih hhead
    · exact Or.inr rfl

theorem prefix_collapse (hp : sep ∉ p) : p <+: collapse sep x ↔ p <+: x := by
  induction p generalizing x with
  | nil => simp
  | cons c p ih =>
    rw [List.mem_cons, not_or] at hp
    cases x with
    | nil => rfl
    | cons d x =>
      by_cases hd : d = sep
      · refine iff_of_false (fun h => ?_) fun h => ?_
        · rcases head?_collapse sep (d :: x) (by rw [hd]; rfl) with hnil | hhead
          · rw [hnil] at h
            exact absurd (List.prefix_nil.mp h) (List.cons_ne_nil c p)
          · obtain ⟨rest, hrest⟩ := h
            rw [← hrest] at hhead
            cases hhead
            exact hp.1 rfl
        · exact hp.1 (hd.symm.trans (List.cons_prefix_cons.mp h).1.symm)
      · rw [collapse, if_neg fun h => hd h.1, List.cons_prefix_cons, List.cons_prefix_cons, ih hp.2]

theorem head?_of_cut (hp : sep ∉ p) (hne : p ≠ []) (h : cut p x = some (a, b)) :
    a.head? = some sep ↔ x.head? = some sep := by
  rw [← append_of_cut h]
  cases a with
  | cons d a => rfl
  | nil =>
    obtain ⟨d, p, rfl⟩ := List.exists_cons_of_ne_nil hne
    rw [List.mem_cons, not_or] at hp
    refine iff_of_false (by simp) fun hd => ?_
    cases hd
    exact hp.1 rfl

/-- A pattern without separators is found where it was. -/
theorem cut_collapse (hp : sep ∉ p) (x : List α) :
    cut p (collapse sep x) = (cut p x).map fun y => (squash sep y.1, collapse sep y.2) := by
  induction x with
  | nil =>
    rw [collapse, cut]
    split
    · rfl
    · rfl
  | cons c x ih =>
    by_cases hstarts : p <+: c :: x
    · rw [cut_at_head hstarts, cut_at_head ((prefix_collapse hp).mpr hstarts)]
      obtain ⟨rest, hrest⟩ := hstarts
      rw [← hrest, collapse_pattern hp, List.drop_left, List.drop_left]
      rfl
    have hne : p ≠ [] := fun hnil => hstarts (hnil ▸ List.nil_prefix)
    rw [cut_cons hstarts, Option.map_map]
    by_cases hc : c = sep ∧ (x = [] ∨ x.head? = some sep)
    · rw [collapse, if_pos hc, ih]
      refine Option.map_congr fun y hy => ?_
      have hhead : x.head? = some sep := by
        rcases hc.2 with rfl | hhead
        · rw [cut, if_neg hne] at hy
          cases hy
        · exact hhead
      rw [Function.comp_apply, squash, if_pos ⟨hc.1, (head?_of_cut hp hne hy).mpr hhead⟩]
    · have hkept : collapse sep (c :: x) = c :: collapse sep x := if_neg hc
      rw [hkept, cut_cons, ih, Option.map_map]
      · refine Option.map_congr fun y hy => ?_
        have hsquash : squash sep (c :: y.1) = c :: squash sep y.1 :=
          if_neg fun h => hc ⟨h.1, Or.inr ((head?_of_cut hp hne hy).mp h.2)⟩
        rw [Function.comp_apply, Function.comp_apply, hsquash]
      · rwa [← hkept, prefix_collapse hp]

end TextSearch
