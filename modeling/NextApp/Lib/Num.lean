import Mathlib.Algebra.Field.Rat
import Mathlib.Data.List.DropRight

/-! # Dart numbers

A `num` is an `int` of 64 bits or a `double`, and a double is a `Float`: its sums, products and comparisons are those of
binary64, with their rounding. Which texts the parsers read, and as which numbers. -/

namespace NextApp

/-! ### Doubles as numbers -/

/-- What a number stands for: a zero has no sign here. -/
inductive Number where
  | finite (q : ℚ)
  | infinity (negative : Bool)
  | nan
deriving DecidableEq

open Float.Model.UnpackedFloat in
def Number.ofDouble (x : Float) : Number :=
  match x.toModel.unpack with
  | .notANumber => nan
  | .infinity sign => infinity (sign == .negative)
  | .zero _ => finite 0
  | .finite sign mantissa exponent _ => finite (sign.apply mantissa * 2 ^ exponent)

example : Number.ofDouble (100 * (7 / 100)) ≠ .finite 7 := by decide +kernel

namespace Number

/-- What is no number is not below any, nor above. -/
protected def lt : Number → Number → Prop
  | finite p, finite q => p < q
  | finite _, infinity negative => negative = false
  | infinity negative, finite _ => negative = true
  | infinity negative, infinity negative' => negative = true ∧ negative' = false
  | nan, _ | _, nan => False

instance : LT Number := ⟨Number.lt⟩

theorem lt_irrefl (n : Number) : ¬ n < n := by
  cases n with
  | finite q => exact Rat.lt_irrefl
  | infinity negative =>
    rintro ⟨h, h'⟩
    exact Bool.false_ne_true (h'.symm.trans h)
  | nan => exact id

theorem finite_lt_finite {p q : ℚ} : finite p < finite q ↔ p < q := Iff.rfl

end Number

/-! ### `num` -/

inductive Num where
  | int (i : Int)
  | double (x : Float)
deriving DecidableEq

/-- The 64 bits of an integer, read as a signed number. -/
def toSigned64 (i : Int) : Int := i.bmod (2 ^ 64)

namespace Num

def toDouble : Num → Float
  | int i => Float.ofInt i
  | double x => x

def number : Num → Number
  | int i => .finite i
  | double x => .ofDouble x

protected def neg : Num → Num
  | int i => int (toSigned64 (-i))
  | double x => double (-x)

protected def add : Num → Num → Num
  | int i, int j => int (toSigned64 (i + j))
  | a, b => double (a.toDouble + b.toDouble)

protected def mul : Num → Num → Num
  | int i, int j => int (toSigned64 (i * j))
  | a, b => double (a.toDouble * b.toDouble)

protected def lt : Num → Num → Bool
  | int i, int j => decide (i < j)
  | a, b => decide (a.toDouble < b.toDouble)

instance : IntCast Num := ⟨int⟩
instance : Zero Num := ⟨int 0⟩
instance : One Num := ⟨int 1⟩
instance : Neg Num := ⟨Num.neg⟩
instance : Add Num := ⟨Num.add⟩
instance : Mul Num := ⟨Num.mul⟩
instance : LT Num := ⟨fun a b => a.lt b⟩
instance : DecidableLT Num := fun a b => inferInstanceAs (Decidable (a.lt b = true))

theorem number_intCast (i : Int) : ((i : Num)).number = .finite i := rfl

end Num

example : ((3 : Int) : Num) * .double 0.1 = .double 0.30000000000000004 := by decide +kernel

/-! ### Numbers in text -/

/-- The white space of Dart. -/
def isBlank (c : Char) : Bool :=
  (9 ≤ c.toNat && c.toNat ≤ 13) || (0x2000 ≤ c.toNat && c.toNat ≤ 0x200A) ||
    [0x20, 0x85, 0xA0, 0x1680, 0x2028, 0x2029, 0x202F, 0x205F, 0x3000, 0xFEFF].contains c.toNat

def trim (value : String) : List Char := (value.toList.dropWhile isBlank).rdropWhile isBlank

/-- Reads digits onto `v`: the number, how many digits there were after the first `n`, and the rest. -/
def takeDigits (v n : Nat) : List Char → Nat × Nat × List Char
  | [] => (v, n, [])
  | c :: cs => if c.isDigit then takeDigits (10 * v + (c.toNat - '0'.toNat)) (n + 1) cs else (v, n, c :: cs)

def takeSign : List Char → Bool × List Char
  | '-' :: cs => (true, cs)
  | '+' :: cs => (false, cs)
  | cs => (false, cs)

/-- The exponent part at the end of a number, if there is one: the shifts to the left and to the right. -/
def exponent? : List Char → Option (Nat × Nat)
  | [] => some (0, 0)
  | c :: cs =>
    let (negative, cs) := takeSign cs
    match takeDigits 0 0 cs with
    | (e, _ + 1, []) => if c = 'e' ∨ c = 'E' then some (if negative then (0, e) else (e, 0)) else none
    | _ => none

/-- What is written in the text of a number: its digits, with the decimal point shifted. -/
structure Decimal where
  negative : Bool
  digits : Nat
  left : Nat
  right : Nat
deriving DecidableEq

namespace Decimal

def toRat (d : Decimal) : ℚ := mkRat ((if d.negative then -(d.digits : Int) else d.digits) * 10 ^ d.left) (10 ^ d.right)

/-- The nearest double. -/
def toDouble (d : Decimal) : Float :=
  let exponent : Int := d.left - d.right
  let magnitude := Float.ofScientific d.digits (decide (exponent < 0)) exponent.natAbs
  if d.negative then -magnitude else magnitude

end Decimal

/-- Digits with at most one decimal point, and an exponent. -/
def decimal? (cs : List Char) : Option Decimal :=
  let (negative, cs) := takeSign cs
  let (v, n, cs) := takeDigits 0 0 cs
  let (v, k, cs) := match cs with
    | '.' :: cs => takeDigits v 0 cs
    | cs => (v, 0, cs)
  if n + k = 0 then none else (exponent? cs).map fun (l, r) => ⟨negative, v, l, k + r⟩

/-- `double.tryParse(value)`; `double.parse` throws where it is none. -/
def doubleTryParse (value : String) : Option Float :=
  let (negative, cs) := takeSign (trim value)
  if cs = "Infinity".toList then some (if negative then -(1 / 0) else 1 / 0)
  else if cs = "NaN".toList then some (0 / 0)
  else (decimal? (trim value)).map Decimal.toDouble

example : ["2", " -1.25e1 ", ".5", "0.1\u00A0", "2x", "."].map doubleTryParse =
    [some 2, some (-12.5), some 0.5, some 0.1, none, none] := by
  decide +kernel

def hexDigit? (c : Char) : Option Nat :=
  if c.isDigit then some (c.toNat - '0'.toNat)
  else if 'a' ≤ c ∧ c ≤ 'f' then some (c.toNat - 'a'.toNat + 10)
  else if 'A' ≤ c ∧ c ≤ 'F' then some (c.toNat - 'A'.toNat + 10)
  else none

/-- Reads hexadecimal digits onto `v`. -/
def hexDigits? (v : Nat) : List Char → Option Nat
  | [] => some v
  | c :: cs => (hexDigit? c).bind fun d => hexDigits? (16 * v + d) cs

/-- What is written in the text of an integer. -/
structure IntegerText where
  negative : Bool
  hexadecimal : Bool
  magnitude : Nat
deriving DecidableEq

def integerText? (value : String) : Option IntegerText :=
  let (negative, cs) := takeSign (trim value)
  match cs with
  | '0' :: 'x' :: d :: ds | '0' :: 'X' :: d :: ds => (hexDigits? 0 (d :: ds)).map fun v => ⟨negative, true, v⟩
  | cs =>
    match takeDigits 0 0 cs with
    | (v, _ + 1, []) => some ⟨negative, false, v⟩
    | _ => none

namespace IntegerText

def value (t : IntegerText) : Int := if t.negative then -t.magnitude else t.magnitude

/-- The number is a 64-bit integer. -/
def InRange (t : IntegerText) : Prop := -2 ^ 63 ≤ t.value ∧ t.value < 2 ^ 63

instance (t : IntegerText) : Decidable t.InRange := inferInstanceAs (Decidable (_ ∧ _))

/-- A hexadecimal text without a minus can have 64 bits, and is then read as a signed number. -/
def toInt64? (t : IntegerText) : Option Int :=
  if t.InRange then some t.value
  else if t.hexadecimal && !t.negative && t.magnitude < 2 ^ 64 then some (t.magnitude - 2 ^ 64)
  else none

end IntegerText

/-- `int.tryParse(value)`; `int.parse` throws where it is none. -/
def intOfText (value : String) : Option Int := (integerText? value).bind IntegerText.toInt64?

example : ["12", " -0x1F ", "0xFFFFFFFFFFFFFFFF", "9223372036854775808", "1e3", ""].map intOfText =
    [some 12, some (-31), some (-1), none, none, none] := by
  decide +kernel

/-! ### Numbers written and read -/

variable {v n m : Nat} {ds rest cs : List Char} {c : Char}

theorem not_isBlank_of_isDigit (h : c.isDigit) : ¬ isBlank c := by
  simp only [Char.isDigit, Bool.and_eq_true, decide_eq_true_eq, ge_iff_le, UInt32.le_iff_toNat_le] at h
  have hlow : 48 ≤ c.toNat := h.1
  have hhigh : c.toNat ≤ 57 := h.2
  simp [isBlank]
  omega

theorem trim_ofList (h : ∀ c ∈ cs, ¬ isBlank c) : trim (String.ofList cs) = cs := by
  have hdrop : cs.dropWhile isBlank = cs := by
    cases cs with
    | nil => rfl
    | cons c cs => exact List.dropWhile_cons_of_neg (h c List.mem_cons_self)
  rw [trim, String.toList_ofList, hdrop, List.rdropWhile_eq_self_iff]
  exact fun hne => h _ (List.getLast_mem hne)

theorem takeDigits_append (hds : ∀ c ∈ ds, c.isDigit) (hrest : ∀ c ∈ rest.head?, ¬ c.isDigit) :
    takeDigits v n (ds ++ rest) = (Nat.ofDigitChars 10 ds v, n + ds.length, rest) := by
  induction ds generalizing v n with
  | nil =>
    cases rest with
    | nil => simp [takeDigits]
    | cons c rest => simp [takeDigits, hrest c rfl]
  | cons d ds ih =>
    rw [List.cons_append, takeDigits, if_pos (hds d List.mem_cons_self), ih fun c hc => hds c (List.mem_cons_of_mem _ hc),
      Nat.ofDigitChars_cons, List.length_cons]
    simp only [Prod.mk.injEq, true_and, and_true]
    omega

/-- The text of a number: its sign, the digits of its whole part, and those after the point. -/
def decimal (negative : Bool) (m : Nat) (fraction : List Char) : List Char :=
  (if negative then ['-'] else []) ++ Nat.toDigits 10 m ++ (if fraction = [] then [] else '.' :: fraction)

theorem not_isBlank_decimal {negative : Bool} {fraction : List Char} (h : ∀ c ∈ fraction, c.isDigit) :
    ∀ c ∈ decimal negative m fraction, ¬ isBlank c := by
  intro c hc
  rcases List.mem_append.mp hc with hc | hc
  · rcases List.mem_append.mp hc with hc | hc
    · split at hc
      · rw [List.mem_singleton.mp hc]
        decide
      · cases hc
    · exact not_isBlank_of_isDigit (Nat.isDigit_of_mem_toDigits (by decide) (by decide) hc)
  · split at hc
    · cases hc
    · rcases List.mem_cons.mp hc with rfl | hc
      · decide
      · exact not_isBlank_of_isDigit (h c hc)

theorem takeSign_decimal (negative : Bool) (m : Nat) (fraction : List Char) :
    takeSign (decimal negative m fraction) = (negative, decimal false m fraction) := by
  cases negative with
  | true => rfl
  | false =>
    cases hds : decimal false m fraction with
    | nil => rfl
    | cons c cs =>
      have hdigit : c.isDigit := by
        cases htd : Nat.toDigits 10 m with
        | nil => exact absurd htd Nat.toDigits_ne_nil
        | cons d ds =>
          have hc : c = d := by
            simp only [decimal, htd, Bool.false_eq_true, if_false, List.nil_append, List.cons_append, List.cons.injEq] at hds
            exact hds.1.symm
          rw [hc]
          exact Nat.isDigit_of_mem_toDigits (by decide) (by decide) (htd ▸ List.mem_cons_self)
      unfold takeSign
      split
      · next heq =>
        cases heq
        simp at hdigit
      · next heq =>
        cases heq
        simp at hdigit
      · rfl

theorem decimal?_decimal (negative : Bool) (m : Nat) {fraction : List Char} (h : ∀ c ∈ fraction, c.isDigit) :
    decimal? (decimal negative m fraction) = some ⟨negative, Nat.ofDigitChars 10 fraction m, 0, fraction.length⟩ := by
  have hdigits : ∀ c ∈ Nat.toDigits 10 m, c.isDigit := fun c hc => Nat.isDigit_of_mem_toDigits (by decide) (by decide) hc
  have hlen : 0 < (Nat.toDigits 10 m).length := Nat.length_toDigits_pos
  rw [decimal?, takeSign_decimal]
  cases fraction with
  | nil =>
    have htake : takeDigits 0 0 (decimal false m []) = (m, (Nat.toDigits 10 m).length, []) := by
      have happ : takeDigits 0 0 (Nat.toDigits 10 m ++ []) = _ := takeDigits_append hdigits (fun c hc => by cases hc)
      simpa [decimal] using happ
    simp only [htake]
    rw [if_neg (by omega)]
    simp [exponent?]
  | cons c cs =>
    have htake : takeDigits 0 0 (decimal false m (c :: cs)) = (m, (Nat.toDigits 10 m).length, '.' :: c :: cs) := by
      have happ : takeDigits 0 0 (Nat.toDigits 10 m ++ '.' :: c :: cs) = _ :=
        takeDigits_append hdigits (fun c hc => by cases hc; decide)
      simpa [decimal] using happ
    have htail : takeDigits m 0 (c :: cs) = (Nat.ofDigitChars 10 (c :: cs) m, (c :: cs).length, []) := by
      have happ : takeDigits m 0 (c :: cs ++ []) = _ := takeDigits_append h (fun c hc => by cases hc)
      simpa using happ
    simp only [htake, htail]
    rw [if_neg (by omega)]
    simp [exponent?]

end NextApp
