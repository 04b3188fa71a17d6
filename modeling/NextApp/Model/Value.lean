import NextApp.Lib.Dict
import NextApp.Lib.Num
import NextApp.Model.ModuleType

/-! # Dart values

The values a `Map<String, dynamic>` of the app holds: decoded JSON, with the module objects that
`ModuleProvider` keeps beside it in its maps of saved fields. -/

namespace NextApp

inductive Value where
  | null
  | bool (b : Bool)
  | int (i : Int)
  | double (x : Float)
  | str (s : String)
  | list (xs : List Value)
  | map (entries : List (String × Value))
  | module (m : ModuleType)

/-- A `Map<String, dynamic>`. -/
abbrev Doc := Dict String Value

namespace Value

mutual

def decEq : (v w : Value) → Decidable (v = w)
  | .null, .null => isTrue rfl
  | .bool b, .bool c => decidable_of_iff (b = c) (by simp)
  | .int i, .int j => decidable_of_iff (i = j) (by simp)
  | .double p, .double q => decidable_of_iff (p = q) (by simp)
  | .str s, .str t => decidable_of_iff (s = t) (by simp)
  | .list xs, .list ys => @decidable_of_iff _ (xs = ys) (by simp) (decEqList xs ys)
  | .map d, .map e => @decidable_of_iff _ (d = e) (by simp) (decEqEntries d e)
  | .module m, .module n => decidable_of_iff (m = n) (by simp)
  | .null, .bool _ | .null, .int _ | .null, .double _ | .null, .str _ | .null, .list _ | .null, .map _
  | .null, .module _ | .bool _, .null | .bool _, .int _ | .bool _, .double _ | .bool _, .str _
  | .bool _, .list _ | .bool _, .map _ | .bool _, .module _ | .int _, .null | .int _, .bool _
  | .int _, .double _ | .int _, .str _ | .int _, .list _ | .int _, .map _ | .int _, .module _
  | .double _, .null | .double _, .bool _ | .double _, .int _ | .double _, .str _ | .double _, .list _
  | .double _, .map _ | .double _, .module _ | .str _, .null | .str _, .bool _ | .str _, .int _
  | .str _, .double _ | .str _, .list _ | .str _, .map _ | .str _, .module _ | .list _, .null
  | .list _, .bool _ | .list _, .int _ | .list _, .double _ | .list _, .str _ | .list _, .map _
  | .list _, .module _ | .map _, .null | .map _, .bool _ | .map _, .int _ | .map _, .double _
  | .map _, .str _ | .map _, .list _ | .map _, .module _ | .module _, .null | .module _, .bool _
  | .module _, .int _ | .module _, .double _ | .module _, .str _ | .module _, .list _
  | .module _, .map _ => isFalse nofun

def decEqList : (xs ys : List Value) → Decidable (xs = ys)
  | [], [] => isTrue rfl
  | [], _ :: _ | _ :: _, [] => isFalse nofun
  | x :: xs, y :: ys =>
    @decidable_of_iff _ (x = y ∧ xs = ys) (by simp) (@instDecidableAnd _ _ (decEq x y) (decEqList xs ys))

def decEqEntries : (d e : List (String × Value)) → Decidable (d = e)
  | [], [] => isTrue rfl
  | [], _ :: _ | _ :: _, [] => isFalse nofun
  | (k, v) :: d, (l, w) :: e =>
    @decidable_of_iff _ ((k = l ∧ v = w) ∧ d = e) (by simp)
      (@instDecidableAnd _ _ (@instDecidableAnd _ _ (inferInstanceAs (Decidable (k = l))) (decEq v w))
        (decEqEntries d e))

end

instance : DecidableEq Value := decEq

/-! ### Casts of a `dynamic` value: `none` is the thrown type error -/

def asMap? : Value → Option Doc
  | .map d => some d
  | _ => none

def asString? : Value → Option String
  | .str s => some s
  | _ => none

def asBool? : Value → Option Bool
  | .bool b => some b
  | _ => none

def asIntOrNull? : Value → Option (Option Int)
  | .null => some none
  | .int i => some (some i)
  | _ => none

def asModuleOrNull? : Value → Option (Option ModuleType)
  | .null => some none
  | .module m => some (some m)
  | _ => none

/-- `v ?? other` as a `String`. -/
def textOr? (other : String) : Value → Option String
  | .null => some other
  | v => v.asString?

/-- `v ?? other` as a `double`: an integer is none. -/
def doubleOr? (other : Float) : Value → Option Float
  | .null => some other
  | .double x => some x
  | _ => none

/-- `.isNotEmpty` on a `dynamic` value: lists, maps and strings have it. -/
def isNotEmpty? : Value → Option Bool
  | .list xs => some !xs.isEmpty
  | .map d => some !d.isEmpty
  | .str s => some !s.isEmpty
  | _ => none

def ofModule? : Option ModuleType → Value
  | none => .null
  | some m => .module m

@[simp] theorem asMap?_map (d : Doc) : asMap? (.map d) = some d := rfl

@[simp] theorem asString?_str (s : String) : asString? (.str s) = some s := rfl

theorem asString?_ne_none_iff {v : Value} : v.asString? ≠ none ↔ ∃ s, v = .str s := by
  cases v <;> simp [asString?]

@[simp] theorem asBool?_bool (b : Bool) : asBool? (.bool b) = some b := rfl

@[simp] theorem asModuleOrNull?_ofModule? (m : Option ModuleType) : asModuleOrNull? (ofModule? m) = some m := by
  cases m <;> rfl

end Value

/-- `d[k]`: null when the key is absent. -/
def Doc.at (d : Doc) (k : String) : Value := (d.get? k).getD .null

@[simp] theorem Doc.at_nil (k : String) : Doc.at [] k = .null := rfl

@[simp] theorem Doc.at_set_self (d : Doc) (k : String) (v : Value) : Doc.at (d.set k v) k = v := by
  simp [Doc.at]

@[simp] theorem Doc.at_set_ne (d : Doc) {k k' : String} (v : Value) (h : k ≠ k') :
    Doc.at (d.set k v) k' = Doc.at d k' := by
  simp [Doc.at, h]

@[simp] theorem Doc.at_remove_self (d : Doc) (k : String) : Doc.at (d.remove k) k = .null := by
  simp [Doc.at]

@[simp] theorem Doc.at_remove_ne (d : Doc) {k k' : String} (h : k ≠ k') : Doc.at (d.remove k) k' = Doc.at d k' := by
  simp [Doc.at, h]

@[simp] theorem Doc.at_removeAll (d : Doc) (ks : List String) (k : String) :
    Doc.at (d.removeAll ks) k = if k ∈ ks then .null else Doc.at d k := by
  simp only [Doc.at, Dict.get?_removeAll]
  split <;> rfl

example : (Value.map [("qty", .int 1)]) ≠ .map [("qty", .int 2)] := by decide

/-! ### Numbers -/

namespace Value

def ofNum : Num → Value
  | .int i => .int i
  | .double x => .double x

/-- `v as num` -/
def asNum? : Value → Option Num
  | .int i => some (.int i)
  | .double x => some (.double x)
  | _ => none

/-- The value but for the type of a number: `3 == 3.0`. -/
def untyped (v : Value) : Number ⊕ Value := v.asNum?.elim (.inr v) fun n => .inl n.number

/-- The rational number that a `num` is. -/
def rational? (v : Value) : Option ℚ :=
  match v.asNum?.map Num.number with
  | some (.finite q) => some q
  | _ => none

/-- `double.tryParse(v.toString())`: the text of a number parses back to it, and only texts and numbers parse. -/
def tryParse : Value → Option Float
  | .int i => some (Float.ofInt i)
  | .double x => some x
  | .str s => doubleTryParse s
  | _ => none

/-- The number that a value is or has in its text. -/
def number? : Value → Option Number
  | .int i => some (.finite i)
  | .double x => some (.ofDouble x)
  | .str s => (decimal? (trim s)).map fun d => .finite d.toRat
  | _ => none

end Value

end NextApp
