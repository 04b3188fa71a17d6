import NextApp.Model.ContactForm
import NextApp.Model.ExpenseClaim

/-! # The codecs of the child rows

`fromJson` fills fields of a fixed type from a row of the server, and `toJson` writes them back. Each of the five codecs does so
key by key: what becomes of a row is what becomes of the value of each key. -/

namespace NextApp
open AccountModel (text? double?)
open DateText

/-! ### What a value says -/

inductive Content where
  | text (s : String)
  | number (n : Number)
  | date (t : DateTime)

inductive FieldKind where
  | text
  | number
  | date

/-- A null is an empty text, or zero; a number or a date is compared by what it is. -/
def FieldKind.read : FieldKind → Value → Option Content
  | text, .null => some (.text "")
  | text, .str s => some (.text s)
  | number, .null => some (.number (.finite 0))
  | number, .int i => some (.number (.finite i))
  | number, .double x => some (.number (.ofDouble x))
  | date, .str s => (parse s).map .date
  | _, _ => none

inductive Declared where
  /-- `json[k] ?? other` as a `String` -/
  | text (other : String)
  /-- `json[k] ?? 0.0` as a `String` -/
  | balance
  /-- `json[k] ?? 0.0` as a `double` -/
  | double
  /-- `json[k] ?? 0` as an `int` -/
  | int
  /-- `DateTime.parse(json[k] ?? 'none').toString()` -/
  | date

namespace Declared

def kind : Declared → FieldKind
  | text _ => .text
  | balance | double | int => .number
  | date => .date

/-- What is written of a value that is read into the field. -/
def through : Declared → Value → Option Value
  | text other, v => (v.textOr? other).map .str
  | balance, v => v.asString?.map .str
  | double, v => (v.doubleOr? 0).map .double
  | int, .null => some (.int 0)
  | int, .int i => some (.int i)
  | int, _ => none
  | date, v => ((v.textOr? "none").bind ExpenseModel.dateText).map .str

/-- A null has no text of its own; the balance is a number, which is no text; and a number has the type of the field. -/
def Fits : Declared → Value → Prop
  | text other, v => v = .null → other = ""
  | balance, _ => False
  | double, v => ∀ i, v ≠ .int i
  | int, v => ∀ x, v ≠ .double x
  | date, _ => True

variable {f : Declared} {v : Value}

theorem ofDouble_zero : Number.ofDouble 0 = .finite 0 := rfl

theorem through_iff (hv : (f.kind.read v).isSome) :
    (∃ w, f.through v = some w ∧ f.kind.read w = f.kind.read v) ↔ f.Fits v := by
  cases f with
  | text other =>
    cases v with
    | null => simp [kind, FieldKind.read, through, Value.textOr?, Fits]
    | str s => simp [kind, FieldKind.read, through, Value.textOr?, Fits, Value.asString?]
    | _ => cases hv
  | balance => cases v <;> simp_all [kind, FieldKind.read, through, Fits, Value.asString?]
  | double => cases v <;> simp_all [kind, FieldKind.read, through, Value.doubleOr?, Fits, ofDouble_zero]
  | int => cases v <;> simp_all [kind, FieldKind.read, through, Fits]
  | date =>
    cases v with
    | str s =>
      obtain ⟨t, ht⟩ := Option.isSome_iff_exists.mp (Option.isSome_map.symm.trans hv)
      have hback : parse t.toString = some t := DateTime.parse_toString (DateTime.inRange_of_parse ht)
      simp [kind, FieldKind.read, through, Value.textOr?, Value.asString?, ExpenseModel.dateText, ht, hback, Fits]
    | _ => cases hv

end Declared

/-! ### The five codecs -/

structure Codec where
  Model : Type
  fromJson : Doc → Option Model
  toJson : Model → Doc
  /-- the keys that `toJson` writes -/
  fields : List (String × Declared)
  /-- the texts that `fromJson` reads besides -/
  others : List String
  /-- a model without the others -/
  known : Model → Model
  keys_nodup : (fields.map Prod.fst).Nodup
  /-- key by key -/
  through : ∀ row, (∀ k ∈ others, (FieldKind.text.read (Doc.at row k)).isSome) →
    (fromJson row).map toJson = Dict.collect Prod.fst (fun f => f.2.through (Doc.at row f.1)) fields

section
variable {row : Doc} {k : String}

theorem isSome_id? (h : (FieldKind.text.read (Doc.at row "id")).isSome) : ∃ id, id? row = some id := by
  unfold id?
  cases hid : Doc.at row "id" with
  | null => exact ⟨none, rfl⟩
  | str id => exact ⟨some id, rfl⟩
  | _ =>
    rw [hid] at h
    cases h

theorem isSome_textOr? {v : Value} (other : String) (h : (FieldKind.text.read v).isSome) : ∃ s, v.textOr? other = some s := by
  cases v with
  | null => exact ⟨other, rfl⟩
  | str s => exact ⟨s, rfl⟩
  | _ => cases h

theorem through_text (row : Doc) (k : String) : (Declared.text "").through (Doc.at row k) = (text? row k).map .str := by
  unfold text?
  cases Doc.at row k <;> rfl

theorem through_balance (v : Value) : Declared.balance.through v = v.asString?.map .str := rfl

theorem through_double (row : Doc) (k : String) : Declared.double.through (Doc.at row k) = (double? row k).map .double := by
  unfold double?
  cases Doc.at row k <;> rfl

theorem through_int (row : Doc) (k : String) : Declared.int.through (Doc.at row k) = (int? row k).map .int := by
  unfold int?
  cases Doc.at row k <;> rfl

end

def accountCodec : Codec where
  Model := AccountModel
  fromJson := AccountModel.fromJson
  toJson := AccountModel.toJson
  fields := [("account", .text ""), ("account_type", .text ""), ("balance", .balance), ("bank_account", .text ""),
    ("party_type", .text ""), ("party", .text ""), ("debit_in_account_currency", .double),
    ("credit_in_account_currency", .double)]
  others := ["id"]
  known m := { m with id := none }
  keys_nodup := by decide
  through row h := by
    obtain ⟨id, hid⟩ := isSome_id? (h "id" List.mem_cons_self)
    change ((id? row).bind _).map _ = _
    rw [hid]
    simp only [Dict.collect, through_text, through_double, through_balance, Option.bind_some]
    rcases text? row "account" with _ | _
    · rfl
    rcases text? row "account_type" with _ | _
    · rfl
    rcases (Doc.at row "balance").asString? with _ | _
    · rfl
    rcases text? row "bank_account" with _ | _
    · rfl
    rcases text? row "party_type" with _ | _
    · rfl
    rcases text? row "party" with _ | _
    · rfl
    rcases double? row "debit_in_account_currency" with _ | _
    · rfl
    rcases double? row "credit_in_account_currency" with _ | _ <;> rfl

def phoneCodec : Codec where
  Model := PhoneModel
  fromJson := PhoneModel.fromJson
  toJson := PhoneModel.toJson
  fields := [("phone", .text ""), ("is_primary_phone", .int), ("is_primary_mobile_no", .int)]
  others := ["id"]
  known m := { m with id := none }
  keys_nodup := by decide
  through row h := by
    obtain ⟨id, hid⟩ := isSome_id? (h "id" List.mem_cons_self)
    rw [PhoneModel.fromJson, hid]
    simp only [Dict.collect, through_text, through_int, Option.bind_some]
    rcases text? row "phone" with _ | _
    · rfl
    rcases int? row "is_primary_phone" with _ | _
    · rfl
    rcases int? row "is_primary_mobile_no" with _ | _ <;> rfl

def emailCodec : Codec where
  Model := EmailModel
  fromJson := EmailModel.fromJson
  toJson := EmailModel.toJson
  fields := [("email_id", .text ""), ("is_primary", .int)]
  others := ["id"]
  known m := { m with id := none }
  keys_nodup := by decide
  through row h := by
    obtain ⟨id, hid⟩ := isSome_id? (h "id" List.mem_cons_self)
    rw [EmailModel.fromJson, hid]
    simp only [Dict.collect, through_text, through_int, Option.bind_some]
    rcases text? row "email_id" with _ | _
    · rfl
    rcases int? row "is_primary" with _ | _ <;> rfl

def uomCodec : Codec where
  Model := UOMModel
  fromJson := UOMModel.fromJson
  toJson := UOMModel.toJson
  fields := [("uom", .text ""), ("conversion_factor", .double)]
  others := ["id"]
  known m := { m with id := none }
  keys_nodup := by decide
  through row h := by
    obtain ⟨id, hid⟩ := isSome_id? (h "id" List.mem_cons_self)
    rw [UOMModel.fromJson, hid]
    simp only [Dict.collect, through_text, through_double, Option.bind_some]
    rcases text? row "uom" with _ | _
    · rfl
    rcases double? row "conversion_factor" with _ | _ <;> rfl

def expenseCodec : Codec where
  Model := ExpenseModel
  fromJson := ExpenseModel.fromJson ExpenseModel.dateText
  toJson := ExpenseModel.toJson
  fields := [("expense_date", .date), ("expense_type", .text "none"), ("amount", .double), ("sanctioned_amount", .double),
    ("description", .text "none"), ("cost_center", .text "none")]
  others := ["id", "name"]
  known m := { m with expenseName := "" }
  keys_nodup := by decide
  through row h := by
    obtain ⟨id, hid⟩ := isSome_textOr? "" (h "id" List.mem_cons_self)
    obtain ⟨name, hname⟩ := isSome_textOr? "" (h "name" (by simp))
    rw [ExpenseModel.fromJson, hid, hname]
    simp only [Dict.collect, Declared.through, Option.bind_some]
    rcases ((Doc.at row "expense_date").textOr? "none").bind ExpenseModel.dateText with _ | _
    · rfl
    rcases (Doc.at row "expense_type").textOr? "none" with _ | _
    · rfl
    rcases (Doc.at row "amount").doubleOr? 0 with _ | _
    · rfl
    rcases (Doc.at row "sanctioned_amount").doubleOr? 0 with _ | _
    · rfl
    rcases (Doc.at row "description").textOr? "none" with _ | _
    · rfl
    rcases (Doc.at row "cost_center").textOr? "none" with _ | _ <;> rfl

namespace Codec

/-- A row of the server: each key has a value of the kind of its field. -/
def Row (c : Codec) : Type :=
  { row : Doc // (∀ k ∈ c.others, (FieldKind.text.read (Doc.at row k)).isSome) ∧
    ∀ f ∈ c.fields, (f.2.kind.read (Doc.at row f.1)).isSome }

/-- The row is read, and each key that is written says what it said. -/
def Keeps (c : Codec) (row : Doc) : Prop :=
  ∃ m, c.fromJson row = some m ∧
    (c.toJson m).map Prod.fst = c.fields.map Prod.fst ∧
    ∀ f ∈ c.fields, f.2.kind.read (Doc.at (c.toJson m) f.1) = f.2.kind.read (Doc.at row f.1)

/-- The model is read back from what it writes, but for its id, or its name. -/
def Returns (c : Codec) (m : c.Model) : Prop := (c.fromJson (c.toJson m)).map c.known = some (c.known m)

/-- Each value fits its field. -/
def Fits (c : Codec) (row : Doc) : Prop := ∀ f ∈ c.fields, f.2.Fits (Doc.at row f.1)

theorem at_of_collect {c : Codec} {row d : Doc} {f : String × Declared}
    (h : Dict.collect Prod.fst (fun f => f.2.through (Doc.at row f.1)) c.fields = some d) (hf : f ∈ c.fields) :
    f.2.through (Doc.at row f.1) = some (Doc.at d f.1) := by
  have hget := Dict.get?_of_collect h c.keys_nodup hf
  obtain ⟨w, hw⟩ := Option.isSome_iff_exists.mp (Dict.isSome_collect.mp (Option.isSome_of_eq_some h) f hf)
  have hat : Doc.at d f.1 = w := by rw [Doc.at, hget, hw, Option.getD_some]
  rw [hat, hw]

theorem keeps_iff (c : Codec) (row : c.Row) : c.Keeps row.1 ↔ c.Fits row.1 := by
  obtain ⟨row, hothers, hfields⟩ := row
  have hthrough := c.through row hothers
  refine ⟨fun ⟨m, hm, _, hsame⟩ f hf => ?_, fun hfits => ?_⟩
  · rw [hm, Option.map_some] at hthrough
    exact (Declared.through_iff (hfields f hf)).mp ⟨_, at_of_collect hthrough.symm hf, hsame f hf⟩
  · have hkept {f : String × Declared} (hf : f ∈ c.fields) := (Declared.through_iff (hfields f hf)).mpr (hfits f hf)
    have hsome : (Dict.collect Prod.fst (fun f => f.2.through (Doc.at row f.1)) c.fields).isSome := by
      refine Dict.isSome_collect.mpr fun f hf => ?_
      obtain ⟨w, hw, -⟩ := hkept hf
      exact Option.isSome_of_eq_some hw
    obtain ⟨d, hd⟩ := Option.isSome_iff_exists.mp hsome
    rw [hd] at hthrough
    obtain ⟨m, hm, rfl⟩ := Option.map_eq_some_iff.mp hthrough
    refine ⟨m, hm, Dict.keys_collect hd, fun f hf => ?_⟩
    obtain ⟨w, hw, hread⟩ := hkept hf
    rw [at_of_collect hd hf, Option.some_inj] at hw
    rw [hw, hread]

end Codec

/-- The five tables of child rows. -/
inductive ChildRow where
  | account
  | expense
  | phone
  | email
  | uom

namespace ChildRow

def codec : ChildRow → Codec
  | account => accountCodec
  | expense => expenseCodec
  | phone => phoneCodec
  | email => emailCodec
  | uom => uomCodec

/-- No account; an expense that has its texts, and no amount that is a whole number; flags that are whole numbers; and a factor
    that is none. -/
def Reads : ChildRow → Doc → Prop
  | account, _ => False
  | expense, row => (∀ k ∈ ["expense_type", "description", "cost_center"], Doc.at row k ≠ .null) ∧
      ∀ k ∈ ["amount", "sanctioned_amount"], ∀ i, Doc.at row k ≠ .int i
  | phone, row => ∀ k ∈ ["is_primary_phone", "is_primary_mobile_no"], ∀ x, Doc.at row k ≠ .double x
  | email, row => ∀ x, Doc.at row "is_primary" ≠ .double x
  | uom, row => ∀ i, Doc.at row "conversion_factor" ≠ .int i

/-- The date of an expense is the text of a time. -/
def Written : (c : ChildRow) → c.codec.Model → Prop
  | expense, m => ∃ t : DateTime, t.InRange ∧ ExpenseModel.expenseDate m = t.toString
  | _, _ => True

theorem fits_iff (c : ChildRow) (row : Doc) : c.codec.Fits row ↔ c.Reads row := by
  cases c with
  | account => exact iff_of_false (fun h => h ("balance", .balance) (by simp [codec, accountCodec])) id
  | phone => simp [codec, Codec.Fits, Reads, Declared.Fits, phoneCodec]
  | email => simp [codec, Codec.Fits, Reads, Declared.Fits, emailCodec]
  | uom => simp [codec, Codec.Fits, Reads, Declared.Fits, uomCodec]
  | expense =>
    simp only [Codec.Fits, codec, expenseCodec, List.mem_cons, List.not_mem_nil, or_false, Declared.Fits, ne_eq,
      forall_eq_or_imp, String.reduceEq, imp_false, forall_eq, true_and, Reads]
    tauto

theorem expense_back (m : ExpenseModel) : ExpenseModel.fromJson ExpenseModel.dateText m.toJson =
    (ExpenseModel.dateText m.expenseDate).map fun expenseDate => { m with expenseName := "", expenseDate } := by
  change (ExpenseModel.dateText m.expenseDate).bind _ = _
  cases ExpenseModel.dateText m.expenseDate <;> rfl

theorem expense_returns_iff (m : ExpenseModel) :
    (ExpenseModel.fromJson ExpenseModel.dateText m.toJson).map expenseCodec.known = some (expenseCodec.known m) ↔
      ExpenseModel.dateText m.expenseDate = some m.expenseDate := by
  rw [expense_back]
  cases ExpenseModel.dateText m.expenseDate with
  | none => exact iff_of_false (fun h => by cases h) (fun h => by cases h)
  | some d => simp [expenseCodec]

/-- A text that comes back as it was is the text of the time it is read as. -/
theorem dateText_self_iff (value : String) :
    ExpenseModel.dateText value = some value ↔ ∃ t : DateTime, t.InRange ∧ value = t.toString := by
  constructor
  · intro h
    obtain ⟨t, ht, htext⟩ := Option.map_eq_some_iff.mp h
    exact ⟨t, DateTime.inRange_of_parse ht, htext.symm⟩
  · rintro ⟨t, ht, rfl⟩
    rw [ExpenseModel.dateText, DateTime.parse_toString ht, Option.map_some]

theorem returns_iff (c : ChildRow) (m : c.codec.Model) : c.codec.Returns m ↔ c.Written m := by
  cases c with
  | account => exact iff_of_true rfl trivial
  | phone => exact iff_of_true rfl trivial
  | email => exact iff_of_true rfl trivial
  | uom => exact iff_of_true rfl trivial
  | expense => exact (expense_returns_iff m).trans (dateText_self_iff m.expenseDate)

end ChildRow

/-- A row of the server is read, and every key that is written says what it said, exactly when each value has the type of
    its field; a model is read back from what it writes exactly when its date is the text of a time. -/
theorem childRow_codec_iff (c : ChildRow) (row : c.codec.Row) (m : c.codec.Model) :
    (c.codec.Keeps row.1 ↔ c.Reads row.1) ∧ (c.codec.Returns m ↔ c.Written m) :=
  ⟨(c.codec.keeps_iff row).trans (c.fits_iff row.1), c.returns_iff m⟩

/-- An account with a balance; an expense without a type; a UOM with a factor of 2; and an expense whose date has been picked. -/
theorem childRow_not_kept :
    (∃ row : ChildRow.account.codec.Row, row.1 = [("account", .str "Cash - E"), ("balance", .double 100)] ∧
      ¬ ChildRow.account.codec.Keeps row.1) ∧
    (∃ row : ChildRow.expense.codec.Row, row.1 = [("expense_date", .str "2024-01-05"), ("amount", .double 5)] ∧
      ¬ ChildRow.expense.codec.Keeps row.1) ∧
    (∃ row : ChildRow.uom.codec.Row, row.1 = [("uom", .str "Box"), ("conversion_factor", .int 2)] ∧
      ¬ ChildRow.uom.codec.Keeps row.1) ∧
    ¬ ChildRow.expense.codec.Returns
      (⟨"", "2024-01-05T00:00:00.000", "Travel", 5, 5, "Taxi", "Main - E"⟩ : ExpenseModel) := by
  refine ⟨⟨⟨_, by decide +kernel⟩, rfl, ?_⟩, ⟨⟨_, by decide +kernel⟩, rfl, ?_⟩, ⟨⟨_, by decide +kernel⟩, rfl, ?_⟩, ?_⟩
  · rintro ⟨m, hm, -⟩
    cases hm
  · intro h
    have hfits := ((ChildRow.expense.codec.keeps_iff ⟨_, by decide +kernel⟩).trans (ChildRow.fits_iff .expense _)).mp h
    exact hfits.1 "expense_type" (by simp) rfl
  · rintro ⟨m, hm, -⟩
    cases hm
  · intro h
    have hdate : ExpenseModel.dateText "2024-01-05T00:00:00.000" = some "2024-01-05T00:00:00.000" :=
      (ChildRow.dateText_self_iff _).mpr ((ChildRow.returns_iff .expense _).mp h)
    exact absurd hdate (by decide +kernel)

end NextApp
