import NextApp.Model.NumericField

/-! # Numbers that are checked and numbers that are stored

An integer and a double are read from a text as the same number wherever both are read, and a field stores the number of
a text that it accepts exactly where its own parser reads the text too. -/

namespace NextApp

/-- The number that a text denotes: that of its digits, which are hexadecimal after `0x`. -/
def denotes? (value : String) : Option Decimal :=
  match integerText? value with
  | some ⟨negative, true, v⟩ => some ⟨negative, v, 0, 0⟩
  | _ => decimal? (trim value)

/-- A finite number that is equal to the one denoted: an integer is, and a double is the nearest one. -/
def Num.Is (d : Decimal) : Num → Prop
  | .int i => (i : ℚ) = d.toRat
  | .double x => x = d.toDouble ∧ x.isFinite = true

/-- A text that is accepted is stored by every handler as the number it denotes, and one that is rejected by none. -/
def NumericField.Validated {σ : Type} (f : NumericField σ) (s : σ) (value : String) : Prop :=
  ∀ handler ∈ f.handlers,
    (f.validator value = none → ∃ d n t, denotes? value = some d ∧ handler value s = .done t ∧ f.stored t = some n ∧
      n.Is d) ∧
    (f.validator value ≠ none → (handler value s).state = s)

variable {value : String} {negative : Bool} {cs ds : List Char} {c : Char} {v n m w : Nat} {t : IntegerText} {i : Int}
  {d : Decimal} {x : Float} {rest : List Char}

/-! ### Integers -/

theorem takeDigits_hexMark (h : c = 'x' ∨ c = 'X') : takeDigits 0 0 ('0' :: c :: cs) = (0, 1, c :: cs) := by
  rcases h with rfl | rfl <;> rfl

/-- The text of an integer after its sign: hexadecimal digits after their mark, or digits. -/
theorem integerText?_cases (h : integerText? value = some t) :
    ∃ cs, takeSign (trim value) = (t.negative, cs) ∧
      ((t.hexadecimal = true ∧ ∃ c ds, (c = 'x' ∨ c = 'X') ∧ cs = '0' :: c :: ds) ∨
        (t.hexadecimal = false ∧ ∃ n, takeDigits 0 0 cs = (t.magnitude, n + 1, []))) := by
  unfold integerText? at h
  split at h
  next negative cs hsign =>
    refine ⟨cs, ?_⟩
    split at h
    · obtain ⟨v, -, rfl⟩ := Option.map_eq_some_iff.mp h
      exact ⟨hsign, Or.inl ⟨rfl, 'x', _, Or.inl rfl, rfl⟩⟩
    · obtain ⟨v, -, rfl⟩ := Option.map_eq_some_iff.mp h
      exact ⟨hsign, Or.inl ⟨rfl, 'X', _, Or.inr rfl, rfl⟩⟩
    · split at h
      · next htake =>
        cases h
        exact ⟨hsign, Or.inr ⟨rfl, _, htake⟩⟩
      · cases h

/-- The digits of a text without a point, and its exponent. -/
theorem decimal?_of_take (hsign : takeSign cs = (negative, ds)) (htake : takeDigits 0 0 ds = (v, n + 1, rest))
    (hpoint : rest.head? ≠ some '.') :
    decimal? cs = (exponent? rest).map fun e => ⟨negative, v, e.1, e.2⟩ := by
  rw [decimal?, hsign]
  dsimp only
  rw [htake]
  dsimp only
  split
  · exact absurd rfl hpoint
  · rw [if_neg (by omega)]
    simp

theorem decimal?_of_digits (h : integerText? value = some t) (hdigits : t.hexadecimal = false) :
    decimal? (trim value) = some ⟨t.negative, t.magnitude, 0, 0⟩ := by
  obtain ⟨cs, hsign, ⟨hhex, -⟩ | ⟨-, n, htake⟩⟩ := integerText?_cases h
  · rw [hdigits] at hhex
    cases hhex
  · rw [decimal?_of_take hsign htake (by simp)]
    rfl

theorem decimal?_of_hexadecimal (h : integerText? value = some t) (hhex : t.hexadecimal = true) :
    decimal? (trim value) = none := by
  obtain ⟨cs, hsign, ⟨-, c, ds, hc, rfl⟩ | ⟨hdigits, -⟩⟩ := integerText?_cases h
  · have hnone : exponent? (c :: ds) = none := by
      rcases hc with rfl | rfl <;> (unfold exponent?; dsimp only; split <;> rfl)
    rw [decimal?_of_take hsign (takeDigits_hexMark hc) (by rcases hc with rfl | rfl <;> simp), hnone]
    rfl
  · rw [hhex] at hdigits
    cases hdigits

theorem toRat_integer (t : IntegerText) : (⟨t.negative, t.magnitude, 0, 0⟩ : Decimal).toRat = t.value := by
  simp [Decimal.toRat, IntegerText.value, Rat.mkRat_one]

/-- The text is that of a 64-bit integer. -/
def IsInt64 (value : String) : Prop := ∃ t, integerText? value = some t ∧ t.InRange

theorem denotes?_of_integerText (h : integerText? value = some t) :
    denotes? value = some ⟨t.negative, t.magnitude, 0, 0⟩ := by
  unfold denotes?
  rw [h]
  split
  · next heq =>
    cases heq
    rfl
  · next hdigits =>
    refine decimal?_of_digits h (Bool.eq_false_iff.mpr fun hhex => ?_)
    exact hdigits t.negative t.magnitude (by rw [← hhex])

/-- Only a hexadecimal text is read as an integer other than the one it denotes. -/
theorem intOfText_cases (h : intOfText value = some i) :
    ∃ t, integerText? value = some t ∧
      ((t.InRange ∧ i = t.value) ∨ (¬ t.InRange ∧ t.hexadecimal = true ∧ i ≠ t.value)) := by
  obtain ⟨t, ht, htoInt⟩ := Option.bind_eq_some_iff.mp h
  refine ⟨t, ht, ?_⟩
  unfold IntegerText.toInt64? at htoInt
  split_ifs at htoInt with hrange hhex
  · cases htoInt
    exact Or.inl ⟨hrange, rfl⟩
  · simp only [Bool.and_eq_true, Bool.not_eq_true'] at hhex
    refine Or.inr ⟨hrange, hhex.1.1, ?_⟩
    have hi : i = (t.magnitude : Int) - 2 ^ 64 := (Option.some.inj htoInt).symm
    have hvalue : t.value = t.magnitude := by
      rw [IntegerText.value, hhex.1.2, if_neg Bool.false_ne_true]
    omega

theorem intOfText_of_isInt64 (h : IsInt64 value) : ∃ i, intOfText value = some i := by
  obtain ⟨t, ht, hrange⟩ := h
  exact ⟨t.value, by rw [intOfText, ht, Option.bind_some, IntegerText.toInt64?, if_pos hrange]⟩

/-- An integer that is read is the one denoted where the text is that of a 64-bit integer. -/
theorem is_intOfText_iff (h : intOfText value = some i) :
    (∃ d, denotes? value = some d ∧ (Num.int i).Is d) ↔ IsInt64 value := by
  obtain ⟨t, ht, hcases⟩ := intOfText_cases h
  have hdenotes := denotes?_of_integerText ht
  have his : (∃ d, denotes? value = some d ∧ (Num.int i).Is d) ↔ i = t.value := by
    rw [hdenotes]
    simp only [Option.some.injEq, exists_eq_left', Num.Is, toRat_integer, Rat.intCast_inj]
  rw [his]
  rcases hcases with ⟨hrange, rfl⟩ | ⟨hrange, -, hne⟩
  · exact iff_of_true rfl ⟨t, ht, hrange⟩
  · refine iff_of_false hne ?_
    rintro ⟨u, hu, hurange⟩
    rw [ht] at hu
    cases hu
    exact hrange hurange

/-! ### Doubles -/

/-- A finite double is read from a number that is written out. -/
theorem is_doubleTryParse (h : doubleTryParse value = some x) (hx : x.isFinite = true) :
    ∃ d, denotes? value = some d ∧ (Num.double x).Is d := by
  have hparse : ∃ d, decimal? (trim value) = some d ∧ d.toDouble = x := by
    unfold doubleTryParse at h
    dsimp only at h
    split_ifs at h with hinfinity hnegative hnan
    · cases h
      exact absurd hx (by decide +kernel)
    · cases h
      exact absurd hx (by decide +kernel)
    · cases h
      exact absurd hx (by decide +kernel)
    · exact Option.map_eq_some_iff.mp h
  obtain ⟨d, hd, rfl⟩ := hparse
  refine ⟨d, ?_, rfl, hx⟩
  unfold denotes?
  split
  · next hhex =>
    rw [decimal?_of_hexadecimal hhex rfl] at hd
    cases hd
  · exact hd

theorem lt_zero_double : Num.double x < 0 ↔ x < 0 := by
  change decide (x < Float.ofInt 0) = true ↔ x < 0
  rw [decide_eq_true_iff]
  rfl

/-! ### What the validators accept -/

theorem number_accepted_iff (field : String) :
    numberValidationToast value field false false = none ↔ ∃ x, doubleTryParse value = some x ∧ ¬ x < 0 := by
  unfold numberValidationToast
  split
  · next hempty =>
    rw [String.isEmpty_iff.mp hempty]
    refine iff_of_false (by simp) ?_
    rintro ⟨x, hx, -⟩
    cases hx
  · rw [if_neg Bool.false_ne_true]
    cases hnum : doubleTryParse value with
    | none => simp
    | some x => simp [lt_zero_double]

theorem integer_accepted_iff (field : String) :
    numberValidationToast value field true true = none ↔ ∃ i, intOfText value = some i := by
  unfold numberValidationToast
  split
  · next hempty =>
    rw [String.isEmpty_iff.mp hempty]
    refine iff_of_false (by simp) ?_
    rintro ⟨i, hi⟩
    cases hi
  · rw [if_pos rfl]
    cases hint : intOfText value with
    | none => simp
    | some i => simp

/-! ### Fields -/

namespace NumericField
variable {σ : Type} {α : Type} {f : NumericField σ} {s : σ} {x : Option α} {write : α → σ}

/-- What a handler has to do that parses its text and then writes. -/
theorem need_validated_iff :
    ((f.validator value = none → ∃ d n t, denotes? value = some d ∧ Outcome.need s x (fun a => .done (write a)) = .done t ∧
        f.stored t = some n ∧ n.Is d) ∧
      (f.validator value ≠ none → (Outcome.need s x fun a => .done (write a)).state = s)) ↔
    (f.validator value = none → ∃ a, x = some a ∧ ∃ n, f.stored (write a) = some n ∧ ∃ d, denotes? value = some d ∧ n.Is d) ∧
      (f.validator value ≠ none → ∀ a, x = some a → write a = s) := by
  cases x with
  | none => simp
  | some a =>
    simp only [Outcome.need_some, Outcome.done.injEq, Outcome.state_done, Option.some.injEq]
    refine and_congr (forall_congr' fun _ => ⟨?_, ?_⟩) (forall_congr' fun _ => ?_)
    · rintro ⟨d, n, t, hd, rfl, hstored, his⟩
      exact ⟨a, rfl, n, hstored, d, hd, his⟩
    · rintro ⟨_, rfl, n, hstored, d, hd, his⟩
      exact ⟨d, n, _, hd, rfl, hstored, his⟩
    · exact ⟨fun h b hb => hb ▸ h, fun h => h a rfl⟩

theorem intField_validated_iff (key : String) (validator : Option (String → Option String)) (data : Doc) :
    (intField key validator).Validated data value ↔
      ((intField key validator).validator value = none → IsInt64 value) ∧
        ((intField key validator).validator value ≠ none → ∀ i, intOfText value = some i → data.get? key = some (.int i)) := by
  have hstored : ∀ i : Int, (intField key validator).stored (data.set key (.int i)) = some (.int i) := fun i => by
    simp [intField, Value.asNum?]
  have hhandler : (intField key validator).Validated data value ↔
      ((intField key validator).validator value = none → ∃ d n t, denotes? value = some d ∧
          parseInto key value data = .done t ∧ (intField key validator).stored t = some n ∧ n.Is d) ∧
        ((intField key validator).validator value ≠ none → (parseInto key value data).state = data) := by
    simp [Validated, handlers, intField]
  rw [hhandler, parseInto, need_validated_iff]
  refine and_congr (forall_congr' fun _ => ⟨?_, fun hint => ?_⟩)
    (forall_congr' fun _ => forall_congr' fun i => forall_congr' fun _ => ⟨Dict.get?_of_set_eq, Dict.set_of_get?⟩)
  · rintro ⟨i, hi, n, heq, his⟩
    rw [hstored] at heq
    cases heq
    exact (is_intOfText_iff hi).mp his
  · obtain ⟨i, hi⟩ := intOfText_of_isInt64 hint
    exact ⟨i, hi, .int i, hstored i, (is_intOfText_iff hi).mpr hint⟩

/-- A field of the form whose validator only asks for a text. -/
theorem required_validated_iff (key : String) (data : Doc) :
    (intField key none).Validated data value ↔ (value ≠ "" → IsInt64 value) := by
  have haccepted : (intField key none).validator value = none ↔ value ≠ "" := by
    simp [intField, textFieldValidator]
  rw [intField_validated_iff, ne_eq, haccepted]
  refine and_iff_left fun hempty i hi => ?_
  rw [not_not.mp hempty] at hi
  cases hi

theorem accountField_validated_iff {get : AccountAmounts → Float} {set : Float → AccountAmounts → AccountAmounts}
    {account : AccountAmounts} (hget : ∀ x, get (set x account) = x) (hset : set (get account) account = account) :
    (accountField get set).Validated account value ↔
      ∀ x, doubleTryParse value = some x → (x.isFinite = true ∧ ¬ x < 0) ∨ (x < 0 ∧ get account = x) := by
  have hhandler : (accountField get set).Validated account value ↔
      ((accountField get set).validator value = none → ∃ d n t, denotes? value = some d ∧
          Outcome.need account (doubleTryParse value) (fun x => .done (set x account)) = .done t ∧
          (accountField get set).stored t = some n ∧ n.Is d) ∧
        ((accountField get set).validator value ≠ none →
          (Outcome.need account (doubleTryParse value) fun x => .done (set x account)).state = account) := by
    simp [Validated, handlers, accountField]
  have haccepted : (accountField get set).validator value = none ↔ ∃ x, doubleTryParse value = some x ∧ ¬ x < 0 :=
    number_accepted_iff "Credit"
  rw [hhandler, need_validated_iff, ne_eq, haccepted]
  cases hx : doubleTryParse value with
  | none => simp
  | some x =>
    simp only [Option.some.injEq, exists_eq_left', forall_eq']
    by_cases hneg : x < 0
    · have hkeeps : set x account = account ↔ get account = x :=
        ⟨fun h => (congrArg get h).symm.trans (hget x), fun h => h ▸ hset⟩
      simp [hneg, hkeeps]
    · simp only [hneg, not_false_eq_true, not_true, false_imp_iff, and_true, true_imp_iff, false_and, or_false]
      constructor
      · rintro ⟨n, hn, d, -, his⟩
        have hstored : n = .double x := (Option.some.inj hn).symm.trans (congrArg Num.double (hget x))
        rw [hstored] at his
        exact his.2
      · exact fun hfinite => ⟨_, congrArg (some ∘ Num.double) (hget x), is_doubleTryParse hx hfinite⟩

theorem qty_validated_iff (row : ItemRow Num) :
    qty.Validated row value ↔ (intOfText value ≠ none → row.rate ≠ none ∧ IsInt64 value) := by
  have haccepted : qty.validator value = none ↔ ∃ i, intOfText value = some i := integer_accepted_iff "Quantity"
  have hhandler : qty.Validated row value ↔
      (qty.validator value = none → ∃ d n t, denotes? value = some d ∧
          Outcome.need row (intOfText value) row.changeQty = .done t ∧ qty.stored t = some n ∧ n.Is d) ∧
        (qty.validator value ≠ none → (Outcome.need row (intOfText value) row.changeQty).state = row) := by
    simp [Validated, handlers, qty]
  rw [hhandler, ne_eq, haccepted]
  cases hi : intOfText value with
  | none => simp
  | some i =>
    have hdenotes := is_intOfText_iff hi
    cases hrate : row.rate with
    | none => simp [ItemRow.changeQty, ItemRow.setAmount, hrate]
    | some rate =>
      simp only [← hdenotes, Outcome.need_some, ItemRow.changeQty, ItemRow.setAmount, hrate, Outcome.done.injEq]
      constructor
      · rintro ⟨h, -⟩ -
        obtain ⟨d, n, t, hd, rfl, hstored, his⟩ := h ⟨i, rfl⟩
        cases hstored
        exact ⟨by simp, d, hd, his⟩
      · intro h
        obtain ⟨d, hd, his⟩ := (h (by simp)).2
        exact ⟨fun _ => ⟨d, _, _, hd, rfl, rfl, his⟩, fun hreject => absurd ⟨i, rfl⟩ hreject⟩

theorem conversionFactor_validated_iff (uom : UomFactors) :
    conversionFactor.Validated uom value ↔ ∃ x, doubleTryParse value = some x ∧ x.isFinite = true := by
  have haccepted : conversionFactor.validator value = none := rfl
  simp only [Validated, handlers, haccepted, ne_eq, not_true, false_imp_iff, and_true, true_imp_iff]
  cases hx : doubleTryParse value with
  | none => simp [conversionFactor, hx]
  | some x =>
    constructor
    · intro h
      obtain ⟨d, n, t, -, hdone, hstored, his⟩ := h _ List.mem_cons_self
      simp only [conversionFactor, hx, Outcome.need_some, Outcome.done.injEq] at hdone
      subst hdone
      cases hstored
      exact ⟨x, rfl, his.2⟩
    · rintro ⟨x', hx', hfinite⟩ handler hmem
      cases hx'
      obtain ⟨d, hd, his⟩ := is_doubleTryParse hx hfinite
      simp only [conversionFactor, Option.toList_some, List.mem_cons, List.not_mem_nil, or_false] at hmem
      rcases hmem with rfl | rfl
      · exact ⟨d, _, _, hd, congrArg (Outcome.need uom · _) hx, rfl, his⟩
      · exact ⟨d, _, _, hd, congrArg (Outcome.need uom · _) hx, rfl, his⟩

/-- Which texts every field stores as the numbers they denote, and where a field stores a text that it rejects. -/
theorem validated_iff (value : String) :
    (∀ row, qty.Validated row value ↔ (intOfText value ≠ none → row.rate ≠ none ∧ IsInt64 value)) ∧
    (∀ data, loanAmount.Validated data value ↔
      (loanAmount.validator value = none → IsInt64 value) ∧
        (loanAmount.validator value ≠ none → ∀ i, intOfText value = some i → data.get? "loan_amount" = some (.int i))) ∧
    (∀ data, repaymentAmount.Validated data value ↔ (value ≠ "" → IsInt64 value)) ∧
    (∀ data, repaymentPeriods.Validated data value ↔ (value ≠ "" → IsInt64 value)) ∧
    (∀ account, debit.Validated account value ↔ ∀ x, doubleTryParse value = some x →
      (x.isFinite = true ∧ ¬ x < 0) ∨ (x < 0 ∧ account.debitInAccountCurrency = x)) ∧
    (∀ account, credit.Validated account value ↔ ∀ x, doubleTryParse value = some x →
      (x.isFinite = true ∧ ¬ x < 0) ∨ (x < 0 ∧ account.creditInAccountCurrency = x)) ∧
    (∀ uom, conversionFactor.Validated uom value ↔ ∃ x, doubleTryParse value = some x ∧ x.isFinite = true) :=
  ⟨qty_validated_iff, intField_validated_iff _ _, required_validated_iff _, required_validated_iff _,
    fun _ => accountField_validated_iff (fun _ => rfl) rfl, fun _ => accountField_validated_iff (fun _ => rfl) rfl,
    conversionFactor_validated_iff⟩

/-- A loan of 1.5 passes the check and `int.parse` throws on it, and so does one of -1e-400, which is no negative double; a
    rejected one of -5 is stored; NaN is a debit. -/
theorem loan_of_half : ¬ loanAmount.Validated [] "1.5" ∧ ¬ loanAmount.Validated [] "-1e-400" ∧
    ¬ loanAmount.Validated [] "-5" ∧ ¬ debit.Validated ⟨0, 0⟩ "NaN" := by
  refine ⟨fun h => ?_, fun h => ?_, fun h => ?_, fun h => ?_⟩
  · obtain ⟨-, -, t, -, hdone, -⟩ := (h _ List.mem_cons_self).1 (by decide +kernel)
    have hthrew : parseInto "loan_amount" "1.5" [] = .threw [] := by decide +kernel
    cases hthrew.symm.trans hdone
  · obtain ⟨-, -, t, -, hdone, -⟩ := (h _ List.mem_cons_self).1 (by decide +kernel)
    have hthrew : parseInto "loan_amount" "-1e-400" [] = .threw [] := by decide +kernel
    cases hthrew.symm.trans hdone
  · have hstored := (h _ List.mem_cons_self).2 (by decide +kernel)
    have hset : (parseInto "loan_amount" "-5" []).state = [("loan_amount", .int (-5))] := by decide +kernel
    cases hset.symm.trans hstored
  · obtain ⟨d, -, t, hd, -⟩ := (h _ List.mem_cons_self).1 (by decide +kernel)
    have hnone : denotes? "NaN" = none := by decide +kernel
    cases hnone.symm.trans hd

end NumericField

end NextApp
