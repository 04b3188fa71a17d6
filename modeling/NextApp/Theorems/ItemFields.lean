import Mathlib.Tactic.Linarith
import NextApp.Model.ItemFields
import NextApp.Theorems.NumericField
import NextApp.Theorems.PickerField

/-! # What the fields of the item table read

The table writes a quantity into its row, and a build of the list writes it into the field. A field over a quantity that is no
whole number, a quantity that is written without a build, and a submit that turns the rows under the fields leave the field with
another number. -/

namespace NextApp.ItemFields
open Runs

variable {s t : ItemFields} {e : ItemFieldEvent} {r r' : ItemRow ℚ} {rows : List (ItemRow ℚ)} {field : LinkText} {text : String}
  {i : Nat} {v : Int} {q : ℚ} {isReturn : Option ℚ}

/-- The quantity is a whole number of 64 bits. -/
def Whole (r : ItemRow ℚ) : Prop := ∃ q, r.qty = some q ∧ (toInt q : ℚ) = q

/-- The field was built for the quantity of the row, a whole number, and with no update to come a number in it is this
    quantity. -/
structure Reads (r : ItemRow ℚ) (field : LinkText) : Prop where
  built : ∃ text ∈ r.qtyText?, field.initialValue = some text
  whole : Whole r
  number : field.updates = 0 → ∀ v, intOfText field.text = some v → r.qty = some (v : ℚ)

/-- Every field on show is one of a row and reads right. -/
def Right (s : ItemFields) : Prop := s.fields.All fun i field => ∃ r ∈ s.rows[i]?, Reads r field

/-- The quantity of a row that is sent. -/
def signed (isReturn : Option ℚ) (q : ℚ) : ℚ := if isReturn = some 1 ∧ 0 < q then q * -1 else q

/-- After a step the fields read right, and a submit sends the numbers that are read in them. -/
structure SendsRead (s : ItemFields) (e : ItemFieldEvent) (t : ItemFields) : Prop where
  right : Right t
  sends : ∀ items ∈ s.sent e, s.fields.All fun i field => field.updates = 0 →
    ∃ v, intOfText field.text = some v ∧ ∃ r ∈ items[i]?, r.qty = some (signed s.table.isReturn v)

/-- The submit gets past the row: of a return it compares the quantity. -/
def good (isReturn : Option ℚ) (r : ItemRow ℚ) : Bool := isReturn ≠ some 1 || r.qty.isSome

/-- A field is built for a whole quantity, and a removed row leaves such ones to the fields below it; a row without a rate gets
    no other quantity; and no submit turns a row whose field is on show and then fails, by its request or at a row without a
    quantity. -/
def Guard (s : ItemFields) : ItemFieldEvent → Prop
  | .mount index => ∀ r ∈ s.rows[index]?, Whole r
  | .remove index => s.fields.All fun i _ => index ≤ i → ∀ r ∈ s.rows[i + 1]?, r.qtyText?.isSome → Whole r
  | .typeQty index value => ∀ r ∈ s.rows[index]?, r.rate = none → ∀ v, intOfText value = some v → r.qty = some (v : ℚ)
  | .save passes _ succeeds => s.valid → passes → ¬ (succeeds ∧ ∀ r ∈ s.rows, good s.table.isReturn r) →
    s.table.isReturn = some 1 →
    s.fields.All fun i _ => (∀ r ∈ s.rows.take i, good s.table.isReturn r) → ∀ r ∈ s.rows[i]?, ∀ q ∈ r.qty, ¬ 0 < q
  | _ => True

/-! ### The text of a quantity -/

theorem intText_not_isBlank (v : Int) : ∀ c ∈ intText v, ¬ isBlank c := by
  intro c hc
  rw [intText, decimal, if_pos rfl, List.append_nil] at hc
  rcases List.mem_append.mp hc with hsign | hdigit
  · split at hsign
    · rw [List.mem_singleton.mp hsign]
      decide
    · cases hsign
  · exact not_isBlank_of_isDigit (Nat.isDigit_of_mem_toDigits (by simp) (by simp) hdigit)

theorem integerText?_intText (v : Int) : integerText? (String.ofList (intText v)) = some ⟨decide (v < 0), false, v.natAbs⟩ := by
  have hdigits : ∀ c ∈ Nat.toDigits 10 v.natAbs, c.isDigit := fun c hc =>
    Nat.isDigit_of_mem_toDigits (by simp) (by simp) hc
  have htake : takeDigits 0 0 (Nat.toDigits 10 v.natAbs ++ []) = _ := takeDigits_append hdigits (fun c hc => by cases hc)
  rw [List.append_nil, Nat.zero_add, Nat.ofDigitChars_ten_toDigits] at htake
  obtain ⟨k, hk⟩ := Nat.exists_eq_add_one_of_ne_zero (Nat.length_toDigits_pos (n := v.natAbs) (b := 10)).ne'
  have hunsigned : decimal false v.natAbs [] = Nat.toDigits 10 v.natAbs := by simp [decimal]
  rw [integerText?, trim_ofList (intText_not_isBlank v), intText, takeSign_decimal, hunsigned]
  dsimp only
  split
  · next heq => exact absurd (hdigits 'x' (by simp [heq])) (by simp)
  · next heq => exact absurd (hdigits 'X' (by simp [heq])) (by simp)
  · rw [htake, hk]

theorem intOfText_intText_int (hlow : -2 ^ 63 ≤ v) (hhigh : v < 2 ^ 63) : intOfText (String.ofList (intText v)) = some v := by
  have hvalue : (⟨decide (v < 0), false, v.natAbs⟩ : IntegerText).value = v := by
    unfold IntegerText.value
    dsimp only
    by_cases hneg : v < 0
    · rw [decide_eq_true hneg, if_pos rfl]
      omega
    · rw [decide_eq_false hneg, if_neg Bool.false_ne_true]
      omega
  have hrange : (⟨decide (v < 0), false, v.natAbs⟩ : IntegerText).InRange := by
    rw [IntegerText.InRange, hvalue]
    exact ⟨hlow, hhigh⟩
  rw [intOfText, integerText?_intText, Option.bind_some, IntegerText.toInt64?, if_pos hrange, hvalue]

theorem toInt_range (q : ℚ) : -2 ^ 63 ≤ toInt q ∧ toInt q < 2 ^ 63 := by
  unfold toInt
  omega

theorem toInt_intCast (hlow : -2 ^ 63 ≤ v) (hhigh : v < 2 ^ 63) : toInt (v : ℚ) = v := by
  rw [toInt, Rat.num_intCast, Rat.den_intCast]
  simp
  omega

theorem intOfText_range (h : intOfText text = some v) : -2 ^ 63 ≤ v ∧ v < 2 ^ 63 := by
  obtain ⟨t, -, ht⟩ := Option.bind_eq_some_iff.mp h
  unfold IntegerText.toInt64? at ht
  split_ifs at ht with hrange hhex
  · cases ht
    exact hrange
  · simp only [Bool.and_eq_true, Bool.not_eq_true', decide_eq_true_eq] at hhex
    obtain ⟨⟨-, hpositive⟩, hlt⟩ := hhex
    have hv : (t.magnitude : Int) - 2 ^ 64 = v := Option.some.inj ht
    have hvalue : t.value = t.magnitude := by rw [IntegerText.value, hpositive, if_neg Bool.false_ne_true]
    rw [IntegerText.InRange, hvalue] at hrange
    omega

theorem whole_of_int (hlow : -2 ^ 63 ≤ v) (hhigh : v < 2 ^ 63) (h : r.qty = some (v : ℚ)) : Whole r :=
  ⟨v, h, by rw [toInt_intCast hlow hhigh]⟩

theorem number_of_qtyText (hw : Whole r) (h : r.qtyText? = some text) : ∃ v : Int, intOfText text = some v ∧ r.qty = some (v : ℚ) := by
  obtain ⟨q, hq, hwhole⟩ := hw
  unfold ItemRow.qtyText? at h
  split at h
  · rw [hq] at h
    cases h
    exact ⟨toInt q, intOfText_intText_int (toInt_range q).1 (toInt_range q).2, by rw [hq, hwhole]⟩
  · cases h

/-- The text says which quantity it is for. -/
theorem qty_eq_of_text (hw : Whole r) (hw' : Whole r') (h : r.qtyText? = some text) (h' : r'.qtyText? = some text) : r.qty = r'.qty := by
  obtain ⟨v, hv, hqty⟩ := number_of_qtyText hw h
  obtain ⟨v', hv', hqty'⟩ := number_of_qtyText hw' h'
  cases hv.symm.trans hv'
  rw [hqty, hqty']

/-! ### Builds -/

/-- A field that is built goes on to read right unless it keeps a number that its text says nothing of. -/
theorem reads_didUpdateWidget (hw : Whole r) (htext : r.qtyText? = some text)
    (h : field.updates = 0 → field.initialValue = some text → ∀ v, intOfText field.text = some v → r.qty = some (v : ℚ)) :
    Reads r (field.didUpdateWidget (some text)) := by
  refine ⟨⟨text, htext, rfl⟩, hw, fun hupdates v hv => ?_⟩
  unfold LinkText.didUpdateWidget at hupdates hv
  dsimp only at hupdates hv
  split at hupdates
  · exact absurd hupdates (Nat.succ_ne_zero _)
  · next hkeeps =>
    by_cases hsame : field.initialValue = some text
    · exact h hupdates hsame v hv
    · obtain ⟨v', hv', hqty⟩ := number_of_qtyText hw htext
      have htexts : text = field.text := Option.some.inj (by_contra fun hne => hkeeps ⟨hsame, hne⟩)
      rw [← htexts, hv'] at hv
      cases hv
      exact hqty

/-- A field that reads right does so over any other row too, once it is built for it. -/
theorem Reads.rebuild (h : Reads r field) (hw' : Whole r') (htext : r'.qtyText? = some text) :
    Reads r' (field.didUpdateWidget (some text)) := by
  refine reads_didUpdateWidget hw' htext fun hupdates hsame v hv => ?_
  obtain ⟨text', htext', hbuilt⟩ := h.built
  cases hbuilt.symm.trans hsame
  rw [← qty_eq_of_text h.whole hw' htext' htext]
  exact h.number hupdates v hv

theorem all_build_iff {P : Nat → LinkText → Prop} : s.build.fields.All P ↔
    s.fields.All fun i field => ∀ r ∈ s.rows[i]?, ∀ text ∈ r.qtyText?, P i (field.didUpdateWidget (some text)) := by
  refine Slots.all_rebuild_iff.trans (forall₃_congr fun i field hfield => ?_)
  constructor
  · intro h r hr text htext
    refine h _ (Option.map_eq_some_iff.mpr ⟨text, ?_, rfl⟩)
    rw [show s.rows[i]? = some r from hr]
    exact htext
  · intro h g hg
    obtain ⟨text, htext, rfl⟩ := Option.map_eq_some_iff.mp hg
    obtain ⟨r, hr, htext⟩ := Option.bind_eq_some_iff.mp htext
    exact h r hr text htext

/-- The list is built over other rows. -/
theorem right_build_iff {table : ItemTable} (h : Right s) : Right (build { s with table }) ↔
    s.fields.All fun i _ => ∀ r ∈ table.newItemList[i]?, r.qtyText?.isSome → Whole r := by
  refine all_build_iff.trans (forall₃_congr fun i field hfield => ?_)
  obtain ⟨r₀, -, hreads⟩ := h i field hfield
  refine forall₂_congr fun r hr => ?_
  constructor
  · intro hbuilt hshown
    obtain ⟨text, htext⟩ := Option.isSome_iff_exists.mp hshown
    obtain ⟨r', hr', hreads'⟩ := hbuilt text htext
    cases hr.symm.trans hr'
    exact hreads'.whole
  · exact fun hwhole text htext => ⟨r, hr, hreads.rebuild (hwhole (Option.isSome_iff_exists.mpr ⟨text, htext⟩)) htext⟩

theorem getElem?_kept {rows' : List (ItemRow ℚ)} (h : rows <+: rows') (hr : rows[i]? = some r) : rows'[i]? = some r := by
  obtain ⟨more, rfl⟩ := h
  exact (List.getElem?_append_left (List.getElem?_eq_some_iff.mp hr).1).trans hr

/-- Over the same rows, with others behind them. -/
theorem Right.build {table : ItemTable} (h : Right s) (hrows : s.rows <+: table.newItemList) : Right (build { s with table }) := by
  refine (right_build_iff h).mpr fun i field hfield r hr _ => ?_
  obtain ⟨r₀, hr₀, hreads⟩ := h i field hfield
  cases (getElem?_kept hrows hr₀).symm.trans hr
  exact hreads.whole

theorem prefix_setItemToList (rows : List (ItemRow ℚ)) (row : ItemRow ℚ) : rows <+: (setItemToList rows row).state := by
  rw [setItemToList, Outcome.state_map]
  exact List.prefix_append _ _

/-! ### Texts that are typed -/

theorem reads_update (h : Reads r field) : Reads r field.update := by
  obtain ⟨text, htext, hbuilt⟩ := h.built
  refine ⟨⟨text, htext, hbuilt⟩, h.whole, fun _ v hv => ?_⟩
  obtain ⟨v', hv', hqty⟩ := number_of_qtyText h.whole htext
  have htexts : field.update.text = text := by rw [LinkText.update, hbuilt, Option.getD_some]
  rw [htexts, hv'] at hv
  cases hv
  exact hqty

theorem reads_initState (hw : Whole r) (htext : r.qtyText? = some text) : Reads r (.initState (some text)) := by
  refine ⟨⟨text, htext, rfl⟩, hw, fun _ v hv => ?_⟩
  obtain ⟨v', hv', hqty⟩ := number_of_qtyText hw htext
  rw [LinkText.initState, Option.getD_some, hv'] at hv
  cases hv
  exact hqty

theorem qty_changeQty (r : ItemRow ℚ) (v : Int) : (r.changeQty v).state.qty = some (v : ℚ) := by
  unfold ItemRow.changeQty ItemRow.setAmount
  split <;> rfl

theorem changeQty_of_rate (h : r.rate = none) (v : Int) : (r.changeQty v).state = { r with qty := some (v : ℚ) } := by
  rw [ItemRow.changeQty, ItemRow.setAmount]
  simp only [h, Outcome.state_threw]

theorem whole_changeQty (hv : intOfText text = some v) : Whole (r.changeQty v).state :=
  whole_of_int (intOfText_range hv).1 (intOfText_range hv).2 (qty_changeQty r v)

/-- The row at the place with another quantity, and the rows elsewhere. -/
theorem getElem?_changed (hr : rows[i]? = some r) (j : Nat) : (rows.modify i fun r => (r.changeQty v).state)[j]? =
    if i = j then some (r.changeQty v).state else rows[j]? := by
  split
  · next heq =>
    subst heq
    rw [List.getElem?_modify_eq, hr]
    rfl
  · next hne => exact List.getElem?_modify_ne _ _ hne

/-- A quantity of a row with a rate is built into the field in which it is typed. -/
theorem right_typed_build {value : String} {table : ItemTable} (h : Right s) (hr : s.rows[i]? = some r)
    (hv : intOfText value = some v) (htable : table.newItemList = s.rows.modify i fun r => (r.changeQty v).state) :
    Right (build { s with table, fields := s.fields.put i { field with text := value } }) := by
  refine all_build_iff.mpr fun j field' hfield' r' hr' text htext => ⟨r', hr', ?_⟩
  have hchanged : table.newItemList[j]? = some r' := hr'
  rw [htable, getElem?_changed hr] at hchanged
  rcases Slots.mem_put hfield' with ⟨rfl, rfl⟩ | ⟨hne, hfield'⟩
  · rw [if_pos rfl] at hchanged
    cases hchanged
    refine reads_didUpdateWidget (whole_changeQty hv) htext fun _ _ v' hv' => ?_
    cases hv.symm.trans hv'
    exact qty_changeQty r v
  · rw [if_neg (Ne.symm hne)] at hchanged
    obtain ⟨r₀, hr₀, hreads⟩ := h j field' hfield'
    cases hr₀.symm.trans hchanged
    exact hreads.rebuild hreads.whole htext

/-- One of a row without a rate is not. -/
theorem right_typed_iff {value : String} {table : ItemTable} (h : Right s) (hfield : s.fields i = some field)
    (hr : s.rows[i]? = some r) (hrate : r.rate = none) (hv : intOfText value = some v)
    (htable : table.newItemList = s.rows.modify i fun r => (r.changeQty v).state) :
    Right { s with table, fields := s.fields.put i { field with text := value } } ↔ r.qty = some (v : ℚ) := by
  have hrows : ∀ j, table.newItemList[j]? = if i = j then some { r with qty := some (v : ℚ) } else s.rows[j]? := fun j => by
    rw [htable, getElem?_changed hr, changeQty_of_rate hrate]
  have hrow : table.newItemList[i]? = some { r with qty := some (v : ℚ) } := by rw [hrows, if_pos rfl]
  obtain ⟨r₀, hr₀, hreads⟩ := h i field hfield
  cases hr.symm.trans hr₀
  constructor
  · intro ht
    obtain ⟨r', hr', hreads'⟩ := ht i _ Slots.put_self
    cases hrow.symm.trans hr'
    obtain ⟨text, htext, hbuilt⟩ := hreads.built
    obtain ⟨text', htext', hbuilt'⟩ := hreads'.built
    cases hbuilt.symm.trans hbuilt'
    exact qty_eq_of_text hreads.whole hreads'.whole htext htext'
  · intro hsame
    have hreads' : Reads { r with qty := some (v : ℚ) } { field with text := value } := by
      refine ⟨hsame ▸ hreads.built, hsame ▸ hreads.whole, fun _ v' hv' => ?_⟩
      cases hv.symm.trans hv'
      rfl
    intro j field' hfield'
    rcases Slots.mem_put hfield' with ⟨rfl, rfl⟩ | ⟨hne, hfield'⟩
    · exact ⟨_, hrow, hreads'⟩
    · obtain ⟨r', hr', hreads'⟩ := h j field' hfield'
      exact ⟨r', by rwa [Option.mem_def, rows, hrows, if_neg (Ne.symm hne)], hreads'⟩

theorem right_onChanged {value : String} (h : Right s) (hfield : s.fields i = some field)
    (ht : s.onChanged i field value = some t) : Right t ↔ Guard s (.typeQty i value) := by
  obtain ⟨r, hr, hreads⟩ := h i field hfield
  unfold onChanged at ht
  split at ht
  · next hnone =>
    cases ht
    refine iff_of_true (Slots.All.put h ⟨r, hr, hreads.built, hreads.whole, fun _ v hv => ?_⟩) fun _ _ _ v hv => ?_
    · cases hnone.symm.trans hv
    · cases hnone.symm.trans hv
  · next qty hqty =>
    obtain ⟨table, htable, rfl⟩ := Option.map_eq_some_iff.mp ht
    obtain ⟨-, htable⟩ := Option.ite_none_right_eq_some.mp htable
    cases htable
    rw [hr, Option.any_some]
    cases hrate : r.rate with
    | some rate =>
      refine iff_of_true (right_typed_build h hr hqty rfl) fun r' hr' hnone => ?_
      cases hr.symm.trans hr'
      cases hrate.symm.trans hnone
    | none =>
      refine (right_typed_iff h hfield hr hrate hqty rfl).trans ⟨fun hsame r' hr' _ v hv => ?_, fun hg => hg r hr hrate qty hqty⟩
      cases hr.symm.trans hr'
      cases hqty.symm.trans hv
      exact hsame

/-! ### Submits -/

/-- A row as a submit sends it. -/
def turned (isReturn : Option ℚ) (r : ItemRow ℚ) : ItemRow ℚ :=
  if isReturn = some 1 ∧ 0 < r.qty.getD 0 then { r with qty := r.qty.map (· * -1), stockQty := r.stockQty.map (· * -1) } else r

theorem turn_eq (isReturn : Option ℚ) (r : ItemRow ℚ) :
    salesInvoiceForm.turn isReturn r = if good isReturn r then .done (turned isReturn r) else .threw r := by
  by_cases hreturn : isReturn = some 1
  · cases hq : r.qty with
    | none => simp [salesInvoiceForm, good, hreturn, hq]
    | some q => by_cases hpos : 0 < q <;> simp [salesInvoiceForm, good, turned, hreturn, hq, hpos]
  · simp [salesInvoiceForm, good, turned, hreturn]

theorem qty_turned (h : r.qty = some q) : (turned isReturn r).qty = some (signed isReturn q) := by
  rw [turned, signed, h, Option.getD_some]
  split
  · rfl
  · exact h

def linked (isReturn : Option ℚ) (link : Value) (r : ItemRow ℚ) : ItemRow ℚ :=
  (turned isReturn r).setOther salesInvoiceForm.link link

/-- A submit that does not get past a row throws there. -/
theorem writeRows_eq (isReturn : Option ℚ) (link : Value) (rows : List (ItemRow ℚ)) :
    salesInvoiceForm.writeRows isReturn link rows =
      if ∀ r ∈ rows, good isReturn r then .done (rows.map (linked isReturn link))
      else .threw (Outcome.each (salesInvoiceForm.turn isReturn) rows).state := by
  rw [ReturnForm.writeRows]
  split
  · next hgood =>
    rw [(Outcome.each_done_iff (turn_eq isReturn)).mpr hgood, Outcome.bind_done, List.map_map]
    rfl
  · next hbad =>
    cases heach : Outcome.each (salesInvoiceForm.turn isReturn) rows with
    | threw items => rfl
    | done items =>
      have hitems := Outcome.eq_of_each (turn_eq isReturn) heach
      exact absurd ((Outcome.each_done_iff (turn_eq isReturn)).mp (hitems ▸ heach)) hbad

theorem good_of_whole (h : Whole r) : good isReturn r := by
  obtain ⟨q, hq, -⟩ := h
  simp [good, hq]

/-- The rows after a submit that fails: turned as far as it has got. -/
theorem getElem?_written (isReturn : Option ℚ) (link : Value) (h : s.rows[i]? = some r) (hw : Whole r) :
    ∃ r', (salesInvoiceForm.writeRows isReturn link s.rows).state[i]? = some r' ∧
      r'.amount = r.amount ∧ r'.qty = (if ∀ r ∈ s.rows.take i, good isReturn r then turned isReturn r else r).qty := by
  rw [writeRows_eq]
  split
  · next hgood =>
    refine ⟨linked isReturn link r, ?_, ?_, ?_⟩
    · rw [Outcome.state_done, List.getElem?_map, h, Option.map_some]
    · rw [linked, turned]
      split <;> rfl
    · rw [if_pos fun r hr => hgood r (List.mem_of_mem_take hr)]
      rfl
  · refine ⟨_, ?_, ?_, rfl⟩
    · rw [Outcome.state_threw, Outcome.getElem?_each (turn_eq isReturn), h, Option.map_some, turn_eq, if_pos (good_of_whole hw),
        Outcome.state_done]
    · rw [turned]
      split_ifs <;> rfl

theorem Reads.congr (h : Reads r field) (hamount : r'.amount = r.amount) (hqty : r'.qty = r.qty) : Reads r' field where
  built := by
    rw [ItemRow.qtyText?, hamount, hqty]
    exact h.built
  whole := by
    rw [Whole, hqty]
    exact h.whole
  number := by
    rw [hqty]
    exact h.number

/-- A field goes on to read right over a turned row that keeps its quantity, and over no other. -/
theorem reads_turned_iff (h : Reads r field) :
    Reads (turned isReturn r) field ↔ (isReturn = some 1 → ∀ q ∈ r.qty, ¬ 0 < q) := by
  obtain ⟨q, hq, hwhole⟩ := h.whole
  have hqty : (turned isReturn r).qty = some (signed isReturn q) := qty_turned hq
  constructor
  · rintro hreads hreturn q' hq' hpos
    cases hq.symm.trans hq'
    obtain ⟨text, htext, hbuilt⟩ := h.built
    obtain ⟨text', htext', hbuilt'⟩ := hreads.built
    cases hbuilt.symm.trans hbuilt'
    have hsame := qty_eq_of_text h.whole hreads.whole htext htext'
    rw [hq, hqty, signed, if_pos ⟨hreturn, hpos⟩, Option.some.injEq] at hsame
    linarith
  · intro hkeeps
    have hsame : turned isReturn r = r := by
      rw [turned, if_neg]
      rintro ⟨hreturn, hpos⟩
      rw [hq, Option.getD_some] at hpos
      exact hkeeps hreturn q hq hpos
    rwa [hsame]

/-- A submit that leaves the form as it is but for its rows. -/
theorem right_written_iff {table : ItemTable} (isReturn : Option ℚ) (link : Value) (h : Right s)
    (htable : table.newItemList = (salesInvoiceForm.writeRows isReturn link s.rows).state) :
    Right { s with table } ↔ (isReturn = some 1 →
      s.fields.All fun i _ => (∀ r ∈ s.rows.take i, good isReturn r) → ∀ r ∈ s.rows[i]?, ∀ q ∈ r.qty, ¬ 0 < q) := by
  have hfield : ∀ i, ∀ field ∈ s.fields i, ((∃ r ∈ table.newItemList[i]?, Reads r field) ↔
      (isReturn = some 1 → (∀ r ∈ s.rows.take i, good isReturn r) → ∀ r ∈ s.rows[i]?, ∀ q ∈ r.qty, ¬ 0 < q)) := by
    intro i field hmem
    obtain ⟨r, hr, hreads⟩ := h i field hmem
    obtain ⟨r', hr', hamount, hqty⟩ := getElem?_written isReturn link hr hreads.whole
    have hturned : (turned isReturn r).amount = r.amount := by
      rw [turned]
      split <;> rfl
    rw [htable, hr', show s.rows[i]? = some r from hr]
    by_cases hgood : ∀ r ∈ s.rows.take i, good isReturn r
    · rw [if_pos hgood] at hqty
      have hiff : (∃ r ∈ some r', Reads r field) ↔ Reads (turned isReturn r) field := by
        refine ⟨?_, fun ht => ⟨r', rfl, ht.congr (hamount.trans hturned.symm) hqty⟩⟩
        rintro ⟨r₁, hr₁, ht⟩
        cases hr₁
        exact ht.congr (hturned.trans hamount.symm) hqty.symm
      rw [hiff, reads_turned_iff hreads]
      refine ⟨fun hkeeps hreturn _ r₁ hr₁ => ?_, fun hkeeps hreturn => hkeeps hreturn hgood r rfl⟩
      cases hr₁
      exact hkeeps hreturn
    · rw [if_neg hgood] at hqty
      exact iff_of_true ⟨r', rfl, hreads.congr hamount hqty⟩ fun _ hall => absurd hall hgood
  constructor
  · exact fun ht hreturn i field hmem => (hfield i field hmem).mp (ht i field hmem) hreturn
  · exact fun hkeeps i field hmem => (hfield i field hmem).mpr fun hreturn => hkeeps hreturn i field hmem

theorem sent_save {passes succeeds : Bool} {link : Value} : s.sent (.save passes link succeeds) =
    if s.valid && passes then
      if ∀ r ∈ s.rows, good s.table.isReturn r then some (s.rows.map (linked s.table.isReturn link)) else none
    else none := by
  rw [sent, writeRows_eq]
  congr 1
  by_cases hgood : ∀ r ∈ s.rows, good s.table.isReturn r
  · simp only [if_pos hgood]
  · simp only [if_neg hgood]

theorem ends_iff {succeeds : Bool} {link : Value} (hvalid : s.valid) :
    ((s.sent (.save true link succeeds)).isSome && succeeds) = true ↔
      succeeds ∧ ∀ r ∈ s.rows, good s.table.isReturn r := by
  rw [sent_save, hvalid, Bool.and_true, if_pos rfl, Bool.and_eq_true, and_comm]
  refine and_congr_right fun _ => ?_
  by_cases hgood : ∀ r ∈ s.rows, good s.table.isReturn r
  · exact iff_of_true (by rw [if_pos hgood]; rfl) hgood
  · exact iff_of_false (by rw [if_neg hgood]; exact Bool.false_ne_true) hgood

theorem right_save {passes succeeds : Bool} {link : Value} (h : Right s) (ht : s.step (.save passes link succeeds) = some t) :
    Right t ↔ Guard s (.save passes link succeeds) := by
  rw [step] at ht
  cases hvalid : s.valid with
  | false =>
    rw [hvalid, if_neg Bool.false_ne_true] at ht
    cases ht
    refine iff_of_true h fun hv => ?_
    rw [hvalid] at hv
    cases hv
  | true =>
    rw [hvalid, if_pos rfl] at ht
    obtain ⟨table, htable, rfl⟩ := Option.map_eq_some_iff.mp ht
    cases passes with
    | false =>
      cases htable
      rw [sent_save, Bool.and_false, if_neg Bool.false_ne_true]
      exact iff_of_true h fun _ hpasses => by cases hpasses
    | true =>
      cases htable
      split
      · next hends =>
        exact iff_of_true Slots.all_empty fun _ _ hfails => absurd ((ends_iff hvalid).mp hends) hfails
      · next hfails =>
        rw [ends_iff hvalid] at hfails
        refine (right_written_iff s.table.isReturn link h rfl).trans ?_
        exact ⟨fun hkeeps _ _ _ => hkeeps, fun hg => hg hvalid rfl hfails⟩

/-- Of a field that is validated the number is sent. -/
theorem sends_save {passes succeeds : Bool} {link : Value} {items : List (ItemRow ℚ)} (h : Right s)
    (hsent : s.sent (.save passes link succeeds) = some items) :
    s.fields.All fun i field => field.updates = 0 →
      ∃ v, intOfText field.text = some v ∧ ∃ r ∈ items[i]?, r.qty = some (signed s.table.isReturn v) := by
  intro i field hfield hupdates
  obtain ⟨r, hr, hreads⟩ := h i field hfield
  rw [sent_save] at hsent
  obtain ⟨hvalid, hsent⟩ := Option.ite_none_right_eq_some.mp hsent
  obtain ⟨-, hitems⟩ := Option.ite_none_right_eq_some.mp hsent
  cases hitems
  rw [Bool.and_eq_true, valid, List.all_eq_true] at hvalid
  have hfieldValid := hvalid.1 i (List.mem_range.mpr (List.getElem?_eq_some_iff.mp hr).1)
  rw [hfield, Option.all_some, Option.isNone_iff_eq_none] at hfieldValid
  obtain ⟨v, hv⟩ := (integer_accepted_iff "Quantity").mp hfieldValid
  refine ⟨v, hv, linked s.table.isReturn link r, ?_, qty_turned (hreads.number hupdates v hv)⟩
  rw [Option.mem_def, List.getElem?_map, hr, Option.map_some]

/-! ### Steps -/

theorem right_remove (h : Right s) {table : ItemTable} (htable : table.newItemList = s.rows.eraseIdx i) :
    Right (build { s with table }) ↔ Guard s (.remove i) := by
  rw [right_build_iff h, htable]
  refine forall₃_congr fun j field hfield => ?_
  simp only [List.getElem?_eraseIdx]
  split
  · next hlt =>
    obtain ⟨r, hr, hreads⟩ := h j field hfield
    refine iff_of_true (fun r' hr' _ => ?_) fun hle => absurd hlt (Nat.not_lt.mpr hle)
    cases hr.symm.trans hr'
    exact hreads.whole
  · next hle => exact ⟨fun hwhole _ => hwhole, fun hwhole => hwhole (Nat.not_lt.mp hle)⟩

theorem right_step (h : Right s) (ht : s.step e = some t) : Right t ↔ Guard s e := by
  cases e with
  | pick item =>
    cases ht
    exact iff_of_true (h.build (prefix_setItemToList s.rows item.row)) trivial
  | loadDocument row =>
    cases ht
    exact iff_of_true (h.build (prefix_setItemToList s.rows row)) trivial
  | loadSource rows =>
    cases ht
    refine iff_of_true (fun i field hfield => ?_) trivial
    obtain ⟨r, hr, hreads⟩ := h i field hfield
    exact ⟨r, getElem?_kept (List.prefix_append s.rows rows) hr, hreads⟩
  | setReturn value =>
    cases ht
    exact iff_of_true (h.build List.prefix_rfl) trivial
  | clear =>
    cases ht
    exact iff_of_true ((right_build_iff h).mpr fun _ _ _ r hr => by cases hr) trivial
  | mount index =>
    obtain ⟨-, ht⟩ := Option.ite_none_right_eq_some.mp ht
    obtain ⟨text, htext, rfl⟩ := Option.map_eq_some_iff.mp ht
    obtain ⟨r, hr, htext⟩ := Option.bind_eq_some_iff.mp htext
    constructor
    · intro ht r' hr'
      cases hr.symm.trans hr'
      obtain ⟨r₁, hr₁, hreads⟩ := ht index _ Slots.put_self
      cases hr.symm.trans hr₁
      exact hreads.whole
    · exact fun hg => Slots.All.put h ⟨r, hr, reads_initState (hg r hr) htext⟩
  | dispose index =>
    cases ht
    exact iff_of_true (Slots.All.drop h) trivial
  | typeQty index value =>
    obtain ⟨field, hfield, ht⟩ := Option.bind_eq_some_iff.mp ht
    exact right_onChanged h hfield ht
  | update index =>
    obtain ⟨field, hfield, ht⟩ := Option.bind_eq_some_iff.mp ht
    obtain ⟨-, ht⟩ := Option.ite_none_right_eq_some.mp ht
    cases ht
    obtain ⟨r, hr, hreads⟩ := h index field hfield
    exact iff_of_true (Slots.All.put h ⟨r, hr, reads_update hreads⟩) trivial
  | remove index =>
    obtain ⟨-, ht⟩ := Option.ite_none_right_eq_some.mp ht
    obtain ⟨table, htable, rfl⟩ := Option.map_eq_some_iff.mp ht
    obtain ⟨-, htable⟩ := Option.ite_none_right_eq_some.mp htable
    cases htable
    exact right_remove h rfl
  | rebuild =>
    cases ht
    exact iff_of_true (h.build List.prefix_rfl) trivial
  | save passes link succeeds => exact right_save h ht
  | leave =>
    cases ht
    exact iff_of_true Slots.all_empty trivial

theorem sendsRead_step (h : Right s) (ht : s.step e = some t) : SendsRead s e t ↔ Guard s e := by
  refine ⟨fun hsends => (right_step h ht).mp hsends.right, fun hg => ⟨(right_step h ht).mpr hg, fun items hitems => ?_⟩⟩
  cases e with
  | save passes link succeeds => exact sends_save h hitems
  | _ => cases hitems

end NextApp.ItemFields
