import Mathlib.Tactic.Linarith
import NextApp.Lib.Runs
import NextApp.Model.ItemTable

/-! # The amounts of the item table

The amount of a row is written by hand wherever its quantity or its rate is, except in the submit of a return, which
turns the quantity alone. So the amounts stay due until a return is submitted with a row that costs something. -/

namespace NextApp.ItemTables
variable {r : ItemRow ℚ} {rows : List (ItemRow ℚ)} {s t : ItemTable} {e : ItemEvent}

def due (r : ItemRow ℚ) : ℚ := r.qty.getD 0 * r.rate.getD 0

/-- Every amount is due, and the total shown is the sum of them. -/
def TableDue (s : ItemTable) : Prop :=
  (∀ r ∈ s.newItemList, AmountDue r) ∧ netTotal s.newItemList = some (s.newItemList.map due).sum

/-- The rows of a document have a quantity and a rate, and when a return is submitted its rows with a quantity to
    turn cost nothing. -/
def KeepsDue (s : ItemTable) : ItemEvent → Prop
  | .loadDocument row => row.qty ≠ none ∧ row.rate ≠ none
  | .submit passes _ =>
    passes = true → s.isReturn = some 1 → ∀ r ∈ s.newItemList, ∀ qty ∈ r.qty, 0 < qty → r.rate = some 0
  | _ => True

/-! ### Rows -/

theorem amount_of_due (h : AmountDue r) : r.amount = some (due r) := by
  obtain ⟨qty, rate, hqty, hrate, hamount⟩ := h
  rw [hamount, due, hqty, hrate]
  rfl

theorem netTotal_of_due (h : ∀ r ∈ rows, AmountDue r) : netTotal rows = some (rows.map due).sum := by
  have hfold : ∀ total : ℚ, rows.foldlM (fun netTotal item => item.amount.map (netTotal + ·)) total =
      some (total + (rows.map due).sum) := by
    induction rows with
    | nil => simp
    | cons r rows ih =>
      intro total
      obtain ⟨hr, hrows⟩ := List.forall_mem_cons.mp h
      rw [List.foldlM_cons, amount_of_due hr]
      simp only [Option.map_some, Option.bind_eq_bind, Option.bind_some, ih hrows, List.map_cons, List.sum_cons, add_assoc]
  rw [netTotal, hfold, zero_add]

theorem numbers_of_due (h : AmountDue r) : r.qty ≠ none ∧ r.rate ≠ none := by
  obtain ⟨qty, rate, hqty, hrate, -⟩ := h
  simp [hqty, hrate]

theorem amountDue_setAmount_iff : AmountDue r.setAmount.state ↔ r.qty ≠ none ∧ r.rate ≠ none := by
  unfold ItemRow.setAmount
  split
  · rename_i qty rate hqty hrate
    exact iff_of_true ⟨qty, rate, hqty, hrate, rfl⟩ (by simp [hqty, hrate])
  · rename_i hnone
    refine ⟨numbers_of_due, fun ⟨hqty, hrate⟩ => ?_⟩
    obtain ⟨qty, hqty⟩ := Option.ne_none_iff_exists'.mp hqty
    obtain ⟨rate, hrate⟩ := Option.ne_none_iff_exists'.mp hrate
    exact absurd hrate (hnone qty rate hqty)

theorem amountDue_changeQty (h : AmountDue r) (value : Int) : AmountDue (r.changeQty value).state :=
  amountDue_setAmount_iff.mpr ⟨Option.some_ne_none _, (numbers_of_due h).2⟩

theorem mem_modify {f : ItemRow ℚ → ItemRow ℚ} {index : Nat} (h : r ∈ rows.modify index f) :
    r ∈ rows ∨ ∃ r' ∈ rows, r = f r' := by
  obtain ⟨i, hi⟩ := List.mem_iff_getElem?.mp h
  rw [List.getElem?_modify, Option.map_eq_map, Option.map_eq_some_iff] at hi
  obtain ⟨r', hr', rfl⟩ := hi
  have hmem : r' ∈ rows := List.mem_of_getElem? hr'
  split
  · exact Or.inr ⟨r', hmem, rfl⟩
  · exact Or.inl hmem

@[simp] theorem amountDue_setOther (key : String) (value : Value) : AmountDue (r.setOther key value) ↔ AmountDue r :=
  Iff.rfl

def turned (r : ItemRow ℚ) : ItemRow ℚ :=
  if 0 < r.qty.getD 0 then { r with qty := r.qty.map (· * -1), stockQty := r.stockQty.map (· * -1) } else r

theorem turn_of_due (h : AmountDue r) : salesInvoiceForm.turn (some 1) r = .done (turned r) := by
  obtain ⟨qty, rate, hqty, -⟩ := h
  simp only [salesInvoiceForm, hqty, if_true, turned, Option.getD_some]
  split <;> rfl

/-- A turned row keeps its amount, which is due when there was nothing to turn or to pay. -/
theorem amountDue_turned_iff (h : AmountDue r) : AmountDue (turned r) ↔ ∀ qty ∈ r.qty, 0 < qty → r.rate = some 0 := by
  obtain ⟨qty, rate, hqty, hrate, hamount⟩ := h
  simp only [hqty, hrate, Option.mem_def, Option.some.injEq, forall_eq']
  unfold turned
  rw [hqty, Option.getD_some]
  split
  · rename_i hpos
    refine ⟨fun hdue _ => ?_, fun hzero => ⟨qty * -1, rate, by simp, hrate, ?_⟩⟩
    · obtain ⟨qty', rate', hqty', hrate', hamount'⟩ := hdue
      have hq : qty * -1 = qty' := by simpa using hqty'
      have hr : rate = rate' := Option.some.inj (hrate.symm.trans hrate')
      have ha : qty * rate = qty' * rate' := Option.some.inj (hamount.symm.trans hamount')
      rw [← hq, ← hr] at ha
      have hsum : qty * rate = 0 := by linarith
      exact (mul_eq_zero.mp hsum).resolve_left hpos.ne'
    · rw [hzero hpos] at hamount ⊢
      simpa using hamount
  · rename_i hneg
    exact iff_of_true ⟨qty, rate, hqty, hrate, hamount⟩ fun hpos => absurd hpos hneg

theorem writeRows_return (h : ∀ r ∈ rows, AmountDue r) (link : Value) :
    salesInvoiceForm.writeRows (some 1) link rows =
      .done ((rows.map turned).map fun r => r.setOther salesInvoiceForm.link link) := by
  rw [ReturnForm.writeRows, Outcome.each_of_done fun r hr => turn_of_due (h r hr), Outcome.bind_done]
  rfl

theorem writeRows_sale {isReturn : Option ℚ} (h : isReturn ≠ some 1) (link : Value) :
    salesInvoiceForm.writeRows isReturn link rows = .done (rows.map fun r => r.setOther salesInvoiceForm.link link) := by
  have hturn : ∀ r ∈ rows, salesInvoiceForm.turn isReturn r = .done (id r) := fun r _ => by
    simp only [salesInvoiceForm, if_neg h, id]
  rw [ReturnForm.writeRows, Outcome.each_of_done hturn, Outcome.bind_done, List.map_id]
  rfl

theorem due_writeRows_iff (h : ∀ r ∈ rows, AmountDue r) (isReturn : Option ℚ) (link : Value) :
    (∀ r ∈ (salesInvoiceForm.writeRows isReturn link rows).state, AmountDue r) ↔
      (isReturn = some 1 → ∀ r ∈ rows, ∀ qty ∈ r.qty, 0 < qty → r.rate = some 0) := by
  by_cases hreturn : isReturn = some 1
  · rw [hreturn, writeRows_return h link]
    simp only [Outcome.state_done, List.forall_mem_map, amountDue_setOther, forall_true_left]
    exact forall₂_congr fun r hr => amountDue_turned_iff (h r hr)
  · rw [writeRows_sale hreturn]
    simp only [Outcome.state_done, List.forall_mem_map, amountDue_setOther]
    exact iff_of_true h fun hr => absurd hr hreturn

/-! ### Steps -/

theorem due_step_iff (hs : ∀ r ∈ s.newItemList, AmountDue r) (h : s.step e = some t) :
    (∀ r ∈ t.newItemList, AmountDue r) ↔ KeepsDue s e := by
  cases e with
  | pick item =>
    cases h
    refine iff_of_true (fun r hr => ?_) trivial
    rw [setItemToList, Outcome.state_map, List.mem_append, List.mem_singleton] at hr
    rcases hr with hr | rfl
    · exact hs r hr
    · exact amountDue_setAmount_iff.mpr ⟨Option.some_ne_none _, Option.some_ne_none _⟩
  | loadDocument row =>
    cases h
    refine Iff.trans ?_ amountDue_setAmount_iff
    rw [setItemToList, Outcome.state_map, List.forall_mem_append, List.forall_mem_singleton]
    exact and_iff_right hs
  | loadSource sources =>
    cases h
    refine iff_of_true (fun r hr => ?_) trivial
    rcases List.mem_append.mp hr with hr | hr
    · exact hs r hr
    · obtain ⟨source, -, rfl⟩ := List.mem_map.mp hr
      exact source.amountDue
  | changeQty index value =>
    rw [ItemTable.step] at h
    split at h
    · cases h
      refine iff_of_true (fun r hr => ?_) trivial
      rcases mem_modify hr with hr | ⟨r', hr', rfl⟩
      · exact hs r hr
      · cases value with
        | none => exact hs r' hr'
        | some value => exact amountDue_changeQty (hs r' hr') value
    · cases h
  | remove index =>
    rw [ItemTable.step] at h
    split at h
    · cases h
      exact iff_of_true (fun r hr => hs r (List.mem_of_mem_eraseIdx hr)) trivial
    · cases h
  | setReturn value =>
    cases h
    exact iff_of_true hs trivial
  | submit passes link =>
    rw [ItemTable.step] at h
    split at h
    · rename_i hpasses
      cases h
      rw [due_writeRows_iff hs, KeepsDue, forall_prop_of_true hpasses]
    · rename_i hpasses
      cases h
      exact iff_of_true hs fun hp => absurd hp hpasses
  | leave =>
    cases h
    exact iff_of_true (fun r hr => absurd hr List.not_mem_nil) trivial

end NextApp.ItemTables
