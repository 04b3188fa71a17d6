import NextApp.Model.ExpenseClaim

/-! # The totals of an expense claim

The totals that a claim submits are those of the rows and the rate it was opened with: no event computes them again, and
Clear All drops them. Sums and products are those of doubles. -/

namespace NextApp.ExpenseForm
open Runs

variable {parse : String → Option String} {page : ClaimPage} {s t left : ExpenseForm} {e : ExpenseEvent}
  {es : List ExpenseEvent}

def sumOf (rows : List ExpenseModel) : Float := rows.foldl (fun sum expense => sum + expense.amount) 0

/-- The sum of the amounts of the rows as they are sent. -/
def sentSum (expenses : List Doc) : Float :=
  expenses.foldl (fun sum json => sum + ((Doc.at json "amount").doubleOr? 0).getD 0) 0

/-- The amount of the tax, and the total with it. -/
def totalsOf (sum tax : Float) : (Number ⊕ Value) × (Number ⊕ Value) :=
  (.inl (.ofDouble tax), .inl (.ofDouble (sum + tax)))

/-- The totals that a map has, whether as integers or as doubles. -/
def totalsIn (d : Doc) : (Number ⊕ Value) × (Number ⊕ Value) :=
  ((Doc.at d "tax_amount").untyped, (Doc.at d "total").untyped)

/-- The first row of the taxes has the amount of the tax and the total of the rows and the rate beside it. -/
def TotalsRight (expenses : List Doc) (taxes : List (ItemRow Num)) : Prop :=
  ∃ row ∈ taxes.head?, ∃ rate ∈ row.rate,
    totalsIn row.others = totalsOf (sentSum expenses) (sentSum expenses * rate.toDouble / 100)

instance (expenses : List Doc) (taxes : List (ItemRow Num)) : Decidable (TotalsRight expenses taxes) :=
  inferInstanceAs (Decidable (∃ row ∈ taxes.head?, ∃ rate ∈ row.rate, _ = _))

/-- The totals that wait in `taxData` for the submit. -/
def waiting (s : ExpenseForm) : (Number ⊕ Value) × (Number ⊕ Value) := totalsIn s.taxData

/-- The rate as the totals read it. -/
def rateOf (d : Doc) : Float := ((Doc.at d "rate").tryParse).getD 0

/-! ### What a submit sends -/

theorem sentSum_toJson (rows : List ExpenseModel) : sentSum (rows.map ExpenseModel.toJson) = sumOf rows := by
  rw [sentSum, sumOf, List.foldl_map]
  rfl

theorem write_tax (tax : TaxData) (row : ItemRow Num) :
    (tax.write row).rate = tax.rate ∧ Doc.at (tax.write row).others "total" = tax.total ∧
      Doc.at (tax.write row).others "tax_amount" = tax.taxAmount := by
  refine ⟨rfl, ?_, ?_⟩ <;> simp [TaxData.write, ItemRow.setOther]

theorem totalsRight_submitted {expenses : List Doc} {taxes : List (ItemRow Num)} (h : s.submitted = some (expenses, taxes)) :
    TotalsRight expenses taxes ↔
      ∃ rate, s.tax.rate = some rate ∧ s.waiting = totalsOf (sumOf s.expense) (sumOf s.expense * rate.toDouble / 100) := by
  unfold submitted at h
  split at h
  · cases h
  · next row rows _ =>
    cases h
    obtain ⟨hrate, htotal, htax⟩ := write_tax s.tax row
    simp only [TotalsRight, List.head?_cons, Option.mem_some_iff, exists_eq_left', sentSum_toJson, hrate, totalsIn,
      htotal, htax, waiting]
    rfl

/-! ### What an opening computes -/

/-- The last turn of the loop leaves the totals of all rows. -/
theorem totalsIn_foldl_addExpense (rows : List ExpenseModel) (sum : Float) (d : Doc) (h : rows ≠ []) :
    let all := rows.foldl (fun sum expense => sum + expense.amount) sum
    totalsIn (rows.foldl addExpense (sum, d)).2 = totalsOf all (all * (rateOf d / 100)) := by
  induction rows generalizing sum d with
  | nil => exact absurd rfl h
  | cons row rows ih =>
    have hrate : rateOf (addExpense (sum, d) row).2 = rateOf d := by simp [rateOf, addExpense]
    have hsum : (addExpense (sum, d) row).1 = sum + row.amount := rfl
    cases rows with
    | nil => simp [addExpense, totalsIn, totalsOf, rateOf, Value.untyped, Value.asNum?, Num.number]
    | cons row' rows =>
      have hlast := ih (addExpense (sum, d) row).1 (addExpense (sum, d) row).2 (List.cons_ne_nil _ _)
      rw [hrate, hsum] at hlast
      exact hlast

theorem totals_of_nil (h : s.expense = []) : s.totals = s := by
  obtain ⟨_, _, _, _⟩ := s
  obtain rfl := h
  rfl

theorem waiting_totals (h : s.expense ≠ []) :
    s.totals.waiting = totalsOf (sumOf s.expense) (sumOf s.expense * (rateOf s.taxData / 100)) :=
  totalsIn_foldl_addExpense s.expense 0 s.taxData h

theorem waiting_load : (s.load parse page).waiting = s.waiting := by
  unfold load
  dsimp only
  split
  · rfl
  · split
    · rfl
    · split
      · rfl
      · simp [waiting, totalsIn]

/-! ### What the events leave -/

theorem waiting_editRow {index : Nat} {f : ExpenseModel → ExpenseModel} (h : s.editRow index f = some t) :
    t.waiting = s.waiting := by
  obtain ⟨_, _, rfl⟩ := Option.map_eq_some_iff.mp h
  rfl

theorem waiting_step (h : step parse s e = some t) (he : e ≠ .clearAll) : t.waiting = s.waiting := by
  cases e with
  | clearAll => exact absurd rfl he
  | companyCostCenter _ | add | submit =>
    cases h
    rfl
  | taxCostCenter _ =>
    cases h
    simp [waiting, totalsIn]
  | remove index =>
    obtain ⟨_, h⟩ := Option.ite_none_right_eq_some.mp h
    cases h
    rfl
  | rate _ | saveRate _ =>
    obtain ⟨_, h⟩ := Option.ite_none_left_eq_some.mp h
    cases h
    simp [waiting, totalsIn]
  | expenseDate _ _ | expenseType _ _ | amount _ _ | saveAmount _ _ | description _ _ | saveCostCenter _ _ =>
    exact waiting_editRow h
  | costCenter index res =>
    simp only [step] at h
    split at h
    · exact waiting_editRow h
    · obtain ⟨u, hu, rfl⟩ := Option.map_eq_some_iff.mp h
      exact Eq.trans (by simp [waiting, totalsIn]) (waiting_editRow hu)

theorem waiting_clearAll (h : step parse s .clearAll = some t) : t.waiting = (.inr .null, .inr .null) := by
  obtain ⟨_, h⟩ := Option.ite_none_left_eq_some.mp h
  cases h
  rfl

theorem waiting_run (h : run (step parse) s es = some t) :
    (.clearAll ∉ es → t.waiting = s.waiting) ∧ (.clearAll ∈ es → t.waiting = (.inr .null, .inr .null)) := by
  induction es generalizing s with
  | nil =>
    cases h
    exact ⟨fun _ => rfl, fun hmem => absurd hmem List.not_mem_nil⟩
  | cons e es ih =>
    obtain ⟨u, hu, h⟩ := Option.bind_eq_some_iff.mp h
    obtain ⟨hkeep, hdrop⟩ := ih h
    constructor
    · intro hnot
      obtain ⟨hne, hrest⟩ := List.ne_and_not_mem_of_not_mem_cons hnot
      exact (hkeep hrest).trans (waiting_step hu (Ne.symm hne))
    · intro hmem
      by_cases hrest : .clearAll ∈ es
      · exact hdrop hrest
      · obtain rfl : .clearAll = e := (List.mem_cons.mp hmem).resolve_right hrest
        exact (hkeep hrest).trans (waiting_clearAll hu)

/-! ### When the totals are right -/

/-- What the totals of the opening are computed from gives the totals of the sum and the rate that are submitted: the rows
    and the rate that have been loaded, or, where no row has been loaded, what the form before has left. -/
def OpenedWith (parse : String → Option String) (page : ClaimPage) (s : ExpenseForm) (sum rate : Float) : Prop :=
  let loaded := s.load parse page
  let due := totalsOf sum (sum * rate / 100)
  if loaded.expense = [] then s.waiting = due
  else totalsOf (sumOf loaded.expense) (sumOf loaded.expense * (rateOf loaded.taxData / 100)) = due

instance (parse : String → Option String) (page : ClaimPage) (s : ExpenseForm) (sum rate : Float) :
    Decidable (OpenedWith parse page s sum rate) :=
  inferInstanceAs (Decidable (if (s.load parse page).expense = [] then s.waiting = _ else _ = _))

theorem waiting_opened_some (defaultTax : List (ItemRow Num)) (initExpense : Doc) (sum rate : Float) :
    (opened parse (some page) defaultTax initExpense left).waiting = totalsOf sum (sum * rate / 100) ↔
      OpenedWith parse page { left with taxes := defaultTax, initExpense } sum rate := by
  rw [opened, OpenedWith]
  split_ifs with hnil
  · rw [totals_of_nil hnil, waiting_load]
  · rw [waiting_totals hnil]

/-- The totals submitted are those of the rows and the rate submitted exactly when the form edits or duplicates a claim,
    Clear All has not been pressed, and the form was opened with the same totals. -/
theorem totalsRight_iff (parse : String → Option String) (mode : Option ClaimPage) (defaultTax : List (ItemRow Num))
    (initExpense : Doc) (left : ExpenseForm) (es : List ExpenseEvent) {expenses : List Doc} {taxes : List (ItemRow Num)}
    (hrun : run (step parse) (opened parse mode defaultTax initExpense left) es = some s)
    (hsubmit : s.submitted = some (expenses, taxes)) :
    TotalsRight expenses taxes ↔
      ∃ page ∈ mode, .clearAll ∉ es ∧ ∃ rate, s.tax.rate = some rate ∧
        OpenedWith parse page { left with taxes := defaultTax, initExpense } (sumOf s.expense) rate.toDouble := by
  obtain ⟨hkeep, hdrop⟩ := waiting_run hrun
  have hnull : ∀ sum tax, ((.inr .null, .inr .null) : (Number ⊕ Value) × (Number ⊕ Value)) ≠ totalsOf sum tax := by
    simp [totalsOf]
  rw [totalsRight_submitted hsubmit]
  by_cases hclear : .clearAll ∈ es
  · rw [hdrop hclear]
    constructor
    · rintro ⟨rate, _, h⟩
      exact absurd h (hnull _ _)
    · rintro ⟨_, _, hnot, _⟩
      exact absurd hclear hnot
  · rw [hkeep hclear]
    cases mode with
    | none =>
      constructor
      · rintro ⟨rate, _, h⟩
        exact absurd h (hnull _ _)
      · rintro ⟨_, hnone, _⟩
        cases hnone
    | some page =>
      simp only [Option.mem_some_iff, exists_eq_left', waiting_opened_some, hclear, not_false_eq_true, true_and]

/-- The time of day that a date without one is given. -/
def midnight (date : String) : Option String := if date = "2024-05-01" then some "2024-05-01 00:00:00.000" else none

def emptyExpense : Doc :=
  [("expense_date", .str "2024-05-01"), ("expense_type", .str ""), ("description", .str ""), ("cost_center", .str "")]

/-- A claim of one row of 100. -/
def claimOf100 (rate : Int) : ClaimPage where
  expenses := some [.map (emptyExpense.set "amount" (.double 100))]
  taxes := [{ rate := some (.int rate) }]

def nothingLeft : ExpenseForm := ⟨[], [], [], []⟩

/-- A claim of 100 that is edited, with a rate that is typed again and a row that is added and removed. -/
theorem totalsRight_of_same_rows :
    ∃ p ∈ (run (step midnight) (opened midnight (some (claimOf100 5)) [] emptyExpense nothingLeft)
      [.rate "5", .add, .remove 1, .description 0 "taxi"]).bind submitted, TotalsRight p.1 p.2 := by
  have hrun : ∃ s ∈ run (step midnight) (opened midnight (some (claimOf100 5)) [] emptyExpense nothingLeft)
      [.rate "5", .add, .remove 1, .description 0 "taxi"],
      s.taxes.head?.isSome ∧ s.tax.rate = some (.double 5) ∧ sumOf s.expense = 100 := by decide +kernel
  obtain ⟨s, hs, htaxes, hrate, hsum⟩ := hrun
  obtain ⟨p, hp⟩ : ∃ p, s.submitted = some p := by
    unfold submitted
    split
    · next hnil => simp [hnil] at htaxes
    · exact ⟨_, rfl⟩
  refine ⟨p, Option.bind_eq_some_iff.mpr ⟨s, hs, hp⟩, ?_⟩
  refine (totalsRight_iff midnight (some (claimOf100 5)) [] emptyExpense nothingLeft _ hs hp).mpr ?_
  refine ⟨claimOf100 5, rfl, by simp, .double 5, hrate, ?_⟩
  rw [hsum]
  decide +kernel

/-- The first row of the taxes, as it is sent. -/
def sentTaxes (p : List Doc × List (ItemRow Num)) : List (Option Num × Value × Value) :=
  p.2.map fun row => (row.rate, Doc.at row.others "tax_amount", Doc.at row.others "total")

/-- A new claim of one row of 100 at 5 percent is sent without totals, a claim that is edited to 6 percent with those of
    5 percent, and one of 7 percent that nothing changes with the totals of 7 / 100, rounded. -/
theorem totals_of_opening :
    (∃ p ∈ (run (step midnight) (opened midnight none [{ rate := some (.int 15) }] emptyExpense nothingLeft)
      [.add, .amount 0 "100", .rate "5"]).bind submitted,
        ¬ TotalsRight p.1 p.2 ∧ sentTaxes p = [(some (.double 5), .null, .null)]) ∧
      (∃ p ∈ (run (step midnight) (opened midnight (some (claimOf100 5)) [] emptyExpense nothingLeft)
        [.rate "6"]).bind submitted,
          ¬ TotalsRight p.1 p.2 ∧ sentTaxes p = [(some (.double 6), .double 5, .double 105)]) ∧
      ∃ p ∈ (opened midnight (some (claimOf100 7)) [] emptyExpense nothingLeft).submitted,
        ¬ TotalsRight p.1 p.2 ∧ sentTaxes p = [(some (.double 7), .double 7.000000000000001, .double 107)] := by
  decide +kernel

end NextApp.ExpenseForm
