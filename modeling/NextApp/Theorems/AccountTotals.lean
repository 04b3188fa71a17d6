import NextApp.Model.AccountTotals

/-! # The totals of a journal entry

A build of the totals without rows writes nothing: the totals that are left are those of the last rows that were summed. -/

namespace NextApp.AccountTotals
open Runs

/-- The sum of the debits, added as doubles one row after the other. -/
def totalDebit (rows : List AccountModel) : Float :=
  rows.foldl (fun total account => total + account.debitInAccountCurrency) 0

def totalCredit (rows : List AccountModel) : Float :=
  rows.foldl (fun total account => total + account.creditInAccountCurrency) 0

/-- The totals in the map are these numbers. -/
def HasTotals (data : Doc) (debit credit : Float) : Prop :=
  (Doc.at data "total_debit").untyped = .inl (.ofDouble debit) ∧
    (Doc.at data "total_credit").untyped = .inl (.ofDouble credit)

instance (data : Doc) (debit credit : Float) : Decidable (HasTotals data debit credit) :=
  inferInstanceAs (Decidable (_ ∧ _))

/-- The totals are the sums of the fields of the rows, 0 when there are none. -/
def TotalsRight (s : AccountTotals) : Prop := HasTotals s.data (totalDebit s.account) (totalCredit s.account)

instance (s : AccountTotals) : Decidable s.TotalsRight := inferInstanceAs (Decidable (HasTotals _ _ _))

/-- The list with the rows that the totals were last computed from, none when that was before the run. -/
structure Summed where
  totals : AccountTotals
  rows : Option (List AccountModel)
deriving DecidableEq

def summedStep (s : Summed) (e : AccountTotalsEvent) : Option Summed :=
  (s.totals.step e).map fun t => ⟨t, if e = .build ∧ s.totals.account ≠ [] then some s.totals.account else s.rows⟩

/-- After a build the totals are right. -/
def BuildsRight (_ : Summed) (e : AccountTotalsEvent) (t : Summed) : Prop := e = .build → t.totals.TotalsRight

/-- Both sums of the rows are 0. -/
def Balanced (rows : List AccountModel) : Prop :=
  Number.ofDouble (totalDebit rows) = .finite 0 ∧ Number.ofDouble (totalCredit rows) = .finite 0

instance (rows : List AccountModel) : Decidable (Balanced rows) := inferInstanceAs (Decidable (_ ∧ _))

/-- A build without rows comes after one whose rows had sums of 0, or with totals of 0 left from before the run. -/
def BuildsRows (left : Doc) (s : Summed) (e : AccountTotalsEvent) : Prop :=
  e = .build → s.totals.account = [] →
    match s.rows with
    | some rows => Balanced rows
    | none => HasTotals left 0 0

variable {s t : AccountTotals} {u v : Summed} {e : AccountTotalsEvent} {es : List AccountTotalsEvent} {left : Doc}

/-! ### A build -/

theorem foldl_addAccount (rows : List AccountModel) (debit credit : Float) (data : Doc) (h : rows ≠ []) :
    let totals := rows.foldl addAccount (debit, credit, data)
    Doc.at totals.2.2 "total_debit" =
        .double (rows.foldl (fun total account => total + account.debitInAccountCurrency) debit) ∧
      Doc.at totals.2.2 "total_credit" =
        .double (rows.foldl (fun total account => total + account.creditInAccountCurrency) credit) := by
  induction rows generalizing debit credit data with
  | nil => exact absurd rfl h
  | cons row rows ih =>
    cases rows with
    | nil => simp [addAccount]
    | cons row' rows => exact ih _ _ _ (List.cons_ne_nil _ _)

theorem hasTotals_of_double {data : Doc} {debit credit : Float} (hdebit : Doc.at data "total_debit" = .double debit)
    (hcredit : Doc.at data "total_credit" = .double credit) : HasTotals data debit credit := by
  rw [HasTotals, hdebit, hcredit]
  exact ⟨rfl, rfl⟩

theorem totalsRight_build (h : s.account ≠ []) : s.build.TotalsRight := by
  obtain ⟨hdebit, hcredit⟩ := foldl_addAccount s.account 0 0 s.data h
  exact hasTotals_of_double hdebit hcredit

theorem build_of_nil (h : s.account = []) : s.build = s := by
  obtain ⟨_, _⟩ := s
  obtain rfl := h
  rfl

/-! ### The other events -/

theorem data_editRow {index : Nat} {value : String} {f : Float → AccountModel → AccountModel}
    (h : s.editRow index value f = some t) : t.data = s.data := by
  obtain ⟨account, -, rfl⟩ := Option.map_eq_some_iff.mp h
  cases doubleTryParse value <;> rfl

theorem data_step (h : s.step e = some t) (he : e ≠ .build) : t.data = s.data := by
  cases e with
  | build => exact absurd rfl he
  | add | submit =>
    cases h
    rfl
  | debit index value | credit index value => exact data_editRow h
  | dismiss index | clearAll =>
    rw [step] at h
    split at h <;> cases h
    rfl

/-! ### Runs -/

/-- The totals are those of the rows they were last computed from. -/
def Computed (left : Doc) (u : Summed) : Prop :=
  match u.rows with
  | some rows => HasTotals u.totals.data (totalDebit rows) (totalCredit rows)
  | none =>
    Doc.at u.totals.data "total_debit" = Doc.at left "total_debit" ∧
      Doc.at u.totals.data "total_credit" = Doc.at left "total_credit"

/-- Two pairs of numbers that the same map has as its totals are the same. -/
theorem hasTotals_iff {data : Doc} {debit credit debit' credit' : Float} (h : HasTotals data debit credit) :
    HasTotals data debit' credit' ↔
      Number.ofDouble debit = .ofDouble debit' ∧ Number.ofDouble credit = .ofDouble credit' := by
  rw [HasTotals, h.1, h.2, Sum.inl.injEq, Sum.inl.injEq]

theorem summedStep_cases (h : summedStep u e = some v) :
    (e ≠ .build ∧ v.totals.data = u.totals.data ∧ v.rows = u.rows) ∨
      (e = .build ∧ u.totals.account ≠ [] ∧ v = ⟨u.totals.build, some u.totals.account⟩) ∨
      (e = .build ∧ u.totals.account = [] ∧ v = u) := by
  obtain ⟨t, ht, rfl⟩ := Option.map_eq_some_iff.mp h
  by_cases he : e = .build
  · subst he
    cases ht
    by_cases hrows : u.totals.account = []
    · refine Or.inr (Or.inr ⟨rfl, hrows, ?_⟩)
      rw [if_neg fun hand => hand.2 hrows, build_of_nil hrows]
    · refine Or.inr (Or.inl ⟨rfl, hrows, ?_⟩)
      rw [if_pos ⟨rfl, hrows⟩]
  · exact Or.inl ⟨he, data_step ht he, if_neg fun hand => he hand.1⟩

theorem computed_step (hu : Computed left u) (h : summedStep u e = some v) : Computed left v := by
  rcases summedStep_cases h with ⟨-, hdata, hrows⟩ | ⟨-, hrows, rfl⟩ | ⟨-, -, rfl⟩
  · unfold Computed at hu ⊢
    rw [hdata, hrows]
    exact hu
  · exact totalsRight_build hrows
  · exact hu

theorem buildsRight_iff (hu : Computed left u) (h : summedStep u e = some v) :
    BuildsRight u e v ↔ BuildsRows left u e := by
  rcases summedStep_cases h with ⟨he, -, -⟩ | ⟨-, hrows, rfl⟩ | ⟨rfl, hrows, rfl⟩
  · exact iff_of_true (fun hbuild => absurd hbuild he) fun hbuild => absurd hbuild he
  · exact iff_of_true (fun _ => totalsRight_build hrows) fun _ hnil => absurd hnil hrows
  · have hright : v.totals.TotalsRight ↔ HasTotals v.totals.data 0 0 := by
      rw [TotalsRight, hrows]
      rfl
    have hzero : Number.ofDouble 0 = .finite 0 := rfl
    simp only [BuildsRight, BuildsRows, hright, hrows, true_imp_iff]
    unfold Computed at hu
    split at hu
    · rw [hasTotals_iff hu, hzero]
      exact Iff.rfl
    · rw [HasTotals, hu.1, hu.2]
      exact Iff.rfl

/-- In every run from any rows and any totals left by earlier forms, the totals are the sums of the rows after each build
    exactly when each build without rows comes after one of rows that sum to 0. -/
theorem buildsRight_run_iff (rows : List AccountModel) (left : Doc) (es : List AccountTotalsEvent) :
    Each summedStep BuildsRight ⟨⟨rows, left⟩, none⟩ es ↔ Guarded summedStep (BuildsRows left) ⟨⟨rows, left⟩, none⟩ es :=
  each_iff_guarded (I := Computed left) (fun _ _ _ hu h _ => computed_step hu h) (fun _ _ _ hu h => buildsRight_iff hu h)
    ⟨rfl, rfl⟩

/-- The totals of an entry of 5 stay after Clear All. -/
theorem totals_after_clearAll :
    ¬ Each summedStep BuildsRight ⟨⟨[], []⟩, none⟩ [.add, .debit 0 "5", .build, .clearAll, .build] := by
  intro h
  have hlast := ((((h _ rfl).2 _ rfl).2 _ rfl).2 _ rfl).2 _ rfl
  exact absurd (hlast.1 rfl) (by decide +kernel)

end NextApp.AccountTotals
