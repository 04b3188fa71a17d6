import NextApp.Lib.DateText
import NextApp.Lib.Runs
import NextApp.Model.RowForm

/-! # The expense claim form

The rows that `SelectedExpensesList` shows and edits, the map of taxes beside them, and what `submit` makes of both.
`InheritedExpenseForm` is one widget for all expense claims: a form opens with what the one before it has left. The
totals are computed once, in a timer that `_Totals` starts when the list is opened. -/

namespace NextApp

/-- The id of a row is only the key of its widget. -/
structure ExpenseModel where
  expenseName : String
  expenseDate : String
  expenseClaimType : String
  amount : Float
  sanctionedAmount : Float
  description : String
  costCenter : String
deriving DecidableEq

namespace ExpenseModel

/-- `parse` is `DateTime.parse(...).toString()`, none when it throws. -/
def fromJson (parse : String → Option String) (json : Doc) : Option ExpenseModel :=
  ((Doc.at json "id").textOr? "").bind fun _ =>
  ((Doc.at json "name").textOr? "").bind fun expenseName =>
  (((Doc.at json "expense_date").textOr? "none").bind parse).bind fun expenseDate =>
  ((Doc.at json "expense_type").textOr? "none").bind fun expenseClaimType =>
  ((Doc.at json "amount").doubleOr? 0).bind fun amount =>
  ((Doc.at json "sanctioned_amount").doubleOr? 0).bind fun sanctionedAmount =>
  ((Doc.at json "description").textOr? "none").bind fun description =>
  ((Doc.at json "cost_center").textOr? "none").map fun costCenter =>
    { expenseName, expenseDate, expenseClaimType, amount, sanctionedAmount, description, costCenter }

/-- `DateTime.parse(value).toString()` -/
def dateText (value : String) : Option String := (DateText.parse value).map DateText.DateTime.toString

def toJson (e : ExpenseModel) : Doc :=
  [("expense_date", .str e.expenseDate), ("expense_type", .str e.expenseClaimType), ("amount", .double e.amount),
    ("sanctioned_amount", .double e.sanctionedAmount), ("description", .str e.description),
    ("cost_center", .str e.costCenter)]

/-- The loop of `initState` over `data['expenses']`: it throws at the first row that is no expense. -/
def load (parse : String → Option String) : List Value → Outcome (List ExpenseModel)
  | [] => .done []
  | element :: elements =>
    match element.asMap?.bind (fromJson parse) with
    | none => .threw []
    | some expense => (load parse elements).map (expense :: ·)

end ExpenseModel

/-- What `updateData` has for the form: the rows of the claim, none when they are null, and its taxes. -/
structure ClaimPage where
  expenses : Option (List Value)
  taxes : List (ItemRow Num)

structure ExpenseForm where
  expense : List ExpenseModel
  taxData : Doc
  /-- `data['taxes']` -/
  taxes : List (ItemRow Num)
  /-- the list's `initExpense`, without the amounts: they are null -/
  initExpense : Doc
deriving DecidableEq

namespace ExpenseForm

/-! ### Opening -/

/-- `rate.toString()`, where a number is kept. -/
def rateText : Option Num → Value
  | none => .str "null"
  | some rate => .ofNum rate

/-- The timer of the form, to edit or to duplicate a claim. -/
def load (parse : String → Option String) (page : ClaimPage) (s : ExpenseForm) : ExpenseForm :=
  let s := { s with taxes := page.taxes, expense := [] }
  match page.expenses with
  | none => s
  | some elements =>
    match ExpenseModel.load parse elements with
    | .threw expense => { s with expense }
    | .done expense =>
      match page.taxes with
      | [] => { s with expense }
      | tax :: _ => { s with expense, taxData := s.taxData.set "rate" (rateText tax.rate) }

/-- The timer of the list, for every other form. -/
def clear (s : ExpenseForm) : ExpenseForm := { s with expense := [], taxData := [] }

/-- One turn of the loop of `_Totals`. -/
def addExpense (totals : Float × Doc) (expense : ExpenseModel) : Float × Doc :=
  let totalSanctionedAmount := totals.1 + expense.amount
  let rate := ((Doc.at totals.2 "rate").tryParse).getD 0
  let totalTaxesAndCharges := totalSanctionedAmount * (rate / 100)
  let grandTotal := totalSanctionedAmount + totalTaxesAndCharges
  (totalSanctionedAmount, (totals.2.set "tax_amount" (.double totalTaxesAndCharges)).set "total" (.double grandTotal))

/-- The timer of `_Totals`. -/
def totals (s : ExpenseForm) : ExpenseForm := { s with taxData := (s.expense.foldl addExpense (0, s.taxData)).2 }

/-- The form after the timers of its opening: `page` when `isEditing` or `duplicateMode` is up. -/
def opened (parse : String → Option String) (page : Option ClaimPage) (defaultTax : List (ItemRow Num)) (initExpense : Doc)
    (left : ExpenseForm) : ExpenseForm :=
  let s := { left with taxes := defaultTax, initExpense }
  match page with
  | none => s.clear.totals
  | some page => (s.load parse page).totals

end ExpenseForm

/-! ### Events -/

/-- What the handlers of the list do, and those of its fields: a field saves its text when the form is saved. -/
inductive ExpenseEvent where
  /-- the two requests of `didChangeDependencies` -/
  | companyCostCenter (value : Value)
  | taxCostCenter (value : Value)
  | add
  | clearAll
  | remove (index : Nat)
  | rate (value : String)
  | saveRate (value : String)
  | expenseDate (index : Nat) (value : String)
  /-- what the picker returns, or the text that the field saves -/
  | expenseType (index : Nat) (res : Option String)
  | amount (index : Nat) (value : String)
  | saveAmount (index : Nat) (value : String)
  | description (index : Nat) (value : String)
  | costCenter (index : Nat) (res : Option Doc)
  | saveCostCenter (index : Nat) (value : String)
  | submit
deriving DecidableEq

namespace ExpenseForm

/-- A handler of the row at the index. -/
def editRow (s : ExpenseForm) (index : Nat) (f : ExpenseModel → ExpenseModel) : Option ExpenseForm :=
  s.expense[index]?.map fun expense => { s with expense := s.expense.set index (f expense) }

/-- The values that `submit` writes into the first row of the taxes. -/
def tax (s : ExpenseForm) : TaxData where
  rate := (if Doc.at s.taxData "rate" = .null then some 0 else (Doc.at s.taxData "rate").tryParse).map .double
  costCenter := Doc.at s.taxData "cost_center"
  total := Doc.at s.taxData "total"
  taxAmount := Doc.at s.taxData "tax_amount"

/-- What `submit` sends as `expenses` and as `taxes`: without a row of taxes it throws. -/
def submitted (s : ExpenseForm) : Option (List Doc × List (ItemRow Num)) :=
  match s.taxes with
  | [] => none
  | row :: rows => some (s.expense.map ExpenseModel.toJson, s.tax.write row :: rows)

def submit (s : ExpenseForm) : ExpenseForm := { s with taxes := (s.submitted.map Prod.snd).getD s.taxes }

def step (parse : String → Option String) (s : ExpenseForm) : ExpenseEvent → Option ExpenseForm
  | .companyCostCenter value => some { s with initExpense := s.initExpense.set "cost_center" value }
  | .taxCostCenter value => some { s with taxData := s.taxData.set "cost_center" value }
  | .add => some { s with expense := s.expense ++ (ExpenseModel.fromJson parse s.initExpense).toList }
  | .clearAll => if s.expense = [] then none else some { s with expense := [], taxData := [] }
  | .remove index => if index < s.expense.length then some { s with expense := s.expense.eraseIdx index } else none
  | .rate value => if s.expense = [] then none else some { s with taxData := s.taxData.set "rate" (.str value) }
  | .saveRate value => if s.expense = [] then none else some { s with taxData := s.taxData.set "key" (.str value) }
  | .expenseDate index value => s.editRow index fun expense => { expense with expenseDate := value }
  | .expenseType index res =>
    s.editRow index fun expense => { expense with expenseClaimType := res.getD expense.expenseClaimType }
  | .amount index value =>
    s.editRow index fun expense =>
      (doubleTryParse value).elim expense fun amount => { expense with amount, sanctionedAmount := amount }
  | .saveAmount index value =>
    s.editRow index fun expense => (doubleTryParse value).elim expense fun amount => { expense with amount }
  | .description index value => s.editRow index fun expense => { expense with description := value }
  | .costCenter index res =>
    match res.bind fun res => (Doc.at res "round_off_cost_center").asString? with
    | none => s.editRow index id
    | some costCenter =>
      (s.editRow index fun expense => { expense with costCenter }).map fun s =>
        { s with taxData := s.taxData.set "cost_center" (.str costCenter) }
  | .saveCostCenter index value => s.editRow index fun expense => { expense with costCenter := value }
  | .submit => some s.submit

end ExpenseForm

end NextApp
