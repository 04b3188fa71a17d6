import NextApp.Model.ItemTable

/-! # The text fields of numbers

A field checks its text with one parser of Dart and stores it with another. Its `onChanged` runs whether the text passes
the check or not; its `onSave` runs when the form is saved. -/

namespace NextApp

/-! ### Validators: `none` accepts the text -/

/-- The toast that rejects the text. -/
def numberValidationToast (value field : String) (isInt isReturn : Bool) : Option String :=
  if value.isEmpty then some (field ++ " is required")
  else
    match if isInt then (intOfText value).map Num.int else (doubleTryParse value).map Num.double with
    | none => some (value ++ " is not a valid " ++ field)
    | some theNum =>
      if theNum < 0 ∧ isReturn = false then some (value ++ " is not a valid " ++ field) else none

/-- The validator that a text field has. -/
def textFieldValidator (disableValidation disableError : Bool) (validator : Option (String → Option String))
    (value : String) : Option String :=
  if disableValidation then none
  else
    match validator with
    | some validator => validator value
    | none => if value.isEmpty then some (if disableError then "" else "This field is required") else none

/-! ### Fields -/

structure NumericField (σ : Type) where
  validator : String → Option String
  onChanged : String → σ → Outcome σ
  onSave : Option (String → σ → Outcome σ)
  /-- the number that the field shows, where there is one -/
  stored : σ → Option Num

namespace NumericField

def handlers {σ : Type} (f : NumericField σ) : List (String → σ → Outcome σ) := f.onChanged :: f.onSave.toList

/-- The quantity of a row of `AddItemsWidget`: the row keeps the quantity when its amount cannot be computed. -/
def qty : NumericField (ItemRow Num) where
  validator := textFieldValidator false true (some fun value => numberValidationToast value "Quantity" true true)
  onChanged value row := Outcome.need row (intOfText value) row.changeQty
  onSave := none
  stored row := row.qty

/-- `data[key] = int.parse(value)` -/
def parseInto (key value : String) (data : Doc) : Outcome Doc :=
  Outcome.need data (intOfText value) fun i => .done (data.set key (.int i))

def intField (key : String) (validator : Option (String → Option String)) : NumericField Doc where
  validator := textFieldValidator false true validator
  onChanged := parseInto key
  onSave := some (parseInto key)
  stored data := (Doc.at data key).asNum?

def loanAmount : NumericField Doc :=
  intField "loan_amount" (some fun value => numberValidationToast value "Loan Amount" false false)

def repaymentAmount : NumericField Doc := intField "repayment_amount" none

def repaymentPeriods : NumericField Doc := intField "repayment_periods" none

/-- The amounts of a row of `SelectedAccountsList`. -/
structure AccountAmounts where
  debitInAccountCurrency : Float
  creditInAccountCurrency : Float
deriving DecidableEq

/-- Both amounts are checked as the credit. -/
def accountField (get : AccountAmounts → Float) (set : Float → AccountAmounts → AccountAmounts) :
    NumericField AccountAmounts where
  validator := textFieldValidator false true (some fun value => numberValidationToast value "Credit" false false)
  onChanged value account := Outcome.need account (doubleTryParse value) fun x => .done (set x account)
  onSave := some fun value account => Outcome.need account (doubleTryParse value) fun x => .done (set x account)
  stored account := some (.double (get account))

def debit : NumericField AccountAmounts :=
  accountField AccountAmounts.debitInAccountCurrency fun x account => { account with debitInAccountCurrency := x }

def credit : NumericField AccountAmounts :=
  accountField AccountAmounts.creditInAccountCurrency fun x account => { account with creditInAccountCurrency := x }

/-- A row of `SelectedUOMsList`, and the factor that its next rows start from. -/
structure UomFactors where
  initUOM : Float
  conversionFactor : Float
deriving DecidableEq

/-- The validation is disabled, so that its validator is never asked. -/
def conversionFactor : NumericField UomFactors where
  validator := textFieldValidator true true (some fun value => numberValidationToast value "Conversion Factor" false false)
  onChanged value uom := Outcome.need uom (doubleTryParse value) fun x => .done ⟨x, x⟩
  onSave := some fun value uom => Outcome.need uom (doubleTryParse value) fun x => .done { uom with conversionFactor := x }
  stored uom := some (.double uom.conversionFactor)

end NumericField

end NextApp
