import NextApp.Lib.Runs
import NextApp.Model.JournalEntry

/-! # The totals of the account rows

`_Totals` of `SelectedAccountsList` writes the sums of the rows into `InheritedAccountForm.data` from inside its loop over
them. The rows and the map are those of one widget above all journal entries. -/

namespace NextApp

structure AccountTotals where
  account : List AccountModel
  data : Doc
deriving DecidableEq

inductive AccountTotalsEvent where
  | add
  /-- the text of a debit or credit field, as it is typed or saved -/
  | debit (index : Nat) (value : String)
  | credit (index : Nat) (value : String)
  /-- `onSubmit` of these fields: `setState` of the list -/
  | submit
  | dismiss (index : Nat)
  | clearAll
  /-- `_Totals.build` -/
  | build
deriving DecidableEq

namespace AccountTotals

/-- One turn of the loop of `build`, with the sums so far. -/
def addAccount (totals : Float × Float × Doc) (account : AccountModel) : Float × Float × Doc :=
  let totalDebit := totals.1 + account.debitInAccountCurrency
  let totalCredit := totals.2.1 + account.creditInAccountCurrency
  let data := totals.2.2.set "total_debit" (.double totalDebit)
  (totalDebit, totalCredit, data.set "total_credit" (.double totalCredit))

def build (s : AccountTotals) : AccountTotals := { s with data := (s.account.foldl addAccount (0, 0, s.data)).2.2 }

/-- A handler of the row at the index; `double.tryParse(value)!` throws for a text that is no number. -/
def editRow (s : AccountTotals) (index : Nat) (value : String) (f : Float → AccountModel → AccountModel) : Option AccountTotals :=
  s.account[index]?.map fun account =>
    (doubleTryParse value).elim s fun amount => { s with account := s.account.set index (f amount account) }

def step (s : AccountTotals) : AccountTotalsEvent → Option AccountTotals
  | .add => some { s with account := s.account ++ [.blank] }
  | .debit index value =>
    s.editRow index value fun amount account => { account with debitInAccountCurrency := amount }
  | .credit index value =>
    s.editRow index value fun amount account => { account with creditInAccountCurrency := amount }
  | .submit => some s
  | .dismiss index => if index < s.account.length then some { s with account := s.account.eraseIdx index } else none
  | .clearAll => if s.account = [] then none else some { s with account := [] }
  | .build => some s.build

end AccountTotals

end NextApp
