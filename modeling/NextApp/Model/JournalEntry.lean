import NextApp.Lib.PageView
import NextApp.Model.ModuleProvider

/-! # The journal entry form

`JournalEntryForm` shows three pages, the last of which is `SelectedAccountsList`. The accounts are not the
form's: they are the list of an inherited widget above all forms, which the list page clears when it is
taken down and, in a form for a new entry, when it is built. A row is a Dart object: `ref` is its
identity. -/

namespace NextApp

structure AccountModel where
  /-- none for an id made up by `Uuid().v1()` -/
  id : Option String
  account : String
  accountType : String
  balance : String
  bankAccount : String
  partyType : String
  party : String
  debitInAccountCurrency : Float
  creditInAccountCurrency : Float
deriving DecidableEq

namespace AccountModel

/-- `json[k] ?? ''` as a `String`. -/
def text? (json : Doc) (k : String) : Option String :=
  match Doc.at json k with
  | .null => some ""
  | v => v.asString?

/-- `json[k] ?? 0.0` as a `double`: an int is a type error. -/
def double? (json : Doc) (k : String) : Option Float :=
  match Doc.at json k with
  | .null => some 0
  | .double x => some x
  | _ => none

/-- `none` is the thrown type error. The default of the balance, `0.0`, is no `String`. -/
def fromJson (json : Doc) : Option AccountModel :=
  (match Doc.at json "id" with
    | .null => some none
    | v => v.asString?.map some).bind fun id =>
  (text? json "account").bind fun account =>
  (text? json "account_type").bind fun accountType =>
  (Doc.at json "balance").asString?.bind fun balance =>
  (text? json "bank_account").bind fun bankAccount =>
  (text? json "party_type").bind fun partyType =>
  (text? json "party").bind fun party =>
  (double? json "debit_in_account_currency").bind fun debit =>
  (double? json "credit_in_account_currency").map fun credit =>
    ⟨id, account, accountType, balance, bankAccount, partyType, party, debit, credit⟩

def toJson (a : AccountModel) : Doc :=
  [("account", .str a.account), ("account_type", .str a.accountType), ("balance", .str a.balance),
    ("bank_account", .str a.bankAccount), ("party_type", .str a.partyType), ("party", .str a.party),
    ("debit_in_account_currency", .double a.debitInAccountCurrency),
    ("credit_in_account_currency", .double a.creditInAccountCurrency)]

/-- `initAccount`, which the add button starts a row from. -/
def initAccount : Doc :=
  [("account", .null), ("account_type", .null), ("balance", .str "0.0"), ("party_type", .null), ("party", .null),
    ("debit_in_account_currency", .double 0), ("credit_in_account_currency", .double 0)]

def blank : AccountModel := ⟨none, "", "", "0.0", "", "", "", 0, 0⟩

example : fromJson initAccount = some blank := by decide

end AccountModel

/-- What the fields of a row write into it. -/
inductive AccountEdit where
  /-- An account chosen from the list, with its balance, its type as fetched and its type in the list. -/
  | account (name balance fetchedType accountType : String)
  | partyType (value : String)
  | party (name : String)
  | debit (value : Float)
  | credit (value : Float)
deriving DecidableEq

def AccountEdit.apply (e : AccountEdit) (a : AccountModel) : AccountModel :=
  match e with
  | account name balance fetchedType accountType => { a with
      account := name
      balance := balance
      partyType := if fetchedType = "Receivable" then "Customer" else if fetchedType = "Payable" then "Supplier" else ""
      accountType := accountType }
  | partyType value => { a with partyType := value }
  | party name => { a with party := name }
  | debit value => { a with debitInAccountCurrency := value }
  | credit value => { a with creditInAccountCurrency := value }

structure AccountRow where
  ref : Nat
  model : AccountModel
deriving DecidableEq

namespace AccountRow

def editRow (ref : Nat) (e : AccountEdit) (rows : List AccountRow) : List AccountRow :=
  rows.map fun r => if r.ref = ref then { r with model := e.apply r.model } else r

def removeRow (ref : Nat) (rows : List AccountRow) : List AccountRow := rows.filter fun r => r.ref ≠ ref

end AccountRow

/-- `InheritedAccountForm.account`: distinct rows, none of which has the identity the next one gets. -/
structure AccountRows where
  rows : List AccountRow := []
  next : Nat := 0
  distinct : (rows.map AccountRow.ref).Nodup := by exact List.nodup_nil
  fresh : ∀ r ∈ rows, r.ref < next := by exact List.forall_mem_nil _

namespace AccountRows

def add (a : AccountRows) (m : AccountModel) : AccountRows where
  rows := a.rows ++ [⟨a.next, m⟩]
  next := a.next + 1
  distinct := by
    have hnew : ∀ r ∈ a.rows, r.ref ≠ a.next := fun r hr => (a.fresh r hr).ne
    simpa [List.nodup_append, a.distinct] using hnew
  fresh r hr := by
    rcases List.mem_append.mp hr with hr | hr
    · exact (a.fresh r hr).trans (Nat.lt_succ_self _)
    · rw [List.mem_singleton.mp hr]
      exact Nat.lt_succ_self _

def edit (a : AccountRows) (ref : Nat) (e : AccountEdit) : AccountRows where
  rows := AccountRow.editRow ref e a.rows
  next := a.next
  distinct := by
    have hrefs : (AccountRow.editRow ref e a.rows).map AccountRow.ref = a.rows.map AccountRow.ref := by
      rw [AccountRow.editRow, List.map_map]
      refine List.map_congr_left fun r _ => ?_
      by_cases h : r.ref = ref <;> simp [h]
    rw [hrefs]
    exact a.distinct
  fresh r hr := by
    obtain ⟨r', hr', rfl⟩ := List.mem_map.mp hr
    by_cases h : r'.ref = ref
    · simpa [h] using a.fresh r' hr'
    · simpa [h] using a.fresh r' hr'

/-- `account.removeAt(index)` for the row of identity `ref`. -/
def remove (a : AccountRows) (ref : Nat) : AccountRows where
  rows := AccountRow.removeRow ref a.rows
  next := a.next
  distinct := a.distinct.sublist ((List.filter_sublist).map AccountRow.ref)
  fresh r hr := a.fresh r (List.mem_filter.mp hr).1

def clear (a : AccountRows) : AccountRows where
  rows := []
  next := a.next

/-- The rows of the loaded document are added one by one, up to the first that throws. -/
def load (a : AccountRows) : List Doc → AccountRows
  | [] => a
  | d :: ds =>
    match AccountModel.fromJson d with
    | some m => (a.add m).load ds
    | none => a

end AccountRows

structure JournalEntryForm where
  mode : FormMode
  currentPage : Nat
  account : AccountRows
  /-- `data['accounts']` of the last submit -/
  accounts : Option (List Doc)

inductive JournalEvent where
  | next
  | back
  | add
  | edit (ref : Nat) (e : AccountEdit)
  | remove (ref : Nat)
  | clearAll
  | save
deriving DecidableEq

namespace JournalEntryForm

/-- `SelectedAccountsList` is the third page of three. -/
def accountsPage : Nat := 2

/-- `initState`: a form that starts from a page adds its accounts to what the list holds. -/
def init (mode : FormMode) (loaded : List Doc) (left : AccountRows) : JournalEntryForm where
  mode := mode
  currentPage := 0
  account := if mode.loadsPage then left.load loaded else left
  accounts := none

def listInitState (f : JournalEntryForm) : JournalEntryForm :=
  if f.mode.loadsPage then f else { f with account := f.account.clear }

def listDeactivate (f : JournalEntryForm) : JournalEntryForm := { f with account := f.account.clear }

/-- The page view builds and takes down the list page as the current page changes. -/
def moveTo (f : JournalEntryForm) (page : Nat) : JournalEntryForm :=
  let g := { f with currentPage := page }
  if PageView.Mounts f.currentPage page accountsPage then g.listInitState
  else if PageView.Unmounts f.currentPage page accountsPage then g.listDeactivate
  else g

/-- What a press does: rows are worked on and saved on the list page only. -/
def step (f : JournalEntryForm) : JournalEvent → Option JournalEntryForm
  | .next => if f.currentPage < accountsPage then some (f.moveTo (f.currentPage + 1)) else none
  | .back => if 0 < f.currentPage then some (f.moveTo (f.currentPage - 1)) else none
  | .add => if f.currentPage = accountsPage then some { f with account := f.account.add .blank } else none
  | .edit ref e =>
    if f.currentPage = accountsPage ∧ ref ∈ f.account.rows.map AccountRow.ref then
      some { f with account := f.account.edit ref e }
    else none
  | .remove ref =>
    if f.currentPage = accountsPage ∧ ref ∈ f.account.rows.map AccountRow.ref then
      some { f with account := f.account.remove ref }
    else none
  | .clearAll =>
    if f.currentPage = accountsPage ∧ f.account.rows ≠ [] then some { f with account := f.account.clear } else none
  | .save =>
    if f.currentPage = accountsPage then
      some { f with accounts := some (f.account.rows.map fun r => r.model.toJson) }
    else none

end JournalEntryForm
end NextApp
