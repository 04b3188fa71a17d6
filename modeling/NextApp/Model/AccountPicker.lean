import NextApp.Lib.Runs
import NextApp.Model.JournalEntry

/-! # The pickers of the account rows

What the fields of a row of `SelectedAccountsList` do from their press to their last write: the account field pushes a list
and awaits two lookups, the party field pushes a list. A row is found by the index that its field was built with, anew
after each await; what an await is assigned to has been found before it. -/

namespace NextApp

/-- A row of `InheritedAccountForm.account`: `ref` is its identity. -/
structure JournalRow where
  ref : Nat
  model : AccountModel
  /-- the party type that its party has been picked for -/
  partyFor : String
deriving DecidableEq

/-- `journalEntryTypePartyType1` and `journalEntryTypePartyType2`, the items of the drop-down of an account type. -/
def journalEntryTypePartyType : String → List String
  | "Receivable" => ["Customer"]
  | "Payable" => ["Supplier", "Employee"]
  | _ => []

/-- The party type that comes with an account type. -/
def partyTypeOf (accountType : String) : String :=
  if accountType = "Receivable" then "Customer" else if accountType = "Payable" then "Supplier" else ""

/-- `res['name']` and `res['account_type']` of the account that has been chosen. -/
structure AccountChoice where
  name : Option String
  accountType : Option String

inductive LookupStage where
  | balance
  | accountType
deriving DecidableEq

/-- A press of the account field that awaits a lookup. -/
structure Lookup where
  stage : LookupStage
  index : Nat
  /-- the row that was pressed -/
  row : Nat
  /-- the row that the result is assigned to -/
  target : Nat
  /-- `res['account_type']` -/
  accountType : Option String

/-- A list on top of the rows. -/
inductive Picker where
  /-- `before` is the row as it would be without the press -/
  | account (index row : Nat) (before : AccountModel)
  | party (index : Nat) (partyType : String)

structure AccountSession where
  rows : List JournalRow := []
  next : Nat := 0
  picker : Option Picker := none
  lookups : List Lookup := []

def JournalRow.write (r : JournalRow) (ref : Nat) (f : AccountModel → AccountModel) : JournalRow :=
  if r.ref = ref then { r with model := f r.model } else r

/-- What is written into the row while the list is open. -/
def Picker.write (p : Picker) (ref : Nat) (f : AccountModel → AccountModel) : Picker :=
  match p with
  | account index row before => account index row (if row = ref then f before else before)
  | party index partyType => party index partyType

namespace AccountSession

def write (s : AccountSession) (ref : Nat) (f : AccountModel → AccountModel) : AccountSession :=
  { s with rows := s.rows.map fun r => r.write ref f, picker := s.picker.map fun p => p.write ref f }

/-- The row starts as it is loaded, or blank. -/
def add (s : AccountSession) (m : AccountModel) : AccountSession :=
  { s with rows := s.rows ++ [⟨s.next, m, m.partyType⟩], next := s.next + 1 }

/-- `onPressed` of the account field, up to the list. -/
def pressAccount (s : AccountSession) (index : Nat) (r : JournalRow) : AccountSession :=
  let s := s.write r.ref fun m => { m with accountType := "", partyType := "" }
  { s with picker := some (.account index r.ref r.model) }

/-- The list is left: without a choice, or with one that has no name, the handler throws. -/
def returnAccount (s : AccountSession) (index row : Nat) (res : Option AccountChoice) : AccountSession :=
  let s := { s with picker := none }
  match s.rows[index]?, res with
  | some r, some ⟨some name, accountType⟩ =>
    let s := s.write r.ref fun m => { m with account := name }
    { s with lookups := s.lookups ++ [⟨.balance, index, row, r.ref, accountType⟩] }
  | _, _ => s

/-- The balance comes as a text, also of a request that has failed. The lookup of the account type starts. -/
def endBalance (s : AccountSession) (l : Lookup) (balance : String) : AccountSession :=
  let s := s.write l.target fun m => { m with balance := balance }
  match s.rows[l.index]? with
  | some r => { s with lookups := s.lookups ++ [{ l with stage := .accountType, target := r.ref }] }
  | none => s

/-- The account type: none when the request has failed, or has no account type. -/
def endAccountType (s : AccountSession) (l : Lookup) (fetched : Option String) : AccountSession :=
  match fetched with
  | none => s
  | some accountType =>
    let s := s.write l.target fun m => { m with accountType := accountType }
    match s.rows[l.index]? with
    | none => s
    | some r =>
      let s := s.write r.ref fun m => { m with partyType := partyTypeOf m.accountType }
      match l.accountType with
      | none => s
      | some listed => s.write r.ref fun m => { m with accountType := listed }

/-- `onPressed` of the party field, up to the list: a row of another party type has none. -/
def pressParty (s : AccountSession) (index : Nat) (r : JournalRow) : AccountSession :=
  if r.model.partyType ∈ ["Customer", "Supplier", "Employee"] then
    { s with picker := some (.party index r.model.partyType) }
  else s

/-- `res` is the choice, and `res['name']` in it. -/
def returnParty (s : AccountSession) (index : Nat) (partyType : String) (res : Option (Option String)) : AccountSession :=
  let s := { s with picker := none }
  match s.rows[index]?, res with
  | some r, some (some name) =>
    { s with rows := s.rows.map fun r' =>
        if r'.ref = r.ref then { r' with model := { r'.model with party := name }, partyFor := partyType } else r' }
  | _, _ => s

/-- `onChanged` of a drop-down. -/
def setPartyType (s : AccountSession) (r : JournalRow) (value : String) : AccountSession :=
  s.write r.ref fun m => { m with partyType := value }

end AccountSession

inductive AccountEvent where
  /-- the add button, with a blank row, or a page that is loaded -/
  | add (m : AccountModel)
  | pressAccount (index : Nat)
  | returnAccount (res : Option AccountChoice)
  /-- the lookup at a place comes back -/
  | balance (k : Nat) (balance : String)
  | accountType (k : Nat) (fetched : Option String)
  | pressParty (index : Nat)
  | returnParty (res : Option (Option String))
  | partyType (index : Nat) (value : String)
  | dismiss (index : Nat)
  | clearAll

namespace AccountSession

/-- Fields are pressed with no list on top, and those of a party are there for some account types only. -/
def step (s : AccountSession) (e : AccountEvent) : Option AccountSession :=
  match e, s.picker with
  | .add m, none => some (s.add m)
  | .pressAccount index, none => s.rows[index]?.map fun r => s.pressAccount index r
  | .returnAccount res, some (.account index row _) => some (s.returnAccount index row res)
  | .balance k balance, _ =>
    (s.lookups[k]?.filter (·.stage = .balance)).map fun l =>
      { s with lookups := s.lookups.eraseIdx k }.endBalance l balance
  | .accountType k fetched, _ =>
    (s.lookups[k]?.filter (·.stage = .accountType)).map fun l =>
      { s with lookups := s.lookups.eraseIdx k }.endAccountType l fetched
  | .pressParty index, none =>
    (s.rows[index]?.filter fun r => journalEntryTypePartyType r.model.accountType ≠ []).map fun r => s.pressParty index r
  | .returnParty res, some (.party index partyType) => some (s.returnParty index partyType res)
  | .partyType index value, none =>
    (s.rows[index]?.filter fun r => value ∈ journalEntryTypePartyType r.model.accountType).map fun r => s.setPartyType r value
  | .dismiss index, none => if index < s.rows.length then some { s with rows := s.rows.eraseIdx index } else none
  | .clearAll, none => some { s with rows := [] }
  | _, _ => none

end AccountSession

end NextApp
