import NextApp.Lib.Runs
import NextApp.Model.RowForm

/-! # The taxes that the forms send

`UserProvider.defaultTax` is a list of maps that a login receives, and the forms take it by reference: the selling and
buying forms when they submit, an expense claim when it opens. Only an expense claim writes into the rows. -/

namespace NextApp

/-- What a `submit` has in `data['taxes']`. -/
inductive SubmitTaxes where
  /-- what the form has had from its opening -/
  | own
  | defaultTax
  /-- `(provider.isEditing) ? [] : defaultTax` -/
  | defaultTaxUnlessEditing
deriving DecidableEq, Repr

def ModuleType.submitTaxes : ModuleType → SubmitTaxes
  | salesOrder | quotation | salesInvoice | deliveryNote => .defaultTax
  | purchaseReceipt | supplierQuotation | purchaseOrder | purchaseInvoice => .defaultTaxUnlessEditing
  | _ => .own

/-- An open form: `mode` is none for a new document, and `taxes` where `data['taxes']` is a list. -/
structure TaxForm where
  module : ModuleType
  mode : Option OpenMode
  taxes : Option Nat

def TaxForm.opensPage (f : TaxForm) : Bool := f.mode.any f.module.opensPage

/-- What happens after a login: the forms that are open, and what they have sent as taxes. -/
structure TaxSession where
  store : Store (ItemRow Num)
  defaultTax : Nat
  /-- the taxes of the page that the provider holds -/
  page : Option Nat := none
  forms : List TaxForm := []
  sent : List (ModuleType × List (ItemRow Num)) := []

inductive TaxEvent where
  | loadPage (taxes : Option (List (ItemRow Num)))
  | openForm (m : ModuleType) (mode : Option OpenMode)
  /-- `tax` is what an expense claim has beside its rows by then -/
  | submit (index : Nat) (tax : TaxData)
  | leave (index : Nat)

namespace TaxSession

/-- `_defaultTax = List<Map>.from(res['message']['default_tax_template'])`. -/
def loggedIn (st : Store (ItemRow Num)) (template : List (ItemRow Num)) : TaxSession :=
  let rows := st.newRows template
  { store := rows.1.newList rows.2, defaultTax := rows.1.nextList }

def rowsOf (s : TaxSession) (l : Nat) : List (ItemRow Num) := (s.store.lists l).map s.store.rows

/-- What a login has received, as it is now. -/
def defaultRows (s : TaxSession) : List (ItemRow Num) := s.rowsOf s.defaultTax

/-- `data['taxes'] = l`, and the request. -/
def send (s : TaxSession) (index : Nat) (f : TaxForm) (l : Nat) : TaxSession :=
  { s with forms := s.forms.set index { f with taxes := some l }, sent := s.sent ++ [(f.module, s.rowsOf l)] }

/-- `ExpenseClaimForm.submit`: without a row of taxes it throws. -/
def submitClaim (s : TaxSession) (f : TaxForm) (tax : TaxData) : TaxSession :=
  match f.taxes with
  | none => s
  | some l =>
    match s.store.lists l with
    | [] => s
    | r :: _ =>
      let s := { s with store := s.store.setRow r (tax.write (s.store.rows r)) }
      { s with sent := s.sent ++ [(f.module, s.rowsOf l)] }

def submit (s : TaxSession) (index : Nat) (f : TaxForm) (tax : TaxData) : TaxSession :=
  match f.module.submitTaxes with
  | .defaultTax => s.send index f s.defaultTax
  | .defaultTaxUnlessEditing =>
    if f.mode = some .edit then ({ s with store := s.store.newList [] } : TaxSession).send index f s.store.nextList
    else s.send index f s.defaultTax
  | .own =>
    if f.module = .expenseClaim then s.submitClaim f tax
    else f.taxes.elim s (s.send index f)

def step (s : TaxSession) : TaxEvent → Option TaxSession
  | .loadPage none => some { s with page := none }
  | .loadPage (some taxes) =>
    let rows := s.store.newRows taxes
    some { s with store := rows.1.newList rows.2, page := some rows.1.nextList }
  | .openForm m mode =>
    let taxes := if mode.any m.opensPage then s.page else if m = .expenseClaim then some s.defaultTax else none
    some { s with forms := s.forms ++ [⟨m, mode, taxes⟩] }
  | .submit index tax => s.forms[index]?.map fun f => s.submit index f tax
  | .leave index => if index < s.forms.length then some { s with forms := s.forms.eraseIdx index } else none

end TaxSession

end NextApp
