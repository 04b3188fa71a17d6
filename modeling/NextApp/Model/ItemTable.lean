import NextApp.Lib.Outcome
import NextApp.Model.Value

/-! # The item table of a form

The rows of `ModuleProvider.newItemList` and what writes them: the item picker and a loaded document add rows,
`AddItemsWidget` edits and removes them, and the submits of three forms turn the quantities of a return and link every
row to the document it is created from. The maps of the rows are told apart by their place in the list. The numbers of a
row are of any type with the operations of `num`: exact ones where rounding plays no part, `Num` where it does. -/

namespace NextApp

/-- The numbers of a row that are read and written, null where they are missing, and the other entries of its map. -/
structure ItemRow (ν : Type) where
  qty : Option ν := none
  rate : Option ν := none
  amount : Option ν := none
  stockQty : Option ν := none
  others : Doc := []
deriving DecidableEq

section
variable {ν : Type} [Zero ν] [One ν] [Neg ν] [Mul ν] [IntCast ν] [LT ν] [DecidableLT ν]

namespace ItemRow

/-- `item['amount'] = item['qty'] * item['rate']`. -/
def setAmount (r : ItemRow ν) : Outcome (ItemRow ν) :=
  match r.qty, r.rate with
  | some qty, some rate => .done { r with amount := some (qty * rate) }
  | _, _ => .threw r

/-- `onChanged` of the quantity of a row. The fields of the rate and of the amount are disabled. -/
def changeQty (r : ItemRow ν) (value : Int) : Outcome (ItemRow ν) :=
  ({ r with qty := some (value : ν) } : ItemRow ν).setAmount

/-- `element[key] = value` for a key that is no number of the row. -/
def setOther (r : ItemRow ν) (key : String) (value : Value) : ItemRow ν := { r with others := r.others.set key value }

/-- The list builds the row: its amount and its quantity are numbers. -/
def shown (r : ItemRow ν) : Bool := r.amount.isSome && r.qty.isSome

end ItemRow

/-- `setItemToList`: the row is added before its amount is computed. -/
def setItemToList (items : List (ItemRow ν)) (item : ItemRow ν) : Outcome (List (ItemRow ν)) :=
  item.setAmount.map fun item => items ++ [item]

/-! ### Submits -/

/-- What a form that can be a return does with a row in its submit, and the key it links the row under. -/
structure ReturnForm (ν : Type) where
  turn : Option ℚ → ItemRow ν → Outcome (ItemRow ν)
  link : String

def salesInvoiceForm : ReturnForm ν where
  turn isReturn element :=
    if isReturn = some 1 then
      match element.qty with
      | none => .threw element
      | some qty =>
        if 0 < qty then .done { element with qty := some (qty * -1), stockQty := element.stockQty.map (· * -1) }
        else .done element
    else .done element
  link := "sales_invoice"

def purchaseInvoiceForm : ReturnForm ν where
  turn isReturn element :=
    if isReturn = some 1 then
      match element.qty with
      | none => .threw element
      | some qty => .done { element with qty := some (qty * -1) }
    else .done element
  link := "purchase_invoice"

/-- The delivery note leaves the quantities as they are. -/
def deliveryNoteForm : ReturnForm ν where
  turn _ element := .done element
  link := "against_sales_order"

/-- What a submit writes into the rows of `newItemList` before its request; these rows are what it sends. -/
def ReturnForm.writeRows (form : ReturnForm ν) (isReturn : Option ℚ) (link : Value) (items : List (ItemRow ν)) :
    Outcome (List (ItemRow ν)) :=
  (Outcome.each (form.turn isReturn) items).bind fun items => .done (items.map fun r => r.setOther form.link link)

/-- An item of the picker, with the quantity typed there and the rate of its unit. -/
structure PickedItem (ν : Type) where
  qty : Int
  rate : ν
  others : Doc

def PickedItem.row (item : PickedItem ν) : ItemRow ν :=
  { qty := some item.qty, rate := some item.rate, others := item.others }

end

/-- The documents that can be a return: a credit note, a debit note and a sales return. -/
inductive ReturnDocument where
  | salesInvoice
  | purchaseInvoice
  | deliveryNote
deriving DecidableEq

def ReturnDocument.form : ReturnDocument → ReturnForm ℚ
  | salesInvoice => salesInvoiceForm
  | purchaseInvoice => purchaseInvoiceForm
  | deliveryNote => deliveryNoteForm

/-- The form of such a document, from when its items are entered until it closes. -/
structure ReturnSession where
  newItemList : List (ItemRow ℚ)
  isReturn : Option ℚ
  isOpen : Bool := true
deriving DecidableEq

inductive ReturnEvent where
  | setReturn (value : Bool)
  /-- a submit of a valid form, with its link and whether its request succeeds -/
  | submit (link : Value) (succeeds : Bool)

namespace ReturnSession

def sent (d : ReturnDocument) (s : ReturnSession) : ReturnEvent → Option (List (ItemRow ℚ))
  | .setReturn _ => none
  | .submit link _ =>
    if s.newItemList = [] then none
    else
      match d.form.writeRows s.isReturn link s.newItemList with
      | .done items => some items
      | .threw _ => none

/-- The form stays open when its request fails. -/
def step (d : ReturnDocument) (s : ReturnSession) (e : ReturnEvent) : Option ReturnSession :=
  if s.isOpen then
    match e with
    | .setReturn value => some { s with isReturn := some (if value then 1 else 0) }
    | .submit link succeeds =>
      if s.newItemList = [] then some s
      else
        match d.form.writeRows s.isReturn link s.newItemList with
        | .done items => some { s with newItemList := items, isOpen := !succeeds }
        | .threw items => some { s with newItemList := items }
  else none

end ReturnSession

/-! ### Operations -/

/-- `Totals.build`: null in the sum throws. -/
def netTotal (items : List (ItemRow ℚ)) : Option ℚ :=
  items.foldlM (fun netTotal item => item.amount.map (netTotal + ·)) 0

def AmountDue (r : ItemRow ℚ) : Prop := ∃ qty rate, r.qty = some qty ∧ r.rate = some rate ∧ r.amount = some (qty * rate)

/-- A row of a source document: its amount is due. -/
structure SourceRow where
  row : ItemRow ℚ
  amountDue : AmountDue row

structure ItemTable where
  newItemList : List (ItemRow ℚ) := []
  /-- `data['is_return']` of the form -/
  isReturn : Option ℚ := none
deriving DecidableEq

inductive ItemEvent where
  | pick (item : PickedItem ℚ)
  | loadDocument (row : ItemRow ℚ)
  | loadSource (rows : List SourceRow)
  /-- what `int.parse` makes of the text, none when it throws -/
  | changeQty (index : Nat) (value : Option Int)
  | remove (index : Nat)
  | setReturn (value : Bool)
  /-- the submit of a sales invoice, with its link, when it gets past the checks at its beginning -/
  | submit (passes : Bool) (link : Value)
  | leave

namespace ItemTable

def step (s : ItemTable) : ItemEvent → Option ItemTable
  | .pick item => some { s with newItemList := (setItemToList s.newItemList item.row).state }
  | .loadDocument row => some { s with newItemList := (setItemToList s.newItemList row).state }
  | .loadSource rows => some { s with newItemList := s.newItemList ++ rows.map SourceRow.row }
  | .changeQty index value =>
    if s.newItemList[index]?.any ItemRow.shown then
      some { s with
        newItemList := s.newItemList.modify index fun r => value.elim r fun value => (r.changeQty value).state }
    else none
  | .remove index =>
    if s.newItemList[index]?.any ItemRow.shown then some { s with newItemList := s.newItemList.eraseIdx index } else none
  | .setReturn value => some { s with isReturn := some (if value then 1 else 0) }
  | .submit passes link =>
    if passes then some { s with newItemList := (salesInvoiceForm.writeRows s.isReturn link s.newItemList).state }
    else some s
  | .leave => some { s with newItemList := [] }

end ItemTable

end NextApp
