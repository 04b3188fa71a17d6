import NextApp.Lib.Store
import NextApp.Model.ItemTable
import NextApp.Model.ModuleForm

/-! # The rows that a form shares with its page

`pageData`, `updateData` and `createFromPageData` copy the map of the page but not the lists and maps in it: a form that
is opened from a page holds the same rows as the page. What the forms write into rows and lists from when they open
until they are left: quantities, amounts, links to a source document, the states of a workflow. Maps nested deeper than
the rows of a list are only read, and so are rows that a form copies into models of its own. -/

namespace NextApp

/-- A row without the types of its numbers. -/
structure RowView where
  qty : Option Number
  rate : Option Number
  amount : Option Number
  stockQty : Option Number
  others : Dict String (Number ⊕ Value)
deriving DecidableEq

def ItemRow.view (r : ItemRow Num) : RowView where
  qty := r.qty.map Num.number
  rate := r.rate.map Num.number
  amount := r.amount.map Num.number
  stockQty := r.stockQty.map Num.number
  others := r.others.mapValues Value.untyped

/-- A map of the app: its lists of maps are held by reference. -/
structure PageData where
  fields : Doc := []
  lists : Dict String Nat := []
deriving DecidableEq

namespace PageData

/-- The map with all its rows. -/
def view (st : Store (ItemRow Num)) (d : PageData) : Doc × Dict String (List RowView) :=
  (d.fields, st.view ItemRow.view d.lists)

def rowsAt (d : PageData) (st : Store (ItemRow Num)) (key : String) : List Nat := (d.lists.get? key).elim [] st.lists

def remove (d : PageData) (keys : List String) : PageData where
  fields := d.fields.removeAll keys
  lists := d.lists.removeAll keys

def updateData (d : PageData) : PageData :=
  let data := { d with fields := d.fields.set "set_posting_time" (.int 1) }
  data.remove ["attachments", "comments", "print_formats", "conn", "payment_schedule"]

end PageData

/-! ### Forms -/

/-- How `initState` takes the rows of a list of its data into `newItemList`. -/
inductive RowLoad where
  /-- `setItemToList` for the items of the page model -/
  | setItemToList (key : String)
  /-- `newItemList.add` for the rows of the list -/
  | add (key : String)

/-- What a form does with the rows of its page. -/
structure RowForm where
  /-- `initState` loads the page to amend it -/
  amends : Bool := false
  /-- `initState` loads the page to create a document from it -/
  createsFrom : Bool := false
  updates : Option RowLoad := none
  /-- by the doctype of the page the form is created from -/
  creates : String → Option RowLoad := fun _ => none
  /-- `submit` collects `newItemList` in `data['items']`, after turning the quantity of each row -/
  submitsItems : Bool := false
  turn : Option ℚ → ItemRow Num → Outcome (ItemRow Num) := fun _ element => .done element
  /-- the key under which `submit` links each row -/
  link : Option String := none
  /-- the keys that fields of the form write into the first row of a list -/
  firstRow : List (String × String) := []
  /-- the list whose rows the form shows from a list of the provider -/
  shows : Option String := none

def unlessCustomerVisit (doctype : String) : Option RowLoad :=
  if doctype ≠ "Customer Visit" then some (.add "items") else none

def salesOrderRows : RowForm where
  amends := true
  createsFrom := true
  updates := some (.setItemToList "items")
  creates := unlessCustomerVisit
  submitsItems := true
  link := some "prevdoc_docname"

def salesInvoiceRows : RowForm where
  amends := true
  createsFrom := true
  updates := some (.setItemToList "items")
  creates := unlessCustomerVisit
  submitsItems := true
  turn := salesInvoiceForm.turn
  link := some salesInvoiceForm.link

def quotationRows : RowForm where
  amends := true
  createsFrom := true
  updates := some (.setItemToList "items")
  creates _ := some (.setItemToList "items")
  submitsItems := true

def deliveryNoteRows : RowForm where
  amends := true
  createsFrom := true
  updates := some (.setItemToList "items")
  creates _ := some (.add "items")
  submitsItems := true
  link := some (deliveryNoteForm : ReturnForm Num).link

def stockEntryRows : RowForm where
  amends := true
  createsFrom := true
  updates := some (.add "items")
  creates _ := some (.add "items")
  submitsItems := true

def purchaseReceiptRows : RowForm where
  amends := true
  createsFrom := true
  updates := some (.setItemToList "items")
  creates doctype :=
    if doctype = "Purchase Order" ∨ doctype = "Purchase Invoice" then some (.add "purchase_invoice_item")
    else none
  submitsItems := true

def purchaseInvoiceRows : RowForm where
  amends := true
  createsFrom := true
  updates := some (.setItemToList "purchase_invoice_item")
  creates doctype :=
    if doctype = "Purchase Invoice" then some (.add "purchase_invoice_item")
    else if doctype = "Purchase Order" then some (.add "purchase_order_items")
    else none
  submitsItems := true
  turn := purchaseInvoiceForm.turn
  link := some purchaseInvoiceForm.link

def purchaseOrderRows : RowForm where
  amends := true
  createsFrom := true
  updates := some (.setItemToList "purchase_order_items")
  creates _ := some (.add "items")
  submitsItems := true
  link := some "sales_order"

/-- The forms that take `items` over, whole, and do nothing else with the rows. -/
def plainRows : RowForm where
  amends := true
  createsFrom := true
  updates := some (.setItemToList "items")
  creates _ := some (.add "items")
  submitsItems := true

def ModuleType.rowForm : ModuleType → RowForm
  | salesOrder => salesOrderRows
  | salesInvoice => salesInvoiceRows
  | quotation => quotationRows
  | deliveryNote => deliveryNoteRows
  | stockEntry => stockEntryRows
  | purchaseReceipt => purchaseReceiptRows
  | purchaseInvoice => purchaseInvoiceRows
  | purchaseOrder => purchaseOrderRows
  | supplierQuotation | materialRequest => plainRows
  | bom => { plainRows with shows := some "operations" }
  | jobCard => { plainRows with shows := some "time_logs" }
  | opportunity => { createsFrom := true, updates := some (.setItemToList "items"), submitsItems := true }
  | customer =>
    { createsFrom := true
      firstRow := [("credit_limits", "credit_limit"), ("credit_limits", "bypass_credit_limit_check")] }
  | contact => { firstRow := [("links", "link_doctype"), ("links", "link_name")] }
  | timesheet => { amends := true, createsFrom := true, shows := some "time_logs" }
  | paymentEntry | task => { amends := true, createsFrom := true }
  | project | issue | workflow => { createsFrom := true }
  | customerVisit | leaveApplication | attendanceRequest | journalEntry => { amends := true }
  | lead | address | item | supplier | employee | employeeCheckin | employeeAdvance | expenseClaim
  | loanApplication => {}

inductive OpenMode where
  | edit
  | duplicate
  | amend
  /-- `CreateFromPageButton` writes the doctype of its page -/
  | createFrom (doctype : String)
deriving DecidableEq, Repr

namespace OpenMode

def isCreateFrom : OpenMode → Bool
  | edit | duplicate | amend => false
  | createFrom _ => true

/-- The data a form starts from: `updateData` or `createFromPageData`. -/
def data (d : PageData) : OpenMode → PageData
  | edit | duplicate | amend => d.updateData
  | createFrom doctype => { d with fields := d.fields.set "doctype" (.str doctype) }

end OpenMode

def RowForm.loads (form : RowForm) : OpenMode → Option RowLoad
  | .edit | .duplicate | .amend => form.updates
  | .createFrom doctype => form.creates doctype

/-- `initState` has a branch for the mode: without one the form starts with data of its own. -/
def ModuleType.opensPage (m : ModuleType) : OpenMode → Bool
  | .edit => true
  | .duplicate => m.form.loadsDuplicate
  | .amend => m.rowForm.amends
  | .createFrom _ => m.rowForm.createsFrom

/-! ### Opening -/

/-- What the providers hold when a form opens: the page, the two lists of the workflow form, which may be those of a
    page that it has edited before, and the default taxes. -/
structure ProviderPage where
  store : Store (ItemRow Num)
  page : PageData
  workflowStates : Nat
  workflowTransitions : Nat
  defaultTax : List (ItemRow Num)
  /-- what the page holds has been allocated -/
  below : store.Below page.lists
  /-- the rows of a decoded list are maps of their own -/
  distinct : ∀ l, Store.HoldsList page.lists l → (store.lists l).Nodup

def ProviderPage.loaded (st : Store (ItemRow Num)) (fields : Doc) (lists : Dict String (List (ItemRow Num)))
    (workflowStates workflowTransitions : Nat) (defaultTax : List (ItemRow Num)) : ProviderPage where
  store := (st.load lists).1
  page := { fields, lists := (st.load lists).2 }
  workflowStates
  workflowTransitions
  defaultTax
  below := (Store.loaded st lists).below
  distinct := (Store.loaded st lists).distinct

/-- What `..sort(...)` by `idx` makes of a list of rows, none when it throws: the order of rows of the same `idx` is
    left open. -/
structure RowSort where
  sort : List Nat → Option (List Nat)
  perm : ∀ rows, ∀ order ∈ sort rows, order.Perm rows

/-- A list that is sorted already. -/
def RowSort.sorted : RowSort where
  sort := some
  perm rows order h := by
    cases h
    exact .refl _

structure RowSession where
  mode : OpenMode
  store : Store (ItemRow Num)
  page : PageData
  /-- the form's `data` -/
  data : PageData
  newItemList : List Nat := []
  /-- `getTimeSheetData` and `getBomOperations` -/
  shown : List Nat := []
  workflowStates : Nat
  workflowTransitions : Nat

inductive WorkflowList where
  | states
  | transitions
deriving DecidableEq, Repr

namespace RowSession

/-- The page data that the provider holds, with all its rows. -/
def held (s : RowSession) : Doc × Dict String (List RowView) := s.page.view s.store

def rowsAt (s : RowSession) (key : String) : List Nat := s.data.rowsAt s.store key

def setItemToList (s : RowSession) (r : Nat) : Outcome RowSession :=
  let s := { s with newItemList := s.newItemList ++ [r] }
  (s.store.rows r).setAmount.map fun item => { s with store := s.store.setRow r item }

def setItemsToList (s : RowSession) : List Nat → Outcome RowSession
  | [] => .done s
  | r :: rs => (s.setItemToList r).bind fun s => setItemsToList s rs

def load (s : RowSession) (sort : RowSort) : RowLoad → RowSession
  | .setItemToList key =>
    match sort.sort (s.rowsAt key) with
    | some order => (s.setItemsToList order).state
    | none => s
  | .add key => { s with newItemList := s.newItemList ++ s.rowsAt key }

/-- `data[list][0] = f(data[list][0])`: nothing when the list is null or empty. -/
def writeFirst (s : RowSession) (list : String) (f : ItemRow Num → ItemRow Num) : RowSession :=
  match s.rowsAt list with
  | [] => s
  | r :: _ => { s with store := s.store.setRow r (f (s.store.rows r)) }

/-- `data[key] = rows` for a new list of new rows. -/
def setRows (s : RowSession) (key : String) (rows : List (ItemRow Num)) : RowSession :=
  let new := s.store.newRows rows
  { s with store := new.1.newList new.2, data := { s.data with lists := s.data.lists.set key new.1.nextList } }

def workflowList (s : RowSession) : WorkflowList → Nat
  | .states => s.workflowStates
  | .transitions => s.workflowTransitions

/-- `AddressForm` writes the two keys of the link again. -/
def rewriteLink (r : ItemRow Num) : ItemRow Num :=
  let r := r.setOther "link_doctype" (Doc.at r.others "link_doctype")
  r.setOther "link_name" (Doc.at r.others "link_name")

def new (m : ModuleType) (mode : OpenMode) (p : ProviderPage) : RowSession :=
  let s : RowSession :=
    { mode, store := p.store, page := p.page, data := {}, workflowStates := p.workflowStates
      workflowTransitions := p.workflowTransitions }
  match m with
  | .contact => s.setRows "links" [{ others := [("link_name", .str "")] }]
  | .customer => s.setRows "credit_limits" [{}]
  | .expenseClaim => s.setRows "taxes" p.defaultTax
  | .workflow =>
    { s with
      store := (s.store.setList p.workflowStates []).setList p.workflowTransitions []
      data := { lists := [("states", p.workflowStates), ("transitions", p.workflowTransitions)] } }
  | _ => s

/-- `provider.workflowStates = data['states']` and the same for the transitions: an assignment of null throws. -/
def takeWorkflow (s : RowSession) : RowSession :=
  match s.data.lists.get? "states" with
  | none => s
  | some states =>
    let s := { s with workflowStates := states }
    match s.data.lists.get? "transitions" with
    | none => s
    | some transitions => { s with workflowTransitions := transitions }

/-- What the form does with the lists of its data besides loading items. -/
def afterLoad (m : ModuleType) (s : RowSession) : RowSession :=
  match m with
  | .address => s.writeFirst "reference" rewriteLink
  | .customer => if s.mode.isCreateFrom then s.setRows "credit_limits" [{}] else s
  | .workflow => if s.mode.isCreateFrom then s else s.takeWorkflow
  | _ => s

/-- `initState` of the form of `m`, with what it delays until the first frame. -/
def opened (m : ModuleType) (mode : OpenMode) (p : ProviderPage) (sort : RowSort) : RowSession :=
  let s := new m mode p
  if m.opensPage mode then
    let s := { s with data := mode.data s.page }
    let s := (m.rowForm.loads mode).elim s (s.load sort)
    s.afterLoad m
  else s

/-- `deactivate`, with `resetCreationForm`. -/
def leave (s : RowSession) : RowSession := { s with newItemList := [] }

end RowSession

/-! ### Events -/

/-- What `ExpenseClaimForm.submit` writes into the first row of the taxes. -/
structure TaxData where
  rate : Option Num
  costCenter : Value
  total : Value
  taxAmount : Value

def TaxData.write (tax : TaxData) (r : ItemRow Num) : ItemRow Num :=
  let r := { r with others := r.others.remove "charge_type" }
  let r := { r with rate := tax.rate }
  let r := r.setOther "cost_center" tax.costCenter
  let r := r.setOther "total" tax.total
  r.setOther "tax_amount" tax.taxAmount

/-- What happens to an open form. A submit saves nothing: `passes` when it gets past the checks and calls at its
    beginning, so that only its request fails, and the fields that it saves are written by events of their own. -/
inductive RowEvent where
  /-- what `int.parse` makes of the text, none when it throws -/
  | changeQty (index : Nat) (value : Option Int)
  | remove (index : Nat)
  | pick (item : PickedItem Num)
  /-- another price list: `newItemList.clear()` -/
  | clearItems
  | write (key : String) (value : Value)
  | writeFirst (list key : String) (value : Value)
  | addState (list : WorkflowList) (row : ItemRow Num)
  | removeState (list : WorkflowList) (index : Nat)
  /-- the provider's list of time logs or operations takes the rows of the form's -/
  | showRows
  | addShown (row : ItemRow Num)
  | removeShown (index : Nat)
  | submit (passes : Bool) (tax : TaxData)

namespace RowSession

/-- `data['is_return']` where it is a number. -/
def isReturn (s : RowSession) : Option ℚ := (Doc.at s.data.fields "is_return").rational?

/-- The two loops over `newItemList`: the first throws at a row without a quantity to turn, and the list that it fills
    is not read then. -/
def submitItems (form : RowForm) (s : RowSession) : RowSession :=
  let items := s.store.nextList
  let s := { s with store := s.store.newList [], data := { s.data with lists := s.data.lists.set "items" items } }
  match s.store.each (form.turn s.isReturn) s.newItemList with
  | .threw st => { s with store := st }
  | .done st =>
    let st := st.setList items s.newItemList
    match form.link with
    | none => { s with store := st }
    | some key =>
      let value := Doc.at s.data.fields key
      { s with store := (st.each (fun element => .done (element.setOther key value)) s.newItemList).state }

def submit (m : ModuleType) (s : RowSession) (tax : TaxData) : RowSession :=
  if m.rowForm.submitsItems then s.submitItems m.rowForm
  else if m = .expenseClaim then s.writeFirst "taxes" tax.write
  else s

def step (m : ModuleType) (s : RowSession) : RowEvent → Option RowSession
  | .changeQty index value =>
    (s.newItemList[index]?.filter fun r => (s.store.rows r).shown).map fun r =>
      value.elim s fun value => { s with store := s.store.setRow r ((s.store.rows r).changeQty value).state }
  | .remove index =>
    (s.newItemList[index]?.filter fun r => (s.store.rows r).shown).map fun _ =>
      { s with newItemList := s.newItemList.eraseIdx index }
  | .pick item =>
    if m.rowForm.submitsItems then
      some (({ s with store := s.store.newRow item.row } : RowSession).setItemToList s.store.nextRow).state
    else none
  | .clearItems => some { s with newItemList := [] }
  | .write key value => some { s with data := { s.data with fields := s.data.fields.set key value } }
  | .writeFirst list key value =>
    if (list, key) ∈ m.rowForm.firstRow then some (s.writeFirst list fun r => r.setOther key value) else none
  | .addState list row =>
    if m = .workflow then
      let l := s.workflowList list
      some { s with store := (s.store.newRow row).setList l (s.store.lists l ++ [s.store.nextRow]) }
    else none
  | .removeState list index =>
    if m = .workflow then
      let l := s.workflowList list
      some { s with store := s.store.setList l ((s.store.lists l).eraseIdx index) }
    else none
  | .showRows =>
    m.rowForm.shows.map fun key =>
      let rows := if s.mode.isCreateFrom then [] else s.rowsAt key
      { s with shown := s.shown ++ rows, data := { s.data with lists := s.data.lists.remove key } }
  | .addShown row =>
    m.rowForm.shows.map fun _ => { s with store := s.store.newRow row, shown := s.shown ++ [s.store.nextRow] }
  | .removeShown index => m.rowForm.shows.map fun _ => { s with shown := s.shown.eraseIdx index }
  | .submit passes tax => some (if passes then s.submit m tax else s)

end RowSession

end NextApp
