import NextApp.Model.ModuleProvider

/-! # Forms that start from a source document

The forms whose create-from menu entries tell the source document apart by its doctype. Each one rewrites the map of
the source into the data it starts from, and goes on writing it when the data of the party arrives. -/

namespace NextApp

/-- What a form has of its source document until the data of the party arrives. -/
structure FormStart where
  data : Doc
  newItemList : List Doc := []
  /-- `InheritedForm.of(context).data['selling_price_list']` -/
  sellingPriceList : Value := .null
  /-- the party whose data has been asked for -/
  asked : Option String := none
deriving DecidableEq

namespace FormStart

def edit (s : FormStart) (f : Doc → Doc) : FormStart := { s with data := f s.data }

/-- `forEach` of a list of rows: what is no map throws. -/
def addRows (s : FormStart) : List Value → Outcome FormStart
  | [] => .done s
  | element :: rows =>
    .need s element.asMap? fun row =>
    addRows { s with newItemList := s.newItemList ++ [row] } rows

def addItems (s : FormStart) : Outcome FormStart :=
  match Doc.at s.data "items" with
  | .list rows => s.addRows rows
  | _ => .threw s

/-- `_getCustomerData` and `_getSupplierData` take a string. -/
def ask (s : FormStart) (party : Value) : Outcome FormStart :=
  .need s party.asString? fun party =>
  .done { s with asked := some party }

end FormStart

/-- What the forms take out of the map of their source. -/
def sourceKeys : List String :=
  ["print_formats", "conn", "comments", "attachments", "docstatus", "name", "_pageData", "_pageId", "_availablePdfFormat",
    "_currentModule", "status"]

/-- `initState` in create-from mode, at the time `now`. -/
def SalesOrderFormState.initState (now : String) (s : FormStart) : Outcome FormStart :=
  -- a customer visit has no items
  (if Doc.at s.data "doctype" ≠ .str "Customer Visit" then s.addItems else .done s).bind fun s =>
  let s := { s with sellingPriceList := Doc.at s.data "selling_price_list" }
  let s := s.edit fun data =>
    let data := data.set "posting_date" (.str now)
    let data := data.set "is_return" (.int 0)
    let data := data.set "update_stock" (.int 1)
    let data := data.set "latitude" (.double 0)
    let data := data.set "longitude" (.double 0)
    data.set "conversion_rate" (.int 1)
  let s := if Doc.at s.data "doctype" = .str "Quotation" then
      s.edit fun data =>
        let data := data.set "prevdoc_docname" (Doc.at data "name")
        let data := data.set "customer" (Doc.at data "party_name")
        data.set "customer_name" (Doc.at data "party_name")
    else s
  let s := if Doc.at s.data "doctype" = .str "Customer Visit" then
      s.edit fun data =>
        let data := data.set "customer_name" (Doc.at data "customer")
        let data := data.set "customer" (Doc.at data "customer")
        let data := data.set "transaction_date" (.str now)
        let data := data.set "order_type" (.str "Sales")
        data.set "update_stock" (.int 0)
    else s
  (s.ask (Doc.at s.data "customer_name")).bind fun s =>
  .done (s.edit fun data =>
    let data := data.set "doctype" (.str "Sales Order")
    data.removeAll (sourceKeys ++ ["organization_lead"]))

/-- The doctype is tested after it has been written. -/
def PurchaseOrderFormState.initState (now : String) (s : FormStart) : Outcome FormStart :=
  s.addItems.bind fun s =>
  let s := { s with sellingPriceList := Doc.at s.data "selling_price_list" }
  let s := s.edit fun data =>
    let data := data.set "doctype" (.str "Purchase Order")
    let data := data.set "posting_date" (.str now)
    let data := data.set "is_return" (.int 0)
    let data := data.set "update_stock" (.int 1)
    let data := data.set "latitude" (.double 0)
    let data := data.set "longitude" (.double 0)
    data.set "conversion_rate" (.int 1)
  let s := if Doc.at s.data "doctype" = .str "Sales Order" then
      s.edit fun data =>
        let data := data.set "sales_order" (Doc.at data "name")
        data.set "project" (Doc.at data "project")
    else s
  let s := if Doc.at s.data "doctype" = .str "Supplier Quotation" then
      s.edit fun data =>
        let data := data.set "supplier" (Doc.at data "name")
        let data := data.set "transaction_date" (Doc.at data "transaction_date")
        data.set "schedule_date" (Doc.at data "valid_till")
    else s
  let s := if Doc.at s.data "doctype" = .str "Material Request" then
      s.edit fun data =>
        let data := data.set "supplier" (Doc.at data "name")
        let data := data.set "transaction_date" (Doc.at data "transaction_date")
        data.set "schedule_date" (Doc.at data "schedule_date")
    else s
  let s := s.edit fun data => data.removeAll (sourceKeys ++ ["organization_lead"])
  s.ask (Doc.at s.data "supplier")

/-- The doctype is tested after it has been written, and the keys of the source go after the supplier is asked for. -/
def SupplierQuotationFormState.initState (now : String) (s : FormStart) : Outcome FormStart :=
  s.addItems.bind fun s =>
  let s := s.edit fun data =>
    let data := data.set "doctype" (.str "Supplier Quotation")
    let data := data.set "transaction_date" (.str now)
    data.set "apply_discount_on" (.str "Grand Total")
  let s := if Doc.at s.data "doctype" = .str "Opportunity" then
      s.edit fun data => data.set "opportunity" (Doc.at data "name")
    else s
  (s.ask (Doc.at s.data "customer_name")).bind fun s =>
  .done (s.edit fun data => data.removeAll (sourceKeys ++ ["organization_lead"]))

def TaskFormState.initState (s : FormStart) : Outcome FormStart :=
  let s := if Doc.at s.data "doctype" = .str "Project" then
      s.edit fun data =>
        let data := data.set "project" (Doc.at data "name")
        let data := data.set "department" (Doc.at data "department")
        let data := data.set "expected_start_date" (Doc.at data "exp_start_date")
        let data := data.set "expected_end_date" (Doc.at data "exp_end_date")
        let data := data.set "progress" (.double 0)
        data.set "expected_time" (.double 0)
    else s
  let s := if Doc.at s.data "doctype" = .str "Issue" then
      s.edit fun data => data.set "issue" (Doc.at data "name")
    else s
  .done (s.edit fun data =>
    let data := data.set "doctype" (.str "Task")
    data.removeAll (sourceKeys ++ ["taxes", "users", "actual_time"]))

/-! ### The data of the party -/

/-- The party that a form has asked for, and the due date its credit days give, none when they are no number. -/
structure PartyData where
  party : Doc
  dueDate : Option String

/-- What `SalesOrderForm` writes when the customer arrives: nothing when the due date throws. -/
def SalesOrderFormState.customerArrives (p : PartyData) (data : Doc) : Doc :=
  match p.dueDate with
  | none => data
  | some dueDate =>
    let data := data.set "due_date" (.str dueDate)
    let data := if Doc.at data "selling_price_list" ≠ Doc.at p.party "default_price_list" then
        data.set "selling_price_list" (Doc.at p.party "default_price_list")
      else data
    let data := data.set "currency" (Doc.at p.party "default_currency")
    let data := data.set "price_list_currency" (Doc.at p.party "default_currency")
    let data := data.set "contact_person" (Doc.at p.party "customer_primary_contact")
    let data := data.set "territory" (Doc.at p.party "territory")
    data.set "customer_group" (Doc.at p.party "customer_group")

/-- `schedule_date` is read from `valid_till` whatever the source is. -/
def PurchaseOrderFormState.supplierArrives (p : PartyData) (data : Doc) : Doc :=
  match p.dueDate with
  | none => data
  | some dueDate =>
    let data := data.set "due_date" (.str dueDate)
    let data := data.set "payment_terms_template" (Doc.at p.party "payment_terms")
    let data := data.set "transaction_date" (Doc.at data "transaction_date")
    data.set "schedule_date" (Doc.at data "valid_till")

def SupplierQuotationFormState.supplierArrives (p : PartyData) (data : Doc) : Doc :=
  let data := data.set "currency" (Doc.at p.party "default_currency")
  data.set "price_list_currency" (Doc.at p.party "default_currency")

/-! ### Menu entries -/

/-- The create-from menu entries whose form tells its source apart. -/
inductive SourceEntry where
  | quotationToSalesOrder
  | salesOrderToPurchaseOrder
  | supplierQuotationToPurchaseOrder
  | materialRequestToPurchaseOrder
  | opportunityToSupplierQuotation
  | projectToTask
  | issueToTask
deriving DecidableEq, Repr

namespace SourceEntry

def source : SourceEntry → String
  | quotationToSalesOrder => "Quotation"
  | salesOrderToPurchaseOrder => "Sales Order"
  | supplierQuotationToPurchaseOrder => "Supplier Quotation"
  | materialRequestToPurchaseOrder => "Material Request"
  | opportunityToSupplierQuotation => "Opportunity"
  | projectToTask => "Project"
  | issueToTask => "Issue"

def target : SourceEntry → String
  | quotationToSalesOrder => "Sales Order"
  | salesOrderToPurchaseOrder | supplierQuotationToPurchaseOrder | materialRequestToPurchaseOrder => "Purchase Order"
  | opportunityToSupplierQuotation => "Supplier Quotation"
  | projectToTask | issueToTask => "Task"

def form (entry : SourceEntry) (now : String) : FormStart → Outcome FormStart :=
  match entry with
  | quotationToSalesOrder => SalesOrderFormState.initState now
  | salesOrderToPurchaseOrder | supplierQuotationToPurchaseOrder | materialRequestToPurchaseOrder =>
    PurchaseOrderFormState.initState now
  | opportunityToSupplierQuotation => SupplierQuotationFormState.initState now
  | projectToTask | issueToTask => TaskFormState.initState

def partyArrives : SourceEntry → PartyData → Doc → Doc
  | quotationToSalesOrder => SalesOrderFormState.customerArrives
  | salesOrderToPurchaseOrder | supplierQuotationToPurchaseOrder | materialRequestToPurchaseOrder =>
    PurchaseOrderFormState.supplierArrives
  | opportunityToSupplierQuotation => SupplierQuotationFormState.supplierArrives
  | projectToTask | issueToTask => fun _ data => data

def start (entry : SourceEntry) (now : String) (provider : ModuleProvider) (page : Doc) : FormStart :=
  let provider := provider.pushCreateFromPage (page.set "doctype" (.str entry.source)) entry.target
  (entry.form now { data := provider.createFromPageData }).state

end SourceEntry

end NextApp
