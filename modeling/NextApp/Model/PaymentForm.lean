import NextApp.Model.ModuleForm

/-! # The payment form

`PaymentForm` starts from the page of a payment or from a source document, whose map it rewrites, with one reference to
the source. Each edit of the paid amount builds the references anew. -/

namespace NextApp

def paymentType : List String := ["Receive", "Pay", "Internal Transfer"]

def KPaymentPartyList : List String := ["Customer", "Supplier"]

namespace PaymentFormState

/-- `initState` in edit, amend and duplicate mode, from the data of a new payment. -/
def initState (p : ModuleProvider) (data : Doc) : Doc :=
  let data := if p.editPage ∨ p.amendDoc ∨ p.duplicateMode then p.updateData else data
  if p.amendDoc then
    let data := data.set "source_exchange_rate" (.int 1)
    let data := data.set "target_exchange_rate" (.int 1)
    data.removeAll ["paid_from_account_balance", "paid_from_account_currency", "paid_to_account_balance",
      "mode_of_payment_2", "set_posting_time", "reference_no", "amended_to", "paid_from", "paid_to", "docstatus", "status"]
  else data

/-! ### Payments of a source document -/

/-- The row that a payment refers to its source with. -/
def reference (doctype name total outstanding allocated : Value) : Doc :=
  [("reference_doctype", doctype), ("reference_name", name), ("total_amount", total),
    ("outstanding_amount", outstanding), ("allocated_amount", allocated)]

/-- The block of a source with amounts: its name goes to `key`, what is outstanding is read from `outstanding`. -/
def fromDocument (doctype key partyName party outstanding : String) (data : Doc) : Doc :=
  let data := data.set key (Doc.at data "name")
  let data := data.set "party_name" (Doc.at data partyName)
  let data := data.set "party" (Doc.at data party)
  let data := data.set "source_exchange_rate" (Doc.at data "conversion_rate")
  let data := data.set "target_exchange_rate" (Doc.at data "conversion_rate")
  let data := data.set "paid_amount" (Doc.at data "grand_total")
  data.set "references" (.list [.map (reference (.str doctype) (Doc.at data key) (Doc.at data "grand_total")
    (Doc.at data outstanding) (Doc.at data outstanding))])

def payToSupplier (data : Doc) : Doc :=
  let data := data.set "payment_type" (.str paymentType[1])
  data.set "party_type" (.str KPaymentPartyList[1])

def fromSalesOrder (data : Doc) : Doc :=
  fromDocument "Sales Order" "sales_order" "customer_name" "customer" "grand_total" data

def fromSalesInvoice (data : Doc) : Doc :=
  fromDocument "Sales Invoice" "sales_invoice" "customer_name" "customer" "outstanding_amount" data

/-- What is outstanding is taken to be the grand total, unlike in the block of the sales invoice. -/
def fromPurchaseInvoice (data : Doc) : Doc :=
  payToSupplier (fromDocument "Purchase Invoice" "purchase_invoice" "supplier_name" "supplier" "grand_total" data)

def fromPurchaseOrder (data : Doc) : Doc :=
  payToSupplier (fromDocument "Purchase Order" "purchase_order" "supplier_name" "supplier" "grand_total" data)

/-- A visit has no amounts. -/
def fromCustomerVisit (data : Doc) : Doc :=
  let data := data.set "customer_visit" (Doc.at data "name")
  let data := data.set "party_name" (Doc.at data "customer")
  let data := data.set "party" (Doc.at data "customer")
  let data := data.set "source_exchange_rate" (Doc.at data "conversion_rate")
  let data := data.set "target_exchange_rate" (Doc.at data "conversion_rate")
  data.set "references" (.list [.map [("reference_doctype", .str "Customer Visit"),
    ("reference_name", Doc.at data "customer_visit")]])

/-- One block after the other, each for its doctype. -/
def fromSource (data : Doc) : Doc :=
  let block (doctype : String) (f : Doc → Doc) (data : Doc) :=
    if Doc.at data "doctype" = .str doctype then f data else data
  let data := block "Sales Order" fromSalesOrder data
  let data := block "Sales Invoice" fromSalesInvoice data
  let data := block "Purchase Invoice" fromPurchaseInvoice data
  let data := block "Purchase Order" fromPurchaseOrder data
  block "Customer Visit" fromCustomerVisit data

/-- `initState` in create-from mode, at the time `now`. -/
def createFrom (now : String) (data : Doc) : Doc :=
  let data := data.set "payment_type" (.str paymentType[0])
  let data := data.set "party_type" (.str KPaymentPartyList[0])
  let data := data.set "posting_date" (.str now)
  let data := fromSource data
  let data := data.set "doctype" (.str "Payment Entry")
  data.removeAll ["print_formats", "logs", "conn", "comments", "attachments", "docstatus", "name", "_pageData", "_pageId",
    "_availablePdfFormat", "_currentModule", "status", "taxes"]

/-- The entry Payment Entry of the create menu of a page: its button writes the doctype of the page. -/
def openFrom (doctype now : String) (p : ModuleProvider) (page : Doc) : Doc :=
  createFrom now (p.pushCreateFromPage (page.set "doctype" (.str doctype)) "Payment Entry").createFromPageData

/-! ### The paid amount -/

/-- `double.tryParse(value) ?? 0` -/
def paidAmount (text : String) : Value :=
  match doubleTryParse text with
  | some x => .double x
  | none => .int 0

/-- `onChanged` of the field: the new list has one row, read from the first row there was. -/
def editPaidAmount (data : Doc) (text : String) : Outcome Doc :=
  let data := data.set "paid_amount" (paidAmount text)
  let data := data.set "received_amount" (paidAmount text)
  if data.get? "references" = none then .done data
  else
    match Doc.at data "references" with
    | .list (.map row :: _) => .done (data.set "references" (.list [.map (reference (Doc.at row "reference_doctype")
        (Doc.at row "reference_name") (Doc.at row "total_amount") (Doc.at row "outstanding_amount")
        (Doc.at data "paid_amount"))]))
    | _ => .threw data

def editAll (data : Doc) : List String → Outcome Doc
  | [] => .done data
  | text :: texts => (editPaidAmount data text).bind fun data => editAll data texts

end PaymentFormState

end NextApp
