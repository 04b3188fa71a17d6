import Mathlib.Data.List.Basic

/-! # Module types

The modules of `lib/provider/module/module_type.dart`. Each one's `genericListService` and `title` are the
same text, and each one has a `createForm` and a `filterWidget`. -/

namespace NextApp

inductive ModuleType where
  | lead | opportunity | customer | quotation | salesOrder | salesInvoice | paymentEntry | customerVisit
  | address | contact | item | stockEntry | deliveryNote | purchaseReceipt | materialRequest | supplier
  | supplierQuotation | purchaseInvoice | purchaseOrder | employee | leaveApplication | employeeCheckin
  | attendanceRequest | employeeAdvance | expenseClaim | loanApplication | journalEntry | task
  | timesheet | project | issue | workflow | bom | jobCard
deriving DecidableEq, Repr

namespace ModuleType

def title : ModuleType → String
  | lead => "Lead"
  | opportunity => "Opportunity"
  | customer => "Customer"
  | quotation => "Quotation"
  | salesOrder => "Sales Order"
  | salesInvoice => "Sales Invoice"
  | paymentEntry => "Payment Entry"
  | customerVisit => "Customer Visit"
  | address => "Address"
  | contact => "Contact"
  | item => "Item"
  | stockEntry => "Stock Entry"
  | deliveryNote => "Delivery Note"
  | purchaseReceipt => "Purchase Receipt"
  | materialRequest => "Material Request"
  | supplier => "Supplier"
  | supplierQuotation => "Supplier Quotation"
  | purchaseInvoice => "Purchase Invoice"
  | purchaseOrder => "Purchase Order"
  | employee => "Employee"
  | leaveApplication => "Leave Application"
  | employeeCheckin => "Employee Checkin"
  | attendanceRequest => "Attendance Request"
  | employeeAdvance => "Employee Advance"
  | expenseClaim => "Expense Claim"
  | loanApplication => "Loan Application"
  | journalEntry => "Journal Entry"
  | task => "Task"
  | timesheet => "Timesheet"
  | project => "Project"
  | issue => "Issue"
  | workflow => "Workflow"
  | bom => "BOM"
  | jobCard => "Job Card"

/-- The doctype that the list, count, update and submit requests of the module name. -/
def genericListService (m : ModuleType) : String := m.title

def pageService : ModuleType → String
  | lead => "method/eat_mobile.pages.lead"
  | opportunity => "method/eat_mobile.pages.opportunity"
  | customer => "method/eat_mobile.pages.customer"
  | quotation => "method/eat_mobile.pages.quotation"
  | salesOrder => "method/eat_mobile.pages.sales_order"
  | salesInvoice => "method/eat_mobile.pages.sales_invoice"
  | paymentEntry => "method/eat_mobile.pages.payment_entry"
  | customerVisit => "method/eat_mobile.pages.customer_visit"
  | address => "method/eat_mobile.pages.address"
  | contact => "method/eat_mobile.pages.contact"
  | item => "method/eat_mobile.pages.item"
  | stockEntry => "method/eat_mobile.pages.stock_entry"
  | deliveryNote => "method/eat_mobile.pages.delivery_note"
  | purchaseReceipt => "method/eat_mobile.pages.purchase_receipt"
  | materialRequest => "method/eat_mobile.pages.material_request"
  | supplier => "method/eat_mobile.pages.supplier"
  | supplierQuotation => "method/eat_mobile.pages.supplier_quotation"
  | purchaseInvoice => "method/eat_mobile.pages.purchase_invoice"
  | purchaseOrder => "method/eat_mobile.pages.purchase_order"
  | employee => "method/eat_mobile.pages.employee"
  | leaveApplication => "method/eat_mobile.pages.leave_application"
  | employeeCheckin => "method/eat_mobile.pages.employee_checkin"
  | attendanceRequest => "method/eat_mobile.pages.attendance_request"
  | employeeAdvance => "method/eat_mobile.pages.employee_advance"
  | expenseClaim => "method/eat_mobile.pages.expense_claim"
  | loanApplication => "method/eat_mobile.pages.loan_application"
  | journalEntry => "method/eat_mobile.pages.journal_entry"
  | task => "method/eat_mobile.pages.task"
  | timesheet => "method/eat_mobile.pages.timesheet"
  | project => "method/eat_mobile.pages.project"
  | issue => "method/eat_mobile.pages.issue"
  | workflow => "method/eat_mobile.pages.workflow"
  | bom => "method/eat_mobile.manufacturing.BOMPage"
  | jobCard => "method/eat_mobile.manufacturing.jobCardPage"

/-- The `switch` of `ModuleProvider.setModule`. -/
def ofDoctype? (doctype : String) : Option ModuleType :=
  match doctype with
  | "Lead" => some lead
  | "Opportunity" => some opportunity
  | "Customer" => some customer
  | "Quotation" => some quotation
  | "Sales Order" => some salesOrder
  | "Sales Invoice" => some salesInvoice
  | "Payment Entry" => some paymentEntry
  | "Customer Visit" => some customerVisit
  | "Address" => some address
  | "Contact" => some contact
  | "Item" => some item
  | "Stock Entry" => some stockEntry
  | "Delivery Note" => some deliveryNote
  | "Purchase Receipt" => some purchaseReceipt
  | "Material Request" => some materialRequest
  | "Supplier" => some supplier
  | "Supplier Quotation" => some supplierQuotation
  | "Purchase Invoice" => some purchaseInvoice
  | "Purchase Order" => some purchaseOrder
  | "Employee" => some employee
  | "Leave Application" => some leaveApplication
  | "Employee Checkin" => some employeeCheckin
  | "Attendance Request" => some attendanceRequest
  | "Employee Advance" => some employeeAdvance
  | "Expense Claim" => some expenseClaim
  | "Loan Application" => some loanApplication
  | "Journal Entry" => some journalEntry
  | "Task" => some task
  | "Timesheet" => some timesheet
  | "Project" => some project
  | "Issue" => some issue
  | "Workflow" => some workflow
  | "BOM" => some bom
  | "Job Card" => some jobCard
  | _ => none

@[simp] theorem ofDoctype?_title (m : ModuleType) : ofDoctype? m.title = some m := by
  cases m <;> rfl

theorem title_of_ofDoctype? {doctype : String} {m : ModuleType} (h : ofDoctype? doctype = some m) : m.title = doctype := by
  unfold ofDoctype? at h
  split at h <;> cases h <;> rfl

theorem title_injective : Function.Injective title := fun m m' h => by
  have hm := ofDoctype?_title m
  rw [h, ofDoctype?_title] at hm
  exact (Option.some.inj hm).symm

end ModuleType
end NextApp
