import NextApp.Lib.DateText
import NextApp.Lib.Runs
import NextApp.Model.Pagination
import NextApp.Model.Value

/-! # The rows of a list

The item models of `lib/models/list_models`, as the fields that their `fromJson` reads, one by one: the name in the model, the
key in the row, and what the field takes. Each module has one as its `serviceParser`, and `getList` is null for all rows of a
page when one of them throws. -/

namespace NextApp
open DateText

/-- What a field takes; `orElse` is the right operand of `??`. -/
inductive FieldType where
  | text (orElse : String)
  | nullableText
  /-- `DateTime.parse(... ?? orElse)` -/
  | date (orElse : String)
  /-- a double; `none` is a text for its `orElse`, which does not fit the field -/
  | number (orElse : Option Float)
  | nullableNumber
  | whole (orElse : Int)
  | nullableWhole
  | items
  /-- the text for a number that is read -/
  | docStatus
  /-- a text that is not read at all -/
  | fixed (s : String)
deriving DecidableEq, Repr

structure ListField where
  name : String
  key : String
  type : FieldType
deriving DecidableEq, Repr

inductive ListCell where
  | null
  | text (s : String)
  | date (t : DateTime)
  | number (x : Float)
  | whole (i : Int)
  | items (xs : List Value)
deriving DecidableEq

/-- The fields of an item model, by their names. -/
abbrev ListRow := List (String × ListCell)

/-! ### Reading -/

def FieldType.read : FieldType → Value → Option ListCell
  | text orElse, v => (v.textOr? orElse).map .text
  | nullableText, .null => some .null
  | nullableText, v => v.asString?.map .text
  | date orElse, v => ((v.textOr? orElse).bind parse).map .date
  | number (some orElse), v => (v.doubleOr? orElse).map .number
  | number none, .double x => some (.number x)
  | number none, _ => none
  | nullableNumber, .null => some .null
  | nullableNumber, .double x => some (.number x)
  | nullableNumber, _ => none
  | whole orElse, .null => some (.whole orElse)
  | whole _, .int i => some (.whole i)
  | whole _, _ => none
  | nullableWhole, .null => some .null
  | nullableWhole, .int i => some (.whole i)
  | nullableWhole, _ => none
  | items, .null => some (.items [])
  | items, .list xs => some (.items xs)
  | items, _ => none
  | docStatus, v =>
    some (.text (if v.rational? = some 0 then "Draft"
      else if v.rational? = some 1 then "Submitted"
      else if v.rational? = some 2 then "Cancelled"
      else ""))
  | fixed s, _ => some (.text s)

def ListField.read (json : Doc) (f : ListField) : Option (String × ListCell) :=
  (f.type.read (Doc.at json f.key)).map fun cell => (f.name, cell)

/-- `fromJson` of an item model. -/
def readRow (fields : List ListField) (v : Value) : Option ListRow := v.asMap?.bind fun json => fields.mapM (ListField.read json)

/-- `fromJson` of a list model. -/
def readRows (fields : List ListField) (json : Doc) : Option (List ListRow) :=
  match Doc.at json "message" with
  | .null => some []
  | .list rows => rows.mapM (readRow fields)
  | _ => none

/-- `APIService.getList` after its request; a request that fails is none. -/
def getListRows (fields : List ListField) : Option (Bool × Value) → Option (List ListRow)
  | some (true, .map json) => if (Doc.at json "message").asString? ≠ none then some [] else readRows fields json
  | _ => none

/-! ### Item models -/

def leadItemModel : List ListField :=
  [⟨"id", "name", .text "none"⟩, ⟨"name", "lead_name", .text "none"⟩, ⟨"companyName", "company_name", .text "none"⟩,
   ⟨"status", "status", .text "none"⟩, ⟨"territory", "territory", .text "none"⟩,
   ⟨"marketSegment", "market_segment", .text "none"⟩, ⟨"source", "source", .text "none"⟩]

def opportunityItemModel : List ListField :=
  [⟨"id", "name", .text "none"⟩, ⟨"opportunityFrom", "opportunity_from", .text "none"⟩,
   ⟨"customerName", "customer_name", .text "none"⟩, ⟨"transactionDate", "transaction_date", .date "none"⟩,
   ⟨"status", "status", .text "none"⟩, ⟨"opportunityType", "opportunity_type", .text "none"⟩,
   ⟨"salesStage", "sales_stage", .text "none"⟩]

def customerItemModel : List ListField :=
  [⟨"id", "name", .text "none"⟩, ⟨"name", "customer_name", .text "none"⟩, ⟨"customerGroup", "customer_group", .text "none"⟩,
   ⟨"territory", "territory", .text "none"⟩, ⟨"customerType", "customer_type", .text "none"⟩,
   ⟨"currency", "default_currency", .text "none"⟩, ⟨"mobile", "mobile_no", .text "none"⟩, ⟨"status", "", .fixed "Random"⟩]

def quotationItemModel : List ListField :=
  [⟨"id", "name", .text "none"⟩, ⟨"quotationTo", "quotation_to", .text "none"⟩,
   ⟨"customerName", "customer_name", .text "none"⟩, ⟨"currency", "currency", .text "none"⟩,
   ⟨"transactionDate", "transaction_date", .date "none"⟩, ⟨"grandTotal", "grand_total", .number none⟩,
   ⟨"status", "status", .text "none"⟩]

def orderItemModel : List ListField :=
  [⟨"id", "name", .text "none"⟩, ⟨"customerName", "customer_name", .text "none"⟩,
   ⟨"customerAddress", "customer_address", .text "none"⟩, ⟨"currency", "currency", .text "none"⟩,
   ⟨"transactionDate", "transaction_date", .date ""⟩, ⟨"grandTotal", "grand_total", .number none⟩,
   ⟨"status", "status", .text "none"⟩]

def salesInvoiceItemModel : List ListField :=
  [⟨"id", "name", .text "none"⟩, ⟨"customerName", "customer_name", .text "none"⟩,
   ⟨"customerAddress", "customer_address", .text "none"⟩, ⟨"currency", "currency", .text "none"⟩,
   ⟨"postingDate", "posting_date", .date "none"⟩, ⟨"grandTotal", "grand_total", .number none⟩,
   ⟨"status", "status", .text "none"⟩]

def paymentEntryItem : List ListField :=
  [⟨"id", "name", .text "none"⟩, ⟨"partyName", "party_name", .text "none"⟩, ⟨"paymentType", "payment_type", .text "none"⟩,
   ⟨"modeOfPayment", "mode_of_payment", .text "none"⟩, ⟨"currency", "currency", .text "none"⟩,
   ⟨"paidAmount", "base_paid_amount", .number none⟩, ⟨"postingDate", "posting_date", .date "none"⟩,
   ⟨"status", "status", .text "none"⟩]

def customerVisitItemModel : List ListField :=
  [⟨"id", "name", .text "none"⟩, ⟨"customer", "customer", .text "none"⟩,
   ⟨"customerAddress", "customer_address", .text "none"⟩, ⟨"postingDate", "posting_date", .date "2001-01-01"⟩,
   ⟨"time", "time", .text "11:11:11"⟩, ⟨"status", "docstatus", .whole 0⟩]

def addressItemModel : List ListField :=
  [⟨"id", "name", .text "none"⟩, ⟨"addressTitle", "address_title", .text "none"⟩,
   ⟨"addressType", "address_type", .text "none"⟩, ⟨"addressLine1", "address_line1", .text "none"⟩,
   ⟨"city", "city", .text "none"⟩, ⟨"country", "country", .text "none"⟩, ⟨"linkDocType", "link_doctype", .text "none"⟩,
   ⟨"linkName", "link_name", .text "none"⟩, ⟨"status", "", .fixed "Random"⟩]

def contactItemModel : List ListField :=
  [⟨"id", "name", .text "none"⟩, ⟨"firstName", "first_name", .text "none"⟩, ⟨"user", "user", .text "none"⟩,
   ⟨"mobileNo", "mobile_no", .text "none"⟩, ⟨"phone", "phone", .text "none"⟩, ⟨"emailId", "email_id", .text "none"⟩,
   ⟨"linkDoctype", "link_doctype", .text "none"⟩, ⟨"linkName", "link_name", .text "none"⟩, ⟨"status", "", .fixed "Random"⟩]

def itemModel : List ListField :=
  [⟨"itemCode", "item_code", .text "none"⟩, ⟨"itemName", "item_name", .text "none"⟩, ⟨"stockUom", "uom", .text "none"⟩,
   ⟨"imageUrl", "image", .text "none"⟩, ⟨"group", "item_group", .text "none"⟩]

def stockEntryItemModel : List ListField :=
  [⟨"id", "name", .text "none"⟩, ⟨"stockEntryType", "stock_entry_type", .text "none"⟩,
   ⟨"fromWarehouse", "from_warehouse", .text "none"⟩, ⟨"toWarehouse", "to_warehouse", .text "none"⟩,
   ⟨"docStatus", "docstatus", .whole 0⟩, ⟨"postingDate", "posting_date", .date ""⟩]

def deliveryNoteItemModel : List ListField :=
  [⟨"id", "name", .text "none"⟩, ⟨"postingDate", "posting_date", .date "none"⟩, ⟨"customer", "customer", .text "none"⟩,
   ⟨"setWarehouse", "set_warehouse", .text "none"⟩, ⟨"currency", "currency", .text "none"⟩,
   ⟨"territory", "territory", .text "none"⟩, ⟨"status", "status", .text "none"⟩]

def purchaseReceiptItemModel : List ListField :=
  [⟨"id", "name", .text "none"⟩, ⟨"supplier", "supplier", .text "none"⟩, ⟨"postingDate", "posting_date", .date "none"⟩,
   ⟨"setWarehouse", "set_warehouse", .text "none"⟩, ⟨"currency", "currency", .text "none"⟩,
   ⟨"status", "status", .text "none"⟩]

def materialItemModel : List ListField :=
  [⟨"id", "name", .text "none"⟩, ⟨"requestType", "material_request_type", .text "none"⟩,
   ⟨"setWarehouse", "set_warehouse", .text "none"⟩, ⟨"status", "status", .text "none"⟩,
   ⟨"transactionDate", "transaction_date", .date "none"⟩]

def supplierItemModel : List ListField :=
  [⟨"id", "name", .text "none"⟩, ⟨"name", "supplier_name", .text "none"⟩, ⟨"supplierGroup", "supplier_group", .text "none"⟩,
   ⟨"supplierType", "supplier_type", .text "none"⟩, ⟨"country", "country", .text "none"⟩,
   ⟨"currency", "default_currency", .text "none"⟩, ⟨"mobile", "mobile_no", .text "none"⟩, ⟨"status", "", .fixed "Random"⟩]

def supplierQuotationItemModel : List ListField :=
  [⟨"id", "name", .text "none"⟩, ⟨"name", "supplier", .text "none"⟩, ⟨"transactionDate", "transaction_date", .text "none"⟩,
   ⟨"validTill", "valid_till", .text "none"⟩, ⟨"currency", "currency", .text "none"⟩,
   ⟨"grandTotal", "grand_total", .number none⟩, ⟨"status", "status", .text "none"⟩]

def purchaseInvoiceItemModel : List ListField :=
  [⟨"id", "name", .text "none"⟩, ⟨"name", "supplier", .text "none"⟩, ⟨"postingDate", "posting_date", .date "none"⟩,
   ⟨"grandTotal", "grand_total", .number none⟩, ⟨"currency", "currency", .text "none"⟩, ⟨"status", "status", .text "none"⟩]

def purchaseOrderItemModel : List ListField :=
  [⟨"id", "name", .text "none"⟩, ⟨"name", "supplier", .text "none"⟩, ⟨"transactionDate", "transaction_date", .date "none"⟩,
   ⟨"setWarehouse", "set_warehouse", .text "none"⟩, ⟨"currency", "currency", .text "none"⟩,
   ⟨"grandTotal", "grand_total", .number none⟩, ⟨"status", "status", .text "none"⟩]

def employeeItemModel : List ListField :=
  [⟨"id", "name", .text "none"⟩, ⟨"name", "employee_name", .text "none"⟩, ⟨"department", "department", .text "none"⟩,
   ⟨"designation", "designation", .text "none"⟩, ⟨"branch", "branch", .text "none"⟩,
   ⟨"attendanceDeviceId", "attendance_device_id", .text "none"⟩, ⟨"status", "status", .text "none"⟩]

def leaveApplicationItemModel : List ListField :=
  [⟨"id", "name", .text "none"⟩, ⟨"name", "employee_name", .text "none"⟩, ⟨"department", "department", .text "none"⟩,
   ⟨"leaveType", "leave_type", .text "none"⟩, ⟨"fromDate", "from_date", .date "none"⟩, ⟨"toDate", "to_date", .date "none"⟩,
   ⟨"totalLeaveDays", "total_leave_days", .number none⟩, ⟨"status", "status", .text "none"⟩]

def employeeCheckinItemModel : List ListField :=
  [⟨"id", "name", .text "none"⟩, ⟨"name", "employee_name", .text "none"⟩, ⟨"employee", "employee", .text "none"⟩,
   ⟨"logType", "log_type", .text "none"⟩, ⟨"time", "time", .date "none"⟩, ⟨"shift", "shift", .text "none"⟩,
   ⟨"deviceId", "device_id", .text "none"⟩, ⟨"status", "", .fixed "Random"⟩]

def attendanceRequestItemModel : List ListField :=
  [⟨"id", "name", .text "none"⟩, ⟨"name", "employee_name", .text "none"⟩, ⟨"employee", "employee", .text "none"⟩,
   ⟨"department", "department", .text "none"⟩, ⟨"fromDate", "from_date", .date "none"⟩, ⟨"toDate", "to_date", .date "none"⟩,
   ⟨"reason", "reason", .text "none"⟩, ⟨"docStatus", "docstatus", .docStatus⟩]

def employeeAdvanceItemModel : List ListField :=
  [⟨"id", "name", .text "none"⟩, ⟨"name", "employee_name", .text "none"⟩, ⟨"employee", "employee", .text "none"⟩,
   ⟨"department", "department", .text "none"⟩, ⟨"postingDate", "posting_date", .date "none"⟩,
   ⟨"purpose", "purpose", .text "none"⟩, ⟨"advanceAmount", "advance_amount", .number none⟩,
   ⟨"status", "status", .text "none"⟩, ⟨"company", "company", .text "none"⟩,
   ⟨"advanceAccount", "advance_account", .text "none"⟩]

def expenseClaimItemModel : List ListField :=
  [⟨"id", "name", .text "none"⟩, ⟨"name", "employee_name", .text "none"⟩, ⟨"employee", "employee", .text "none"⟩,
   ⟨"department", "department", .text "none"⟩, ⟨"postingDate", "posting_date", .date "none"⟩,
   ⟨"grandTotal", "grand_total", .number none⟩, ⟨"status", "status", .text "none"⟩]

def loanApplicationItemModel : List ListField :=
  [⟨"id", "name", .text "none"⟩, ⟨"applicantName", "applicant_name", .text "none"⟩,
   ⟨"applicantType", "applicant_type", .text "none"⟩, ⟨"applicant", "applicant", .text "none"⟩,
   ⟨"postingDate", "posting_date", .date "none"⟩, ⟨"loanType", "loan_type", .text "none"⟩,
   ⟨"loanAmount", "loan_amount", .number (some 0)⟩, ⟨"status", "status", .text "none"⟩]

def journalEntryItemModel : List ListField :=
  [⟨"id", "name", .text "none"⟩, ⟨"voucherType", "voucher_type", .text "none"⟩,
   ⟨"postingDate", "posting_date", .date "2001-01-01"⟩, ⟨"totalDebit", "total_debit", .number none⟩,
   ⟨"totalCredit", "total_credit", .number none⟩, ⟨"modeOfPayment", "mode_of_payment", .text "none"⟩,
   ⟨"chequeNo", "cheque_no", .text "none"⟩, ⟨"chequeDate", "cheque_date", .date "2001-01-01"⟩,
   ⟨"remark", "remark", .text "none"⟩, ⟨"docStatus", "docstatus", .whole 0⟩]

def taskItemModel : List ListField :=
  [⟨"name", "name", .text "none"⟩, ⟨"subject", "subject", .text "none"⟩, ⟨"priority", "priority", .text "none"⟩,
   ⟨"status", "status", .text "none"⟩, ⟨"type", "type", .text "none"⟩, ⟨"color", "color", .text "none"⟩,
   ⟨"expectedStartDate", "exp_start_date", .date "2001-01-01"⟩, ⟨"expectedEndDate", "exp_end_date", .date "2001-01-01"⟩,
   ⟨"expectedTime", "expected_time", .number none⟩, ⟨"department", "department", .text "none"⟩,
   ⟨"description", "description", .text "none"⟩, ⟨"company", "company", .text "none"⟩, ⟨"dependsOn", "depends_on", .items⟩,
   ⟨"project", "project", .text "none"⟩, ⟨"progress", "progress", .number none⟩]

def timesheetModel : List ListField :=
  [⟨"name", "name", .text "none"⟩, ⟨"customer", "customer", .text "none"⟩, ⟨"currency", "currency", .text "none"⟩,
   ⟨"exchangeRate", "exchange_rate", .number none⟩, ⟨"salesInvoice", "sales_invoice", .text "none"⟩,
   ⟨"salarySlip", "salary_slip", .text "none"⟩, ⟨"status", "status", .text "none"⟩,
   ⟨"parentProject", "parent_project", .text "none"⟩, ⟨"employeeDetail", "employee_detail", .text "none"⟩,
   ⟨"employeeName", "employee_name", .text "none"⟩, ⟨"department", "department", .text "none"⟩,
   ⟨"user", "user", .text "none"⟩, ⟨"startDate", "start_date", .date "2001-01-01"⟩,
   ⟨"endDate", "end_date", .date "2001-01-01"⟩, ⟨"totalHours", "total_hours", .number none⟩,
   ⟨"totalBillableHours", "total_billable_hours", .number none⟩,
   ⟨"baseTotalBillableAmount", "base_total_billable_amount", .number none⟩,
   ⟨"baseTotalBilledAmount", "base_total_billed_amount", .number none⟩,
   ⟨"baseTotalCostingAmount", "base_total_costing_amount", .number none⟩,
   ⟨"totalBilledHours", "total_billed_hours", .number none⟩, ⟨"totalBillableAmount", "total_billable_amount", .number none⟩,
   ⟨"totalCostingAmount", "total_costing_amount", .number none⟩, ⟨"perBilled", "per_billed", .number none⟩,
   ⟨"timeLogs", "time_logs", .items⟩, ⟨"attachments", "attachments", .items⟩, ⟨"comments", "comments", .items⟩]

def projectItemModel : List ListField :=
  [⟨"name", "name", .nullableText⟩, ⟨"status", "status", .nullableText⟩, ⟨"projectName", "project_name", .nullableText⟩,
   ⟨"expectedStartDate", "expected_start_date", .date "2001-01-01"⟩,
   ⟨"expectedEndDate", "expected_end_date", .date "2001-01-01"⟩, ⟨"projectType", "project_type", .nullableText⟩,
   ⟨"priority", "priority", .nullableText⟩, ⟨"isActive", "is_active", .nullableText⟩,
   ⟨"department", "department", .nullableText⟩, ⟨"percentCompleteMethod", "percent_complete_method", .nullableText⟩,
   ⟨"percentComplete", "percent_complete", .nullableNumber⟩, ⟨"customer", "customer", .nullableText⟩,
   ⟨"notes", "notes", .nullableText⟩, ⟨"actualTime", "actual_time", .nullableNumber⟩, ⟨"conn", "conn", .items⟩,
   ⟨"users", "users", .items⟩, ⟨"attachments", "attachments", .items⟩, ⟨"comments", "comments", .items⟩]

def issueItemModel : List ListField :=
  [⟨"name", "name", .nullableText⟩, ⟨"creation", "creation", .nullableText⟩, ⟨"modified", "modified", .nullableText⟩,
   ⟨"modifiedBy", "modified_by", .nullableText⟩, ⟨"owner", "owner", .nullableText⟩,
   ⟨"docStatus", "docstatus", .nullableWhole⟩, ⟨"idx", "idx", .nullableWhole⟩,
   ⟨"namingSeries", "naming_series", .nullableText⟩, ⟨"subject", "subject", .nullableText⟩,
   ⟨"raisedBy", "raised_by", .nullableText⟩, ⟨"status", "status", .nullableText⟩, ⟨"priority", "priority", .nullableText⟩,
   ⟨"description", "description", .nullableText⟩, ⟨"responseByVariance", "response_by_variance", .nullableWhole⟩,
   ⟨"agreementStatus", "agreement_status", .nullableText⟩,
   ⟨"resolutionByVariance", "resolution_by_variance", .nullableWhole⟩, ⟨"openingDate", "opening_date", .nullableText⟩,
   ⟨"openingTime", "opening_time", .nullableText⟩, ⟨"company", "company", .nullableText⟩,
   ⟨"viaCustomerPortal", "via_customer_portal", .nullableWhole⟩, ⟨"sSeen", "_seen", .nullableText⟩,
   ⟨"project", "project", .nullableText⟩]

def workflowItemModel : List ListField :=
  [⟨"name", "name", .nullableText⟩, ⟨"owner", "owner", .nullableText⟩, ⟨"creation", "creation", .nullableText⟩,
   ⟨"modified", "modified", .nullableText⟩, ⟨"modifiedBy", "modified_by", .nullableText⟩,
   ⟨"docstatus", "docstatus", .nullableWhole⟩, ⟨"idx", "idx", .nullableWhole⟩,
   ⟨"workflowName", "workflow_name", .nullableText⟩, ⟨"documentType", "document_type", .nullableText⟩,
   ⟨"isActive", "is_active", .nullableWhole⟩, ⟨"overrideStatus", "override_status", .nullableWhole⟩,
   ⟨"sendEmailAlert", "send_email_alert", .nullableWhole⟩, ⟨"workflowStateField", "workflow_state_field", .nullableText⟩,
   ⟨"doctype", "doctype", .nullableText⟩, ⟨"transitions", "transitions", .items⟩, ⟨"states", "states", .items⟩]

def bomItemModel : List ListField :=
  [⟨"setRateOfSubAssemblyItemBasedOnBom", "set_rate_of_sub_assembly_item_based_on_bom", .whole 0⟩,
   ⟨"allowAlternativeItem", "allow_alternative_item", .whole 0⟩, ⟨"inspectionRequired", "inspection_required", .whole 0⟩,
   ⟨"rateOfMaterialsBasedOn", "rm_cost_as_per", .text "none"⟩, ⟨"withOperations", "with_operations", .whole 0⟩,
   ⟨"isDefault", "is_default", .whole 0⟩, ⟨"itemName", "item_name", .text "none"⟩, ⟨"currency", "currency", .text "EGP"⟩,
   ⟨"quantity", "quantity", .number (some 1)⟩, ⟨"project", "project", .text "none"⟩, ⟨"name", "name", .text "none"⟩,
   ⟨"item", "item", .text "none "⟩, ⟨"uom", "uom", .text "none"⟩]

def jobCardItemModel : List ListField :=
  [⟨"forQuantity", "for_quantity", .number (some 1)⟩, ⟨"workOrder", "work_order", .text "none"⟩,
   ⟨"operation", "operation", .text "none"⟩, ⟨"itemName", "item_name", .text "none"⟩, ⟨"project", "project", .text "none"⟩,
   ⟨"name", "name", .text "none"⟩]

/-- The item model of the `serviceParser`. -/
def ModuleType.serviceParser : ModuleType → List ListField
  | lead => leadItemModel
  | opportunity => opportunityItemModel
  | customer => customerItemModel
  | quotation => quotationItemModel
  | salesOrder => orderItemModel
  | salesInvoice => salesInvoiceItemModel
  | paymentEntry => paymentEntryItem
  | customerVisit => customerVisitItemModel
  | address => addressItemModel
  | contact => contactItemModel
  | item => itemModel
  | stockEntry => stockEntryItemModel
  | deliveryNote => deliveryNoteItemModel
  | purchaseReceipt => purchaseReceiptItemModel
  | materialRequest => materialItemModel
  | supplier => supplierItemModel
  | supplierQuotation => supplierQuotationItemModel
  | purchaseInvoice => purchaseInvoiceItemModel
  | purchaseOrder => purchaseOrderItemModel
  | employee => employeeItemModel
  | leaveApplication => leaveApplicationItemModel
  | employeeCheckin => employeeCheckinItemModel
  | attendanceRequest => attendanceRequestItemModel
  | employeeAdvance => employeeAdvanceItemModel
  | expenseClaim => expenseClaimItemModel
  | loanApplication => loanApplicationItemModel
  | journalEntry => journalEntryItemModel
  | task => taskItemModel
  | timesheet => timesheetModel
  | project => projectItemModel
  | issue => issueItemModel
  | workflow => workflowItemModel
  | bom => bomItemModel
  | jobCard => jobCardItemModel

/-! ### The list of a module -/

/-- A call of `getItems` that runs to its end before the next, and whether its request for the rows is answered: when the list
    is opened or scrolled, or after the refresh indicator has cleared it. -/
inductive ListLoad where
  | load (answered : Bool)
  | refresh (answered : Bool)
deriving DecidableEq, Repr

/-- What the server answers for the rows from `start`. -/
def rowsReply (rows : List Value) (start : Int) : Bool × Value :=
  (true, .map [("message", .list (Paging.slice rows start.toNat paginationPageLength))])

def loadRows (m : ModuleType) (rows : List Value) (answered : Bool) (s : PaginationState ListRow) : PaginationState ListRow :=
  s.getItems (toString rows.length) fun start =>
    getListRows m.serviceParser (if answered then some (rowsReply rows start) else none)

def listStep (m : ModuleType) (rows : List Value) (s : PaginationState ListRow) : ListLoad → Option (PaginationState ListRow)
  | .load answered =>
    if s.pageCount = -20 ∨ s.items ≠ [] ∧ s.noMoreItems = false then some (loadRows m rows answered s) else none
  | .refresh answered => if s.items ≠ [] then some (loadRows m rows answered s.clearItems) else none

end NextApp
