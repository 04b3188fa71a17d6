import NextApp.Model.ModuleProvider

/-! # The submits of the module forms

What the `submit` of each module form does with the data of the form between its checks and its request: the keys that
it writes, in which order, and the calls that fit the data to the mode of the form. -/

namespace NextApp

namespace ModuleProvider

/-- `updateData`: the data a form starts from when it edits, duplicates or amends the page. -/
def updateData (p : ModuleProvider) : Doc :=
  let data := p.pageData.set "set_posting_time" (.int 1)
  data.removeAll ["attachments", "comments", "print_formats", "conn", "payment_schedule"]

def initializeAmendingFunction (p : ModuleProvider) (data : Doc) : Outcome (ModuleProvider × Doc) :=
  if p.amendDoc then
    .need (p, data) p.currentModule fun m =>
    let data := data.set "doctype" (.str m.title)
    let data := data.set "amended_from" (Doc.at data "name")
    .need (p, data) (Doc.at data "name").asString? fun name =>
    .done ({ p with previousPageId := name, isAmended := true }, data.remove "name")
  else .done (p, data)

def initializeDuplicationMode (p : ModuleProvider) (data : Doc) : Outcome Doc :=
  if p.duplicateMode then
    .need data p.currentModule fun m =>
    let data := data.set "doctype" (.str m.title)
    let data := data.remove "name"
    .done (if Doc.at data "amended_from" ≠ .null then data.remove "amended_from" else data)
  else .done data

end ModuleProvider

/-- Where a submit calls `initializeDuplicationMode`. -/
inductive DuplicationCall where
  | beforeSave
  | afterSave
  | never
deriving DecidableEq, Repr

/-- The keys of the data that a form writes in its submit, none of whose values matter here. -/
structure ModuleForm where
  /-- `initState` loads the page to duplicate it -/
  loadsDuplicate : Bool := true
  /-- the keys written before the modes are looked at -/
  located : List String := []
  /-- the submit calls `initializeAmendingFunction` -/
  amends : Bool := false
  duplication : DuplicationCall := .beforeSave
  /-- the keys of the fields that `_formKey.currentState!.save()` writes -/
  saved : List String := []
  written : List String := []
  removed : List String := []

namespace ModuleType

def form : ModuleType → ModuleForm
  | lead => { saved := ["lead_name", "company_name", "city", "mobile_no", "email_id"] }
  | opportunity => { saved := ["to_discuss"], written := ["items"] }
  | customer =>
    { saved := ["customer_name", "tax_id", "email_id", "mobile_no", "address_line1", "city", "credit_limits"]
      written := ["latitude", "longitude", "location"] }
  | quotation =>
    { amends := true
      saved := ["conversion_rate", "plc_conversion_rate"]
      written := ["docstatus", "items", "taxes"] }
  | salesOrder => { amends := true, written := ["docstatus", "items", "taxes"] }
  | salesInvoice =>
    { amends := true, written := ["docstatus", "items", "taxes", "latitude", "longitude", "location"] }
  | paymentEntry => { amends := true, saved := ["reference_no", "paid_amount"], written := ["docstatus"] }
  | customerVisit =>
    { amends := true, saved := ["description"], written := ["docstatus", "latitude", "longitude", "location", "time"] }
  | address =>
    { located := ["latitude", "longitude", "location"]
      saved := ["address_title", "address_line1", "city"]
      removed := ["reference"] }
  | contact => { saved := ["first_name"], written := ["email_ids", "phone_nos"] }
  -- a duplicate of an item starts from the data of a new one
  | item => { loadsDuplicate := false, saved := ["item_code", "item_name", "description"] }
  | stockEntry =>
    { amends := true, saved := ["custom_customer_name", "custom_remark"], written := ["docstatus", "items"] }
  | deliveryNote =>
    { amends := true, saved := ["conversion_rate", "plc_conversion_rate"], written := ["items", "taxes"] }
  | purchaseReceipt =>
    { amends := true, saved := ["conversion_rate", "plc_conversion_rate"], written := ["items", "taxes"] }
  | materialRequest => { amends := true, written := ["items"] }
  | supplier => { saved := ["supplier_name", "tax_id", "email_id", "mobile_no", "address_line1", "city"] }
  | supplierQuotation =>
    { amends := true
      saved := ["conversion_rate", "plc_conversion_rate"]
      written := ["docstatus", "items", "taxes", "total_qty", "total", "base_total", "net_total", "base_net_total",
        "total_taxes_and_charges ", "base_total_taxes_and_charges", "additional_discount_percentage", "discount_amount",
        "base_discount_amount", "in_words", "base_grand_total", "set_posting_time"] }
  | purchaseInvoice =>
    { amends := true
      saved := ["conversion_rate", "plc_conversion_rate"]
      written := ["docstatus", "items", "taxes", "purchase_invoice_item", "child_purchase_taxes_and_charges"] }
  | purchaseOrder =>
    { amends := true
      saved := ["conversion_rate", "plc_conversion_rate"]
      written := ["docstatus", "purchase_order_items", "child_purchase_taxes_and_charges", "items", "taxes"] }
  | employee =>
    { saved := ["first_name", "last_name", "cell_number", "company_email", "personal_email", "prefered_email",
        "current_address", "permanent_address", "attendance_device_id"]
      written := ["full_name"] }
  | leaveApplication => { amends := true, saved := ["description"], written := ["docstatus"] }
  | employeeCheckin =>
    { saved := ["device_id"]
      written := ["latitude", "longitude", "location", "time"]
      removed := ["time_only", "date_only"] }
  | attendanceRequest => { located := ["latitude", "longitude"], amends := true, saved := ["explanation"] }
  | employeeAdvance => { saved := ["advance_amount", "purpose"] }
  | expenseClaim => { written := ["expenses", "taxes"] }
  | loanApplication => { saved := ["loan_amount", "repayment_amount", "repayment_periods", "description"] }
  | journalEntry => { amends := true, saved := ["cheque_no", "user_remark"], written := ["accounts"] }
  -- the one form that forgets the duplication mode
  | task =>
    { duplication := .never
      saved := ["subject", "expected_time", "progress", "description"]
      written := ["docstatus"] }
  | timesheet => { amends := true, saved := ["customer", "note"], written := ["docstatus"] }
  | project => { duplication := .afterSave, saved := ["project_name", "notes"] }
  | issue => { saved := ["subject", "description"] }
  | workflow => { saved := ["workflow_name"] }
  | bom =>
    { amends := true
      saved := ["item", "project", "quantity", "currency", "Quality Inspection Template"]
      written := ["items", "docstatus"] }
  | jobCard =>
    { amends := true
      saved := ["company", "work_order", "bom_no", "item_name", "production_item", "operation", "for_quantity",
        "wip_warehouse", "quality_inspection_template", "project", "batch_no", "workstation", "remarks"]
      written := ["items", "docstatus"] }

end ModuleType

/-- What a submit writes, each part under keys of its form, and how it ends: it sends its request unless it throws on the
    way, and the request succeeds or fails. -/
structure Submission where
  located : Doc
  saved : Doc
  written : Doc
  sends : Bool
  succeeds : Bool

def Submission.of (a : Submission) (form : ModuleForm) : Bool :=
  a.located.all (fun e => e.1 ∈ form.located) && a.saved.all (fun e => e.1 ∈ form.saved) &&
    a.written.all (fun e => e.1 ∈ form.written)

namespace ModuleForm

def amend (form : ModuleForm) (p : ModuleProvider) (data : Doc) : Outcome (ModuleProvider × Doc) :=
  if form.amends then p.initializeAmendingFunction data else .done (p, data)

/-- The fields are saved, before or after the call for a duplicate. -/
def save (form : ModuleForm) (saved : Doc) (p : ModuleProvider) (data : Doc) : Outcome Doc :=
  match form.duplication with
  | .beforeSave => (p.initializeDuplicationMode data).map fun data : Doc => data.addAll saved
  | .afterSave => p.initializeDuplicationMode (data.addAll saved)
  | .never => .done (data.addAll saved)

/-- The data a submit leaves, with the provider. -/
def submit (form : ModuleForm) (a : Submission) (p : ModuleProvider) (data : Doc) : Outcome (ModuleProvider × Doc) :=
  (form.amend p (data.addAll a.located)).bind fun (p, data) =>
  ((form.save a.saved p data).map fun data => (p, data)).bind fun (p, data) =>
  let data := data.addAll a.written
  if a.sends then .done (p, data.removeAll form.removed) else .threw (p, data)

/-- A key that no part of a submit writes or drops. -/
structure Untouched (form : ModuleForm) (k : String) : Prop where
  identity : k ∉ ["doctype", "amended_from", "name"]
  located : k ∉ form.located
  saved : k ∉ form.saved
  written : k ∉ form.written
  removed : k ∉ form.removed

theorem get?_initializeAmendingFunction {k : String} (hk : k ∉ ["doctype", "amended_from", "name"]) (p : ModuleProvider)
    (d : Doc) : (p.initializeAmendingFunction d).state.2.get? k = d.get? k := by
  simp only [List.mem_cons, List.not_mem_nil, or_false, not_or] at hk
  obtain ⟨hdoctype, hamended, hname⟩ := hk
  rw [ModuleProvider.initializeAmendingFunction]
  split
  · cases p.currentModule with
    | none => rfl
    | some m =>
      rw [Outcome.need_some]
      dsimp only
      cases (Doc.at _ "name").asString? with
      | none => simp [Ne.symm hdoctype, Ne.symm hamended]
      | some name => simp [Ne.symm hdoctype, Ne.symm hamended, Ne.symm hname]
  · rfl

theorem get?_initializeDuplicationMode {k : String} (hk : k ∉ ["doctype", "amended_from", "name"]) (p : ModuleProvider)
    (d : Doc) : (p.initializeDuplicationMode d).state.get? k = d.get? k := by
  simp only [List.mem_cons, List.not_mem_nil, or_false, not_or] at hk
  obtain ⟨hdoctype, hamended, hname⟩ := hk
  rw [ModuleProvider.initializeDuplicationMode]
  split
  · cases p.currentModule with
    | none => rfl
    | some m =>
      rw [Outcome.need_some]
      dsimp only
      split <;> simp [Ne.symm hdoctype, Ne.symm hamended, Ne.symm hname]
  · rfl

theorem get?_save {form : ModuleForm} {k : String} (hk : form.Untouched k) {saved : Doc}
    (hsaved : saved.all fun e => e.1 ∈ form.saved) (p : ModuleProvider) (d : Doc) :
    (form.save saved p d).state.get? k = d.get? k := by
  have hadd : ∀ d : Doc, (d.addAll saved).get? k = d.get? k := fun d => Dict.get?_addAll_of_keys hk.saved hsaved
  rw [ModuleForm.save]
  split
  · rw [Outcome.state_map]
    exact (hadd _).trans (get?_initializeDuplicationMode hk.identity p d)
  · exact (get?_initializeDuplicationMode hk.identity p _).trans (hadd d)
  · exact hadd d

theorem get?_submit {form : ModuleForm} {k : String} (hk : form.Untouched k) {a : Submission} (ha : a.of form = true)
    (p : ModuleProvider) (d : Doc) : (form.submit a p d).state.2.get? k = d.get? k := by
  obtain ⟨⟨hlocated, hsaved⟩, hwritten⟩ := by
    simpa only [Submission.of, Bool.and_eq_true] using ha
  have hfirst : (d.addAll a.located).get? k = d.get? k := Dict.get?_addAll_of_keys hk.located hlocated
  have hamend : (form.amend p (d.addAll a.located)).state.2.get? k = d.get? k := by
    rw [ModuleForm.amend]
    split
    · exact (get?_initializeAmendingFunction hk.identity p _).trans hfirst
    · exact hfirst
  rw [ModuleForm.submit]
  refine Outcome.state_bind (P := fun x : ModuleProvider × Doc => x.2.get? k = d.get? k) hamend fun x hx =>
    Outcome.state_bind (P := fun x : ModuleProvider × Doc => x.2.get? k = d.get? k) ?_ fun x hx => ?_
  · rw [Outcome.state_map]
    exact (get?_save hk hsaved x.1 x.2).trans hx
  · have hadd : (x.2.addAll a.written).get? k = d.get? k := (Dict.get?_addAll_of_keys hk.written hwritten).trans hx
    dsimp only
    split
    · rw [Outcome.state_done, Dict.get?_removeAll, if_neg hk.removed]
      exact hadd
    · exact hadd

end ModuleForm

/-! ### Duplicates -/

/-- The form of a module, opened by `DuplicatePageButton`. -/
structure DuplicateForm where
  module : ModuleType
  provider : ModuleProvider
  data : Doc
  isOpen : Bool := true
deriving DecidableEq

/-- What happens to the form: its page loads, a field or what a picker calls back writes or drops a key, or it is
    submitted. -/
inductive DuplicateEvent where
  | load
  | write (key : String) (value : Value)
  | drop (key : String)
  | submit (submission : Submission)

inductive FormRequest where
  | create (data : Doc)
  | update (data : Doc)

namespace DuplicateForm

/-- A press of the button on a page of `m`, whose form starts with the data of a new document. -/
def press (m : ModuleType) (page : ModuleProvider) (data : Doc) : DuplicateForm where
  module := m
  provider := { page with currentModule := some m }.setDuplicateMode true
  data := data

def sent (s : DuplicateForm) : DuplicateEvent → Option FormRequest
  | .submit a =>
    match s.module.form.submit a s.provider s.data with
    | .done (p, data) => some (if p.editPage then .update data else .create data)
    | .threw _ => none
  | _ => none

/-- The form stays open when its request fails. -/
def step (s : DuplicateForm) (e : DuplicateEvent) : Option DuplicateForm :=
  if s.isOpen then
    match e with
    | .load => if s.module.form.loadsDuplicate then some { s with data := s.provider.updateData } else none
    | .write key value => some { s with data := s.data.set key value }
    | .drop key => some { s with data := s.data.remove key }
    | .submit a =>
      if a.of s.module.form then
        match s.module.form.submit a s.provider s.data with
        | .done (p, data) => some { s with provider := p, data := data, isOpen := !a.succeeds }
        | .threw (p, data) => some { s with provider := p, data := data }
      else none
  else none

end DuplicateForm

end NextApp
