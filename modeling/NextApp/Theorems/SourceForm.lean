import NextApp.Model.SourceForm

/-! # What a form keeps of its source

The link to the source is copied before its name is removed only where the doctype is tested before it is written, as
in the sales order and the task. The keys of the source are removed unless a cast throws before. -/

namespace NextApp.SourceForms
variable {s : FormStart} {d page : Doc} {provider : ModuleProvider} {now : String}

/-- The key that links the document to its source, and the key of the source that it is taken from. -/
def link : SourceEntry → String × String
  | .quotationToSalesOrder => ("prevdoc_docname", "name")
  | .salesOrderToPurchaseOrder => ("sales_order", "name")
  | .supplierQuotationToPurchaseOrder => ("schedule_date", "valid_till")
  | .materialRequestToPurchaseOrder => ("schedule_date", "schedule_date")
  | .opportunityToSupplierQuotation => ("opportunity", "name")
  | .projectToTask => ("project", "name")
  | .issueToTask => ("issue", "name")

/-- What is the source's own, and the page fields saved in its map. -/
def ownKeys : List String :=
  ["name", "docstatus", "status", "_pageData", "_pageId", "_availablePdfFormat", "_currentModule"]

/-- The data has the doctype of the form and nothing of the source's own. -/
structure Cleared (entry : SourceEntry) (data : Doc) : Prop where
  doctype : data.get? "doctype" = some (.str entry.target)
  own : ∀ k ∈ ownKeys, data.get? k = none

/-- It is linked to the source too. -/
def Carries (entry : SourceEntry) (page data : Doc) : Prop :=
  Doc.at data (link entry).1 = Doc.at page (link entry).2 ∧ Cleared entry data

/-- So does the data a form starts from, before and after the data of the party arrives. -/
def Provenance (entry : SourceEntry) (now : String) (provider : ModuleProvider) (page : Doc) : Prop :=
  let start := entry.start now provider page
  Carries entry page start.data ∧ (start.asked ≠ none → ∀ p, Carries entry page (entry.partyArrives p start.data))

/-- The items of a document that has a table of them. -/
def HasRows (page : Doc) : Prop := ∃ rows, Doc.at page "items" = .list rows ∧ ∀ row ∈ rows, row.asMap? ≠ none

/-- When a menu entry keeps its source. -/
def KeepsSource (entry : SourceEntry) (page : Doc) : Prop :=
  match entry with
  | .quotationToSalesOrder => HasRows page ∧ (Doc.at page "party_name").asString? ≠ none
  | .salesOrderToPurchaseOrder => HasRows page ∧ Doc.at page "sales_order" = Doc.at page "name"
  | .supplierQuotationToPurchaseOrder => HasRows page ∧ Doc.at page "schedule_date" = Doc.at page "valid_till"
  | .materialRequestToPurchaseOrder =>
    HasRows page ∧
      ((Doc.at page "supplier").asString? ≠ none → Doc.at page "valid_till" = Doc.at page "schedule_date")
  | .opportunityToSupplierQuotation =>
    HasRows page ∧ (Doc.at page "customer_name").asString? ≠ none ∧ Doc.at page "opportunity" = Doc.at page "name"
  | .projectToTask | .issueToTask => True

/-! ### Rows -/

theorem addRows_done {rows : List Value} (h : ∀ row ∈ rows, row.asMap? ≠ none) :
    ∃ items, s.addRows rows = .done { s with newItemList := items } := by
  induction rows generalizing s with
  | nil => exact ⟨s.newItemList, rfl⟩
  | cons row rows ih =>
    obtain ⟨hrow, hrows⟩ := List.forall_mem_cons.mp h
    obtain ⟨item, hitem⟩ := Option.ne_none_iff_exists'.mp hrow
    obtain ⟨items, hitems⟩ := ih (s := { s with newItemList := s.newItemList ++ [item] }) hrows
    exact ⟨items, by rw [FormStart.addRows, hitem, Outcome.need_some, hitems]⟩

theorem addRows_threw {rows : List Value} (h : ¬ ∀ row ∈ rows, row.asMap? ≠ none) :
    ∃ items, s.addRows rows = .threw { s with newItemList := items } := by
  induction rows generalizing s with
  | nil => exact absurd (fun _ hrow => absurd hrow List.not_mem_nil) h
  | cons row rows ih =>
    rw [FormStart.addRows]
    cases hrow : row.asMap? with
    | none => exact ⟨s.newItemList, rfl⟩
    | some item =>
      rw [Outcome.need_some]
      refine ih fun hrows => h (List.forall_mem_cons.mpr ⟨?_, hrows⟩)
      simp [hrow]

theorem addItems_done (h : HasRows s.data) : ∃ items, s.addItems = .done { s with newItemList := items } := by
  obtain ⟨rows, hitems, hrows⟩ := h
  simp only [FormStart.addItems, hitems]
  exact addRows_done hrows

theorem addItems_threw (h : ¬ HasRows s.data) : ∃ items, s.addItems = .threw { s with newItemList := items } := by
  rw [FormStart.addItems]
  split
  · rename_i rows hitems
    exact addRows_threw fun hrows => h ⟨rows, hitems, hrows⟩
  · exact ⟨s.newItemList, rfl⟩

/-! ### Forms -/

theorem salesOrderForm_state (now : String) {party : String} (hdoctype : Doc.at d "doctype" = .str "Quotation") (hrows : HasRows d)
    (hparty : Doc.at d "party_name" = .str party) :
    let t := (SalesOrderFormState.initState now { data := d }).state
    Doc.at t.data "prevdoc_docname" = Doc.at d "name" ∧ t.data.get? "doctype" = some (.str "Sales Order") ∧
      ∀ k ∈ ownKeys, t.data.get? k = none := by
  obtain ⟨items, hitems⟩ := addItems_done (s := { data := d }) hrows
  simp [SalesOrderFormState.initState, hdoctype, hitems, FormStart.edit, FormStart.ask, hparty, ownKeys, sourceKeys]

theorem salesOrderForm_stuck (hdoctype : Doc.at d "doctype" = .str "Quotation")
    (h : ¬ (HasRows d ∧ (Doc.at d "party_name").asString? ≠ none)) :
    (SalesOrderFormState.initState now { data := d }).state.data.get? "_pageId" = d.get? "_pageId" := by
  by_cases hrows : HasRows d
  · obtain ⟨items, hitems⟩ := addItems_done (s := { data := d }) hrows
    have hparty : (Doc.at d "party_name").asString? = none := by
      by_contra hparty
      exact h ⟨hrows, hparty⟩
    simp [SalesOrderFormState.initState, hdoctype, hitems, FormStart.edit, FormStart.ask, hparty]
  · obtain ⟨items, hitems⟩ := addItems_threw (s := { data := d }) hrows
    simp [SalesOrderFormState.initState, hdoctype, hitems]

/-- The supplier is asked for last, so the data is the same whether that throws or not. -/
theorem ask_state (s : FormStart) (h : s.asked = none) (party : Value) :
    (s.ask party).state = { s with asked := party.asString? } := by
  rw [FormStart.ask]
  cases hparty : party.asString? with
  | none => exact congrArg (fun asked => { s with asked }) h
  | some party => rfl

/-- No branch of the purchase order is taken: what the source has under the keys of its links stays. -/
theorem purchaseOrderForm_state (now : String) (hrows : HasRows d) :
    let t := (PurchaseOrderFormState.initState now { data := d }).state
    (∀ k ∈ ["sales_order", "schedule_date", "valid_till"], Doc.at t.data k = Doc.at d k) ∧
      t.data.get? "doctype" = some (.str "Purchase Order") ∧ (∀ k ∈ ownKeys, t.data.get? k = none) ∧
      t.asked = (Doc.at d "supplier").asString? := by
  obtain ⟨items, hitems⟩ := addItems_done (s := { data := d }) hrows
  simp [PurchaseOrderFormState.initState, hitems, FormStart.edit, ask_state, ownKeys, sourceKeys]

theorem purchaseOrderForm_stuck (hrows : ¬ HasRows d) : (PurchaseOrderFormState.initState now { data := d }).state.data = d := by
  obtain ⟨items, hitems⟩ := addItems_threw (s := { data := d }) hrows
  simp [PurchaseOrderFormState.initState, hitems]

/-- The branch of the opportunity is not taken either. -/
theorem supplierQuotationForm_state (now : String) {party : String} (hrows : HasRows d)
    (hparty : Doc.at d "customer_name" = .str party) :
    let t := (SupplierQuotationFormState.initState now { data := d }).state
    Doc.at t.data "opportunity" = Doc.at d "opportunity" ∧ t.data.get? "doctype" = some (.str "Supplier Quotation") ∧
      ∀ k ∈ ownKeys, t.data.get? k = none := by
  obtain ⟨items, hitems⟩ := addItems_done (s := { data := d }) hrows
  simp [SupplierQuotationFormState.initState, hitems, FormStart.edit, FormStart.ask, hparty, ownKeys, sourceKeys]

theorem supplierQuotationForm_stuck (h : ¬ (HasRows d ∧ (Doc.at d "customer_name").asString? ≠ none)) :
    (SupplierQuotationFormState.initState now { data := d }).state.data.get? "_pageId" = d.get? "_pageId" := by
  by_cases hrows : HasRows d
  · obtain ⟨items, hitems⟩ := addItems_done (s := { data := d }) hrows
    have hparty : (Doc.at d "customer_name").asString? = none := by
      by_contra hparty
      exact h ⟨hrows, hparty⟩
    simp [SupplierQuotationFormState.initState, hitems, FormStart.edit, FormStart.ask, hparty]
  · obtain ⟨items, hitems⟩ := addItems_threw (s := { data := d }) hrows
    simp [SupplierQuotationFormState.initState, hitems]

theorem taskForm_state (hdoctype : Doc.at d "doctype" = .str "Project" ∨ Doc.at d "doctype" = .str "Issue") :
    let t := (TaskFormState.initState { data := d }).state
    (Doc.at d "doctype" = .str "Project" → Doc.at t.data "project" = Doc.at d "name") ∧
      (Doc.at d "doctype" = .str "Issue" → Doc.at t.data "issue" = Doc.at d "name") ∧
      t.data.get? "doctype" = some (.str "Task") ∧ (∀ k ∈ ownKeys, t.data.get? k = none) ∧ t.asked = none := by
  rcases hdoctype with hdoctype | hdoctype <;> simp [TaskFormState.initState, hdoctype, FormStart.edit, ownKeys, sourceKeys]

/-! ### The data of the party -/

variable {entry : SourceEntry} {data : Doc} {p : PartyData}

theorem cleared_set {k : String} {v : Value} (h : Cleared entry data) (hk : k ∉ "doctype" :: ownKeys) :
    Cleared entry (data.set k v) := by
  obtain ⟨hdoctype, hown⟩ : k ≠ "doctype" ∧ k ∉ ownKeys := by simpa using hk
  refine ⟨(Dict.get?_set_ne hdoctype).trans h.doctype, fun k' hk' => ?_⟩
  exact (Dict.get?_set_ne (ne_of_mem_of_not_mem hk' hown).symm).trans (h.own k' hk')

theorem cleared_partyArrives (h : Cleared entry data) : Cleared entry (entry.partyArrives p data) := by
  have hcustomer : Cleared entry (SalesOrderFormState.customerArrives p data) := by
    unfold SalesOrderFormState.customerArrives
    split
    · exact h
    · have hdue := cleared_set (k := "due_date") (v := .str ‹String›) h (by decide)
      have hprices : ∀ data, Cleared entry data → Cleared entry
          (if Doc.at data "selling_price_list" ≠ Doc.at p.party "default_price_list" then
            data.set "selling_price_list" (Doc.at p.party "default_price_list") else data) := fun data h => by
        split
        · exact cleared_set h (by decide)
        · exact h
      exact cleared_set (cleared_set (cleared_set (cleared_set (cleared_set (hprices _ hdue) (by decide)) (by decide))
        (by decide)) (by decide)) (by decide)
  have hsupplier : Cleared entry (PurchaseOrderFormState.supplierArrives p data) := by
    unfold PurchaseOrderFormState.supplierArrives
    split
    · exact h
    · exact cleared_set (cleared_set (cleared_set (cleared_set h (by decide)) (by decide)) (by decide)) (by decide)
  cases entry with
  | quotationToSalesOrder => exact hcustomer
  | salesOrderToPurchaseOrder | supplierQuotationToPurchaseOrder | materialRequestToPurchaseOrder => exact hsupplier
  | opportunityToSupplierQuotation => exact cleared_set (cleared_set h (by decide)) (by decide)
  | projectToTask | issueToTask => exact h

theorem prevdoc_salesOrderCustomer :
    Doc.at (SalesOrderFormState.customerArrives p data) "prevdoc_docname" = Doc.at data "prevdoc_docname" := by
  unfold SalesOrderFormState.customerArrives
  split
  · rfl
  · simp only [Doc.at_set_ne _ _ (show "customer_group" ≠ "prevdoc_docname" by decide),
      Doc.at_set_ne _ _ (show "territory" ≠ "prevdoc_docname" by decide)]
    split <;> simp

theorem salesOrder_purchaseOrderSupplier :
    Doc.at (PurchaseOrderFormState.supplierArrives p data) "sales_order" = Doc.at data "sales_order" := by
  unfold PurchaseOrderFormState.supplierArrives
  split
  · rfl
  · simp

theorem scheduleDate_purchaseOrderSupplier (p : PartyData) (data : Doc) :
    Doc.at (PurchaseOrderFormState.supplierArrives p data) "schedule_date" =
      Doc.at data (if p.dueDate = none then "schedule_date" else "valid_till") := by
  unfold PurchaseOrderFormState.supplierArrives
  split
  · rename_i hdue
    rw [if_pos hdue]
  · rename_i dueDate hdue
    simp [hdue]

/-! ### Menu entries -/

/-- The map that the menu entry of a page gives its form. -/
def given (entry : SourceEntry) (provider : ModuleProvider) (page : Doc) : Doc :=
  ModuleProvider.saveFields (page.set "doctype" (.str entry.source)) provider

theorem start_eq (entry : SourceEntry) :
    entry.start now provider page = (entry.form now { data := given entry provider page }).state := rfl

theorem given_doctype : Doc.at (given entry provider page) "doctype" = .str entry.source := by
  simp [given, ModuleProvider.saveFields]

theorem given_pageId : (given entry provider page).get? "_pageId" = some (.str provider.pageId) := by
  simp [given, ModuleProvider.saveFields]

theorem given_other {k : String} (h : k ∉ ["doctype", "_pageData", "_pageId", "_availablePdfFormat", "_currentModule"]) :
    Doc.at (given entry provider page) k = Doc.at page k := by
  simp only [List.mem_cons, List.not_mem_nil, or_false, not_or] at h
  obtain ⟨h1, h2, h3, h4, h5⟩ := h
  simp only [given, ModuleProvider.saveFields, Doc.at_set_ne _ _ (Ne.symm h1), Doc.at_set_ne _ _ (Ne.symm h2),
    Doc.at_set_ne _ _ (Ne.symm h3), Doc.at_set_ne _ _ (Ne.symm h4), Doc.at_set_ne _ _ (Ne.symm h5)]

theorem hasRows_given : HasRows (given entry provider page) ↔ HasRows page := by
  rw [HasRows, given_other (by decide)]
  rfl

/-- The page fields go only with the other keys of the source. -/
theorem not_provenance_of_pageId
    (h : (entry.start now provider page).data.get? "_pageId" = (given entry provider page).get? "_pageId") :
    ¬ Provenance entry now provider page := by
  intro hprov
  rw [hprov.1.2.own "_pageId" (by decide), given_pageId] at h
  cases h

/-- The arrival keeps what the form has at the start if it keeps the link. -/
theorem provenance_of_carries (h : Carries entry page (entry.start now provider page).data)
    (hlink : ∀ p data, Doc.at (entry.partyArrives p data) (link entry).1 = Doc.at data (link entry).1) :
    Provenance entry now provider page :=
  ⟨h, fun _ p => ⟨(hlink p _).trans h.1, cleared_partyArrives h.2⟩⟩

theorem salesOrder_iff :
    Provenance .quotationToSalesOrder now provider page ↔ KeepsSource .quotationToSalesOrder page := by
  have hname : Doc.at (given .quotationToSalesOrder provider page) "name" = Doc.at page "name" := given_other (by decide)
  have hkeeps : KeepsSource .quotationToSalesOrder page ↔ HasRows (given .quotationToSalesOrder provider page) ∧
      (Doc.at (given .quotationToSalesOrder provider page) "party_name").asString? ≠ none := by
    rw [hasRows_given, given_other (by decide)]
    exact Iff.rfl
  rw [hkeeps]
  by_cases h : HasRows (given .quotationToSalesOrder provider page) ∧
      (Doc.at (given .quotationToSalesOrder provider page) "party_name").asString? ≠ none
  · refine iff_of_true ?_ h
    obtain ⟨party, hparty⟩ := Value.asString?_ne_none_iff.mp h.2
    obtain ⟨hlink, hdoctype, hown⟩ := salesOrderForm_state now given_doctype h.1 hparty
    exact provenance_of_carries ⟨hlink.trans hname, hdoctype, hown⟩ fun _ _ => prevdoc_salesOrderCustomer
  · exact iff_of_false (not_provenance_of_pageId (salesOrderForm_stuck given_doctype h)) h

theorem supplierQuotation_iff :
    Provenance .opportunityToSupplierQuotation now provider page ↔ KeepsSource .opportunityToSupplierQuotation page := by
  have hopportunity : Doc.at (given .opportunityToSupplierQuotation provider page) "opportunity" =
      Doc.at page "opportunity" := given_other (by decide)
  have hkeeps : KeepsSource .opportunityToSupplierQuotation page ↔
      (HasRows (given .opportunityToSupplierQuotation provider page) ∧
        (Doc.at (given .opportunityToSupplierQuotation provider page) "customer_name").asString? ≠ none) ∧
        Doc.at page "opportunity" = Doc.at page "name" := by
    rw [hasRows_given, given_other (by decide), and_assoc]
    exact Iff.rfl
  rw [hkeeps]
  by_cases h : HasRows (given .opportunityToSupplierQuotation provider page) ∧
      (Doc.at (given .opportunityToSupplierQuotation provider page) "customer_name").asString? ≠ none
  · rw [and_iff_right h]
    obtain ⟨party, hparty⟩ := Value.asString?_ne_none_iff.mp h.2
    obtain ⟨hlink, hdoctype, hown⟩ := supplierQuotationForm_state now h.1 hparty
    refine ⟨fun hprov => ?_, fun hname => ?_⟩
    · exact (hlink.trans hopportunity).symm.trans hprov.1.1
    · refine provenance_of_carries ⟨(hlink.trans hopportunity).trans hname, hdoctype, hown⟩ fun p data => ?_
      simp [SourceEntry.partyArrives, SupplierQuotationFormState.supplierArrives, link]
  · refine iff_of_false (not_provenance_of_pageId (supplierQuotationForm_stuck h)) fun hboth => h hboth.1

theorem task_projectToTask : Provenance .projectToTask now provider page := by
  obtain ⟨hlink, -, hdoctype, hown, -⟩ :=
    taskForm_state (d := given .projectToTask provider page) (Or.inl given_doctype)
  exact provenance_of_carries ⟨(hlink given_doctype).trans (given_other (by decide)), hdoctype, hown⟩ fun _ _ => rfl

theorem task_issueToTask : Provenance .issueToTask now provider page := by
  obtain ⟨-, hlink, hdoctype, hown, -⟩ :=
    taskForm_state (d := given .issueToTask provider page) (Or.inr given_doctype)
  exact provenance_of_carries ⟨(hlink given_doctype).trans (given_other (by decide)), hdoctype, hown⟩ fun _ _ => rfl

theorem purchaseOrder_start (entry : SourceEntry) (now : String) (provider : ModuleProvider)
    (hform : entry.form now = PurchaseOrderFormState.initState now) (htarget : entry.target = "Purchase Order") (hrows : HasRows page) :
    let t := entry.start now provider page
    (∀ k ∈ ["sales_order", "schedule_date", "valid_till"], Doc.at t.data k = Doc.at page k) ∧ Cleared entry t.data ∧
      t.asked = (Doc.at page "supplier").asString? := by
  have hgiven : HasRows (given entry provider page) := hasRows_given.mpr hrows
  obtain ⟨hkeys, hdoctype, hown, hasked⟩ := purchaseOrderForm_state now hgiven
  rw [start_eq, hform]
  refine ⟨fun k hk => (hkeys k hk).trans (given_other ?_), ⟨htarget ▸ hdoctype, hown⟩, ?_⟩
  · simp only [List.mem_cons, List.not_mem_nil, or_false] at hk
    rcases hk with rfl | rfl | rfl <;> decide
  · rw [hasked, given_other (by decide)]

theorem purchaseOrder_stuck (hform : entry.form now = PurchaseOrderFormState.initState now) (hrows : ¬ HasRows page) :
    ¬ Provenance entry now provider page := by
  refine not_provenance_of_pageId ?_
  rw [start_eq, hform, purchaseOrderForm_stuck fun h => hrows (hasRows_given.mp h)]

theorem salesOrderToPurchaseOrder_iff :
    Provenance .salesOrderToPurchaseOrder now provider page ↔ KeepsSource .salesOrderToPurchaseOrder page := by
  by_cases hrows : HasRows page
  · obtain ⟨hkeys, hcleared, -⟩ := purchaseOrder_start .salesOrderToPurchaseOrder now provider rfl rfl hrows
    have hstart := hkeys "sales_order" (by decide)
    refine Iff.trans ⟨fun hprov => hstart.symm.trans hprov.1.1, fun hname => ?_⟩ (and_iff_right hrows).symm
    exact provenance_of_carries ⟨hstart.trans hname, hcleared⟩ fun _ _ => salesOrder_purchaseOrderSupplier
  · exact iff_of_false (purchaseOrder_stuck rfl hrows) fun h => hrows h.1

theorem supplierQuotationToPurchaseOrder_iff :
    Provenance .supplierQuotationToPurchaseOrder now provider page ↔
      KeepsSource .supplierQuotationToPurchaseOrder page := by
  by_cases hrows : HasRows page
  · obtain ⟨hkeys, hcleared, -⟩ := purchaseOrder_start .supplierQuotationToPurchaseOrder now provider rfl rfl hrows
    have hstart := hkeys "schedule_date" (by decide)
    refine Iff.trans ⟨fun hprov => hstart.symm.trans hprov.1.1, fun htill => ?_⟩ (and_iff_right hrows).symm
    refine ⟨⟨hstart.trans htill, hcleared⟩, fun _ p => ⟨?_, cleared_partyArrives hcleared⟩⟩
    -- the arrival writes the date again
    refine (scheduleDate_purchaseOrderSupplier p _).trans ?_
    split
    · exact hstart.trans htill
    · exact hkeys "valid_till" (by decide)
  · exact iff_of_false (purchaseOrder_stuck rfl hrows) fun h => hrows h.1

theorem materialRequestToPurchaseOrder_iff :
    Provenance .materialRequestToPurchaseOrder now provider page ↔ KeepsSource .materialRequestToPurchaseOrder page := by
  by_cases hrows : HasRows page
  · obtain ⟨hkeys, hcleared, hasked⟩ := purchaseOrder_start .materialRequestToPurchaseOrder now provider rfl rfl hrows
    have hstart := hkeys "schedule_date" (by decide)
    have htill := hkeys "valid_till" (by decide)
    refine Iff.trans ⟨fun hprov hsupplier => ?_, fun hdate => ?_⟩ (and_iff_right hrows).symm
    · have harrives := (hprov.2 (hasked ▸ hsupplier) ⟨[], some ""⟩).1
      exact htill.symm.trans ((scheduleDate_purchaseOrderSupplier ⟨[], some ""⟩ _).symm.trans harrives)
    · refine ⟨⟨hstart, hcleared⟩, fun hne p => ⟨?_, cleared_partyArrives hcleared⟩⟩
      refine (scheduleDate_purchaseOrderSupplier p _).trans ?_
      split
      · exact hstart
      · exact htill.trans (hdate (hasked ▸ hne))
  · exact iff_of_false (purchaseOrder_stuck rfl hrows) fun h => hrows h.1

/-- A menu entry keeps its source exactly when its form gets through to the end and has the link without copying it. -/
theorem provenance_iff (entry : SourceEntry) (now : String) (provider : ModuleProvider) (page : Doc) :
    Provenance entry now provider page ↔ KeepsSource entry page := by
  cases entry with
  | quotationToSalesOrder => exact salesOrder_iff
  | salesOrderToPurchaseOrder => exact salesOrderToPurchaseOrder_iff
  | supplierQuotationToPurchaseOrder => exact supplierQuotationToPurchaseOrder_iff
  | materialRequestToPurchaseOrder => exact materialRequestToPurchaseOrder_iff
  | opportunityToSupplierQuotation => exact supplierQuotation_iff
  | projectToTask => exact iff_of_true task_projectToTask trivial
  | issueToTask => exact iff_of_true task_issueToTask trivial

/-- A purchase order from a sales order has no sales order. -/
theorem purchase_order_without_sales_order :
    ¬ Provenance .salesOrderToPurchaseOrder "2024-05-01T08:00:00" {}
        [("name", .str "SAL-ORD-1"), ("docstatus", .int 1), ("status", .str "To Deliver and Bill"),
          ("items", .list [.map [("item_code", .str "PEN"), ("qty", .double 2)]])] :=
  fun h => absurd h.1.1 (by decide)

end NextApp.SourceForms
