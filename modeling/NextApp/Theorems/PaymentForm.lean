import Mathlib.Data.List.Forall2
import NextApp.Model.PaymentForm

/-! # The references of a payment

An edit of the paid amount keeps one reference whatever their number was, and throws where there is none. It allocates the
whole amount, whatever is outstanding. -/

namespace NextApp.PaymentForms
open PaymentFormState
variable {data d : Doc} {rows : List Doc} {text : String} {texts : List String}

/-! ### Edits -/

/-- The row that an edit puts in the place of all references. -/
def rebuilt (text : String) (row : Doc) : Doc :=
  reference (Doc.at row "reference_doctype") (Doc.at row "reference_name") (Doc.at row "total_amount")
    (Doc.at row "outstanding_amount") (paidAmount text)

theorem get?_of_at {k : String} {v : Value} (h : Doc.at d k = v) (hv : v ≠ .null) : d.get? k = some v := by
  cases hget : d.get? k with
  | none =>
    rw [Doc.at, hget] at h
    exact absurd h.symm hv
  | some w =>
    rw [Doc.at, hget] at h
    exact congrArg some h

theorem editPaidAmount_nil (text : String) (h : Doc.at data "references" = .list []) : ∃ d, editPaidAmount data text = .threw d := by
  have hget := get?_of_at h (by simp)
  simp [editPaidAmount, hget, h]

theorem editPaidAmount_cons (text : String) {row : Doc} {rows : List Value}
    (h : Doc.at data "references" = .list (.map row :: rows)) :
    ∃ d, editPaidAmount data text = .done d ∧ Doc.at d "references" = .list [.map (rebuilt text row)] ∧
      Doc.at d "paid_amount" = paidAmount text := by
  have hget := get?_of_at h (by simp)
  simp [editPaidAmount, hget, h, rebuilt]

@[simp] theorem at_reference (doctype name total outstanding allocated : Value) :
    Doc.at (reference doctype name total outstanding allocated) "reference_doctype" = doctype ∧
      Doc.at (reference doctype name total outstanding allocated) "reference_name" = name ∧
      Doc.at (reference doctype name total outstanding allocated) "outstanding_amount" = outstanding ∧
      Doc.at (reference doctype name total outstanding allocated) "allocated_amount" = allocated :=
  ⟨rfl, rfl, rfl, rfl⟩

/-! ### The references -/

/-- Two rows with the same entries but for the allocated amount. -/
def KeepsRow (row row' : Doc) : Prop := ∀ k, k ≠ "allocated_amount" → row'.get? k = row.get? k

/-- The edits complete, and every submit that then gets to its request sends the rows as they were, but for their allocated
    amounts. -/
def KeepsReferences (data : Doc) (rows : List Doc) (texts : List String) : Prop :=
  ∃ d, editAll data texts = .done d ∧
    ∀ a p q sent, a.of ModuleType.paymentEntry.form = true → ModuleType.paymentEntry.form.submit a p d = .done (q, sent) →
      ∃ rows', Doc.at sent "references" = .list (rows'.map .map) ∧ List.Forall₂ KeepsRow rows rows'

/-- The keys that an edit reads from a reference. -/
def referenceKeys : List String := ["reference_doctype", "reference_name", "total_amount", "outstanding_amount"]

/-- The reference has the keys that an edit writes again, and no other but its allocated amount. -/
def Plain (row : Doc) : Prop :=
  (∀ k ∈ referenceKeys, row.get? k ≠ none) ∧ ∀ k ∉ referenceKeys, k ≠ "allocated_amount" → row.get? k = none

theorem get?_rebuilt {k : String} (text : String) (row : Doc) (hk : k ≠ "allocated_amount") :
    (rebuilt text row).get? k = if k ∈ referenceKeys then some (Doc.at row k) else none := by
  by_cases hkey : k ∈ referenceKeys
  · rw [if_pos hkey]
    simp only [referenceKeys, List.mem_cons, List.not_mem_nil, or_false] at hkey
    rcases hkey with rfl | rfl | rfl | rfl <;> rfl
  · rw [if_neg hkey]
    simp only [referenceKeys, List.mem_cons, List.not_mem_nil, or_false, not_or] at hkey
    simp [rebuilt, reference, Dict.get?, eq_comm, hkey, hk]

theorem keepsRow_rebuilt_iff (text : String) (row : Doc) : KeepsRow row (rebuilt text row) ↔ Plain row := by
  constructor
  · refine fun h => ⟨fun k hk => ?_, fun k hk hallocated => ?_⟩
    · have hne : k ≠ "allocated_amount" := by
        rintro rfl
        exact absurd hk (by decide)
      rw [← h k hne, get?_rebuilt text row hne, if_pos hk]
      exact Option.some_ne_none _
    · rw [← h k hallocated, get?_rebuilt text row hallocated, if_neg hk]
  · rintro ⟨hhas, hno⟩ k hallocated
    rw [get?_rebuilt text row hallocated]
    split_ifs with hk
    · obtain ⟨v, hv⟩ := Option.ne_none_iff_exists'.mp (hhas k hk)
      rw [Doc.at, hv, Option.getD_some]
    · exact (hno k hk hallocated).symm

theorem plain_reference (doctype name total outstanding allocated : Value) :
    Plain (reference doctype name total outstanding allocated) := by
  constructor
  · intro k hk
    simp only [referenceKeys, List.mem_cons, List.not_mem_nil, or_false] at hk
    rcases hk with rfl | rfl | rfl | rfl <;> exact Option.some_ne_none _
  · intro k hk hallocated
    simp only [referenceKeys, List.mem_cons, List.not_mem_nil, or_false, not_or] at hk
    simp [reference, Dict.get?, eq_comm, hk, hallocated]

theorem untouched_references : ModuleType.paymentEntry.form.Untouched "references" := by
  constructor <;> decide

theorem keepsReferences_of_done (h : editAll data texts = .done d) :
    KeepsReferences data rows texts ↔
      ∃ rows', Doc.at d "references" = .list (rows'.map .map) ∧ List.Forall₂ KeepsRow rows rows' := by
  constructor
  · rintro ⟨d', hd', hsent⟩
    cases h.symm.trans hd'
    exact hsent ⟨[], [], [], true, true⟩ {} {} _ rfl rfl
  · rintro ⟨rows', hrows', hkeeps⟩
    refine ⟨d, h, fun a p q sent ha hsubmit => ⟨rows', ?_, hkeeps⟩⟩
    have hsame := ModuleForm.get?_submit untouched_references ha p d
    rw [hsubmit] at hsame
    rw [← hrows', Doc.at, Doc.at]
    exact congrArg (Option.getD · Value.null) hsame

/-- Edits of a form with one rebuilt reference change its amount only. -/
theorem editAll_rebuilt {row : Doc} (text : String) (h : Doc.at data "references" = .list [.map (rebuilt text row)])
    (texts : List String) :
    ∃ d text', editAll data texts = .done d ∧ Doc.at d "references" = .list [.map (rebuilt text' row)] := by
  induction texts generalizing data text with
  | nil => exact ⟨data, text, rfl, h⟩
  | cons text' texts ih =>
    obtain ⟨d, hedit, hd, -⟩ := editPaidAmount_cons text' h
    obtain ⟨d', text'', hrest, hd'⟩ := ih text' hd
    refine ⟨d', text'', ?_, hd'⟩
    rw [editAll, hedit, Outcome.bind_done, hrest]

theorem map_inj : Function.Injective (Value.map : Doc → Value) := fun _ _ h => Value.map.inj h

/-- The edits of the paid amount of a payment complete and keep its references exactly when there is no edit, or one
    reference with no more than an edit writes again. -/
theorem keepsReferences_iff (data : Doc) (rows : List Doc) (h : Doc.at data "references" = .list (rows.map .map))
    (texts : List String) : KeepsReferences data rows texts ↔ texts = [] ∨ ∃ row, rows = [row] ∧ Plain row := by
  cases texts with
  | nil => exact iff_of_true ((keepsReferences_of_done rfl).mpr ⟨rows, h, List.forall₂_same.mpr fun _ _ _ _ => rfl⟩) (Or.inl rfl)
  | cons text texts =>
    rw [or_iff_right (List.cons_ne_nil _ _)]
    cases rows with
    | nil =>
      obtain ⟨d, hthrew⟩ := editPaidAmount_nil text h
      refine iff_of_false ?_ (by simp)
      rintro ⟨d', hdone, -⟩
      rw [editAll, hthrew] at hdone
      cases hdone
    | cons row rows =>
      obtain ⟨d, hedit, hd, -⟩ := editPaidAmount_cons text h
      obtain ⟨d', text', hrest, hd'⟩ := editAll_rebuilt text hd texts
      have hdone : editAll data (text :: texts) = .done d' := by rw [editAll, hedit, Outcome.bind_done, hrest]
      rw [keepsReferences_of_done hdone, hd']
      constructor
      · rintro ⟨rows', hrows', hkeeps⟩
        obtain rfl : rows' = [rebuilt text' row] :=
          (List.map_injective_iff.mpr map_inj (Value.list.inj hrows' : List.map Value.map [rebuilt text' row] = _)).symm
        cases hkeeps with
        | cons hrow htail =>
          cases htail
          exact ⟨row, rfl, (keepsRow_rebuilt_iff text' row).mp hrow⟩
      · rintro ⟨row', hrow', hplain⟩
        cases hrow'
        exact ⟨[rebuilt text' row], rfl, .cons ((keepsRow_rebuilt_iff text' row).mpr hplain) .nil⟩

/-- A payment of an order, paid in two steps. -/
theorem keepsReferences_order :
    KeepsReferences [("references", .list [.map (reference (.str "Sales Order") (.str "SO-1") (.int 9) (.int 9) (.int 9))])]
      [reference (.str "Sales Order") (.str "SO-1") (.int 9) (.int 9) (.int 9)] ["5", "7.5"] :=
  (keepsReferences_iff _ [reference (.str "Sales Order") (.str "SO-1") (.int 9) (.int 9) (.int 9)] rfl _).mpr
    (Or.inr ⟨_, rfl, plain_reference _ _ _ _ _⟩)

/-- A payment of two invoices loses the second with the first key that is pressed. -/
theorem second_reference_lost :
    ¬ KeepsReferences [("references", .list [.map (reference (.str "Sales Invoice") (.str "SI-1") (.int 9) (.int 9) (.int 9)),
      .map (reference (.str "Sales Invoice") (.str "SI-2") (.int 9) (.int 9) (.int 9))])]
      [reference (.str "Sales Invoice") (.str "SI-1") (.int 9) (.int 9) (.int 9),
        reference (.str "Sales Invoice") (.str "SI-2") (.int 9) (.int 9) (.int 9)] ["1"] := by
  rintro ⟨d, hdone, hsent⟩
  obtain ⟨rows', hrows', hkeeps⟩ := hsent ⟨[], [], [], true, true⟩ {} {} _ rfl rfl
  cases hdone
  have hlength := congrArg List.length (Value.list.inj hrows')
  rw [List.length_map, ← hkeeps.length_eq] at hlength
  cases hlength

/-! ### Payments of a source document -/

inductive PaymentSource where
  | salesOrder
  | salesInvoice
  | purchaseInvoice
  | purchaseOrder
deriving DecidableEq

namespace PaymentSource

def doctype : PaymentSource → String
  | salesOrder => "Sales Order"
  | salesInvoice => "Sales Invoice"
  | purchaseInvoice => "Purchase Invoice"
  | purchaseOrder => "Purchase Order"

/-- Where the block of the source reads what is outstanding. -/
def outstandingKey : PaymentSource → String
  | salesInvoice => "outstanding_amount"
  | _ => "grand_total"

def block : PaymentSource → Doc → Doc
  | salesOrder => fromSalesOrder
  | salesInvoice => fromSalesInvoice
  | purchaseInvoice => fromPurchaseInvoice
  | purchaseOrder => fromPurchaseOrder

end PaymentSource

/-- The page of a source with its amounts: an order need not have an outstanding amount. -/
structure SourceDocument where
  source : PaymentSource
  page : Doc
  grandTotal : ℚ
  outstanding : Option ℚ
  grandTotal_page : (Doc.at page "grand_total").rational? = some grandTotal
  outstanding_page : (Doc.at page "outstanding_amount").rational? = outstanding
  outstanding_invoice : source = .salesInvoice ∨ source = .purchaseInvoice → outstanding ≠ none
  nonneg : ∀ o ∈ outstanding, 0 ≤ o
  le_grandTotal : ∀ o ∈ outstanding, o ≤ grandTotal

/-- The number that a value is, not one in its text. -/
def numberOf (v : Value) : Option Number := v.asNum?.map Num.number

/-- There is one reference, its allocated amount is neither above its outstanding amount nor above the paid amount, and its
    outstanding amount is that of the source. -/
def Bounded (doc : SourceDocument) (data : Doc) : Prop :=
  ∃ row allocated outstanding paid, Doc.at data "references" = .list [.map row] ∧
    numberOf (Doc.at row "allocated_amount") = some allocated ∧ numberOf (Doc.at row "outstanding_amount") = some outstanding ∧
    numberOf (Doc.at data "paid_amount") = some paid ∧
    ¬ outstanding < allocated ∧ ¬ paid < allocated ∧ ∀ o ∈ doc.outstanding, outstanding = .finite o

/-- The number that an edit pays. -/
def paid (text : String) : Number := (doubleTryParse text).elim (.finite 0) Number.ofDouble

theorem numberOf_paidAmount (text : String) : numberOf (paidAmount text) = some (paid text) := by
  rw [paidAmount, paid]
  cases doubleTryParse text <;> rfl

theorem numberOf_of_rational {v : Value} {q : ℚ} (h : v.rational? = some q) : numberOf v = some (.finite q) := by
  unfold Value.rational? at h
  split at h
  · next q' hq =>
    cases h
    exact hq
  · cases h

/-- What the reference has as outstanding. -/
def SourceDocument.referred (doc : SourceDocument) : ℚ :=
  if doc.source = .salesInvoice then doc.outstanding.getD 0 else doc.grandTotal

theorem block_spec (source : PaymentSource) (data : Doc) :
    Doc.at (source.block data) "references" = .list [.map (reference (.str source.doctype) (Doc.at data "name")
        (Doc.at data "grand_total") (Doc.at data source.outstandingKey) (Doc.at data source.outstandingKey))] ∧
      Doc.at (source.block data) "paid_amount" = Doc.at data "grand_total" ∧
      Doc.at (source.block data) "doctype" = Doc.at data "doctype" := by
  cases source with
  | salesOrder => simp [PaymentSource.block, fromSalesOrder, fromDocument, PaymentSource.doctype, PaymentSource.outstandingKey]
  | salesInvoice =>
    simp [PaymentSource.block, fromSalesInvoice, fromDocument, PaymentSource.doctype, PaymentSource.outstandingKey]
  | purchaseInvoice =>
    simp [PaymentSource.block, fromPurchaseInvoice, payToSupplier, fromDocument, PaymentSource.doctype,
      PaymentSource.outstandingKey]
  | purchaseOrder =>
    simp [PaymentSource.block, fromPurchaseOrder, payToSupplier, fromDocument, PaymentSource.doctype,
      PaymentSource.outstandingKey]

/-- A block leaves the doctype, so none but its own is taken. -/
theorem fromSource_eq (source : PaymentSource) (h : Doc.at data "doctype" = .str source.doctype) :
    fromSource data = source.block data := by
  have hafter : Doc.at (source.block data) "doctype" = .str source.doctype := (block_spec source data).2.2.trans h
  cases source <;> simp_all [fromSource, PaymentSource.block, PaymentSource.doctype]

theorem openFrom_source (doc : SourceDocument) (now : String) (p : ModuleProvider) :
    Doc.at (openFrom doc.source.doctype now p doc.page) "references" = .list [.map (reference (.str doc.source.doctype)
        (Doc.at doc.page "name") (Doc.at doc.page "grand_total") (Doc.at doc.page doc.source.outstandingKey)
        (Doc.at doc.page doc.source.outstandingKey))] ∧
      Doc.at (openFrom doc.source.doctype now p doc.page) "paid_amount" = Doc.at doc.page "grand_total" := by
  have hkey : doc.source.outstandingKey = "grand_total" ∨ doc.source.outstandingKey = "outstanding_amount" := by
    cases doc.source <;> simp [PaymentSource.outstandingKey]
  rw [openFrom, createFrom]
  -- what the form starts with has the keys of the page
  generalize hstart : (((p.pushCreateFromPage (Dict.set doc.page "doctype" (.str doc.source.doctype))
    "Payment Entry").createFromPageData.set "payment_type" _).set "party_type" _).set "posting_date" _ = start
  have hdoctype : Doc.at start "doctype" = .str doc.source.doctype := by
    rw [← hstart]
    simp [ModuleProvider.pushCreateFromPage, ModuleProvider.setModule, ModuleProvider.saveFields]
  have hat : ∀ k ∈ ["name", "grand_total", "outstanding_amount"], Doc.at start k = Doc.at doc.page k := by
    rw [← hstart]
    simp [ModuleProvider.pushCreateFromPage, ModuleProvider.setModule, ModuleProvider.saveFields]
  have houtstanding : Doc.at start doc.source.outstandingKey = Doc.at doc.page doc.source.outstandingKey := by
    rcases hkey with hk | hk <;> rw [hk] <;> exact hat _ (by simp)
  obtain ⟨hreferences, hpaid, -⟩ := block_spec doc.source start
  rw [hat "name" (by simp), hat "grand_total" (by simp), houtstanding] at hreferences
  rw [hat "grand_total" (by simp)] at hpaid
  rw [fromSource_eq doc.source hdoctype]
  simp [hreferences, hpaid]

theorem referred_eq (doc : SourceDocument) :
    numberOf (Doc.at doc.page doc.source.outstandingKey) = some (.finite doc.referred) := by
  refine numberOf_of_rational ?_
  cases hsource : doc.source with
  | salesInvoice =>
    obtain ⟨o, ho⟩ := Option.ne_none_iff_exists'.mp (doc.outstanding_invoice (Or.inl hsource))
    rw [SourceDocument.referred, if_pos hsource, ho, Option.getD_some, ← ho]
    exact doc.outstanding_page
  | salesOrder | purchaseInvoice | purchaseOrder =>
    rw [SourceDocument.referred, if_neg (by simp [hsource])]
    exact doc.grandTotal_page

/-- The one reference and the paid amount. -/
structure Refers (outstanding allocated amount : Value) (data row : Doc) : Prop where
  references : Doc.at data "references" = .list [.map row]
  outstanding_amount : Doc.at row "outstanding_amount" = outstanding
  allocated_amount : Doc.at row "allocated_amount" = allocated
  paid_amount : Doc.at data "paid_amount" = amount

variable {doc : SourceDocument} {outstanding allocated amount : Value} {row : Doc} {o x y : Number}

theorem refers_edit (h : Refers outstanding allocated amount data row) (text : String) :
    ∃ d row', editPaidAmount data text = .done d ∧ Refers outstanding (paidAmount text) (paidAmount text) d row' := by
  obtain ⟨d, hedit, hreferences, hpaid⟩ := editPaidAmount_cons text h.references
  have houtstanding : Doc.at (rebuilt text row) "outstanding_amount" = Doc.at row "outstanding_amount" := by simp [rebuilt]
  have hallocated : Doc.at (rebuilt text row) "allocated_amount" = paidAmount text := by simp [rebuilt]
  exact ⟨d, rebuilt text row, hedit, hreferences, houtstanding.trans h.outstanding_amount, hallocated, hpaid⟩

theorem bounded_of_refers (h : Refers outstanding allocated amount data row) (ho : numberOf outstanding = some o)
    (hx : numberOf allocated = some x) (hy : numberOf amount = some y) :
    Bounded doc data ↔ ¬ o < x ∧ ¬ y < x ∧ ∀ o' ∈ doc.outstanding, o = .finite o' := by
  constructor
  · rintro ⟨row', x', o', y', hreferences, hx', ho', hy', hbounds⟩
    cases h.references.symm.trans hreferences
    rw [h.allocated_amount, hx, Option.some_inj] at hx'
    rw [h.outstanding_amount, ho, Option.some_inj] at ho'
    rw [h.paid_amount, hy, Option.some_inj] at hy'
    rw [hx', ho', hy']
    exact hbounds
  · intro hbounds
    exact ⟨row, x, o, y, h.references, h.allocated_amount ▸ hx, h.outstanding_amount ▸ ho, h.paid_amount ▸ hy, hbounds⟩

theorem bounded_run (h : Refers outstanding allocated amount data row) (ho : numberOf outstanding = some o) :
    (∀ pre, pre <+: texts → ∃ d, editAll data pre = .done d ∧ Bounded doc d) ↔
      Bounded doc data ∧ ∀ text ∈ texts, ¬ o < paid text ∧ ∀ o' ∈ doc.outstanding, o = .finite o' := by
  induction texts generalizing data allocated amount row with
  | nil =>
    constructor
    · intro hall
      obtain ⟨d, hd, hbounded⟩ := hall [] (List.prefix_refl [])
      cases hd
      exact ⟨hbounded, fun text htext => absurd htext List.not_mem_nil⟩
    · rintro ⟨hbounded, -⟩ pre hpre
      rw [List.prefix_nil.mp hpre]
      exact ⟨data, rfl, hbounded⟩
  | cons text texts ih =>
    obtain ⟨d, row', hedit, hd⟩ := refers_edit h text
    have hafter : Bounded doc d ↔ ¬ o < paid text ∧ ∀ o' ∈ doc.outstanding, o = .finite o' := by
      rw [bounded_of_refers hd ho (numberOf_paidAmount text) (numberOf_paidAmount text)]
      exact and_congr_right fun _ => and_iff_right (Number.lt_irrefl _)
    have hcons : ∀ pre, editAll data (text :: pre) = editAll d pre := fun pre => by
      rw [editAll, hedit, Outcome.bind_done]
    rw [List.forall_mem_cons, ← hafter, ← ih hd]
    constructor
    · intro hall
      obtain ⟨d', hd', hbounded⟩ := hall [] List.nil_prefix
      cases hd'
      refine ⟨hbounded, fun pre hpre => ?_⟩
      rw [← hcons pre]
      exact hall (text :: pre) (List.cons_prefix_cons.mpr ⟨rfl, hpre⟩)
    · rintro ⟨hbounded, hrest⟩ pre hpre
      cases pre with
      | nil => exact ⟨data, rfl, hbounded⟩
      | cons text' pre =>
        obtain ⟨rfl, htail⟩ := List.cons_prefix_cons.mp hpre
        rw [hcons pre]
        exact hrest pre htail

/-- After the opening and after each edit the allocated amount of a payment is bounded exactly when what it refers to as
    outstanding is what its source has outstanding, and no edit pays more. -/
theorem bounded_iff (doc : SourceDocument) (now : String) (p : ModuleProvider) (texts : List String) :
    (∀ pre, pre <+: texts → ∃ d, editAll (openFrom doc.source.doctype now p doc.page) pre = .done d ∧ Bounded doc d) ↔
      (doc.source ≠ .salesInvoice → ∀ o ∈ doc.outstanding, o = doc.grandTotal) ∧
        ∀ text ∈ texts, ¬ Number.finite doc.referred < paid text := by
  obtain ⟨hreferences, hpaid⟩ := openFrom_source doc now p
  have hopened := Refers.mk hreferences rfl rfl hpaid
  have hle : doc.referred ≤ doc.grandTotal := by
    unfold SourceDocument.referred
    split
    · rename_i hsource
      obtain ⟨o, ho⟩ := Option.ne_none_iff_exists'.mp (doc.outstanding_invoice (Or.inl hsource))
      rw [ho, Option.getD_some]
      exact doc.le_grandTotal o ho
    · exact Rat.le_refl
  have hright : (∀ o ∈ doc.outstanding, Number.finite doc.referred = .finite o) ↔
      (doc.source ≠ .salesInvoice → ∀ o ∈ doc.outstanding, o = doc.grandTotal) := by
    simp only [Number.finite.injEq]
    unfold SourceDocument.referred
    split
    · rename_i hsource
      refine iff_of_true (fun o ho => ?_) fun hne => absurd hsource hne
      rw [Option.mem_def.mp ho, Option.getD_some]
    · rename_i hsource
      exact ⟨fun h _ o ho => (h o ho).symm, fun h o ho => (h hsource o ho).symm⟩
  rw [bounded_run hopened (referred_eq doc), bounded_of_refers hopened (referred_eq doc) (referred_eq doc)
    (numberOf_of_rational doc.grandTotal_page), ← hright]
  constructor
  · rintro ⟨⟨-, -, hsame⟩, hall⟩
    exact ⟨hsame, fun text htext => (hall text htext).1⟩
  · rintro ⟨hsame, hall⟩
    refine ⟨⟨Number.lt_irrefl _, ?_, hsame⟩, fun text htext => ⟨hall text htext, hsame⟩⟩
    rw [Number.finite_lt_finite]
    exact Rat.not_lt.mpr hle

/-- A sales invoice of 100 of which 40 are outstanding. -/
def partlyPaid : SourceDocument where
  source := .salesInvoice
  page := [("name", .str "SI-1"), ("grand_total", .double 100), ("outstanding_amount", .double 40)]
  grandTotal := 100
  outstanding := some 40
  grandTotal_page := by decide +kernel
  outstanding_page := by decide +kernel
  outstanding_invoice := by simp
  nonneg := by decide
  le_grandTotal := by decide

/-- Paying the grand total of a partly paid invoice allocates more than is outstanding. -/
theorem overpaid_invoice :
    ¬ ∀ pre, pre <+: ["100"] → ∃ d,
      editAll (openFrom partlyPaid.source.doctype "2024-01-01" {} partlyPaid.page) pre = .done d ∧ Bounded partlyPaid d := by
  intro h
  obtain ⟨hreferences, hpaid⟩ := openFrom_source partlyPaid "2024-01-01" {}
  obtain ⟨d, row, hedit, hd⟩ := refers_edit (Refers.mk hreferences rfl rfl hpaid) "100"
  obtain ⟨d', hd', hbounded⟩ := h ["100"] (List.prefix_refl _)
  rw [editAll, hedit, Outcome.bind_done, editAll] at hd'
  cases hd'
  have hle := ((bounded_of_refers hd (referred_eq partlyPaid) (numberOf_paidAmount "100") (numberOf_paidAmount "100")).mp
    hbounded).1
  refine hle ?_
  have hpaid : paid "100" = .finite 100 := by decide +kernel
  rw [hpaid, Number.finite_lt_finite]
  decide

end NextApp.PaymentForms
