import NextApp.Model.DefaultTax
import NextApp.Theorems.RowForm

/-! # The default taxes stay what the login has received

A new expense claim holds the list of the user itself, and its submit writes into the first row: the sales documents
after it are sent with the tax of the claim. -/

namespace NextApp

/-- The row already has what the submit writes into it, its numbers of the same type. -/
structure TaxData.HeldBy (tax : TaxData) (r : ItemRow Num) : Prop where
  chargeType : r.others.get? "charge_type" = none
  rate : r.rate = tax.rate
  costCenter : r.others.get? "cost_center" = some tax.costCenter
  total : r.others.get? "total" = some tax.total
  taxAmount : r.others.get? "tax_amount" = some tax.taxAmount

theorem TaxData.write_eq_iff {tax : TaxData} {r : ItemRow Num} : tax.write r = r ↔ tax.HeldBy r := by
  constructor
  · intro h
    have hothers : (tax.write r).others = r.others := congrArg ItemRow.others h
    have hrate : r.rate = tax.rate := (congrArg ItemRow.rate h).symm
    constructor
    · rw [← hothers]
      simp [write, ItemRow.setOther]
    · exact hrate
    · rw [← hothers]
      simp [write, ItemRow.setOther]
    · rw [← hothers]
      simp [write, ItemRow.setOther]
    · rw [← hothers]
      simp [write, ItemRow.setOther]
  · intro h
    have hrow : ({ r with others := r.others.remove "charge_type", rate := tax.rate } : ItemRow Num) = r := by
      rw [Dict.remove_of_get? h.chargeType, ← h.rate]
    rw [write]
    dsimp only
    rw [hrow, ItemRow.setOther_of_get? h.costCenter, ItemRow.setOther_of_get? h.total, ItemRow.setOther_of_get? h.taxAmount]

namespace TaxSession
open Runs

variable {template : List (ItemRow Num)} {s t : TaxSession} {e : TaxEvent} {es : List TaxEvent} {f : TaxForm} {tax : TaxData}
  {index l : Nat}

/-- The default taxes are those of the login, and every sales document has been sent with them. -/
structure Isolated (template : List (ItemRow Num)) (s : TaxSession) : Prop where
  defaultRows : s.defaultRows = template
  sent : ∀ p ∈ s.sent, p.1.submitTaxes = .defaultTax → p.2 = template

/-- An expense claim that neither edits nor duplicates a claim is submitted only where the first row of the template has
    already what it writes. -/
def Guard (template : List (ItemRow Num)) (s : TaxSession) : TaxEvent → Prop
  | .submit index tax =>
    ∀ f ∈ s.forms[index]?, f.module = .expenseClaim → f.opensPage = false → ∀ row ∈ template.head?, tax.HeldBy row
  | _ => True

/-- A list in use that shares no row with the default taxes. -/
structure Apart (st : Store (ItemRow Num)) (defaultTax l : Nat) : Prop where
  inUse : l < st.nextList
  rows : ∀ r ∈ st.lists l, r ∉ st.lists defaultTax

/-- Where the lists of the forms and of the page come from. -/
structure Inv (template : List (ItemRow Num)) (s : TaxSession) : Prop where
  isolated : s.Isolated template
  nodup : (s.store.lists s.defaultTax).Nodup
  inUse : s.defaultTax < s.store.nextList
  rowsInUse : ∀ r ∈ s.store.lists s.defaultTax, r < s.store.nextRow
  page : ∀ l ∈ s.page, Apart s.store s.defaultTax l
  fresh : ∀ f ∈ s.forms, f.module = .expenseClaim → f.opensPage = false → f.taxes = some s.defaultTax
  loaded : ∀ f ∈ s.forms, f.module = .expenseClaim → f.opensPage = true → ∀ l ∈ f.taxes, Apart s.store s.defaultTax l

theorem inv_loggedIn (st : Store (ItemRow Num)) (template : List (ItemRow Num)) : Inv template (loggedIn st template) where
  isolated :=
    { defaultRows := by
        simp only [TaxSession.defaultRows, loggedIn, rowsOf, Store.newList, Store.lists_setList_self, Store.rows_setList]
        exact Store.map_rows_newRows template
      sent := fun p hp => absurd hp List.not_mem_nil }
  nodup := by
    simp only [loggedIn, Store.newList, Store.lists_setList_self, Store.newRows_refs]
    exact List.nodup_range'
  inUse := Nat.lt_succ_self _
  rowsInUse r hr := by
    simp only [loggedIn, Store.newList, Store.lists_setList_self, Store.newRows_refs, List.mem_range'_1] at hr
    exact Nat.lt_of_lt_of_eq hr.2 (Store.nextRow_newRows template).symm
  page l hl := by cases hl
  fresh f hf := absurd hf List.not_mem_nil
  loaded f hf := absurd hf List.not_mem_nil

/-! ### Steps that write no row in use -/

theorem Inv.of_extends (h : Inv template s) {st : Store (ItemRow Num)} (hst : s.store.Extends st) :
    Inv template { s with store := st } := by
  have hlist : st.lists s.defaultTax = s.store.lists s.defaultTax := hst.lists _ h.inUse
  have hapart : ∀ l, Apart s.store s.defaultTax l → Apart st s.defaultTax l := by
    intro l hl
    refine ⟨Nat.lt_of_lt_of_le hl.inUse hst.nextList, fun r hr => ?_⟩
    rw [hlist]
    exact hl.rows r (hst.lists l hl.inUse ▸ hr)
  refine ⟨⟨?_, h.isolated.sent⟩, hlist ▸ h.nodup, Nat.lt_of_lt_of_le h.inUse hst.nextList, ?_,
    fun l hl => hapart l (h.page l hl), h.fresh, fun f hf hm ho l hl => hapart l (h.loaded f hf hm ho l hl)⟩
  · refine Eq.trans ?_ h.isolated.defaultRows
    simp only [TaxSession.defaultRows, rowsOf, hlist]
    exact List.map_congr_left fun r hr => hst.rows r (h.rowsInUse r hr)
  · intro r hr
    exact Nat.lt_of_lt_of_le (h.rowsInUse r (hlist ▸ hr)) hst.nextRow

theorem Inv.loadPage (h : Inv template s) (taxes : List (ItemRow Num)) :
    Inv template { s with
      store := (s.store.newRows taxes).1.newList (s.store.newRows taxes).2
      page := some (s.store.newRows taxes).1.nextList } := by
  have hold : s.store.Extends ((s.store.newRows taxes).1.newList (s.store.newRows taxes).2) :=
    (Store.extends_newRows taxes).trans Store.extends_newList
  obtain ⟨isolated, nodup, inUse, rowsInUse, _, fresh, loaded⟩ := h.of_extends hold
  refine ⟨⟨isolated.defaultRows, isolated.sent⟩, nodup, inUse, rowsInUse, ?_, fresh, loaded⟩
  intro l hl
  obtain rfl := Option.mem_some_iff.mp hl
  refine ⟨Nat.lt_succ_self _, fun r hr hmem => ?_⟩
  -- the new rows are above all that is in use
  have hnew : s.store.nextRow ≤ r := by
    simp only [Store.newList, Store.lists_setList_self, Store.newRows_refs, List.mem_range'_1] at hr
    exact hr.1
  have hlist := hold.lists _ h.inUse
  exact Nat.not_lt.mpr hnew (h.rowsInUse r (hlist ▸ hmem))

theorem Inv.forms (h : Inv template s) {forms : List TaxForm} {sent : List (ModuleType × List (ItemRow Num))}
    (hforms : ∀ f ∈ forms, f ∈ s.forms ∨ f.module ≠ .expenseClaim)
    (hsent : ∀ p ∈ sent, p.1.submitTaxes = .defaultTax → p.2 = template) :
    Inv template { s with forms, sent } := by
  refine ⟨⟨h.isolated.defaultRows, hsent⟩, h.nodup, h.inUse, h.rowsInUse, h.page, ?_, ?_⟩
  · intro f hf hm
    rcases hforms f hf with hf | hne
    · exact h.fresh f hf hm
    · exact absurd hm hne
  · intro f hf hm ho l hl
    rcases hforms f hf with hf | hne
    · exact h.loaded f hf hm ho l hl
    · exact absurd hm hne

theorem Inv.send (h : Inv template s) (hf : f.module ≠ .expenseClaim)
    (hl : f.module.submitTaxes = .defaultTax → l = s.defaultTax) : Inv template (s.send index f l) := by
  refine h.forms (fun g hg => ?_) (fun p hp hsub => ?_)
  · rcases List.mem_or_eq_of_mem_set hg with hg | rfl
    · exact Or.inl hg
    · exact Or.inr hf
  · rcases List.mem_append.mp hp with hp | hp
    · exact h.isolated.sent p hp hsub
    · obtain rfl := List.mem_singleton.mp hp
      rw [hl hsub]
      exact h.isolated.defaultRows

/-! ### The submit of an expense claim -/

/-- Its write leaves the default taxes as they are where it is to another list, or changes nothing. -/
theorem Inv.writeFirst (h : Inv template s) {r : Nat} {v : ItemRow Num} {sent : List (ModuleType × List (ItemRow Num))}
    (hsent : ∀ p ∈ sent, p.1.submitTaxes = .defaultTax → p.2 = template)
    (hr : r ∈ s.store.lists s.defaultTax → v = s.store.rows r) :
    Inv template { s with store := s.store.setRow r v, sent } := by
  refine ⟨⟨?_, hsent⟩, h.nodup, h.inUse, h.rowsInUse, fun l hl => ?_, h.fresh, fun f hf hm ho l hl => ?_⟩
  · refine Eq.trans (List.map_congr_left fun r' hr' => ?_) h.isolated.defaultRows
    by_cases hrr : r' = r
    · subst hrr
      exact Store.rows_setRow_self.trans (hr hr')
    · exact Store.rows_setRow_ne hrr
  · exact ⟨(h.page l hl).inUse, (h.page l hl).rows⟩
  · exact ⟨(h.loaded f hf hm ho l hl).inUse, (h.loaded f hf hm ho l hl).rows⟩

theorem sent_claim (h : Inv template s) (rows : List (ItemRow Num)) :
    ∀ p ∈ s.sent ++ [(ModuleType.expenseClaim, rows)], p.1.submitTaxes = .defaultTax → p.2 = template := by
  intro p hp hsub
  rcases List.mem_append.mp hp with hp | hp
  · exact h.isolated.sent p hp hsub
  · obtain rfl := List.mem_singleton.mp hp
    cases hsub

theorem Inv.submitClaim (h : Inv template s) (hf : f ∈ s.forms) (hm : f.module = .expenseClaim)
    (hguard : f.opensPage = false → ∀ row ∈ template.head?, tax.HeldBy row) : Inv template (s.submitClaim f tax) := by
  unfold TaxSession.submitClaim
  split
  · exact h
  · next l htaxes =>
    split
    · exact h
    · next r rs hlist =>
      refine h.writeFirst (hm ▸ sent_claim h _) fun hmem => ?_
      have hrl : r ∈ s.store.lists l := hlist ▸ List.mem_cons_self
      cases hopens : f.opensPage with
      | true => exact absurd hmem ((h.loaded f hf hm hopens l htaxes).rows r hrl)
      | false =>
        obtain rfl : l = s.defaultTax := Option.some.inj (htaxes.symm.trans (h.fresh f hf hm hopens))
        refine TaxData.write_eq_iff.mpr (hguard hopens _ ?_)
        rw [← h.isolated.defaultRows, TaxSession.defaultRows, rowsOf, hlist]
        rfl

theorem written_of_submitClaim (h : Inv template s) (hf : f ∈ s.forms) (hm : f.module = .expenseClaim)
    (hopens : f.opensPage = false) (hkeeps : (s.submitClaim f tax).defaultRows = template) :
    ∀ row ∈ template.head?, tax.HeldBy row := by
  intro row hrow
  rw [← h.isolated.defaultRows, TaxSession.defaultRows, rowsOf] at hrow
  cases hlist : s.store.lists s.defaultTax with
  | nil =>
    rw [hlist] at hrow
    cases hrow
  | cons r rs =>
    rw [hlist] at hrow
    obtain rfl : s.store.rows r = row := Option.some.inj hrow
    have hsubmit : (s.submitClaim f tax).defaultRows =
        (r :: rs).map (s.store.setRow r (tax.write (s.store.rows r))).rows := by
      simp only [TaxSession.submitClaim, h.fresh f hf hm hopens, hlist, TaxSession.defaultRows, rowsOf, Store.lists_setRow]
    rw [hsubmit, ← h.isolated.defaultRows, TaxSession.defaultRows, rowsOf, hlist, List.map_cons, List.map_cons,
      Store.rows_setRow_self] at hkeeps
    exact TaxData.write_eq_iff.mp (List.cons.inj hkeeps).1

/-! ### Steps and runs -/

theorem submit_expenseClaim (hm : f.module = .expenseClaim) : s.submit index f tax = s.submitClaim f tax := by
  simp [submit, hm, ModuleType.submitTaxes]

theorem inv_step (h : Inv template s) (hstep : step s e = some t) (hg : Guard template s e) : Inv template t := by
  cases e with
  | loadPage taxes =>
    cases taxes with
    | none =>
      cases hstep
      refine ⟨⟨h.isolated.defaultRows, h.isolated.sent⟩, h.nodup, h.inUse, h.rowsInUse, ?_, h.fresh, h.loaded⟩
      intro l hl
      cases hl
    | some taxes =>
      cases hstep
      exact h.loadPage taxes
  | openForm m mode =>
    cases hstep
    refine ⟨⟨h.isolated.defaultRows, h.isolated.sent⟩, h.nodup, h.inUse, h.rowsInUse, h.page, ?_, ?_⟩
    · intro f hf hm hopens
      rcases List.mem_append.mp hf with hf | hf
      · exact h.fresh f hf hm hopens
      · obtain rfl := List.mem_singleton.mp hf
        obtain rfl : m = .expenseClaim := hm
        exact (if_neg (ne_true_of_eq_false hopens)).trans (if_pos rfl)
    · intro f hf hm hopens l hl
      rcases List.mem_append.mp hf with hf | hf
      · exact h.loaded f hf hm hopens l hl
      · obtain rfl := List.mem_singleton.mp hf
        exact h.page l ((if_pos hopens).symm.trans hl)
  | submit index tax =>
    obtain ⟨f, hf, rfl⟩ := Option.map_eq_some_iff.mp hstep
    have hmem : f ∈ s.forms := List.mem_of_getElem? hf
    by_cases hm : f.module = .expenseClaim
    · rw [submit_expenseClaim hm]
      exact h.submitClaim hmem hm (hg f hf hm)
    · unfold submit
      split
      · exact h.send hm fun _ => rfl
      · next hsub =>
        split
        · refine (h.of_extends Store.extends_newList).send hm fun hd => ?_
          rw [hsub] at hd
          cases hd
        · exact h.send hm fun _ => rfl
      · next hsub =>
        rw [if_neg hm]
        cases htaxes : f.taxes with
        | none => exact h
        | some l =>
          refine h.send hm fun hd => ?_
          rw [hsub] at hd
          cases hd
  | leave index =>
    obtain ⟨_, hstep⟩ := Option.ite_none_right_eq_some.mp hstep
    cases hstep
    exact h.forms (fun f hf => Or.inl (List.mem_of_mem_eraseIdx hf)) h.isolated.sent

theorem guard_of_isolated (h : Inv template s) (hstep : step s e = some t) (ht : t.Isolated template) :
    Guard template s e := by
  cases e with
  | submit index tax =>
    intro f hf hm hopens
    obtain ⟨g, hg, rfl⟩ := Option.map_eq_some_iff.mp hstep
    obtain rfl : g = f := Option.some.inj (hg.symm.trans hf)
    rw [submit_expenseClaim hm] at ht
    exact written_of_submitClaim h (List.mem_of_getElem? hf) hm hopens ht.defaultRows
  | loadPage _ | openForm _ _ | leave _ => trivial

/-- In every state of a session the default taxes are those of the login, and every sales document is sent with them,
    exactly when no new expense claim is submitted that writes anything into the first row of the template. -/
theorem isolated_iff (st : Store (ItemRow Num)) (template : List (ItemRow Num)) (es : List TaxEvent) :
    Along step (Isolated template) (loggedIn st template) es ↔
      Guarded step (Guard template) (loggedIn st template) es :=
  along_iff_guarded (I := Inv template) (fun _ h => h.isolated) (fun _ _ _ => inv_step)
    (fun _ _ _ => guard_of_isolated) (inv_loggedIn st template)

/-- The template of a login, and what an expense claim of 5 percent has beside its rows. -/
def vat15 : List (ItemRow Num) :=
  [{ rate := some (.int 15), others := [("charge_type", .str "On Net Total"), ("account_head", .str "VAT 15% - A")] }]

def claimTax : TaxData := { rate := some (.double 5), costCenter := .str "Main - A", total := .null, taxAmount := .null }

/-- A sales order that is sent after an expense claim has the tax of the claim. -/
theorem order_sent_with_claimTax :
    let s := loggedIn ⟨fun _ => {}, fun _ => [], 0, 0⟩ vat15
    let es : List TaxEvent :=
      [.openForm .expenseClaim none, .submit 0 claimTax, .leave 0, .openForm .salesOrder none, .submit 0 claimTax]
    (run step s es).map (fun t => t.sent.map fun p => (p.1, p.2.map fun row => (row.rate, Doc.at row.others "charge_type"))) =
        some [(.expenseClaim, [(some (.double 5), .null)]), (.salesOrder, [(some (.double 5), .null)])] ∧
      ¬ Along step (Isolated vat15) s es := by
  refine ⟨by decide +kernel, fun h => ?_⟩
  have hclaim := (h.2 _ rfl).2 _ rfl
  exact absurd (hclaim.head.defaultRows) (by decide +kernel)

end TaxSession

end NextApp
