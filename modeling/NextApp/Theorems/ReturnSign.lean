import Mathlib.Tactic.Linarith
import NextApp.Lib.Runs
import NextApp.Model.ItemTable

/-! # The sign of a return

The submit of an invoice turns its rows in place, before its request, and nothing turns them back; the submit of a
delivery note turns none. So the rows are sent with the sign of the document as long as no submit of a return fails,
and those of a delivery note only while it is none. -/

namespace NextApp.ReturnSign
variable {d : ReturnDocument} {isReturn : Option ℚ} {link : Value} {r : ItemRow ℚ} {rows : List (ItemRow ℚ)}

/-- Items with the quantities that were entered. -/
structure EnteredItems where
  rows : List (ItemRow ℚ)
  positive : ∀ r ∈ rows, ∃ qty, r.qty = some qty ∧ 0 < qty

/-- The quantity of an entered row in the document: negative exactly in a return. -/
def signed (isReturn : Option ℚ) (qty : Option ℚ) : Option ℚ := if isReturn = some 1 then qty.map (-·) else qty

/-- A submit sends the entered quantities with the sign of the document, and leaves the rows when it fails. -/
def SignLaw (d : ReturnDocument) (entered : EnteredItems) (s : ReturnSession) (e : ReturnEvent) (t : ReturnSession) :
    Prop :=
  (∀ items ∈ s.sent d e, items.map ItemRow.qty = entered.rows.map fun r => signed s.isReturn r.qty) ∧
    ∀ link, e = .submit link false → t.newItemList = s.newItemList

/-- No submit of a return fails, and none of a delivery note is made; one that fails finds its link in the rows. -/
def LeavesRows (d : ReturnDocument) (s : ReturnSession) : ReturnEvent → Prop
  | .setReturn _ => True
  | .submit link succeeds =>
    s.newItemList ≠ [] → (d = .deliveryNote → s.isReturn ≠ some 1) ∧
      (succeeds = false → s.isReturn ≠ some 1 ∧ ∀ r ∈ s.newItemList, r.others.get? d.form.link = some link)

/-- The quantities are still the entered ones. -/
def AsEntered (entered : EnteredItems) (s : ReturnSession) : Prop :=
  s.isOpen = true → s.newItemList.map ItemRow.qty = entered.rows.map ItemRow.qty

/-! ### Rows -/

def flipped (d : ReturnDocument) (r : ItemRow ℚ) : ItemRow ℚ :=
  match d with
  | .salesInvoice => { r with qty := r.qty.map (· * -1), stockQty := r.stockQty.map (· * -1) }
  | .purchaseInvoice => { r with qty := r.qty.map (· * -1) }
  | .deliveryNote => r

theorem qty_flipped (h : d ≠ .deliveryNote) (r : ItemRow ℚ) : (flipped d r).qty = r.qty.map (-·) := by
  cases d with
  | salesInvoice => simp [flipped]
  | purchaseInvoice => simp [flipped]
  | deliveryNote => exact absurd rfl h

theorem turn_return {qty : ℚ} (h : r.qty = some qty) (hpos : 0 < qty) :
    d.form.turn (some 1) r = .done (flipped d r) := by
  cases d with
  | salesInvoice =>
    simp only [ReturnDocument.form, salesInvoiceForm, h, if_true, if_pos hpos, flipped, Option.map_some]
  | purchaseInvoice => simp only [ReturnDocument.form, purchaseInvoiceForm, h, if_true, flipped, Option.map_some]
  | deliveryNote => rfl

theorem turn_sale (h : isReturn ≠ some 1) : d.form.turn isReturn r = .done r := by
  cases d with
  | salesInvoice => simp only [ReturnDocument.form, salesInvoiceForm, if_neg h]
  | purchaseInvoice => simp only [ReturnDocument.form, purchaseInvoiceForm, if_neg h]
  | deliveryNote => rfl

def written (d : ReturnDocument) (isReturn : Option ℚ) (link : Value) (r : ItemRow ℚ) : ItemRow ℚ :=
  (if isReturn = some 1 then flipped d r else r).setOther d.form.link link

theorem writeRows_entered (d : ReturnDocument) (isReturn : Option ℚ) (link : Value)
    (h : ∀ r ∈ rows, ∃ qty, r.qty = some qty ∧ 0 < qty) :
    d.form.writeRows isReturn link rows = .done (rows.map (written d isReturn link)) := by
  have hturn : ∀ r ∈ rows, d.form.turn isReturn r = .done (if isReturn = some 1 then flipped d r else r) := by
    intro r hr
    obtain ⟨qty, hqty, hpos⟩ := h r hr
    split
    · rename_i hreturn
      rw [hreturn]
      exact turn_return hqty hpos
    · rename_i hsale
      exact turn_sale hsale
  rw [ReturnForm.writeRows, Outcome.each_of_done hturn, Outcome.bind_done, List.map_map]
  rfl

/-- A row is sent with the sign of the document except by the delivery note of a return. -/
theorem qty_written_iff {qty : ℚ} (h : r.qty = some qty) (hpos : 0 < qty) :
    (written d isReturn link r).qty = signed isReturn r.qty ↔ (d = .deliveryNote → isReturn ≠ some 1) := by
  change (if isReturn = some 1 then flipped d r else r).qty = _ ↔ _
  unfold signed
  split
  · rename_i hreturn
    by_cases hd : d = .deliveryNote
    · subst hd
      have hne : qty ≠ -qty := by
        intro hq
        linarith
      simp [flipped, h, hreturn, hne]
    · exact iff_of_true (qty_flipped hd r) fun hd' => absurd hd' hd
  · rename_i hsale
    exact iff_of_true rfl fun _ => hsale

theorem written_eq_iff {qty : ℚ} (h : r.qty = some qty) (hpos : 0 < qty) (hd : d = .deliveryNote → isReturn ≠ some 1) :
    written d isReturn link r = r ↔ isReturn ≠ some 1 ∧ r.others.get? d.form.link = some link := by
  by_cases hreturn : isReturn = some 1
  · refine iff_of_false (fun heq => ?_) fun hsale => hsale.1 hreturn
    have hqty : (written d isReturn link r).qty = signed isReturn r.qty := (qty_written_iff h hpos).mpr hd
    rw [heq, signed, if_pos hreturn, h, Option.map_some, Option.some.injEq] at hqty
    linarith
  · rw [written, if_neg hreturn, and_iff_right hreturn]
    refine ⟨fun heq => Dict.get?_of_set_eq (congrArg ItemRow.others heq), fun hlink => ?_⟩
    rw [ItemRow.setOther, Dict.set_of_get? hlink]

theorem forall_row_iff (hne : rows ≠ []) {p : Prop} : (∀ r ∈ rows, p) ↔ p := by
  obtain ⟨r, rows, rfl⟩ := List.exists_cons_of_ne_nil hne
  exact ⟨fun h => h r List.mem_cons_self, fun h _ _ => h⟩

theorem map_qty_written_iff (d : ReturnDocument) (isReturn : Option ℚ) (link : Value) (hne : rows ≠ [])
    (h : ∀ r ∈ rows, ∃ qty, r.qty = some qty ∧ 0 < qty) :
    (rows.map (written d isReturn link)).map ItemRow.qty = (rows.map ItemRow.qty).map (signed isReturn) ↔
      (d = .deliveryNote → isReturn ≠ some 1) := by
  rw [List.map_map, List.map_map, List.map_inj_left]
  refine Iff.trans (forall₂_congr fun r hr => ?_) (forall_row_iff hne)
  obtain ⟨qty, hqty, hpos⟩ := h r hr
  exact qty_written_iff hqty hpos

theorem map_written_eq_iff (hne : rows ≠ []) (h : ∀ r ∈ rows, ∃ qty, r.qty = some qty ∧ 0 < qty)
    (hd : d = .deliveryNote → isReturn ≠ some 1) :
    rows.map (written d isReturn link) = rows ↔
      isReturn ≠ some 1 ∧ ∀ r ∈ rows, r.others.get? d.form.link = some link := by
  have hrow : ∀ r ∈ rows, written d isReturn link r = r ↔
      isReturn ≠ some 1 ∧ r.others.get? d.form.link = some link := by
    intro r hr
    obtain ⟨qty, hqty, hpos⟩ := h r hr
    exact written_eq_iff hqty hpos hd
  have hmap : rows.map (written d isReturn link) = rows ↔ ∀ r ∈ rows, written d isReturn link r = r := by
    nth_rewrite 2 [← List.map_id rows]
    exact List.map_inj_left
  rw [hmap, forall₂_congr hrow, forall₂_and, forall_row_iff hne]

/-! ### Steps -/

variable {entered : EnteredItems} {s t : ReturnSession} {e : ReturnEvent}

theorem isOpen_of_step (h : s.step d e = some t) : s.isOpen = true := by
  unfold ReturnSession.step at h
  split at h
  · assumption
  · cases h

theorem positive_of_asEntered (hs : s.newItemList.map ItemRow.qty = entered.rows.map ItemRow.qty) :
    ∀ r ∈ s.newItemList, ∃ qty, r.qty = some qty ∧ 0 < qty := by
  intro r hr
  have hmem : r.qty ∈ entered.rows.map ItemRow.qty := hs ▸ List.mem_map_of_mem hr
  obtain ⟨r', hr', hqty⟩ := List.mem_map.mp hmem
  rw [← hqty]
  exact entered.positive r' hr'

/-- A submit sends the rows it writes, and the form closes when it succeeds. -/
theorem submit_entered (d : ReturnDocument) (link : Value) (hs : AsEntered entered s) (hopen : s.isOpen = true)
    (hne : s.newItemList ≠ []) (succeeds : Bool) :
    s.sent d (.submit link succeeds) = some (s.newItemList.map (written d s.isReturn link)) ∧
      s.step d (.submit link succeeds) = some
        { s with newItemList := s.newItemList.map (written d s.isReturn link), isOpen := !succeeds } := by
  have hwrite := writeRows_entered d s.isReturn link (positive_of_asEntered (hs hopen))
  constructor
  · simp only [ReturnSession.sent, if_neg hne, hwrite]
  · simp only [ReturnSession.step, if_pos hopen, if_neg hne, hwrite]

theorem signLaw_iff (hs : AsEntered entered s) (h : s.step d e = some t) :
    SignLaw d entered s e t ↔ LeavesRows d s e := by
  have hopen := isOpen_of_step h
  have hpositive := positive_of_asEntered (hs hopen)
  cases e with
  | setReturn value => exact iff_of_true ⟨fun _ h => (nomatch h), fun _ h => (nomatch h)⟩ trivial
  | submit link succeeds =>
    by_cases hempty : s.newItemList = []
    · obtain rfl : s = t := by simpa [ReturnSession.step, hopen, hempty] using h
      refine iff_of_true ⟨fun items hitems => ?_, fun _ _ => rfl⟩ fun hne => absurd hempty hne
      simp [ReturnSession.sent, hempty] at hitems
    · obtain ⟨hsent, hstep⟩ := submit_entered d link hs hopen hempty succeeds
      obtain rfl := Option.some.inj (hstep.symm.trans h)
      have hentered : entered.rows.map (fun r => signed s.isReturn r.qty) =
          (s.newItemList.map ItemRow.qty).map (signed s.isReturn) := by
        rw [hs hopen, List.map_map]
        rfl
      have hsign := map_qty_written_iff d s.isReturn link hempty hpositive
      simp only [SignLaw, LeavesRows, hsent, Option.mem_some_iff, forall_eq', hentered, hsign]
      rw [forall_prop_of_true hempty]
      refine and_congr_right fun hd => ?_
      rw [← map_written_eq_iff hempty hpositive hd]
      refine ⟨fun hleft hfails => hleft link (by rw [hfails]), fun hleft _ hsubmit => hleft ?_⟩
      cases hsubmit
      rfl

theorem asEntered_step (hs : AsEntered entered s) (h : s.step d e = some t) (hguard : LeavesRows d s e) :
    AsEntered entered t := by
  have hopen := isOpen_of_step h
  have hlaw := (signLaw_iff hs h).mpr hguard
  cases e with
  | setReturn value =>
    obtain rfl : { s with isReturn := some (if value then 1 else 0) } = t := by
      simpa [ReturnSession.step, hopen] using h
    exact hs
  | submit link succeeds =>
    intro htopen
    cases succeeds with
    | false => rw [hlaw.2 link rfl, hs hopen]
    | true =>
      by_cases hempty : s.newItemList = []
      · obtain rfl : s = t := by simpa [ReturnSession.step, hopen, hempty] using h
        exact hs hopen
      · rw [(submit_entered d link hs hopen hempty true).2] at h
        cases h
        cases htopen

/-- The sign law holds of every step of a run exactly when each of its submits meets the condition. -/
theorem signLaw_run_iff (d : ReturnDocument) (entered : EnteredItems) (isReturn : Option ℚ) (es : List ReturnEvent) :
    Runs.Each (ReturnSession.step d) (SignLaw d entered) { newItemList := entered.rows, isReturn } es ↔
      Runs.Guarded (ReturnSession.step d) (LeavesRows d) { newItemList := entered.rows, isReturn } es :=
  Runs.each_iff_guarded (I := AsEntered entered) (fun _ _ _ hs h hguard => asEntered_step hs h hguard)
    (fun _ _ _ hs h => signLaw_iff hs h) fun _ => rfl

def twoPieces : EnteredItems where
  rows := [{ qty := some 2, rate := some 5, amount := some 10 }]
  positive r hr := by
    obtain rfl := List.mem_singleton.mp hr
    exact ⟨2, rfl, by decide⟩

/-- A credit note that fails and is sent again as an invoice: its quantity is still negative. -/
theorem sale_after_failed_return :
    ¬ Runs.Each (ReturnSession.step .salesInvoice) (SignLaw .salesInvoice twoPieces)
        { newItemList := twoPieces.rows, isReturn := some 0 }
        [.setReturn true, .submit .null false, .setReturn false, .submit .null true] := by
  intro h
  rw [Runs.each_cons rfl, Runs.each_cons rfl, Runs.each_cons rfl, Runs.each_cons rfl] at h
  exact absurd (h.2.2.2.1.1 _ rfl) (by decide +kernel)

end NextApp.ReturnSign
