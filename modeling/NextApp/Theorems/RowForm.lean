import NextApp.Lib.Runs
import NextApp.Model.RowForm

/-! # What a form leaves of its page

A form that is opened from a page shares the page's rows with it. What opening it, each event and a failing submit write
into rows and lists of the page, and when the page that is left reads as it did before. -/

namespace NextApp
open Runs

namespace ItemRow
variable {r t : ItemRow Num}

/-- `item['amount'] = item['qty'] * item['rate']` does not throw. -/
def numbered (r : ItemRow Num) : Bool := r.qty.isSome && r.rate.isSome

def withAmount (r : ItemRow Num) : ItemRow Num := r.setAmount.state

theorem setAmount_eq (r : ItemRow Num) : r.setAmount = if r.numbered then .done r.withAmount else .threw r := by
  obtain ⟨qty, rate, amount, stockQty, others⟩ := r
  cases qty <;> cases rate <;> rfl

/-- The amount is the number that the quantity times the rate is, as an integer or as a double. -/
def HasAmount (r : ItemRow Num) : Prop :=
  ∃ qty ∈ r.qty, ∃ rate ∈ r.rate, r.amount.map Num.number = some (qty * rate).number

theorem withAmount_view_iff (h : r.numbered = true) : r.withAmount.view = r.view ↔ r.HasAmount := by
  obtain ⟨qty, rate, amount, stockQty, others⟩ := r
  cases qty with
  | none => cases h
  | some qty =>
    cases rate with
    | none => cases h
    | some rate => simp [withAmount, setAmount, HasAmount, view, eq_comm]

/-- The row already has the quantity, and the amount for it where it has a rate. -/
def HasQty (n : Int) (r : ItemRow Num) : Prop :=
  r.qty.map Num.number = some (.finite n) ∧ ∀ rate ∈ r.rate, r.amount.map Num.number = some ((n : Num) * rate).number

theorem changeQty_view_iff {n : Int} : (r.changeQty n).state.view = r.view ↔ r.HasQty n := by
  obtain ⟨qty, rate, amount, stockQty, others⟩ := r
  cases rate <;> simp [changeQty, setAmount, HasQty, view, Num.number_intCast, eq_comm]

/-- The row has the value under the key, but for the type of a number. -/
def Reads (r : ItemRow Num) (key : String) (value : Value) : Prop :=
  (r.others.get? key).map Value.untyped = some value.untyped

theorem get?_of_view (h : t.view = r.view) (key : String) :
    (t.others.get? key).map Value.untyped = (r.others.get? key).map Value.untyped := by
  rw [← Dict.get?_mapValues, ← Dict.get?_mapValues]
  exact congrArg (fun view => view.others.get? key) h

theorem setOther_of_get? {key : String} {value : Value} (h : r.others.get? key = some value) : r.setOther key value = r := by
  rw [setOther, Dict.set_of_get? h]

theorem setOther_view_iff {key : String} {value : Value} : (r.setOther key value).view = r.view ↔ r.Reads key value := by
  simp [setOther, view, Reads, Dict.mapValues_set_eq_iff]

theorem setOther_view {key : String} {value : Value} (h : t.view = r.view) (hreads : r.Reads key value) :
    (t.setOther key value).view = r.view := by
  refine (setOther_view_iff.mpr ?_).trans h
  rw [Reads, get?_of_view h]
  exact hreads

/-- Where only numbers have been written before, the two writes change nothing together exactly when neither does. -/
theorem setOther_view_iff_of_others {key : String} {value : Value} (h : t.others = r.others) :
    (t.setOther key value).view = r.view ↔ t.view = r.view ∧ r.Reads key value := by
  obtain ⟨qty, rate, amount, stockQty, others⟩ := t
  obtain rfl : others = r.others := h
  simp only [setOther, view, RowView.mk.injEq, Dict.mapValues_set_eq_iff, and_true, Reads]
  tauto

end ItemRow

/-! ### Turning -/

namespace ModuleType
variable {m : ModuleType} {isReturn : Option ℚ} {r : ItemRow Num}

/-- Turned it is another number. -/
def Turned (n : Num) : Prop := (n * -1).number ≠ n.number

/-- The submit turns a quantity of the row: a return of the sales invoice form turns those that are not turned yet, with
    the quantity in stock, and one of the purchase invoice form turns any. -/
def Turns (m : ModuleType) (isReturn : Option ℚ) (r : ItemRow Num) : Prop :=
  isReturn = some 1 ∧ ∃ qty ∈ r.qty,
    (m = salesInvoice ∧ 0 < qty ∧ (Turned qty ∨ ∃ stockQty ∈ r.stockQty, Turned stockQty)) ∨
      (m = purchaseInvoice ∧ Turned qty)

/-- The submit gets past the row: a return needs its quantity. -/
def turnable (m : ModuleType) (isReturn : Option ℚ) (r : ItemRow Num) : Bool :=
  (m ≠ salesInvoice && m ≠ purchaseInvoice) || isReturn ≠ some 1 || r.qty.isSome

def turned (m : ModuleType) (isReturn : Option ℚ) (r : ItemRow Num) : ItemRow Num := (m.rowForm.turn isReturn r).state

theorem turn_of_ne (hs : m ≠ salesInvoice) (hp : m ≠ purchaseInvoice) : m.rowForm.turn isReturn r = .done r := by
  cases m <;> first | rfl | exact absurd rfl hs | exact absurd rfl hp

theorem turn_eq (m : ModuleType) (isReturn : Option ℚ) (r : ItemRow Num) :
    m.rowForm.turn isReturn r = if m.turnable isReturn r then .done (m.turned isReturn r) else .threw r := by
  obtain ⟨qty, rate, amount, stockQty, others⟩ := r
  by_cases hs : m = salesInvoice
  · subst hs
    by_cases hret : isReturn = some 1 <;> cases qty <;>
      simp only [turned, turnable, rowForm, salesInvoiceRows, salesInvoiceForm, hret] <;> grind [Outcome.state]
  · by_cases hp : m = purchaseInvoice
    · subst hp
      by_cases hret : isReturn = some 1 <;> cases qty <;>
        simp [turned, turnable, rowForm, purchaseInvoiceRows, purchaseInvoiceForm, hret]
    · simp [turned, turn_of_ne hs hp, turnable, hs, hp]

theorem turned_others : (m.turned isReturn r).others = r.others := by
  unfold turned
  by_cases hs : m = salesInvoice
  · subst hs
    simp only [rowForm, salesInvoiceRows, salesInvoiceForm]
    split
    · split
      · rfl
      · split <;> rfl
    · rfl
  · by_cases hp : m = purchaseInvoice
    · subst hp
      simp only [rowForm, purchaseInvoiceRows, purchaseInvoiceForm]
      split
      · split <;> rfl
      · rfl
    · rw [turn_of_ne hs hp, Outcome.state_done]

theorem turned_view_iff : (m.turned isReturn r).view = r.view ↔ ¬ m.Turns isReturn r := by
  obtain ⟨qty, rate, amount, stockQty, others⟩ := r
  by_cases hs : m = salesInvoice
  · subst hs
    by_cases hret : isReturn = some 1
    · cases qty with
      | none => simp [turned, Turns, rowForm, salesInvoiceRows, salesInvoiceForm, hret]
      | some qty =>
        by_cases hqty : 0 < qty
        · cases stockQty <;>
            simp [turned, Turns, Turned, rowForm, salesInvoiceRows, salesInvoiceForm, hret, hqty, ItemRow.view]
        · simp [turned, Turns, rowForm, salesInvoiceRows, salesInvoiceForm, hret, hqty]
    · simp [turned, Turns, rowForm, salesInvoiceRows, salesInvoiceForm, hret]
  · by_cases hp : m = purchaseInvoice
    · subst hp
      by_cases hret : isReturn = some 1
      · cases qty with
        | none => simp [turned, Turns, rowForm, purchaseInvoiceRows, purchaseInvoiceForm, hret]
        | some qty => simp [turned, Turns, Turned, rowForm, purchaseInvoiceRows, purchaseInvoiceForm, hret, ItemRow.view]
      · simp [turned, Turns, rowForm, purchaseInvoiceRows, purchaseInvoiceForm, hret]
    · simp [turned, turn_of_ne hs hp, Turns, hs, hp]

/-- Turning a row and linking it leave it as it is exactly when neither changes it. -/
theorem linked_view_iff {value : String → Value} :
    (m.rowForm.link.elim (m.turned isReturn r) fun key => (m.turned isReturn r).setOther key (value key)).view = r.view ↔
      ¬ m.Turns isReturn r ∧ ∀ key ∈ m.rowForm.link, r.Reads key (value key) := by
  cases m.rowForm.link with
  | none => simp [turned_view_iff]
  | some key =>
    rw [Option.elim_some, ItemRow.setOther_view_iff_of_others turned_others, turned_view_iff]
    simp

end ModuleType

/-! ### Sessions -/

namespace RowSession
variable {m : ModuleType} {s t : RowSession} {r : Nat} {rs : List Nat}

def Holds (s : RowSession) (r : Nat) : Prop := s.store.Holds s.page.lists r

/-- What the page holds is in use, and so are the items, each of them once. -/
structure Sound (s : RowSession) : Prop where
  below : s.store.Below s.page.lists
  inUse : ∀ r ∈ s.newItemList, r < s.store.nextRow
  nodup : s.newItemList.Nodup

theorem held_eq_iff (hp : t.page = s.page) : t.held = s.held ↔
    t.store.view ItemRow.view s.page.lists = s.store.view ItemRow.view s.page.lists := by
  rw [held, held, hp, PageData.view, PageData.view, Prod.mk.injEq]
  exact and_iff_right rfl

theorem held_of_extends (hp : t.page = s.page) (h : s.store.Extends t.store) (hs : s.store.Below s.page.lists) :
    t.held = s.held := (held_eq_iff hp).mpr (h.view hs)

theorem held_setRow (s : RowSession) (r : Nat) (v : ItemRow Num) :
    ({ s with store := s.store.setRow r v } : RowSession).held = s.held ↔ 
      (s.Holds r → v.view = (s.store.rows r).view) := by
  refine (held_eq_iff ?_).trans Store.view_setRow
  rfl

theorem held_each {f : ItemRow Num → Outcome (ItemRow Num)} {good : ItemRow Num → Bool}
    {g : ItemRow Num → ItemRow Num} (hp : t.page = s.page) (ht : t.store = (s.store.each f rs).state) (hf : ∀ v, f v = if good v then .done (g v) else .threw v)
    (hrs : rs.Nodup) :
    t.held = s.held ↔
      ∀ r ∈ s.store.passed good rs, s.Holds r → (g (s.store.rows r)).view = (s.store.rows r).view := by
  rw [held_eq_iff hp, ht, Store.view_eq_iff_rows fun l _ => congrFun Store.lists_each l]
  constructor
  · intro h r hr hheld
    have hrow := h r hheld
    rwa [Store.rows_each hf hrs, if_pos hr] at hrow
  · intro h r hheld
    rw [Store.rows_each hf hrs]
    split
    · next hr => exact h r hr hheld
    · rfl

/-! ### Opening -/

theorem setItemsToList_eq (rs : List Nat) (s : RowSession) :
    (s.setItemsToList rs).state.page = s.page ∧
      (s.setItemsToList rs).state.store = (s.store.each ItemRow.setAmount rs).state ∧
      ∃ p, p <+: rs ∧ (s.setItemsToList rs).state.newItemList = s.newItemList ++ p := by
  induction rs generalizing s with
  | nil => exact ⟨rfl, rfl, [], List.nil_prefix, (List.append_nil _).symm⟩
  | cons r rs ih =>
    have hadd : (s.setItemToList r) = ((s.store.rows r).setAmount).map fun item =>
        { s with newItemList := s.newItemList ++ [r], store := s.store.setRow r item } := rfl
    rw [setItemsToList, hadd, Store.each]
    cases (s.store.rows r).setAmount with
    | done item =>
      obtain ⟨hpage, hstore, p, hp, hitems⟩ :=
        ih { s with newItemList := s.newItemList ++ [r], store := s.store.setRow r item }
      exact ⟨hpage, hstore, r :: p, List.cons_prefix_cons.mpr ⟨rfl, hp⟩, hitems.trans (by simp)⟩
    | threw item => exact ⟨rfl, rfl, [r], List.cons_prefix_cons.mpr ⟨rfl, List.nil_prefix⟩, rfl⟩

end RowSession

namespace PageData
variable {d : PageData} {st : Store (ItemRow Num)} {key : String} {mode : OpenMode} {l : Nat}

theorem holdsList_data (h : Store.HoldsList (mode.data d).lists l) : Store.HoldsList d.lists l := by
  obtain ⟨e, he, rfl⟩ := h
  cases mode with
  | createFrom => exact ⟨e, he, rfl⟩
  | edit | duplicate | amend => exact ⟨e, Dict.mem_of_mem_removeAll he, rfl⟩

theorem rowsAt_eq : d.rowsAt st key = [] ∨ ∃ l, Store.HoldsList d.lists l ∧ d.rowsAt st key = st.lists l := by
  unfold rowsAt
  cases h : d.lists.get? key with
  | none => exact Or.inl rfl
  | some l => exact Or.inr ⟨l, ⟨_, Dict.mem_of_get? h, rfl⟩, rfl⟩

end PageData

namespace ProviderPage
variable {p : ProviderPage} {key : String} {mode : OpenMode}

def held (p : ProviderPage) : Doc × Dict String (List RowView) := p.page.view p.store

/-- A page that has been loaded holds what the response brought. -/
theorem held_loaded (st : Store (ItemRow Num)) (fields : Doc) (lists : Dict String (List (ItemRow Num))) (workflowStates
    workflowTransitions : Nat) (defaultTax : List (ItemRow Num)) :
    (loaded st fields lists workflowStates workflowTransitions defaultTax).held =
      (fields, lists.mapValues (List.map ItemRow.view)) := by
  have hreads := congrArg (Dict.mapValues (List.map ItemRow.view)) (Store.loaded st lists).reads
  rw [← Store.view_eq_mapValues] at hreads
  exact congrArg (Prod.mk fields) hreads

/-- The rows a form finds under a key of the page. -/
def rowsAt (p : ProviderPage) (mode : OpenMode) (key : String) : List Nat := (mode.data p.page).rowsAt p.store key

theorem holds_of_mem_rowsAt {r : Nat} (h : r ∈ p.rowsAt mode key) : p.store.Holds p.page.lists r := by
  unfold rowsAt at h
  rcases PageData.rowsAt_eq with hnil | ⟨l, hl, heq⟩
  · rw [hnil] at h
    cases h
  · rw [heq] at h
    obtain ⟨e, he, rfl⟩ := PageData.holdsList_data hl
    exact ⟨e, he, h⟩

theorem nodup_rowsAt : (p.rowsAt mode key).Nodup := by
  unfold rowsAt
  rcases PageData.rowsAt_eq with hnil | ⟨l, hl, heq⟩
  · rw [hnil]
    exact List.nodup_nil
  · rw [heq]
    exact p.distinct l (PageData.holdsList_data hl)

end ProviderPage

namespace RowSession
variable {m : ModuleType} {mode : OpenMode} {p : ProviderPage} {sort : RowSort} {s t : RowSession}

/-- A form on the page, before it loads anything. -/
def start (mode : OpenMode) (p : ProviderPage) : RowSession where
  mode
  store := p.store
  page := p.page
  data := {}
  workflowStates := p.workflowStates
  workflowTransitions := p.workflowTransitions

/-- Nothing is written to what is in use, and no item is added. -/
structure Grows (s t : RowSession) : Prop where
  page : t.page = s.page
  store : s.store.Extends t.store
  items : t.newItemList = s.newItemList

theorem Grows.refl (s : RowSession) : s.Grows s := ⟨rfl, .refl _, rfl⟩

theorem Grows.held (h : s.Grows t) (hs : s.Sound) : t.held = s.held := held_of_extends h.page h.store hs.below

theorem Grows.sound (h : s.Grows t) (hs : s.Sound) : t.Sound where
  below := by
    rw [h.page]
    exact h.store.below hs.below
  inUse r hr := by
    rw [h.items] at hr
    exact Nat.lt_of_lt_of_le (hs.inUse r hr) h.store.nextRow
  nodup := by
    rw [h.items]
    exact hs.nodup

theorem grows_setRows (s : RowSession) (key : String) (rows : List (ItemRow Num)) : s.Grows (s.setRows key rows) :=
  ⟨rfl, (Store.extends_newRows rows).trans Store.extends_newList, rfl⟩

theorem grows_takeWorkflow (s : RowSession) : s.Grows s.takeWorkflow := by
  unfold takeWorkflow
  split
  · exact .refl s
  · dsimp only
    split
    · exact ⟨rfl, .refl _, rfl⟩
    · exact ⟨rfl, .refl _, rfl⟩

theorem sound_start : (start mode p).Sound := ⟨p.below, fun _ h => absurd h List.not_mem_nil, List.nodup_nil⟩

theorem grows_new (hm : m ≠ .workflow) : (start mode p).Grows (new m mode p) := by
  unfold new
  split
  · exact grows_setRows (start mode p) _ _
  · exact grows_setRows (start mode p) _ _
  · exact grows_setRows (start mode p) _ _
  · exact absurd rfl hm
  · exact .refl _

/-- The forms that load items have no lists of their own. -/
theorem new_of_loads {load : RowLoad} (h : m.rowForm.loads mode = some load) : new m mode p = start mode p := by
  unfold new
  split
  · cases mode <;> cases h
  · cases mode <;> cases h
  · cases mode <;> cases h
  · cases mode <;> cases h
  · rfl

theorem grows_afterLoad (hm : m ≠ .address) (s : RowSession) : s.Grows (s.afterLoad m) := by
  unfold afterLoad
  split
  · exact absurd rfl hm
  · split
    · exact grows_setRows s _ _
    · exact .refl s
  · split
    · exact .refl s
    · exact grows_takeWorkflow s
  · exact .refl s

/-- The form takes each row over with its amount written. -/
def SetsAmounts (m : ModuleType) (mode : OpenMode) (key : String) : Prop := m.rowForm.loads mode = some (.setItemToList key)

theorem rewriteLink_view_iff {r : ItemRow Num} :
    (rewriteLink r).view = r.view ↔ r.others.get? "link_doctype" ≠ none ∧ r.others.get? "link_name" ≠ none := by
  constructor
  · intro h
    constructor
    · intro hnone
      have hkey := ItemRow.get?_of_view h "link_doctype"
      rw [hnone] at hkey
      simp [rewriteLink, ItemRow.setOther] at hkey
    · intro hnone
      have hkey := ItemRow.get?_of_view h "link_name"
      rw [hnone] at hkey
      simp [rewriteLink, ItemRow.setOther] at hkey
  · rintro ⟨hdoctype, hname⟩
    obtain ⟨doctype, hdoctype⟩ := Option.ne_none_iff_exists'.mp hdoctype
    obtain ⟨name, hname⟩ := Option.ne_none_iff_exists'.mp hname
    have hat {key : String} {v : Value} (h : r.others.get? key = some v) : Doc.at r.others key = v := by
      rw [Doc.at, h, Option.getD_some]
    rw [rewriteLink, hat hdoctype, ItemRow.setOther_of_get? hdoctype, hat hname, ItemRow.setOther_of_get? hname]

theorem held_writeFirst {list : String} {f : ItemRow Num → ItemRow Num} :
    (s.writeFirst list f).held = s.held ↔
      ∀ r ∈ (s.rowsAt list).head?, s.Holds r → (f (s.store.rows r)).view = (s.store.rows r).view := by
  unfold writeFirst
  split
  · next h => simp [h]
  · next r rs h =>
    rw [held_setRow, h]
    simp

theorem sound_writeFirst {list : String} {f : ItemRow Num → ItemRow Num} (hs : s.Sound) : (s.writeFirst list f).Sound := by
  unfold writeFirst
  split
  · exact hs
  · exact ⟨hs.below.of_lists rfl (Nat.le_refl _) (Nat.le_refl _), hs.inUse, hs.nodup⟩

theorem held_load {load : RowLoad} (hrows : ∀ key, (s.rowsAt key).Nodup) :
    (s.load sort load).held = s.held ↔
      ∀ key, load = .setItemToList key → ∀ order ∈ sort.sort (s.rowsAt key),
        ∀ r ∈ s.store.passed ItemRow.numbered order, s.Holds r → (s.store.rows r).HasAmount := by
  cases load with
  | add key => simp [load, held]
  | setItemToList key =>
    cases horder : sort.sort (s.rowsAt key) with
    | none => simp [load, horder]
    | some order =>
      have hnodup : order.Nodup := ((sort.perm _ _ horder).nodup_iff).mpr (hrows key)
      obtain ⟨hpage, hstore, -⟩ := setItemsToList_eq order s
      have hload : s.load sort (.setItemToList key) = (s.setItemsToList order).state := by simp only [load, horder]
      rw [hload, held_each hpage hstore ItemRow.setAmount_eq hnodup]
      constructor
      · rintro h key' hkey order' horder' r hr hheld
        obtain rfl : key = key' := RowLoad.setItemToList.inj hkey
        obtain rfl : order = order' := Option.some.inj (horder.symm.trans horder')
        exact (ItemRow.withAmount_view_iff (Store.good_of_mem_passed hr)).mp (h r hr hheld)
      · intro h r hr hheld
        exact (ItemRow.withAmount_view_iff (Store.good_of_mem_passed hr)).mpr (h key rfl order horder r hr hheld)

theorem sound_load {load : RowLoad} (hs : s.Sound) (hitems : s.newItemList = []) (hrows : ∀ key, (s.rowsAt key).Nodup)
    (hheld : ∀ key, ∀ r ∈ s.rowsAt key, s.Holds r) : (s.load sort load).Sound := by
  cases load with
  | add key =>
    refine ⟨hs.below, fun r hr => ?_, ?_⟩
    · rw [load, hitems, List.nil_append] at hr
      exact hs.below.rows r (hheld key r hr)
    · rw [load, hitems, List.nil_append]
      exact hrows key
  | setItemToList key =>
    cases horder : sort.sort (s.rowsAt key) with
    | none => simpa only [load, horder] using hs
    | some order =>
      have hperm := sort.perm _ _ horder
      obtain ⟨hpage, hstore, p, hp, hadded⟩ := setItemsToList_eq order s
      have hload : s.load sort (.setItemToList key) = (s.setItemsToList order).state := by simp only [load, horder]
      rw [hitems, List.nil_append] at hadded
      rw [hload]
      refine ⟨?_, fun r hr => ?_, ?_⟩
      · rw [hpage, hstore]
        exact hs.below.of_lists Store.lists_each (Nat.le_of_eq Store.nextRow_each.symm) (Nat.le_of_eq Store.nextList_each.symm)
      · rw [hadded] at hr
        rw [hstore, Store.nextRow_each]
        exact hs.below.rows r (hheld key r (hperm.mem_iff.mp (hp.subset hr)))
      · rw [hadded]
        exact ((hperm.nodup_iff).mpr (hrows key)).sublist hp.sublist

/-- The condition under which a form opens without a change to its page: a workflow form clears lists that the page does
    not hold or that are empty, the address form finds both keys of the link, and the rows of the page that are taken
    over have their amounts due. -/
def OpensKept (m : ModuleType) (mode : OpenMode) (p : ProviderPage) (sort : RowSort) : Prop :=
  (m = .workflow → ∀ l ∈ [p.workflowStates, p.workflowTransitions], Store.HoldsList p.page.lists l → p.store.lists l = []) ∧
  (m.opensPage mode = true →
    (m = .address → ∀ r ∈ (p.rowsAt mode "reference").head?,
      (p.store.rows r).others.get? "link_doctype" ≠ none ∧ (p.store.rows r).others.get? "link_name" ≠ none) ∧
    ∀ key, SetsAmounts m mode key → ∀ order ∈ sort.sort (p.rowsAt mode key),
      ∀ r ∈ p.store.passed ItemRow.numbered order, (p.store.rows r).HasAmount)

def startData (mode : OpenMode) (p : ProviderPage) : RowSession := { start mode p with data := mode.data p.page }

theorem sound_startData : (startData mode p).Sound := ⟨p.below, fun _ h => absurd h List.not_mem_nil, List.nodup_nil⟩

theorem held_startData : (startData mode p).held = p.held := rfl

theorem opened_of_loads {load : RowLoad} (h : m.rowForm.loads mode = some load) (ho : m.opensPage mode = true) :
    opened m mode p sort = ((startData mode p).load sort load).afterLoad m := by
  simp only [opened, ho, if_true, new_of_loads h, h]
  rfl

theorem opened_of_not_opens (ho : m.opensPage mode = false) : opened m mode p sort = new m mode p := by
  simp [opened, ho]

theorem opened_of_loads_none (h : m.rowForm.loads mode = none) (ho : m.opensPage mode = true) :
    opened m mode p sort = ({ new m mode p with data := mode.data (new m mode p).page } : RowSession).afterLoad m := by
  simp only [opened, ho, if_true, h]
  rfl

/-- No form both loads items and works on a list of its data in another way. -/
theorem afterLoad_of_loads {load : RowLoad} (h : m.rowForm.loads mode = some load) (s : RowSession) : s.afterLoad m = s := by
  unfold afterLoad
  split
  · cases mode <;> cases h
  · cases mode <;> cases h
  · cases mode <;> cases h
  · rfl

theorem held_new_workflow : (new .workflow mode p).held = p.held ↔
    ∀ l ∈ [p.workflowStates, p.workflowTransitions], Store.HoldsList p.page.lists l → p.store.lists l = [] := by
  have hlists (l : Nat) : (new .workflow mode p).store.lists l =
      if l ∈ [p.workflowStates, p.workflowTransitions] then [] else p.store.lists l := by
    simp only [new, Store.setList, Function.update_apply, List.mem_cons, List.not_mem_nil, or_false]
    grind
  have hread : (new .workflow mode p).held = p.held ↔
      (new .workflow mode p).store.view ItemRow.view p.page.lists = p.store.view ItemRow.view p.page.lists :=
    held_eq_iff (s := start mode p) rfl
  rw [hread, Store.view_eq_iff]
  constructor
  · intro h l hl hheld
    have hmap := h l hheld
    rw [hlists, if_pos hl, List.map_nil] at hmap
    exact List.map_eq_nil_iff.mp hmap.symm
  · intro h l hheld
    rw [hlists]
    split
    · next hl =>
      rw [h l hl hheld]
      rfl
    · rfl

theorem sound_new_workflow : (new .workflow mode p).Sound :=
  ⟨(p.below.setList fun _ _ h => absurd h List.not_mem_nil).setList fun _ _ h => absurd h List.not_mem_nil,
    fun _ h => absurd h List.not_mem_nil, List.nodup_nil⟩

theorem opened_workflow : (new .workflow mode p).Grows (opened .workflow mode p sort) := by
  by_cases ho : ModuleType.opensPage .workflow mode = true
  · rw [opened_of_loads_none (by cases mode <;> rfl) ho]
    have hafter := grows_afterLoad (m := .workflow) (by decide)
      { new .workflow mode p with data := mode.data (new .workflow mode p).page }
    exact ⟨hafter.page, hafter.store, hafter.items⟩
  · rw [opened_of_not_opens (by simpa using ho)]
    exact .refl _

theorem opened_address (ho : ModuleType.opensPage .address mode = true) :
    opened .address mode p sort = (startData mode p).writeFirst "reference" rewriteLink := by
  rw [opened_of_loads_none (by cases mode <;> rfl) ho]
  rfl

/-- What opens without items and without a list to write. -/
theorem opened_grows (hw : m ≠ .workflow) (ha : m = .address → m.opensPage mode = false)
    (hl : m.opensPage mode = true → m.rowForm.loads mode = none) : (start mode p).Grows (opened m mode p sort) := by
  have hnew : (start mode p).Grows (new m mode p) := grows_new hw
  by_cases ho : m.opensPage mode = true
  · have hm : m ≠ .address := fun hm => by simp [ha hm] at ho
    rw [opened_of_loads_none (hl ho) ho]
    have hafter := grows_afterLoad hm { new m mode p with data := mode.data (new m mode p).page }
    exact ⟨hafter.page.trans hnew.page, hnew.store.trans hafter.store, hafter.items.trans hnew.items⟩
  · rw [opened_of_not_opens (by simpa using ho)]
    exact hnew

theorem sound_opened : (opened m mode p sort).Sound := by
  by_cases hw : m = .workflow
  · subst hw
    exact opened_workflow.sound sound_new_workflow
  · by_cases ho : m.opensPage mode = true
    · cases hl : m.rowForm.loads mode with
      | some load =>
        rw [opened_of_loads hl ho, afterLoad_of_loads hl]
        exact sound_load sound_startData rfl (fun key => ProviderPage.nodup_rowsAt)
          fun key r hr => ProviderPage.holds_of_mem_rowsAt hr
      | none =>
        by_cases ha : m = .address
        · subst ha
          rw [opened_address ho]
          exact sound_writeFirst sound_startData
        · exact (opened_grows hw (fun h => absurd h ha) fun _ => hl).sound sound_start
    · have ho : m.opensPage mode = false := by simpa using ho
      exact (opened_grows hw (fun _ => ho) fun h => by simp [ho] at h).sound sound_start

theorem held_opened : (opened m mode p sort).held = p.held ↔ OpensKept m mode p sort := by
  by_cases hw : m = .workflow
  · subst hw
    have hnone (key : String) : ¬ SetsAmounts .workflow mode key := by
      cases mode <;> exact nofun
    rw [opened_workflow.held sound_new_workflow, held_new_workflow]
    exact ⟨fun h => ⟨fun _ => h, fun _ => ⟨nofun, fun key hkey => absurd hkey (hnone key)⟩⟩, fun h => h.1 rfl⟩
  · have hleft : (m = .workflow → ∀ l ∈ [p.workflowStates, p.workflowTransitions],
        Store.HoldsList p.page.lists l → p.store.lists l = []) := fun h => absurd h hw
    rw [OpensKept, and_iff_right hleft]
    by_cases ho : m.opensPage mode = true
    · rw [forall_prop_of_true ho]
      cases hl : m.rowForm.loads mode with
      | some load =>
        have ha : m ≠ .address := by
          rintro rfl
          cases mode <;> cases hl
        rw [and_iff_right fun h => absurd h ha, opened_of_loads hl ho, afterLoad_of_loads hl, ← held_startData,
          held_load (s := startData mode p) fun key => ProviderPage.nodup_rowsAt]
        constructor
        · intro h key hkey order horder r hr
          obtain rfl : load = .setItemToList key := Option.some.inj (hl.symm.trans hkey)
          have hmem : r ∈ p.rowsAt mode key := ((sort.perm _ _ horder).mem_iff).mp (Store.mem_of_mem_passed hr)
          exact h key rfl order horder r hr (ProviderPage.holds_of_mem_rowsAt hmem)
        · rintro h key rfl order horder r hr -
          exact h key hl order horder r hr
      | none =>
        have hnone (key : String) : ¬ SetsAmounts m mode key := fun h => by
          rw [SetsAmounts, hl] at h
          cases h
        by_cases ha : m = .address
        · subst ha
          rw [opened_address ho, ← held_startData, held_writeFirst]
          constructor
          · intro h
            refine ⟨fun _ r hr => ?_, fun key hkey => absurd hkey (hnone key)⟩
            exact rewriteLink_view_iff.mp (h r hr (ProviderPage.holds_of_mem_rowsAt (List.mem_of_mem_head? hr)))
          · intro h r hr _
            exact rewriteLink_view_iff.mpr (h.1 rfl r hr)
        · rw [(opened_grows hw (fun h => absurd h ha) fun _ => hl).held sound_start]
          exact ⟨fun _ => ⟨fun h => absurd h ha, fun key hkey => absurd hkey (hnone key)⟩, fun _ => rfl⟩
    · have ho : m.opensPage mode = false := by simpa using ho
      rw [(opened_grows hw (fun _ => ho) fun h => by simp [ho] at h).held sound_start]
      exact ⟨fun _ h => by simp [ho] at h, fun _ => rfl⟩

/-! ### Submits -/

def linked (form : RowForm) (s : RowSession) (r : ItemRow Num) : ItemRow Num :=
  form.link.elim r fun key => r.setOther key (Doc.at s.data.fields key)

def Turnable (m : ModuleType) (s : RowSession) : Prop :=
  ∀ r ∈ s.newItemList, m.turnable s.isReturn (s.store.rows r) = true

def turnedRows (m : ModuleType) (s : RowSession) : List Nat := s.store.passed (m.turnable s.isReturn) s.newItemList

theorem each_turn_eq_done_iff (hs : s.Sound) :
    (s.store.newList []).each (m.rowForm.turn s.isReturn) s.newItemList =
        .done ((s.store.newList []).each (m.rowForm.turn s.isReturn) s.newItemList).state ↔ Turnable m s :=
  Store.each_eq_done_iff (ModuleType.turn_eq m s.isReturn) hs.nodup

theorem submitItems_threw (hs : s.Sound) (h : ¬ Turnable m s) :
    (s.submitItems m.rowForm).store = ((s.store.newList []).each (m.rowForm.turn s.isReturn) s.newItemList).state := by
  have hdone := mt (each_turn_eq_done_iff hs).mp h
  unfold submitItems
  dsimp only
  split
  · next st hcase =>
    have hcase : (s.store.newList []).each (m.rowForm.turn s.isReturn) s.newItemList = .threw st := hcase
    rw [hcase]
    rfl
  · next st hcase =>
    have hcase : (s.store.newList []).each (m.rowForm.turn s.isReturn) s.newItemList = .done st := hcase
    rw [hcase] at hdone
    exact absurd rfl hdone

/-- The rows after the first loop, with the new list filled. -/
def filled (m : ModuleType) (s : RowSession) : Store (ItemRow Num) :=
  ((s.store.newList []).each (m.rowForm.turn s.isReturn) s.newItemList).state.setList s.store.nextList s.newItemList

theorem submitItems_done (hs : s.Sound) (h : Turnable m s) :
    (s.submitItems m.rowForm).store =
      ((filled m s).each (fun element => .done (linked m.rowForm s element)) s.newItemList).state := by
  have hdone := (each_turn_eq_done_iff hs).mpr h
  unfold submitItems
  dsimp only
  split
  · next st hcase =>
    have hcase : (s.store.newList []).each (m.rowForm.turn s.isReturn) s.newItemList = .threw st := hcase
    rw [hcase] at hdone
    cases hdone
  · next st hcase =>
    have hcase : (s.store.newList []).each (m.rowForm.turn s.isReturn) s.newItemList = .done st := hcase
    have hfilled : st.setList s.store.nextList s.newItemList = filled m s := by
      rw [filled, hcase]
      rfl
    split
    · next hlink =>
      rw [Store.each_of_done_self fun v => by rw [linked, hlink, Option.elim_none]]
      exact hfilled
    · next key hlink =>
      have hloop : (fun element => .done (linked m.rowForm s element)) =
          fun element : ItemRow Num => Outcome.done (element.setOther key (Doc.at s.data.fields key)) := by
        funext element
        rw [linked, hlink, Option.elim_some]
      rw [hloop, ← hfilled]
@[simp] theorem page_submitItems (form : RowForm) : (s.submitItems form).page = s.page := by
  unfold submitItems
  dsimp only
  split
  · rfl
  · split <;> rfl

@[simp] theorem newItemList_submitItems (form : RowForm) : (s.submitItems form).newItemList = s.newItemList := by
  unfold submitItems
  dsimp only
  split
  · rfl
  · split <;> rfl

/-- The lists of the page stay as they are: `data['items'] = []` is a new one. -/
theorem lists_submitItems (hs : s.Sound) {l : Nat} (hl : l < s.store.nextList) :
    (s.submitItems m.rowForm).store.lists l = s.store.lists l := by
  have hne : l ≠ s.store.nextList := Nat.ne_of_lt hl
  by_cases h : Turnable m s
  · rw [submitItems_done hs h, Store.lists_each, filled, Store.lists_setList_ne hne, Store.lists_each]
    exact Store.lists_setList_ne hne
  · rw [submitItems_threw hs h, Store.lists_each]
    exact Store.lists_setList_ne hne

theorem nextRow_submitItems (hs : s.Sound) : (s.submitItems m.rowForm).store.nextRow = s.store.nextRow := by
  by_cases h : Turnable m s
  · rw [submitItems_done hs h, Store.nextRow_each]
    exact Store.nextRow_each
  · rw [submitItems_threw hs h]
    exact Store.nextRow_each

theorem nextList_submitItems (hs : s.Sound) : (s.submitItems m.rowForm).store.nextList = s.store.nextList + 1 := by
  by_cases h : Turnable m s
  · rw [submitItems_done hs h, Store.nextList_each]
    exact Store.nextList_each
  · rw [submitItems_threw hs h]
    exact Store.nextList_each

theorem sound_submitItems (hs : s.Sound) : (s.submitItems m.rowForm).Sound where
  below := by
    rw [page_submitItems]
    refine ⟨?_, fun l hl => ?_⟩
    · rintro r ⟨e, he, hr⟩
      rw [lists_submitItems hs (hs.below.lists _ ⟨e, he, rfl⟩)] at hr
      rw [nextRow_submitItems hs]
      exact hs.below.rows r ⟨e, he, hr⟩
    · rw [nextList_submitItems hs]
      exact Nat.lt_succ_of_lt (hs.below.lists l hl)
  inUse := by
    rw [newItemList_submitItems, nextRow_submitItems hs]
    exact hs.inUse
  nodup := by
    rw [newItemList_submitItems]
    exact hs.nodup

theorem rows_submitItems_done (hs : s.Sound) (h : Turnable m s) (r : Nat) :
    (s.submitItems m.rowForm).store.rows r =
      if r ∈ s.newItemList then linked m.rowForm s (m.turned s.isReturn (s.store.rows r)) else s.store.rows r := by
  have hall : (s.store.newList []).passed (m.turnable s.isReturn) s.newItemList = s.newItemList :=
    List.takeWhile_eq_self_iff.mpr h
  have hfirst : (filled m s).rows r =
      if r ∈ s.newItemList then m.turned s.isReturn (s.store.rows r) else s.store.rows r := by
    rw [filled, Store.rows_setList, Store.rows_each (ModuleType.turn_eq m s.isReturn) hs.nodup, hall]
    rfl
  rw [submitItems_done hs h, Store.rows_each_done (fun _ => rfl) hs.nodup, hfirst]
  split <;> rfl

theorem rows_submitItems_threw (hs : s.Sound) (h : ¬ Turnable m s) (r : Nat) :
    (s.submitItems m.rowForm).store.rows r =
      if r ∈ turnedRows m s then m.turned s.isReturn (s.store.rows r) else s.store.rows r := by
  rw [submitItems_threw hs h, Store.rows_each (ModuleType.turn_eq m s.isReturn) hs.nodup]
  rfl

/-- The condition under which a submit of a form with items leaves the page as it is: the rows of the page that it is
    done with need no turning, and when it links the rows those of the page carry the link already. -/
structure ItemsKept (m : ModuleType) (s : RowSession) : Prop where
  turned : ∀ r ∈ turnedRows m s, s.Holds r → ¬ m.Turns s.isReturn (s.store.rows r)
  linked : Turnable m s → ∀ key ∈ m.rowForm.link, ∀ r ∈ s.newItemList, s.Holds r →
    (s.store.rows r).Reads key (Doc.at s.data.fields key)

theorem turnedRows_of_turnable (h : Turnable m s) : turnedRows m s = s.newItemList := List.takeWhile_eq_self_iff.mpr h

theorem linked_turned_view_iff {r : ItemRow Num} :
    (linked m.rowForm s (m.turned s.isReturn r)).view = r.view ↔ ¬ m.Turns s.isReturn r ∧
      ∀ key ∈ m.rowForm.link, r.Reads key (Doc.at s.data.fields key) := ModuleType.linked_view_iff

theorem held_submitItems (hs : s.Sound) : (s.submitItems m.rowForm).held = s.held ↔ ItemsKept m s := by
  rw [held_eq_iff (page_submitItems _), Store.view_eq_iff_rows fun l hl => lists_submitItems hs (hs.below.lists l hl)]
  by_cases h : Turnable m s
  · have hturned := turnedRows_of_turnable h
    constructor
    · intro hrows
      have hboth : ∀ r ∈ s.newItemList, s.Holds r →
          (linked m.rowForm s (m.turned s.isReturn (s.store.rows r))).view = (s.store.rows r).view := by
        intro r hr hheld
        have hrow := hrows r hheld
        rwa [rows_submitItems_done hs h, if_pos hr] at hrow
      refine ⟨fun r hr hheld => ?_, fun _ key hkey r hr hheld => ?_⟩
      · exact (linked_turned_view_iff.mp (hboth r (hturned ▸ hr) hheld)).1
      · exact (linked_turned_view_iff.mp (hboth r hr hheld)).2 key hkey
    · intro hkept r hheld
      rw [rows_submitItems_done hs h]
      split
      · next hr =>
        exact linked_turned_view_iff.mpr
          ⟨hkept.turned r (hturned ▸ hr) hheld, fun key hkey => hkept.linked h key hkey r hr hheld⟩
      · rfl
  · constructor
    · intro hrows
      refine ⟨fun r hr hheld => ?_, fun hall => absurd hall h⟩
      have hrow := hrows r hheld
      rw [rows_submitItems_threw hs h, if_pos hr] at hrow
      exact ModuleType.turned_view_iff.mp hrow
    · intro hkept r hheld
      rw [rows_submitItems_threw hs h]
      split
      · next hr => exact ModuleType.turned_view_iff.mpr (hkept.turned r hr hheld)
      · rfl

end RowSession

/-- The first row of the taxes already has what the submit writes into it. -/
structure TaxData.Written (tax : TaxData) (r : ItemRow Num) : Prop where
  chargeType : r.others.get? "charge_type" = none
  rate : r.rate.map Num.number = tax.rate.map Num.number
  costCenter : r.Reads "cost_center" tax.costCenter
  total : r.Reads "total" tax.total
  taxAmount : r.Reads "tax_amount" tax.taxAmount

theorem TaxData.write_view_iff {tax : TaxData} {r : ItemRow Num} : (tax.write r).view = r.view ↔ tax.Written r := by
  constructor
  · intro h
    have hget := ItemRow.get?_of_view h.symm
    refine ⟨?_, congrArg RowView.rate h.symm, ?_, ?_, ?_⟩
    · have hcharge := hget "charge_type"
      simpa [write, ItemRow.setOther] using hcharge
    · rw [ItemRow.Reads, hget]
      simp [write, ItemRow.setOther]
    · rw [ItemRow.Reads, hget]
      simp [write, ItemRow.setOther]
    · rw [ItemRow.Reads, hget]
      simp [write, ItemRow.setOther]
  · intro h
    let row : ItemRow Num := { r with rate := tax.rate }
    have hwrite : tax.write r =
        ((row.setOther "cost_center" tax.costCenter).setOther "total" tax.total).setOther "tax_amount" tax.taxAmount := by
      simp only [write, Dict.remove_of_get? h.chargeType, row]
    have hrow : row.view = r.view := by simp only [ItemRow.view, row, h.rate]
    rw [hwrite]
    exact ItemRow.setOther_view (ItemRow.setOther_view (ItemRow.setOther_view hrow h.costCenter) h.total) h.taxAmount

namespace RowSession
variable {m : ModuleType} {mode : OpenMode} {p : ProviderPage} {sort : RowSort} {s t : RowSession} {e : RowEvent}

/-! ### Runs -/

def HoldsList (s : RowSession) (list : WorkflowList) : Prop := Store.HoldsList s.page.lists (s.workflowList list)

/-- The condition under which an event leaves the page as it is: it writes no row or list of the page, or only what is
    there already. -/
def Keeps (m : ModuleType) (s : RowSession) : RowEvent → Prop
  | .changeQty index value => ∀ r ∈ s.newItemList[index]?, ∀ n ∈ value, s.Holds r → (s.store.rows r).HasQty n
  | .writeFirst list key value =>
    ∀ r ∈ (s.rowsAt list).head?, s.Holds r → (s.store.rows r).Reads key value
  | .addState list _ => ¬ s.HoldsList list
  | .removeState list index => index < (s.store.lists (s.workflowList list)).length → ¬ s.HoldsList list
  | .submit passes tax => passes = true →
    (m.rowForm.submitsItems = true → ItemsKept m s) ∧
    (m = .expenseClaim → ∀ r ∈ (s.rowsAt "taxes").head?, s.Holds r → tax.Written (s.store.rows r))
  | .remove _ | .pick _ | .clearItems | .write _ _ | .showRows | .addShown _ | .removeShown _ => True

theorem pick_eq (s : RowSession) (item : ItemRow Num) :
    ∃ v, (({ s with store := s.store.newRow item } : RowSession).setItemToList s.store.nextRow).state =
      { s with store := s.store.newRow v, newItemList := s.newItemList ++ [s.store.nextRow] } := by
  refine ⟨(((s.store.newRow item).rows s.store.nextRow).setAmount).state, ?_⟩
  rw [setItemToList, Outcome.state_map]
  dsimp only
  rw [Store.setRow_newRow]

theorem held_setList {l : Nat} {rs : List Nat} (hlen : rs.length ≠ (s.store.lists l).length) :
    ({ s with store := s.store.setList l rs } : RowSession).held = s.held ↔ ¬ Store.HoldsList s.page.lists l := by
  have hread : ({ s with store := s.store.setList l rs } : RowSession).held = s.held ↔
      (s.store.setList l rs).view ItemRow.view s.page.lists = s.store.view ItemRow.view s.page.lists := by
    refine held_eq_iff ?_
    rfl
  rw [hread, Store.view_setList]
  refine ⟨fun h hl => hlen ?_, fun h hl => absurd hl h⟩
  simpa using congrArg List.length (h hl)

theorem held_submit (hs : s.Sound) {tax : TaxData} : (s.submit m tax).held = s.held ↔
    (m.rowForm.submitsItems = true → ItemsKept m s) ∧
    (m = .expenseClaim → ∀ r ∈ (s.rowsAt "taxes").head?, s.Holds r → tax.Written (s.store.rows r)) := by
  unfold submit
  split
  · next hitems =>
    have hne : m ≠ .expenseClaim := by
      rintro rfl
      cases hitems
    rw [held_submitItems hs, forall_prop_of_true hitems, and_iff_left fun h => absurd h hne]
  · next hitems =>
    rw [and_iff_right fun h => absurd h hitems]
    split
    · next hm =>
      rw [held_writeFirst, forall_prop_of_true hm]
      simp only [TaxData.write_view_iff]
    · next hm => exact ⟨fun _ h => absurd h hm, fun _ => rfl⟩

theorem held_step (hs : s.Sound) (h : step m s e = some t) : t.held = s.held ↔ Keeps m s e := by
  cases e with
  | changeQty index value =>
    obtain ⟨r, hr, rfl⟩ := Option.map_eq_some_iff.mp h
    have hr : s.newItemList[index]? = some r := (Option.filter_eq_some_iff.mp hr).1
    cases value with
    | none => simp [Keeps]
    | some n =>
      rw [Option.elim_some, held_setRow, ItemRow.changeQty_view_iff, Keeps, hr]
      simp
  | remove index =>
    obtain ⟨_, -, rfl⟩ := Option.map_eq_some_iff.mp h
    exact iff_of_true rfl trivial
  | pick item =>
    simp only [step, Option.ite_none_right_eq_some, Option.some.injEq] at h
    obtain ⟨-, rfl⟩ := h
    obtain ⟨v, hpick⟩ := pick_eq s item.row
    rw [hpick]
    exact iff_of_true (held_of_extends rfl Store.extends_newRow hs.below) trivial
  | clearItems =>
    cases h
    exact iff_of_true rfl trivial
  | write key value =>
    cases h
    exact iff_of_true rfl trivial
  | writeFirst list key value =>
    simp only [step, Option.ite_none_right_eq_some, Option.some.injEq] at h
    obtain ⟨-, rfl⟩ := h
    rw [held_writeFirst, Keeps]
    simp only [ItemRow.setOther_view_iff]
  | addState list row =>
    simp only [step, Option.ite_none_right_eq_some, Option.some.injEq] at h
    obtain ⟨-, rfl⟩ := h
    have hrow : ({ s with store := s.store.newRow row } : RowSession).held = s.held :=
      held_of_extends rfl Store.extends_newRow hs.below
    rw [← hrow]
    refine held_setList (s := { s with store := s.store.newRow row }) ?_
    simp [Store.newRow]
  | removeState list index =>
    simp only [step, Option.ite_none_right_eq_some, Option.some.injEq] at h
    obtain ⟨-, rfl⟩ := h
    by_cases hindex : index < (s.store.lists (s.workflowList list)).length
    · rw [held_setList (by rw [List.length_eraseIdx_of_lt hindex]; omega), Keeps, forall_prop_of_true hindex]
      rfl
    · rw [List.eraseIdx_of_length_le (Nat.le_of_not_lt hindex)]
      have hsame : s.store.setList (s.workflowList list) (s.store.lists (s.workflowList list)) = s.store := by
        rw [Store.setList, Function.update_eq_self]
      rw [hsame]
      exact iff_of_true rfl fun h => absurd h hindex
  | showRows =>
    obtain ⟨_, -, rfl⟩ := Option.map_eq_some_iff.mp h
    exact iff_of_true rfl trivial
  | addShown row =>
    obtain ⟨_, -, rfl⟩ := Option.map_eq_some_iff.mp h
    exact iff_of_true (held_of_extends rfl Store.extends_newRow hs.below) trivial
  | removeShown index =>
    obtain ⟨_, -, rfl⟩ := Option.map_eq_some_iff.mp h
    exact iff_of_true rfl trivial
  | submit passes tax =>
    obtain rfl := Option.some.inj h
    cases passes with
    | false => simp [Keeps]
    | true =>
      rw [if_pos rfl, held_submit hs, Keeps, forall_prop_of_true rfl]

theorem sound_step (hs : s.Sound) (h : step m s e = some t) : t.Sound := by
  cases e with
  | changeQty index value =>
    obtain ⟨r, -, rfl⟩ := Option.map_eq_some_iff.mp h
    cases value with
    | none => exact hs
    | some n => exact ⟨hs.below.of_lists rfl (Nat.le_refl _) (Nat.le_refl _), hs.inUse, hs.nodup⟩
  | remove index =>
    obtain ⟨_, -, rfl⟩ := Option.map_eq_some_iff.mp h
    exact ⟨hs.below, fun r hr => hs.inUse r (List.mem_of_mem_eraseIdx hr), hs.nodup.eraseIdx index⟩
  | pick item =>
    simp only [step, Option.ite_none_right_eq_some, Option.some.injEq] at h
    obtain ⟨-, rfl⟩ := h
    obtain ⟨v, hpick⟩ := pick_eq s item.row
    rw [hpick]
    refine ⟨Store.extends_newRow.below hs.below, Store.inUse_append_newRow hs.inUse, ?_⟩
    refine List.nodup_append.mpr ⟨hs.nodup, List.nodup_singleton _, fun r hr r' hr' => ?_⟩
    rw [List.mem_singleton.mp hr']
    exact Nat.ne_of_lt (hs.inUse r hr)
  | clearItems =>
    cases h
    exact ⟨hs.below, fun _ h => absurd h List.not_mem_nil, List.nodup_nil⟩
  | write key value =>
    cases h
    exact ⟨hs.below, hs.inUse, hs.nodup⟩
  | writeFirst list key value =>
    simp only [step, Option.ite_none_right_eq_some, Option.some.injEq] at h
    obtain ⟨-, rfl⟩ := h
    exact sound_writeFirst hs
  | addState list row =>
    simp only [step, Option.ite_none_right_eq_some, Option.some.injEq] at h
    obtain ⟨-, rfl⟩ := h
    refine ⟨(Store.extends_newRow.below hs.below).setList fun ⟨e, he, hl⟩ => ?_, fun r hr => ?_, hs.nodup⟩
    · refine Store.inUse_append_newRow fun r hr => ?_
      rw [← hl] at hr
      exact hs.below.rows r ⟨e, he, hr⟩
    · exact Nat.lt_succ_of_lt (hs.inUse r hr)
  | removeState list index =>
    simp only [step, Option.ite_none_right_eq_some, Option.some.injEq] at h
    obtain ⟨-, rfl⟩ := h
    refine ⟨hs.below.setList fun ⟨e, he, hl⟩ r hr => ?_, hs.inUse, hs.nodup⟩
    exact hs.below.rows r ⟨e, he, by rw [hl]; exact List.mem_of_mem_eraseIdx hr⟩
  | showRows =>
    obtain ⟨_, -, rfl⟩ := Option.map_eq_some_iff.mp h
    exact ⟨hs.below, hs.inUse, hs.nodup⟩
  | addShown row =>
    obtain ⟨_, -, rfl⟩ := Option.map_eq_some_iff.mp h
    exact ⟨Store.extends_newRow.below hs.below, fun r hr => Nat.lt_succ_of_lt (hs.inUse r hr), hs.nodup⟩
  | removeShown index =>
    obtain ⟨_, -, rfl⟩ := Option.map_eq_some_iff.mp h
    exact ⟨hs.below, hs.inUse, hs.nodup⟩
  | submit passes tax =>
    obtain rfl := Option.some.inj h
    cases passes with
    | false => exact hs
    | true =>
      rw [if_pos rfl, submit]
      split
      · exact sound_submitItems hs
      · split
        · exact sound_writeFirst hs
        · exact hs

/-- Wherever a session is left without a save, the page reads as it did before the form opened. -/
def LeavesPage (m : ModuleType) (mode : OpenMode) (p : ProviderPage) (sort : RowSort) (es : List RowEvent) : Prop :=
  ∀ es', es' <+: es → ∀ s ∈ run (step m) (opened m mode p sort) es', s.leave.held = p.held

/-- A sales order with one row. -/
def orderOf (row : ItemRow Num) : ProviderPage :=
  .loaded { rows := fun _ => {}, lists := fun _ => [], nextRow := 0, nextList := 2 } [("name", .str "SO-1")]
    [("items", [row])] 0 1 []

end RowSession

end NextApp
