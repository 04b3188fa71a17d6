import Mathlib.Data.List.ReduceOption
import Mathlib.Data.List.Sort
import NextApp.Lib.Runs
import NextApp.Model.JournalEntry

/-! # The rows of a journal entry

The list of accounts lives outside the form and is cleared whenever the page view takes the list page down. What Save
submits is the loaded list with the user's changes exactly when every loaded row is one that `AccountModel` holds whole,
but for what the user removes or writes anew, no row of the document was in the list as the page was taken down, and no
row of an earlier form is left in it; Clear All makes good what was lost before. -/

namespace NextApp.JournalEntry
open JournalEntryForm AccountRow

/-- A row of the document as the user has changed it: `ref` is the row of the list that stands for it, none when it has not
    been read. -/
structure WantedRow where
  ref : Option Nat
  json : Doc

/-- The form, with the loaded list as the user has changed it. -/
structure Journal where
  form : JournalEntryForm
  wanted : List WantedRow

/-- The rows of a document, with the identities that they get from `next` on. -/
def wantedFrom (next : Nat) : List Doc → List WantedRow
  | [] => []
  | d :: ds =>
    if (AccountModel.fromJson d).isSome then ⟨some next, d⟩ :: wantedFrom (next + 1) ds
    else (d :: ds).map fun d => ⟨none, d⟩

def openForm (mode : FormMode) (loaded : List Doc) (left : AccountRows) : Journal where
  form := .init mode loaded left
  wanted := if mode.loadsPage then wantedFrom left.next loaded else []

/-- What an edit writes into the row of the document. -/
def entries : AccountEdit → Doc
  | .account name balance fetchedType accountType =>
    [("account", .str name), ("balance", .str balance),
      ("party_type", .str (if fetchedType = "Receivable" then "Customer" else if fetchedType = "Payable" then "Supplier" else "")),
      ("account_type", .str accountType)]
  | .partyType value => [("party_type", .str value)]
  | .party name => [("party", .str name)]
  | .debit value => [("debit_in_account_currency", .double value)]
  | .credit value => [("credit_in_account_currency", .double value)]

/-- The user's additions, edits and removals, applied to the list they are meant for. -/
def wantedStep (f : JournalEntryForm) (w : List WantedRow) : JournalEvent → List WantedRow
  | .add => w ++ [⟨some f.account.next, AccountModel.blank.toJson⟩]
  | .edit ref e => w.map fun r => if r.ref = some ref then { r with json := r.json.addAll (entries e) } else r
  | .remove ref => w.filter fun r => r.ref ≠ some ref
  | .clearAll => []
  | .next | .back | .save => w

def journalStep (j : Journal) (e : JournalEvent) : Option Journal :=
  (j.form.step e).map fun f => ⟨f, wantedStep j.form j.wanted e⟩

/-- The rows that have been submitted are the wanted ones, key by key. -/
def Submits (j : Journal) : Prop :=
  ∃ accounts, j.form.accounts = some accounts ∧
    List.Forall₂ (fun sent (row : WantedRow) => ∀ key, Doc.at sent key = Doc.at row.json key) accounts j.wanted

/-- `AccountModel` holds what the row has under the key. -/
def Holds (d : Doc) (key : String) : Prop :=
  if key ∈ ["account", "account_type", "balance", "bank_account", "party_type", "party"] then ∃ text, Doc.at d key = .str text
  else if key ∈ ["debit_in_account_currency", "credit_in_account_currency"] then ∃ x, Doc.at d key = .double x
  else Doc.at d key = .null

/-- The user writes the key of a row anew. -/
def Writes (ref : Nat) (key : String) (e : JournalEvent) : Prop :=
  ∃ edit, e = .edit ref edit ∧ key ∈ (entries edit).map Prod.fst

/-- The press empties the list of accounts: the list page is built in a form that loads nothing, or it is taken down, or
    the user clears the list. -/
def Empties (f : JournalEntryForm) : JournalEvent → Prop
  | .next => f.currentPage = 0 ∧ f.mode.loadsPage = false
  | .back => f.currentPage = 1
  | .clearAll => True
  | _ => False

/-- The list page is taken down with a row of the document in it. -/
def Drops (base : Nat) (j : Journal) (e : JournalEvent) : Prop :=
  e = .back ∧ j.form.currentPage = 1 ∧ ∃ r ∈ j.form.account.rows, base ≤ r.ref

/-- Each time rows of the document are dropped, Clear All is pressed later on. -/
def KeepsRows (base : Nat) (j : Journal) : List JournalEvent → Prop
  | [] => True
  | e :: es => (Drops base j e → .clearAll ∈ es) ∧ ∀ j' ∈ journalStep j e, KeepsRows base j' es

/-- Some press of the run empties the list. -/
def Emptied (j : Journal) : List JournalEvent → Prop
  | [] => False
  | e :: es => Empties j.form e ∨ ∃ j' ∈ journalStep j e, Emptied j' es

instance (base : Nat) (j : Journal) (e : JournalEvent) : Decidable (Drops base j e) :=
  inferInstanceAs (Decidable (_ ∧ _ ∧ _))

instance decKeepsRows (base : Nat) : (j : Journal) → (es : List JournalEvent) → Decidable (KeepsRows base j es)
  | _, [] => isTrue trivial
  | j, e :: es =>
    match h : journalStep j e with
    | none => decidable_of_iff (Drops base j e → .clearAll ∈ es) (by simp [KeepsRows, h])
    | some k => @decidable_of_iff _ ((Drops base j e → .clearAll ∈ es) ∧ KeepsRows base k es) (by simp [KeepsRows, h])
        (@instDecidableAnd _ _ _ (decKeepsRows base k es))

variable {base ref : Nat} {key : String} {f f' : JournalEntryForm} {j j' : Journal} {e : JournalEvent} {es : List JournalEvent}
  {d : Doc} {m : AccountModel} {loaded : List Doc}

/-! ### Rows and models -/

theorem text?_iff {text : String} (h : AccountModel.text? d key = some text) :
    .str text = Doc.at d key ↔ ∃ text, Doc.at d key = .str text := by
  rw [AccountModel.text?] at h
  cases hd : Doc.at d key <;> simp_all [Value.asString?]

theorem double?_iff {x : Float} (h : AccountModel.double? d key = some x) :
    .double x = Doc.at d key ↔ ∃ x, Doc.at d key = .double x := by
  rw [AccountModel.double?] at h
  cases hd : Doc.at d key <;> simp_all

/-- What is left of a row that has been read is what `AccountModel` holds of it. -/
theorem at_toJson_iff (h : AccountModel.fromJson d = some m) : Doc.at m.toJson key = Doc.at d key ↔ Holds d key := by
  simp only [AccountModel.fromJson, Option.bind_eq_some_iff, Option.map_eq_some_iff] at h
  obtain ⟨id, -, account, haccount, accountType, haccountType, balance, hbalance, bankAccount, hbankAccount, partyType,
    hpartyType, party, hparty, debit, hdebit, credit, hcredit, rfl⟩ := h
  have hstr : Doc.at d "balance" = .str balance := by
    cases hd : Doc.at d "balance" <;> simp_all [Value.asString?]
  by_cases htext : key ∈ ["account", "account_type", "balance", "bank_account", "party_type", "party"]
  · rw [Holds, if_pos htext]
    simp only [List.mem_cons, List.not_mem_nil, or_false] at htext
    rcases htext with rfl | rfl | rfl | rfl | rfl | rfl
    · exact text?_iff haccount
    · exact text?_iff haccountType
    · exact iff_of_true hstr.symm ⟨_, hstr⟩
    · exact text?_iff hbankAccount
    · exact text?_iff hpartyType
    · exact text?_iff hparty
  · rw [Holds, if_neg htext]
    by_cases hamount : key ∈ ["debit_in_account_currency", "credit_in_account_currency"]
    · rw [if_pos hamount]
      rcases List.mem_pair.mp hamount with rfl | rfl
      · exact double?_iff hdebit
      · exact double?_iff hcredit
    · rw [if_neg hamount, eq_comm]
      have hnone : Doc.at (AccountModel.toJson ⟨id, account, accountType, balance, bankAccount, partyType, party, debit, credit⟩)
          key = .null := by
        rw [Doc.at, Dict.get?_of_not_mem]
        · rfl
        · simp_all [AccountModel.toJson]
      rw [hnone]

theorem fromJson_toJson (m : AccountModel) : (AccountModel.fromJson m.toJson).isSome := by
  simp [AccountModel.fromJson, AccountModel.toJson, AccountModel.text?, AccountModel.double?, Doc.at, Dict.get?]

/-- A row is read by what it has under its keys. -/
theorem fromJson_congr {d' : Doc} (h : ∀ key, Doc.at d key = Doc.at d' key) : AccountModel.fromJson d = AccountModel.fromJson d' := by
  simp only [AccountModel.fromJson, AccountModel.text?, AccountModel.double?, h]

/-- An edit of a model writes the same entries as one of the row. -/
theorem toJson_apply (edit : AccountEdit) (m : AccountModel) : (edit.apply m).toJson = m.toJson.addAll (entries edit) := by
  cases edit <;> rfl

theorem at_edited_iff (edit : AccountEdit) (m : AccountModel) (d : Doc) :
    Doc.at (edit.apply m).toJson key = Doc.at (d.addAll (entries edit)) key ↔
      Doc.at m.toJson key = Doc.at d key ∨ key ∈ (entries edit).map Prod.fst := by
  rw [toJson_apply]
  by_cases hkey : key ∈ (entries edit).map Prod.fst
  · refine iff_of_true ?_ (Or.inr hkey)
    rw [Doc.at, Dict.get?_addAll_congr (Or.inl hkey), Doc.at]
  · simp only [Doc.at, Dict.get?_addAll_of_not_mem hkey, hkey, or_false]

/-! ### Presses -/

instance (f : JournalEntryForm) : (e : JournalEvent) → Decidable (Empties f e)
  | .next => inferInstanceAs (Decidable (_ ∧ _))
  | .back => inferInstanceAs (Decidable (_ = _))
  | .clearAll => isTrue trivial
  | .add | .edit .. | .remove _ | .save => isFalse id

/-- What a press that does not empty the list makes of the rows. -/
def worked (a : AccountRows) : JournalEvent → AccountRows
  | .add => a.add .blank
  | .edit ref e => a.edit ref e
  | .remove ref => a.remove ref
  | .next | .back | .clearAll | .save => a

/-- The inversion of a press. -/
structure Pressed (f : JournalEntryForm) (e : JournalEvent) (f' : JournalEntryForm) : Prop where
  mode : f'.mode = f.mode
  account : f'.account = if Empties f e then f.account.clear else worked f.account e
  page : f'.currentPage ≤ accountsPage
  first : f'.currentPage = 0 → e = .back ∧ f.currentPage = 1
  listed : ∀ ref, e = .remove ref → ref ∈ f.account.rows.map AccountRow.ref

theorem moveTo_eq (f : JournalEntryForm) (page : Nat) (empties : Prop) [Decidable empties]
    (h : PageView.Mounts f.currentPage page accountsPage ∧ f.mode.loadsPage = false ∨
      PageView.Unmounts f.currentPage page accountsPage ↔ empties) :
    f.moveTo page = { f with currentPage := page, account := if empties then f.account.clear else f.account } := by
  rw [moveTo]
  by_cases hm : PageView.Mounts f.currentPage page accountsPage
  · have hu : ¬ PageView.Unmounts f.currentPage page accountsPage := fun hu => hm.1 hu.1
    cases hl : f.mode.loadsPage <;> simp_all [listInitState]
  · by_cases hu : PageView.Unmounts f.currentPage page accountsPage <;> simp_all [listDeactivate]

theorem pressed_of_step (hpage : f.currentPage ≤ accountsPage) (h : f.step e = some f') : Pressed f e f' := by
  cases e with
  | next =>
    obtain ⟨hlt, rfl⟩ := by simpa [JournalEntryForm.step] using h
    have hempties : PageView.Mounts f.currentPage (f.currentPage + 1) accountsPage ∧ f.mode.loadsPage = false ∨
        PageView.Unmounts f.currentPage (f.currentPage + 1) accountsPage ↔ Empties f .next := by
      rw [PageView.unmounts_forth, or_iff_left (by omega), Empties]
      refine and_congr_left fun _ => ?_
      simp only [PageView.Mounts, PageView.Mounted, accountsPage] at hlt ⊢
      omega
    rw [moveTo_eq f (f.currentPage + 1) (Empties f .next) hempties]
    exact ⟨rfl, rfl, hlt, fun h => (by cases h), fun _ h => (by cases h)⟩
  | back =>
    obtain ⟨hlt, rfl⟩ := by simpa [JournalEntryForm.step] using h
    obtain ⟨page, hcurrent⟩ : ∃ page, f.currentPage = page + 1 := ⟨_, (Nat.succ_pred_eq_of_pos hlt).symm⟩
    have hempties : PageView.Mounts f.currentPage page accountsPage ∧ f.mode.loadsPage = false ∨
        PageView.Unmounts f.currentPage page accountsPage ↔ Empties f .back := by
      rw [hcurrent, PageView.unmounts_back, Empties, hcurrent]
      simp only [PageView.Mounts, PageView.Mounted, accountsPage] at hcurrent hpage ⊢
      omega
    rw [hcurrent, Nat.add_sub_cancel, moveTo_eq f page (Empties f .back) hempties]
    refine ⟨rfl, rfl, ?_, fun hzero => ⟨rfl, ?_⟩, fun _ h => (by cases h)⟩
    · dsimp only
      omega
    · dsimp only at hzero
      omega
  | add =>
    obtain ⟨hlast, rfl⟩ := by simpa [JournalEntryForm.step] using h
    exact ⟨rfl, rfl, hpage, fun hzero => absurd (hlast.symm.trans hzero) (by decide), fun _ h => (by cases h)⟩
  | edit ref edit =>
    obtain ⟨⟨hlast, _⟩, rfl⟩ := by simpa [JournalEntryForm.step] using h
    exact ⟨rfl, rfl, hpage, fun hzero => absurd (hlast.symm.trans hzero) (by decide), fun _ h => (by cases h)⟩
  | remove ref =>
    obtain ⟨⟨hlast, hmem⟩, rfl⟩ := by simpa [JournalEntryForm.step] using h
    refine ⟨rfl, rfl, hpage, fun hzero => absurd (hlast.symm.trans hzero) (by decide), fun ref' heq => ?_⟩
    cases heq
    exact List.mem_map.mpr hmem
  | clearAll =>
    obtain ⟨⟨hlast, _⟩, rfl⟩ := by simpa [JournalEntryForm.step] using h
    exact ⟨rfl, rfl, hpage, fun hzero => absurd (hlast.symm.trans hzero) (by decide), fun _ h => (by cases h)⟩
  | save =>
    obtain ⟨hlast, rfl⟩ := by simpa [JournalEntryForm.step] using h
    exact ⟨rfl, rfl, hpage, fun hzero => absurd (hlast.symm.trans hzero) (by decide), fun _ h => (by cases h)⟩

/-! ### One press -/

def refs (a : AccountRows) : List Nat := a.rows.map AccountRow.ref

theorem lt_next {a : AccountRows} (h : ref ∈ refs a) : ref < a.next := by
  obtain ⟨r, hr, rfl⟩ := List.mem_map.mp h
  exact a.fresh r hr

def wantedRefs (j : Journal) : List (Option Nat) := j.wanted.map WantedRow.ref

/-- What is known of the list and of the rows that are meant for it. -/
structure Tracked (base : Nat) (j : Journal) : Prop where
  page_le : j.form.currentPage ≤ accountsPage
  base_le : base ≤ j.form.account.next
  listed : ∀ ref ∈ refs j.form.account, base ≤ ref → some ref ∈ wantedRefs j
  own : ∀ ref, some ref ∈ wantedRefs j → base ≤ ref ∧ ref < j.form.account.next
  sorted : ((refs j.form.account).filter fun ref => base ≤ ref).Pairwise (· < ·)
  wantedSorted : (wantedRefs j).reduceOption.Pairwise (· < ·)
  unread : none ∈ wantedRefs j → ∃ row ∈ j.wanted, row.ref = none ∧ AccountModel.fromJson row.json = none
  /-- rows are lost as the list is emptied -/
  lost : (∃ ref, some ref ∈ wantedRefs j ∧ ref ∉ refs j.form.account) → ∀ ref ∈ refs j.form.account, base ≤ ref
  /-- on the first page a form that loads nothing has no row -/
  first : j.form.mode.loadsPage = false → j.form.currentPage = 0 → ∀ ref ∈ refs j.form.account, ref < base

/-- Nothing is lost: each wanted row is in the list. -/
def Whole (j : Journal) : Prop := ∀ x ∈ wantedRefs j, ∃ ref ∈ refs j.form.account, x = some ref

def refsStep (a : AccountRows) : JournalEvent → List Nat
  | .add => refs a ++ [a.next]
  | .remove ref => (refs a).filter fun ref' => ref' ≠ ref
  | _ => refs a

def wantedRefsStep (j : Journal) : JournalEvent → List (Option Nat)
  | .add => wantedRefs j ++ [some j.form.account.next]
  | .remove ref => (wantedRefs j).filter fun ref' => ref' ≠ some ref
  | .clearAll => []
  | _ => wantedRefs j

theorem refs_worked (a : AccountRows) (e : JournalEvent) : refs (worked a e) = refsStep a e := by
  cases e with
  | edit ref edit =>
    simp only [refs, refsStep, worked, AccountRows.edit, editRow, List.map_map]
    refine List.map_congr_left fun r _ => ?_
    by_cases h : r.ref = ref <;> simp [h]
  | remove ref =>
    simp only [refs, refsStep, worked, AccountRows.remove, removeRow, List.filter_map]
    rfl
  | add => simp [refs, refsStep, worked, AccountRows.add]
  | next | back | clearAll | save => rfl

theorem next_worked (a : AccountRows) (e : JournalEvent) : (worked a e).next = if e = .add then a.next + 1 else a.next := by
  cases e <;> rfl

theorem wantedRefs_step (hwanted : j'.wanted = wantedStep j.form j.wanted e) : wantedRefs j' = wantedRefsStep j e := by
  rw [wantedRefs, hwanted]
  cases e with
  | edit ref edit =>
    simp only [wantedRefs, wantedRefsStep, wantedStep, List.map_map]
    refine List.map_congr_left fun r _ => ?_
    by_cases h : r.ref = some ref <;> simp [h]
  | remove ref =>
    simp only [wantedRefs, wantedRefsStep, wantedStep, List.filter_map]
    rfl
  | add => simp [wantedRefs, wantedRefsStep, wantedStep]
  | next | back | clearAll | save => rfl

/-- A press empties the list and keeps the rows meant for it, unless it clears these too, or works on both. -/
theorem journalStep_cases (hj : Tracked base j) (hs : journalStep j e = some j') :
    Pressed j.form e j'.form ∧ j'.wanted = wantedStep j.form j.wanted e ∧
      (Empties j.form e ∧ refs j'.form.account = [] ∧ j'.form.account.next = j.form.account.next ∧
          wantedRefs j' = (if e = .clearAll then [] else wantedRefs j) ∨
        ¬ Empties j.form e ∧ j'.form.account = worked j.form.account e) := by
  obtain ⟨f, hf, rfl⟩ := Option.map_eq_some_iff.mp hs
  have hpressed := pressed_of_step hj.page_le hf
  refine ⟨hpressed, rfl, ?_⟩
  have haccount := hpressed.account
  by_cases hempties : Empties j.form e
  · rw [if_pos hempties] at haccount
    refine Or.inl ⟨hempties, by rw [haccount]; rfl, by rw [haccount]; rfl, ?_⟩
    rw [wantedRefs_step rfl]
    cases e <;> first | rfl | exact absurd hempties id
  · rw [if_neg hempties] at haccount
    exact Or.inr ⟨hempties, haccount⟩

/-- The list after a press is tracked as before when its rows and those meant for it are the same. -/
theorem Tracked.congr (hj : Tracked base j) (hpage : j'.form.currentPage ≤ accountsPage)
    (hfirst : j'.form.currentPage = 0 → refs j'.form.account = [])
    (hrefs : refs j'.form.account = refs j.form.account ∨ refs j'.form.account = [])
    (hnext : j'.form.account.next = j.form.account.next) (hwanted : wantedRefs j' = wantedRefs j)
    (hunread : none ∈ wantedRefs j → ∃ row ∈ j'.wanted, row.ref = none ∧ AccountModel.fromJson row.json = none) :
    Tracked base j' where
  page_le := hpage
  base_le := hnext ▸ hj.base_le
  listed := by
    rw [hwanted]
    rcases hrefs with hrefs | hrefs <;> rw [hrefs]
    · exact hj.listed
    · exact nofun
  own := by
    rw [hwanted, hnext]
    exact hj.own
  sorted := by
    rcases hrefs with hrefs | hrefs <;> rw [hrefs]
    · exact hj.sorted
    · exact .nil
  wantedSorted := by
    rw [hwanted]
    exact hj.wantedSorted
  unread h := hunread (hwanted ▸ h)
  lost := by
    rw [hwanted]
    rcases hrefs with hrefs | hrefs <;> rw [hrefs]
    · exact hj.lost
    · exact fun _ => nofun
  first _ hzero ref href := by
    rw [hfirst hzero] at href
    cases href

/-- A row is added to both. -/
theorem Tracked.add (hj : Tracked base j) (hpage : j'.form.currentPage ≤ accountsPage) (hnotFirst : j'.form.currentPage ≠ 0)
    (hrefs : refs j'.form.account = refs j.form.account ++ [j.form.account.next])
    (hnext : j'.form.account.next = j.form.account.next + 1)
    (hwanted : wantedRefs j' = wantedRefs j ++ [some j.form.account.next])
    (hunread : none ∈ wantedRefs j → ∃ row ∈ j'.wanted, row.ref = none ∧ AccountModel.fromJson row.json = none) :
    Tracked base j' where
  page_le := hpage
  base_le := hnext ▸ Nat.le_succ_of_le hj.base_le
  listed := by
    rw [hrefs, hwanted]
    intro ref href hbase
    rcases List.mem_append.mp href with href | href
    · exact List.mem_append_left _ (hj.listed ref href hbase)
    · exact List.mem_append_right _ (by simpa using href)
  own := by
    rw [hwanted, hnext]
    intro ref href
    rcases List.mem_append.mp href with href | href
    · exact ⟨(hj.own ref href).1, Nat.lt_succ_of_lt (hj.own ref href).2⟩
    · obtain rfl : ref = j.form.account.next := by simpa using href
      exact ⟨hj.base_le, Nat.lt_succ_self _⟩
  sorted := by
    rw [hrefs, List.filter_append, List.pairwise_append]
    refine ⟨hj.sorted, List.pairwise_singleton _ _ |>.filter _, fun x hx y hy => ?_⟩
    obtain rfl := List.mem_singleton.mp (List.mem_of_mem_filter hy)
    exact lt_next (List.mem_of_mem_filter hx)
  wantedSorted := by
    rw [hwanted, List.reduceOption_append, List.pairwise_append]
    refine ⟨hj.wantedSorted, List.pairwise_singleton _ _, fun x hx y hy => ?_⟩
    obtain rfl := List.mem_singleton.mp hy
    exact (hj.own x (List.reduceOption_mem_iff.mp hx)).2
  unread := by
    rw [hwanted]
    exact fun hnone => hunread (by simpa using hnone)
  lost := by
    rw [hwanted, hrefs]
    rintro ⟨ref, href, hgone⟩ ref' href'
    rw [List.mem_append, List.mem_singleton, not_or] at hgone
    rcases List.mem_append.mp href' with href' | href'
    · refine hj.lost ⟨ref, ?_, hgone.1⟩ ref' href'
      simpa [hgone.2] using href
    · rw [List.mem_singleton.mp href']
      exact hj.base_le
  first _ hzero := absurd hzero hnotFirst

/-- A row is removed from both. -/
theorem Tracked.remove (hj : Tracked base j) (hpage : j'.form.currentPage ≤ accountsPage)
    (hnotFirst : j'.form.currentPage ≠ 0)
    (hrefs : refs j'.form.account = (refs j.form.account).filter fun ref' => ref' ≠ ref)
    (hnext : j'.form.account.next = j.form.account.next)
    (hwanted : wantedRefs j' = (wantedRefs j).filter fun ref' => ref' ≠ some ref)
    (hunread : none ∈ wantedRefs j → ∃ row ∈ j'.wanted, row.ref = none ∧ AccountModel.fromJson row.json = none) :
    Tracked base j' where
  page_le := hpage
  base_le := hnext ▸ hj.base_le
  listed := by
    rw [hrefs, hwanted]
    intro ref' href hbase
    rw [List.mem_filter] at href ⊢
    exact ⟨hj.listed ref' href.1 hbase, by simpa using href.2⟩
  own := by
    rw [hwanted, hnext]
    exact fun ref' href => hj.own ref' (List.mem_of_mem_filter href)
  sorted := by
    rw [hrefs]
    exact hj.sorted.sublist (List.filter_sublist.filter _)
  wantedSorted := by
    rw [hwanted]
    exact hj.wantedSorted.sublist (List.filter_sublist.filterMap _)
  unread := by
    rw [hwanted]
    exact fun hnone => hunread (List.mem_of_mem_filter hnone)
  lost := by
    rw [hwanted, hrefs]
    rintro ⟨ref', href, hgone⟩ ref'' href''
    refine hj.lost ⟨ref', List.mem_of_mem_filter href, fun hin => hgone ?_⟩ ref'' (List.mem_of_mem_filter href'')
    exact List.mem_filter.mpr ⟨hin, by simpa using (List.mem_filter.mp href).2⟩
  first _ hzero := absurd hzero hnotFirst

/-- A row that cannot be read is meant for the list until Clear All. -/
theorem unread_step (hj : Tracked base j) (he : e ≠ .clearAll) (hnone : none ∈ wantedRefs j) :
    ∃ row ∈ wantedStep j.form j.wanted e, row.ref = none ∧ AccountModel.fromJson row.json = none := by
  obtain ⟨row, hrow, hnone, hunread⟩ := hj.unread hnone
  refine ⟨row, ?_, hnone, hunread⟩
  cases e with
  | next | back | save => exact hrow
  | add => exact List.mem_append_left _ hrow
  | edit ref edit => exact List.mem_map.mpr ⟨row, hrow, by simp [hnone]⟩
  | remove ref => exact List.mem_filter.mpr ⟨hrow, by simp [hnone]⟩
  | clearAll => exact absurd rfl he

theorem tracked_step (hj : Tracked base j) (hs : journalStep j e = some j') : Tracked base j' := by
  obtain ⟨hpressed, hwanted, ⟨hempties, hrefs, hnext, hwantedRefs⟩ | ⟨hempties, haccount⟩⟩ := journalStep_cases hj hs
  · by_cases he : e = .clearAll
    · rw [if_pos he] at hwantedRefs
      refine ⟨hpressed.page, hnext ▸ hj.base_le, ?_, ?_, ?_, ?_, ?_, ?_, ?_⟩ <;> simp [hrefs, hwantedRefs, List.reduceOption]
    · rw [if_neg he] at hwantedRefs
      exact hj.congr hpressed.page (fun _ => hrefs) (Or.inr hrefs) hnext hwantedRefs fun hnone => hwanted ▸ unread_step hj he hnone
  · have hnotFirst : j'.form.currentPage ≠ 0 := fun hzero => hempties (by
      obtain ⟨rfl, hpage⟩ := hpressed.first hzero
      exact hpage)
    have hunread (hnone : none ∈ wantedRefs j) :
        ∃ row ∈ j'.wanted, row.ref = none ∧ AccountModel.fromJson row.json = none := by
      rw [hwanted]
      refine unread_step hj ?_ hnone
      rintro rfl
      exact hempties trivial
    have hrefs := refs_worked j.form.account e
    have hnext := next_worked j.form.account e
    have hwantedRefs := wantedRefs_step hwanted
    rw [← haccount] at hrefs hnext
    cases e with
    | next | back | save | edit =>
      exact hj.congr hpressed.page (fun hzero => absurd hzero hnotFirst) (Or.inl hrefs) hnext hwantedRefs hunread
    | clearAll => exact absurd trivial hempties
    | add => exact hj.add hpressed.page hnotFirst hrefs hnext hwantedRefs hunread
    | remove ref => exact hj.remove hpressed.page hnotFirst hrefs hnext hwantedRefs hunread

/-- A row that is in use stays in the list unless it is removed or the list is emptied. -/
theorem mem_refs_step (hj : Tracked base j) (hs : journalStep j e = some j') (href : ref < j.form.account.next) :
    ref ∈ refs j'.form.account ↔ ref ∈ refs j.form.account ∧ e ≠ .remove ref ∧ ¬ Empties j.form e := by
  obtain ⟨_, _, ⟨hempties, hrefs, _⟩ | ⟨hempties, haccount⟩⟩ := journalStep_cases hj hs
  · simp [hrefs, hempties]
  · rw [haccount, refs_worked]
    cases e with
    | add => simp [refsStep, Empties, href.ne]
    | remove ref' =>
      rw [refsStep, List.mem_filter, and_iff_left hempties, decide_eq_true_iff]
      exact and_congr_right fun _ => not_congr ⟨fun heq => heq ▸ rfl, fun heq => by cases heq; rfl⟩
    | clearAll => exact absurd trivial hempties
    | next | back | edit | save => simp [refsStep, hempties]

theorem next_le_step (hj : Tracked base j) (hs : journalStep j e = some j') : j.form.account.next ≤ j'.form.account.next := by
  obtain ⟨_, _, ⟨_, _, hnext, _⟩ | ⟨_, haccount⟩⟩ := journalStep_cases hj hs
  · exact hnext.ge
  · rw [haccount, next_worked]
    split
    · exact Nat.le_succ _
    · exact le_rfl

/-- A wanted row stays so unless the user removes it. -/
theorem mem_wantedRefs_step (hs : journalStep j e = some j') (href : some ref ∈ wantedRefs j) (hremove : e ≠ .remove ref)
    (hclear : e ≠ .clearAll) : some ref ∈ wantedRefs j' := by
  obtain ⟨f, _, rfl⟩ := Option.map_eq_some_iff.mp hs
  rw [wantedRefs_step rfl]
  cases e with
  | add => exact List.mem_append_left _ href
  | remove ref' =>
    refine List.mem_filter.mpr ⟨href, decide_eq_true fun heq => hremove ?_⟩
    cases heq
    rfl
  | clearAll => exact absurd rfl hclear
  | next | back | edit | save => exact href

/-- What is whole after a press: all is after Clear All, and otherwise what was whole and is not dropped. -/
theorem whole_step (hj : Tracked base j) (hs : journalStep j e = some j') :
    Whole j' ↔ e = .clearAll ∨ Whole j ∧ ¬ Drops base j e := by
  obtain ⟨hpressed, hwanted, ⟨hempties, hrefs, hnext, hwantedRefs⟩ | ⟨hempties, haccount⟩⟩ := journalStep_cases hj hs
  · by_cases he : e = .clearAll
    · rw [if_pos he] at hwantedRefs
      exact iff_of_true (fun x hx => by rw [hwantedRefs] at hx; cases hx) (Or.inl he)
    · rw [if_neg he] at hwantedRefs
      rw [Whole, hwantedRefs, hrefs, or_iff_right he]
      constructor
      · intro hnone
        refine ⟨fun x hx => ?_, ?_⟩
        · obtain ⟨ref, href, _⟩ := hnone x hx
          cases href
        · rintro ⟨_, _, r, hr, hbase⟩
          obtain ⟨ref, href, _⟩ := hnone _ (hj.listed r.ref (List.mem_map_of_mem hr) hbase)
          cases href
      · rintro ⟨hwhole, hdrops⟩ x hx
        obtain ⟨ref, href, rfl⟩ := hwhole x hx
        have hbase := (hj.own ref hx).1
        cases e with
        | next => exact absurd (hj.first hempties.2 hempties.1 ref href) (Nat.not_lt.mpr hbase)
        | back =>
          obtain ⟨r, hr, rfl⟩ := List.mem_map.mp href
          exact absurd ⟨rfl, hempties, r, hr, hbase⟩ hdrops
        | clearAll => exact absurd rfl he
        | add | edit | remove | save => exact absurd hempties id
  · have hdrops : ¬ Drops base j e := by
      rintro ⟨rfl, hpage, _⟩
      exact hempties hpage
    have hclear : e ≠ .clearAll := by
      rintro rfl
      exact hempties trivial
    rw [or_iff_right hclear, and_iff_left hdrops, Whole, Whole, haccount, refs_worked, wantedRefs_step hwanted]
    cases e with
    | clearAll => exact absurd rfl hclear
    | next | back | edit | save => exact Iff.rfl
    | add =>
      constructor
      · intro hwhole x hx
        obtain ⟨ref, href, rfl⟩ := hwhole x (List.mem_append_left _ hx)
        rcases List.mem_append.mp href with href | href
        · exact ⟨ref, href, rfl⟩
        · rw [List.mem_singleton.mp href] at hx
          exact absurd (hj.own _ hx).2 (Nat.lt_irrefl _)
      · intro hwhole x hx
        rcases List.mem_append.mp hx with hx | hx
        · obtain ⟨ref, href, heq⟩ := hwhole x hx
          exact ⟨ref, List.mem_append_left _ href, heq⟩
        · exact ⟨_, List.mem_append_right _ (List.mem_singleton.mpr rfl), List.mem_singleton.mp hx⟩
    | remove ref =>
      constructor
      · intro hwhole x hx
        by_cases hne : x = some ref
        · exact ⟨ref, hpressed.listed ref rfl, hne⟩
        · obtain ⟨ref', href, heq⟩ := hwhole x (List.mem_filter.mpr ⟨hx, decide_eq_true hne⟩)
          exact ⟨ref', List.mem_of_mem_filter href, heq⟩
      · intro hwhole x hx
        obtain ⟨hx, hne⟩ := List.mem_filter.mp hx
        obtain ⟨ref', href, rfl⟩ := hwhole x hx
        exact ⟨ref', List.mem_filter.mpr ⟨href, by simpa using hne⟩, rfl⟩

/-- What is left of a row in the list is what is wanted, under the key. -/
def Agrees (j : Journal) (ref : Nat) (key : String) : Prop :=
  ∀ r ∈ j.form.account.rows, r.ref = ref → ∀ row ∈ j.wanted, row.ref = some ref → Doc.at r.model.toJson key = Doc.at row.json key

theorem agrees_of_not_mem (h : ref ∉ refs j.form.account) : Agrees j ref key := fun r hr href =>
  absurd (List.mem_map.mpr ⟨r, hr, href⟩) h

theorem writes_edit_iff {ref' : Nat} {edit : AccountEdit} :
    Writes ref key (.edit ref' edit) ↔ ref' = ref ∧ key ∈ (entries edit).map Prod.fst := by
  constructor
  · rintro ⟨_, heq, hkey⟩
    cases heq
    exact ⟨rfl, hkey⟩
  · rintro ⟨rfl, hkey⟩
    exact ⟨edit, rfl, hkey⟩

/-- A row and what is wanted of it, both edited where the edit is of this row. -/
theorem at_row_edited_iff {ref' : Nat} (edit : AccountEdit) {r : AccountRow} {row : WantedRow} (hr : r.ref = ref)
    (hrow : row.ref = some ref) :
    Doc.at (if r.ref = ref' then { r with model := edit.apply r.model } else r).model.toJson key =
        Doc.at (if row.ref = some ref' then { row with json := row.json.addAll (entries edit) } else row).json key ↔
      Doc.at r.model.toJson key = Doc.at row.json key ∨ Writes ref key (.edit ref' edit) := by
  rw [writes_edit_iff]
  by_cases heq : ref' = ref
  · rw [if_pos (hr.trans heq.symm), if_pos (hrow.trans (congrArg some heq.symm)), and_iff_right heq]
    exact at_edited_iff edit r.model row.json
  · have hne : row.ref ≠ some ref' := fun hsame => heq (Option.some.inj (hsame.symm.trans hrow))
    rw [if_neg fun hsame => heq (hsame.symm.trans hr), if_neg hne, or_iff_left fun hboth => heq hboth.1]

theorem agrees_edit {ref' : Nat} {edit : AccountEdit} (haccount : j'.form.account = worked j.form.account (.edit ref' edit))
    (hwanted : j'.wanted = wantedStep j.form j.wanted (.edit ref' edit)) :
    Agrees j' ref key ↔ Agrees j ref key ∨ Writes ref key (.edit ref' edit) := by
  have href₀ (r : AccountRow) : (if r.ref = ref' then { r with model := edit.apply r.model } else r).ref = r.ref := by
    split <;> rfl
  have hrow₀ (row : WantedRow) :
      (if row.ref = some ref' then { row with json := row.json.addAll (entries edit) } else row).ref = row.ref := by
    split <;> rfl
  rw [Agrees, haccount, hwanted]
  by_cases hwritten : Writes ref key (.edit ref' edit)
  · refine iff_of_true (fun r' hr' hrref row' hrow' hrowref => ?_) (Or.inr hwritten)
    obtain ⟨r, _, rfl⟩ := List.mem_map.mp hr'
    obtain ⟨row, _, rfl⟩ := List.mem_map.mp hrow'
    rw [href₀] at hrref
    rw [hrow₀] at hrowref
    exact (at_row_edited_iff edit hrref hrowref).mpr (Or.inr hwritten)
  · rw [or_iff_left hwritten]
    constructor
    · intro h r hr hrref row hrow hrowref
      have hsame := h _ (List.mem_map_of_mem hr) ((href₀ r).trans hrref) _ (List.mem_map_of_mem hrow) ((hrow₀ row).trans hrowref)
      exact ((at_row_edited_iff edit hrref hrowref).mp hsame).resolve_right hwritten
    · intro h r' hr' hrref row' hrow' hrowref
      obtain ⟨r, hr, rfl⟩ := List.mem_map.mp hr'
      obtain ⟨row, hrow, rfl⟩ := List.mem_map.mp hrow'
      rw [href₀] at hrref
      rw [hrow₀] at hrowref
      exact (at_row_edited_iff edit hrref hrowref).mpr (Or.inl (h r hr hrref row hrow hrowref))

/-- An added row is the row that is wanted. -/
theorem agrees_add (hj : Tracked base j) (haccount : j'.form.account = worked j.form.account .add)
    (hwanted : j'.wanted = wantedStep j.form j.wanted .add) : Agrees j' ref key ↔ Agrees j ref key := by
  rw [Agrees, haccount, hwanted]
  by_cases hnew : ref = j.form.account.next
  · subst hnew
    refine iff_of_true ?_ (agrees_of_not_mem fun hmem => Nat.lt_irrefl _ (lt_next hmem))
    intro r hr hrref row hrow hrowref
    obtain rfl : r = ⟨j.form.account.next, .blank⟩ := by
      rcases List.mem_append.mp hr with hr | hr
      · exact absurd hrref (j.form.account.fresh r hr).ne
      · exact List.mem_singleton.mp hr
    rcases List.mem_append.mp hrow with hrow | hrow
    · exact absurd (hj.own _ (hrowref ▸ List.mem_map_of_mem hrow)).2 (Nat.lt_irrefl _)
    · rw [List.mem_singleton.mp hrow]
  · constructor
    · intro h r hr hrref row hrow hrowref
      exact h r (List.mem_append_left _ hr) hrref row (List.mem_append_left _ hrow) hrowref
    · intro h r hr hrref row hrow hrowref
      rcases List.mem_append.mp hr with hr | hr
      · rcases List.mem_append.mp hrow with hrow | hrow
        · exact h r hr hrref row hrow hrowref
        · rw [List.mem_singleton.mp hrow, Option.some.injEq] at hrowref
          exact absurd hrowref.symm hnew
      · rw [List.mem_singleton.mp hr] at hrref
        exact absurd hrref.symm hnew

theorem agrees_remove {ref' : Nat} (haccount : j'.form.account = worked j.form.account (.remove ref'))
    (hwanted : j'.wanted = wantedStep j.form j.wanted (.remove ref')) (hne : ref ≠ ref') :
    Agrees j' ref key ↔ Agrees j ref key := by
  rw [Agrees, haccount, hwanted]
  constructor
  · intro h r hr hrref row hrow hrowref
    exact h r (List.mem_filter.mpr ⟨hr, by simp [hrref, hne]⟩) hrref row
      (List.mem_filter.mpr ⟨hrow, by simp [hrowref, hne]⟩) hrowref
  · intro h r hr hrref row hrow hrowref
    exact h r (List.mem_of_mem_filter hr) hrref row (List.mem_of_mem_filter hrow) hrowref

theorem agrees_step (hj : Tracked base j) (hs : journalStep j e = some j') (href : ref ∈ refs j'.form.account) :
    Agrees j' ref key ↔ Agrees j ref key ∨ Writes ref key e := by
  obtain ⟨hpressed, hwanted, ⟨_, hrefs, _⟩ | ⟨hempties, haccount⟩⟩ := journalStep_cases hj hs
  · rw [hrefs] at href
    cases href
  · cases e with
    | edit ref' edit => exact agrees_edit haccount hwanted
    | clearAll => exact absurd trivial hempties
    | next | back | save =>
      rw [or_iff_left (by rintro ⟨_, heq, _⟩; cases heq), Agrees, haccount, hwanted]
      exact Iff.rfl
    | add =>
      rw [or_iff_left (by rintro ⟨_, heq, _⟩; cases heq)]
      exact agrees_add hj haccount hwanted
    | remove ref' =>
      rw [or_iff_left (by rintro ⟨_, heq, _⟩; cases heq)]
      rw [haccount, refs_worked] at href
      exact agrees_remove haccount hwanted (by simpa using (List.mem_filter.mp href).2)

/-! ### Runs -/

theorem tracked_run (hj : Tracked base j) (hrun : Runs.run journalStep j es = some j') : Tracked base j' :=
  Runs.invariant_run (I := Tracked base) (fun _ _ _ => tracked_step) hj hrun

theorem mem_refs_run (hj : Tracked base j) (hrun : Runs.run journalStep j es = some j') (href : ref < j.form.account.next) :
    ref ∈ refs j'.form.account ↔ ref ∈ refs j.form.account ∧ .remove ref ∉ es ∧ ¬ Emptied j es := by
  induction es generalizing j with
  | nil =>
    cases hrun
    simp [Emptied]
  | cons e es ih =>
    obtain ⟨i, hi, hrun⟩ := Option.bind_eq_some_iff.mp hrun
    have hemptied : Emptied j (e :: es) ↔ Empties j.form e ∨ Emptied i es := by simp [Emptied, hi]
    rw [ih (tracked_step hj hi) hrun (href.trans_le (next_le_step hj hi)), mem_refs_step hj hi href, hemptied, List.mem_cons,
      ne_comm]
    tauto

theorem mem_wantedRefs_run (hrun : Runs.run journalStep j es = some j') (href : some ref ∈ wantedRefs j)
    (hremove : .remove ref ∉ es) (hclear : .clearAll ∉ es) : some ref ∈ wantedRefs j' := by
  induction es generalizing j with
  | nil =>
    cases hrun
    exact href
  | cons e es ih =>
    obtain ⟨i, hi, hrun⟩ := Option.bind_eq_some_iff.mp hrun
    rw [List.mem_cons, not_or] at hremove hclear
    exact ih hrun (mem_wantedRefs_step hi href (Ne.symm hremove.1) (Ne.symm hclear.1)) hremove.2 hclear.2

theorem whole_run (hj : Tracked base j) (hrun : Runs.run journalStep j es = some j') :
    Whole j' ↔ (Whole j ∨ .clearAll ∈ es) ∧ KeepsRows base j es := by
  induction es generalizing j with
  | nil =>
    cases hrun
    simp [KeepsRows]
  | cons e es ih =>
    obtain ⟨i, hi, hrun⟩ := Option.bind_eq_some_iff.mp hrun
    have hkeeps : KeepsRows base j (e :: es) ↔ (Drops base j e → .clearAll ∈ es) ∧ KeepsRows base i es := by
      simp [KeepsRows, hi]
    have hne : Drops base j e → e ≠ .clearAll := by
      rintro ⟨rfl, _⟩
      exact nofun
    rw [ih (tracked_step hj hi) hrun, hkeeps, whole_step hj hi, List.mem_cons, eq_comm (a := JournalEvent.clearAll)]
    tauto

theorem agrees_run (hj : Tracked base j) (hrun : Runs.run journalStep j es = some j') (href : ref ∈ refs j'.form.account) :
    Agrees j' ref key ↔ Agrees j ref key ∨ ∃ e ∈ es, Writes ref key e := by
  induction es generalizing j with
  | nil =>
    cases hrun
    simp
  | cons e es ih =>
    obtain ⟨i, hi, hrun⟩ := Option.bind_eq_some_iff.mp hrun
    have htracked := tracked_step hj hi
    rw [ih htracked hrun, List.exists_mem_cons_iff, ← or_assoc]
    by_cases hmem : ref ∈ refs i.form.account
    · rw [agrees_step hj hi hmem]
    · -- the row is added later on
      have hnew : i.form.account.next ≤ ref := by
        by_contra hlt
        exact hmem ((mem_refs_run htracked hrun (Nat.lt_of_not_le hlt)).mp href).1
      have hgone : ref ∉ refs j.form.account := fun hold =>
        absurd (lt_next hold) (Nat.not_lt.mpr ((next_le_step hj hi).trans hnew))
      exact iff_of_true (Or.inl (agrees_of_not_mem hmem)) (Or.inl (Or.inl (agrees_of_not_mem hgone)))

/-! ### Saving -/

/-- What Save sends of the list, row by row against the wanted ones. -/
def Same (j : Journal) : Prop :=
  List.Forall₂ (fun sent (row : WantedRow) => ∀ key, Doc.at sent key = Doc.at row.json key)
    (j.form.account.rows.map fun r => r.model.toJson) j.wanted

theorem same_iff_get : Same j ↔ j.form.account.rows.length = j.wanted.length ∧
    ∀ i (hr : i < j.form.account.rows.length) (hrow : i < j.wanted.length) key,
      Doc.at j.form.account.rows[i].model.toJson key = Doc.at j.wanted[i].json key := by
  rw [Same, List.forall₂_iff_get]
  simp

/-- A row that has not been read is not among those that are sent. -/
theorem read_of_same (hj : Tracked base j) (h : Same j) : none ∉ wantedRefs j := by
  intro hnone
  obtain ⟨row, hrow, _, hunread⟩ := hj.unread hnone
  obtain ⟨hlength, hsame⟩ := same_iff_get.mp h
  obtain ⟨i, hi, rfl⟩ := List.getElem_of_mem hrow
  have hi' : i < j.form.account.rows.length := hlength ▸ hi
  have hread := fromJson_toJson j.form.account.rows[i].model
  rw [fromJson_congr (hsame i hi' hi), hunread] at hread
  cases hread

/-- Where the wanted rows have all been read, their identities are in order. -/
theorem wantedRefs_eq (hnone : none ∉ wantedRefs j) : wantedRefs j = (wantedRefs j).reduceOption.map some := by
  generalize wantedRefs j = w at hnone
  induction w with
  | nil => rfl
  | cons x w ih =>
    rw [List.mem_cons, not_or] at hnone
    cases x with
    | none => exact absurd rfl hnone.1
    | some ref =>
      rw [List.reduceOption_cons_of_some, List.map_cons, ← ih hnone.2]

theorem pairwise_refs (hj : Tracked base j) (hown : ∀ ref ∈ refs j.form.account, base ≤ ref) :
    (refs j.form.account).Pairwise (· < ·) := by
  have hsorted := hj.sorted
  rwa [List.filter_eq_self.mpr fun ref href => decide_eq_true (hown ref href)] at hsorted

/-- When nothing is lost and nothing else is listed, the list has the wanted rows in their order. -/
theorem refs_eq (hj : Tracked base j) (hwhole : Whole j) (hown : ∀ ref ∈ refs j.form.account, base ≤ ref) :
    wantedRefs j = (refs j.form.account).map some := by
  have hnone : none ∉ wantedRefs j := fun h => by
    obtain ⟨_, _, heq⟩ := hwhole none h
    cases heq
  have hsame : (wantedRefs j).reduceOption = refs j.form.account := by
    refine hj.wantedSorted.eq_of_mem_iff (pairwise_refs hj hown) fun ref => ?_
    rw [List.reduceOption_mem_iff]
    constructor
    · intro href
      obtain ⟨_, hmem, heq⟩ := hwhole _ href
      cases heq
      exact hmem
    · exact fun href => hj.listed ref href (hown ref href)
  rw [wantedRefs_eq hnone, hsame]

theorem whole_of_same (hj : Tracked base j) (h : Same j) : Whole j ∧ ∀ ref ∈ refs j.form.account, base ≤ ref := by
  have hnone := read_of_same hj h
  have hlength : (refs j.form.account).length = (wantedRefs j).reduceOption.length := by
    have heq := congrArg List.length (wantedRefs_eq hnone)
    rw [List.length_map] at heq
    rw [← heq, refs, List.length_map, wantedRefs, List.length_map]
    exact (same_iff_get.mp h).1
  have hlisted : ∀ ref ∈ refs j.form.account, base ≤ ref → ref ∈ (wantedRefs j).reduceOption := fun ref href hbase =>
    List.reduceOption_mem_iff.mpr (hj.listed ref href hbase)
  have hwhole : Whole j := by
    intro x hx
    cases x with
    | none => exact absurd hx hnone
    | some ref =>
      by_contra hgone
      have hnot : ref ∉ refs j.form.account := fun href => hgone ⟨ref, href, rfl⟩
      have hown := hj.lost ⟨ref, hx, hnot⟩
      -- the rows in the list are wanted, and as many
      have hperm := (List.subperm_of_subset ((pairwise_refs hj hown).imp Nat.ne_of_lt)
        fun ref href => hlisted ref href (hown ref href)).perm_of_length_le hlength.ge
      exact hnot (hperm.mem_iff.mpr (List.reduceOption_mem_iff.mpr hx))
  refine ⟨hwhole, ?_⟩
  have hsub : ∀ ref ∈ (wantedRefs j).reduceOption, ref ∈ (refs j.form.account).filter fun ref => base ≤ ref := by
    intro ref href
    rw [List.reduceOption_mem_iff] at href
    obtain ⟨_, hmem, heq⟩ := hwhole _ href
    cases heq
    exact List.mem_filter.mpr ⟨hmem, decide_eq_true (hj.own ref href).1⟩
  have hle := (List.subperm_of_subset (hj.wantedSorted.imp Nat.ne_of_lt) hsub).length_le
  rw [← hlength] at hle
  have hall := List.length_filter_eq_length_iff.mp (Nat.le_antisymm (List.length_filter_le _ _) hle)
  exact fun ref href => of_decide_eq_true (hall ref href)

/-- What Save sends is the wanted list exactly when nothing of it is lost, nothing else is listed, and each row in the list
    has what is wanted under every key. -/
theorem same_iff (hj : Tracked base j) : Same j ↔ Whole j ∧ (∀ ref ∈ refs j.form.account, base ≤ ref) ∧
    ∀ ref ∈ refs j.form.account, ∀ key, Agrees j ref key := by
  have hget : Whole j → (∀ ref ∈ refs j.form.account, base ≤ ref) → j.form.account.rows.length = j.wanted.length ∧
      ∀ i (hr : i < j.form.account.rows.length) (hrow : i < j.wanted.length),
        j.wanted[i].ref = some j.form.account.rows[i].ref := by
    intro hwhole hown
    have heq := refs_eq hj hwhole hown
    rw [wantedRefs, refs, List.map_map] at heq
    have hlength := congrArg List.length heq
    rw [List.length_map, List.length_map] at hlength
    refine ⟨hlength.symm, fun i hr hrow => ?_⟩
    have hi := congrArg (fun xs => xs[i]?) heq
    simpa [hr, hrow] using hi
  constructor
  · intro h
    obtain ⟨hwhole, hown⟩ := whole_of_same hj h
    refine ⟨hwhole, hown, fun ref _ key r hr href row hrow hrowref => ?_⟩
    obtain ⟨hlength, hrefs⟩ := hget hwhole hown
    obtain ⟨i, hi, rfl⟩ := List.getElem_of_mem hr
    obtain ⟨k, hk, rfl⟩ := List.getElem_of_mem hrow
    have hk' : k < j.form.account.rows.length := hlength ▸ hk
    have hsame : j.form.account.rows[i].ref = j.form.account.rows[k].ref :=
      Option.some.inj ((href ▸ hrowref.symm).trans (hrefs k hk' hk))
    rw [List.inj_on_of_nodup_map j.form.account.distinct (List.getElem_mem hi) (List.getElem_mem hk') hsame]
    exact (same_iff_get.mp h).2 k hk' hk key
  · rintro ⟨hwhole, hown, hagrees⟩
    obtain ⟨hlength, hrefs⟩ := hget hwhole hown
    refine same_iff_get.mpr ⟨hlength, fun i hr hrow key => ?_⟩
    exact hagrees _ (List.mem_map_of_mem (List.getElem_mem hr)) key _ (List.getElem_mem hr) rfl _ (List.getElem_mem hrow)
      (hrefs i hr hrow)

/-! ### Opening -/

/-- The rows before the first that cannot be read. -/
def readable (loaded : List Doc) : List Doc := loaded.takeWhile fun d => (AccountModel.fromJson d).isSome

theorem refs_load (a : AccountRows) (loaded : List Doc) :
    refs (a.load loaded) = refs a ++ List.range' a.next (readable loaded).length ∧
      (a.load loaded).next = a.next + (readable loaded).length := by
  induction loaded generalizing a with
  | nil => simp [AccountRows.load, readable]
  | cons d ds ih =>
    rw [AccountRows.load, readable, List.takeWhile_cons, ← readable]
    cases hread : AccountModel.fromJson d with
    | none => simp
    | some m =>
      obtain ⟨hrefs, hnext⟩ := ih (a.add m)
      have hadd : refs (a.add m) = refs a ++ [a.next] := by simp [refs, AccountRows.add]
      rw [hrefs, hnext, hadd]
      simp [AccountRows.add, List.range'_succ]
      omega

theorem refs_wantedFrom (n : Nat) (loaded : List Doc) :
    (wantedFrom n loaded).map WantedRow.ref = (List.range' n (readable loaded).length).map some ++
      List.replicate (loaded.length - (readable loaded).length) none := by
  induction loaded generalizing n with
  | nil => rfl
  | cons d ds ih =>
    rw [wantedFrom, readable, List.takeWhile_cons, ← readable]
    cases hread : (AccountModel.fromJson d).isSome with
    | true => simp [ih, List.range'_succ]
    | false => simp [List.map_const', Function.comp_def, List.replicate_succ]

/-- A wanted row that has been read is the loaded one at its place. -/
theorem json_wantedFrom {n : Nat} {row : WantedRow} (hrow : row ∈ wantedFrom n loaded) (href : row.ref = some ref) :
    ∃ i, ref = n + i ∧ loaded[i]? = some row.json := by
  induction loaded generalizing n with
  | nil => cases hrow
  | cons d ds ih =>
    rw [wantedFrom] at hrow
    split at hrow
    · rcases List.mem_cons.mp hrow with rfl | hrow
      · exact ⟨0, (Option.some.inj href).symm, rfl⟩
      · obtain ⟨i, rfl, hi⟩ := ih hrow
        exact ⟨i + 1, by omega, hi⟩
    · obtain ⟨d', _, rfl⟩ := List.mem_map.mp hrow
      cases href

theorem unread_wantedFrom {n : Nat} (h : none ∈ (wantedFrom n loaded).map WantedRow.ref) :
    ∃ row ∈ wantedFrom n loaded, row.ref = none ∧ AccountModel.fromJson row.json = none := by
  induction loaded generalizing n with
  | nil => cases h
  | cons d ds ih =>
    rw [wantedFrom] at h ⊢
    cases hread : AccountModel.fromJson d with
    | none => exact ⟨⟨none, d⟩, by simp, rfl, hread⟩
    | some m =>
      rw [hread, Option.isSome_some, if_pos rfl, List.map_cons, List.mem_cons] at h
      obtain ⟨row, hrow, hunread⟩ := ih (h.resolve_left nofun)
      exact ⟨row, by simp [hrow], hunread⟩

theorem model_load {a : AccountRows} {r : AccountRow} (hr : r ∈ (a.load loaded).rows) :
    r ∈ a.rows ∨ ∃ i d, r.ref = a.next + i ∧ loaded[i]? = some d ∧ AccountModel.fromJson d = some r.model := by
  induction loaded generalizing a with
  | nil => exact Or.inl hr
  | cons d ds ih =>
    rw [AccountRows.load] at hr
    cases hread : AccountModel.fromJson d with
    | none =>
      rw [hread] at hr
      exact Or.inl hr
    | some m =>
      rw [hread] at hr
      rcases ih hr with hr | ⟨i, d', href, hd', hmodel⟩
      · rcases List.mem_append.mp hr with hr | hr
        · exact Or.inl hr
        · rw [List.mem_singleton.mp hr]
          exact Or.inr ⟨0, d, rfl, rfl, hread⟩
      · refine Or.inr ⟨i + 1, d', ?_, hd', hmodel⟩
        have hnext : (a.add m).next = a.next + 1 := rfl
        rw [href, hnext]
        omega

/-- What a form opens with: the list left over, and the loaded rows that are read. -/
theorem refs_openForm (mode : FormMode) (loaded : List Doc) (left : AccountRows) :
    ∃ k, refs (openForm mode loaded left).form.account = refs left ++ List.range' left.next k ∧
      (openForm mode loaded left).form.account.next = left.next + k ∧
      (∃ n, wantedRefs (openForm mode loaded left) = (List.range' left.next k).map some ++ List.replicate n none) := by
  cases hl : mode.loadsPage with
  | false =>
    refine ⟨0, ?_, ?_, 0, ?_⟩ <;> simp [openForm, JournalEntryForm.init, wantedRefs, hl]
  | true =>
    obtain ⟨hrefs, hnext⟩ := refs_load left loaded
    refine ⟨(readable loaded).length, ?_, ?_, loaded.length - (readable loaded).length, ?_⟩
    · simpa [openForm, JournalEntryForm.init, hl] using hrefs
    · simpa [openForm, JournalEntryForm.init, hl] using hnext
    · simpa [openForm, wantedRefs, hl] using refs_wantedFrom left.next loaded

theorem tracked_openForm (mode : FormMode) (loaded : List Doc) (left : AccountRows) :
    Tracked left.next (openForm mode loaded left) := by
  obtain ⟨k, hrefs, hnext, n, hwanted⟩ := refs_openForm mode loaded left
  have hsome : ∀ ref, some ref ∈ wantedRefs (openForm mode loaded left) ↔ ref ∈ List.range' left.next k := by
    intro ref
    simp [hwanted, List.mem_replicate]
  refine ⟨Nat.zero_le _, hnext ▸ Nat.le_add_right _ _, ?_, ?_, ?_, ?_, ?_, ?_, ?_⟩
  · intro ref href hbase
    rw [hsome]
    rw [hrefs] at href
    exact (List.mem_append.mp href).resolve_left fun hleft => absurd (lt_next hleft) (Nat.not_lt.mpr hbase)
  · intro ref href
    rw [hsome, List.mem_range'_1] at href
    rw [hnext]
    exact href
  · rw [hrefs, List.filter_append, List.filter_eq_nil_iff.mpr fun ref href => by simpa using lt_next href, List.nil_append]
    exact List.Pairwise.filter _ List.pairwise_lt_range'
  · rw [hwanted, List.reduceOption_append, List.reduceOption_replicate_none, List.append_nil]
    simpa [List.reduceOption, List.filterMap_map] using List.pairwise_lt_range'
  · intro hnone
    cases hl : mode.loadsPage with
    | false => simp [openForm, wantedRefs, hl] at hnone
    | true =>
      have hopen : (openForm mode loaded left).wanted = wantedFrom left.next loaded := by simp [openForm, hl]
      rw [wantedRefs, hopen] at hnone
      rw [hopen]
      exact unread_wantedFrom hnone
  · rintro ⟨ref, href, hgone⟩
    rw [hrefs] at hgone
    exact absurd (List.mem_append_right _ ((hsome ref).mp href)) hgone
  · intro hl _ ref href
    have haccount : (openForm mode loaded left).form.account = left := by
      have hmode : (openForm mode loaded left).form.mode = mode := rfl
      rw [hmode] at hl
      simp [openForm, JournalEntryForm.init, hl]
    rw [haccount] at href
    exact lt_next href

theorem whole_openForm (mode : FormMode) (loaded : List Doc) (left : AccountRows) :
    Whole (openForm mode loaded left) ↔ (mode.loadsPage = true → ∀ d ∈ loaded, (AccountModel.fromJson d).isSome) := by
  cases hl : mode.loadsPage with
  | false => simp [Whole, openForm, wantedRefs, hl]
  | true =>
    obtain ⟨hrefs, _⟩ := refs_load left loaded
    have haccount : (openForm mode loaded left).form.account = left.load loaded := by simp [openForm, JournalEntryForm.init, hl]
    have hwanted : wantedRefs (openForm mode loaded left) = (wantedFrom left.next loaded).map WantedRow.ref := by
      simp [openForm, wantedRefs, hl]
    rw [Whole, hwanted, haccount, hrefs, refs_wantedFrom, ← List.takeWhile_eq_self_iff, ← readable]
    constructor
    · intro hwhole _
      by_contra hne
      have hlt : (readable loaded).length < loaded.length :=
        Nat.lt_of_le_of_ne (List.takeWhile_prefix _).length_le fun heq => hne ((List.takeWhile_prefix _).eq_of_length heq)
      obtain ⟨_, _, hnone⟩ := hwhole none (List.mem_append_right _ (List.mem_replicate.mpr ⟨by omega, rfl⟩))
      cases hnone
    · intro heq x hx
      rw [heq rfl, Nat.sub_self, List.replicate_zero, List.append_nil] at hx
      obtain ⟨ref, href, rfl⟩ := List.mem_map.mp hx
      exact ⟨ref, List.mem_append_right _ (by rwa [heq rfl]), rfl⟩

/-- A loaded row in the list is what is wanted, under a key, exactly when it is held under the key. -/
theorem agrees_openForm {mode : FormMode} {left : AccountRows} {i : Nat} (hl : mode.loadsPage = true) (hd : loaded[i]? = some d)
    (href : left.next + i ∈ refs (openForm mode loaded left).form.account) :
    Agrees (openForm mode loaded left) (left.next + i) key ↔ Holds d key := by
  have haccount : (openForm mode loaded left).form.account = left.load loaded := by simp [openForm, JournalEntryForm.init, hl]
  have hwanted : (openForm mode loaded left).wanted = wantedFrom left.next loaded := by simp [openForm, hl]
  have hmodel : ∀ r ∈ (left.load loaded).rows, r.ref = left.next + i → AccountModel.fromJson d = some r.model := by
    intro r hr hrref
    rcases model_load hr with hold | ⟨k, d', hk, hd', hread⟩
    · exact absurd (hrref ▸ left.fresh r hold) (by omega)
    · obtain rfl : i = k := by omega
      cases hd.symm.trans hd'
      exact hread
  have hjson : ∀ row ∈ wantedFrom left.next loaded, row.ref = some (left.next + i) → row.json = d := by
    intro row hrow hrowref
    obtain ⟨k, hk, hd'⟩ := json_wantedFrom hrow hrowref
    obtain rfl : i = k := by omega
    exact Option.some.inj (hd'.symm.trans hd)
  have hlisted := (tracked_openForm mode loaded left).listed _ href (Nat.le_add_right _ _)
  obtain ⟨row, hrow, hrowref⟩ := List.mem_map.mp hlisted
  obtain ⟨r, hr, hrref⟩ := List.mem_map.mp href
  rw [Agrees, haccount, hwanted]
  rw [haccount] at hr
  rw [hwanted] at hrow
  constructor
  · intro h
    have hsame := h r hr hrref row hrow hrowref
    rw [hjson row hrow hrowref] at hsame
    exact (at_toJson_iff (hmodel r hr hrref)).mp hsame
  · intro hholds r' hr' hrref' row' hrow' hrowref'
    rw [hjson row' hrow' hrowref']
    exact (at_toJson_iff (hmodel r' hr' hrref')).mpr hholds

/-- A row in the list that is no loaded one has what is wanted of it. -/
theorem agrees_of_not_loaded {mode : FormMode} {left : AccountRows}
    (h : ¬ (mode.loadsPage = true ∧ ∃ i d, loaded[i]? = some d ∧ ref = left.next + i)) :
    Agrees (openForm mode loaded left) ref key := by
  intro r hr hrref row hrow hrowref
  cases hl : mode.loadsPage with
  | false =>
    have hwanted : (openForm mode loaded left).wanted = [] := by simp [openForm, hl]
    rw [hwanted] at hrow
    cases hrow
  | true =>
    have hwanted : (openForm mode loaded left).wanted = wantedFrom left.next loaded := by simp [openForm, hl]
    rw [hwanted] at hrow
    obtain ⟨i, hi, hd⟩ := json_wantedFrom hrow hrowref
    exact absurd ⟨hl, i, _, hd, hi⟩ h

/-- A loaded row that is not removed is held under every key that the user does not write. -/
def RowKept (next : Nat) (es : List JournalEvent) (i : Nat) (d : Doc) : Prop :=
  .remove (next + i) ∈ es ∨ ∀ key, (∃ e ∈ es, Writes (next + i) key e) ∨ Holds d key

theorem emptied_of_clearAll (hrun : Runs.run journalStep j es = some j') (h : .clearAll ∈ es) : Emptied j es := by
  induction es generalizing j with
  | nil => cases h
  | cons e es ih =>
    obtain ⟨i, hi, hrun⟩ := Option.bind_eq_some_iff.mp hrun
    rcases List.mem_cons.mp h with rfl | h
    · exact Or.inl trivial
    · exact Or.inr ⟨i, hi, ih hrun h⟩

variable {mode : FormMode} {left : AccountRows}

/-- A row of an earlier form is gone exactly when it has been removed or the list emptied. -/
theorem own_run_iff (hrun : Runs.run journalStep (openForm mode loaded left) es = some j) :
    (∀ ref ∈ refs j.form.account, left.next ≤ ref) ↔
      ∀ r ∈ left.rows, .remove r.ref ∈ es ∨ Emptied (openForm mode loaded left) es := by
  have hopen := tracked_openForm mode loaded left
  obtain ⟨k, hrefs, hnext, _⟩ := refs_openForm mode loaded left
  constructor
  · intro hown r hr
    by_contra hkept
    rw [not_or] at hkept
    have hlt := left.fresh r hr
    have hmem : r.ref ∈ refs (openForm mode loaded left).form.account := by
      rw [hrefs]
      exact List.mem_append_left _ (List.mem_map_of_mem hr)
    have hstays := (mem_refs_run hopen hrun (hlt.trans_le (hnext ▸ Nat.le_add_right _ _))).mpr ⟨hmem, hkept⟩
    exact absurd (hown _ hstays) (Nat.not_le.mpr hlt)
  · intro hgone ref href
    by_contra hlt
    have hlt := Nat.lt_of_not_le hlt
    obtain ⟨hmem, hremove, hempty⟩ :=
      (mem_refs_run hopen hrun (hlt.trans_le (hnext ▸ Nat.le_add_right _ _))).mp href
    rw [hrefs] at hmem
    rcases List.mem_append.mp hmem with hmem | hmem
    · obtain ⟨r, hr, rfl⟩ := List.mem_map.mp hmem
      exact (hgone r hr).elim hremove hempty
    · exact absurd (List.mem_range'_1.mp hmem).1 (Nat.not_le.mpr hlt)

/-- Where nothing is lost, the rows in the list are what is wanted exactly when the loaded ones are kept. -/
theorem agrees_run_iff (hrun : Runs.run journalStep (openForm mode loaded left) es = some j) (hwhole : Whole j)
    (hread : .clearAll ∉ es → mode.loadsPage = true → ∀ d ∈ loaded, (AccountModel.fromJson d).isSome) :
    (∀ ref ∈ refs j.form.account, ∀ key, Agrees j ref key) ↔
      (mode.loadsPage = true → .clearAll ∈ es ∨ ∀ i d, loaded[i]? = some d → RowKept left.next es i d) := by
  have hopen := tracked_openForm mode loaded left
  constructor
  · intro hagrees hl
    by_cases hclear : .clearAll ∈ es
    · exact Or.inl hclear
    · refine Or.inr fun i d hd => ?_
      by_cases hremove : .remove (left.next + i) ∈ es
      · exact Or.inl hremove
      · have hwanted : some (left.next + i) ∈ wantedRefs (openForm mode loaded left) := by
          have hall : readable loaded = loaded := List.takeWhile_eq_self_iff.mpr (hread hclear hl)
          have hi : i < loaded.length := (List.getElem?_eq_some_iff.mp hd).1
          have hrefs : wantedRefs (openForm mode loaded left) = (wantedFrom left.next loaded).map WantedRow.ref := by
            simp [openForm, wantedRefs, hl]
          rw [hrefs, refs_wantedFrom, hall]
          exact List.mem_append_left _ (List.mem_map_of_mem (List.mem_range'_1.mpr (by omega)))
        obtain ⟨_, hmem, heq⟩ := hwhole _ (mem_wantedRefs_run hrun hwanted hremove hclear)
        cases heq
        have hmemOpen := ((mem_refs_run hopen hrun (hopen.own _ hwanted).2).mp hmem).1
        refine Or.inr fun key => ?_
        rcases (agrees_run hopen hrun hmem).mp (hagrees _ hmem key) with hagree | hwritten
        · exact Or.inr ((agrees_openForm hl hd hmemOpen).mp hagree)
        · exact Or.inl hwritten
  · intro hkept ref hmem key
    rw [agrees_run hopen hrun hmem]
    by_cases hloaded : mode.loadsPage = true ∧ ∃ i d, loaded[i]? = some d ∧ ref = left.next + i
    · obtain ⟨hl, i, d, hd, rfl⟩ := hloaded
      by_cases hold : left.next + i ∈ refs (openForm mode loaded left).form.account
      · obtain ⟨_, hremove, hempty⟩ := (mem_refs_run hopen hrun (lt_next hold)).mp hmem
        have hkept := (hkept hl).resolve_left fun hclear => hempty (emptied_of_clearAll hrun hclear)
        rcases (hkept i d hd).resolve_left hremove key with hwritten | hholds
        · exact Or.inr hwritten
        · exact Or.inl ((agrees_openForm hl hd hold).mpr hholds)
      · exact Or.inl (agrees_of_not_mem hold)
    · exact Or.inl (agrees_of_not_loaded hloaded)

/-- Whatever the user does in a form before Save, `data['accounts']` is the loaded list with the user's changes exactly when:
    every loaded row is read, and held under every key unless the user removes the row or writes the key, or Clear All is
    pressed; each time the list page is taken down with rows of the document in it, Clear All is pressed later on; and each row
    of an earlier form is removed, or some press empties the list. -/
theorem accounts_submitted_iff (mode : FormMode) (loaded : List Doc) (left : AccountRows) (es : List JournalEvent)
    (j : Journal) (hrun : Runs.run journalStep (openForm mode loaded left) (es ++ [.save]) = some j) :
    Submits j ↔
      (mode.loadsPage = true → .clearAll ∈ es ∨
        ∀ i d, loaded[i]? = some d → (AccountModel.fromJson d).isSome ∧ RowKept left.next es i d) ∧
      KeepsRows left.next (openForm mode loaded left) es ∧
      ∀ r ∈ left.rows, .remove r.ref ∈ es ∨ Emptied (openForm mode loaded left) es := by
  rw [Runs.run_append] at hrun
  obtain ⟨i, hi, hsave⟩ := Option.bind_eq_some_iff.mp hrun
  obtain ⟨j', hj', hnil⟩ := Option.bind_eq_some_iff.mp hsave
  cases hnil
  obtain ⟨f, hf, rfl⟩ := Option.map_eq_some_iff.mp hj'
  obtain ⟨-, rfl⟩ := by simpa [JournalEntryForm.step] using hf
  have hopen := tracked_openForm mode loaded left
  have hsubmits : Submits ⟨{ i.form with accounts := some (i.form.account.rows.map fun r => r.model.toJson) },
      wantedStep i.form i.wanted .save⟩ ↔ Same i := by simp [Submits, Same, wantedStep]
  rw [hsubmits, same_iff (tracked_run hopen hi), own_run_iff hi]
  have hwhole := whole_run hopen hi
  rw [whole_openForm] at hwhole
  constructor
  · rintro ⟨hw, hgone, hagrees⟩
    obtain ⟨hread, hkeeps⟩ := hwhole.mp hw
    have hkept := (agrees_run_iff hi hw fun hclear => hread.resolve_right hclear).mp hagrees
    refine ⟨fun hl => ?_, hkeeps, hgone⟩
    by_cases hclear : .clearAll ∈ es
    · exact Or.inl hclear
    · exact Or.inr fun k d hd => ⟨hread.resolve_right hclear hl d (List.mem_of_getElem? hd), (hkept hl).resolve_left hclear k d hd⟩
  · rintro ⟨hcond, hkeeps, hgone⟩
    have hread : .clearAll ∉ es → mode.loadsPage = true → ∀ d ∈ loaded, (AccountModel.fromJson d).isSome := by
      intro hclear hl d hd
      obtain ⟨k, hk⟩ := List.mem_iff_getElem?.mp hd
      exact ((hcond hl).resolve_left hclear k d hk).1
    have hw := hwhole.mpr ⟨or_iff_not_imp_right.mpr hread, hkeeps⟩
    refine ⟨hw, hgone, (agrees_run_iff hi hw hread).mpr fun hl => ?_⟩
    exact (hcond hl).imp_right fun hall k d hd => (hall k d hd).2

/-- A row as `AccountModel` holds it. -/
def cash : AccountModel := { AccountModel.blank with account := "Cash", balance := "10" }

/-- A user who looks at the second page of a loaded entry and goes back to the first submits no accounts. -/
theorem accounts_lost_on_back :
    ∃ j, Runs.run journalStep (openForm .edit [cash.toJson] {}) [.next, .back, .next, .next, .save] = some j ∧ ¬ Submits j := by
  refine ⟨_, rfl, ?_⟩
  rintro ⟨accounts, haccounts, hsame⟩
  cases haccounts
  cases hsame

/-- A row added in a new entry stays when the user goes back one page only. -/
theorem accounts_kept_one_page :
    ∃ j, Runs.run journalStep (openForm .new [] {}) [.next, .next, .add, .back, .next, .save] = some j ∧ Submits j := by
  have hruns : (Runs.run journalStep (openForm .new [] {}) [.next, .next, .add, .back, .next, .save]).isSome := by
    decide
  obtain ⟨j, hj⟩ := Option.isSome_iff_exists.mp hruns
  refine ⟨j, hj, (accounts_submitted_iff .new [] {} [.next, .next, .add, .back, .next] j hj).mpr ⟨?_, ?_, ?_⟩⟩
  · exact fun h => by cases h
  · decide
  · exact fun r hr => by cases hr

end NextApp.JournalEntry
