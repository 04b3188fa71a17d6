import Mathlib.Data.List.Nodup
import NextApp.Model.AccountPicker

/-! # Account rows and late lookups

The handler of the account field writes four fields of a row in stages. A row stays consistent when its party goes with its
party type at every write, when the two account types that the handler reads agree, and when no row above it goes while a
lookup is out. -/

namespace NextApp.AccountPickers
open Runs

/-- The party type goes with the account type. -/
def TypesFit (m : AccountModel) : Prop :=
  m.partyType = "" ∨ m.partyType = "Customer" ∧ m.accountType = "Receivable" ∨
    (m.partyType = "Supplier" ∨ m.partyType = "Employee") ∧ m.accountType = "Payable"

/-- A party has been picked for the party type. -/
def PartyFits (r : JournalRow) : Prop := r.model.party = "" ∨ r.partyFor = r.model.partyType

structure Consistent (r : JournalRow) : Prop where
  types : TypesFit r.model
  party : PartyFits r

/-- The rows after a write into one of them. -/
def writtenRows (s : AccountSession) (ref : Nat) (f : AccountModel → AccountModel) : List JournalRow :=
  s.rows.map fun r => r.write ref f

/-- The rows are consistent, a lookup that comes back writes into the row that was pressed and no other, and a cancelled
    picker leaves its row as it was before the press, with what lookups that have come back meanwhile have written. -/
def KeepsRows (s : AccountSession) (e : AccountEvent) (t : AccountSession) : Prop :=
  (∀ r ∈ t.rows, Consistent r) ∧
    match e with
    | .returnAccount none => ∀ index row m, s.picker = some (.account index row m) → ∀ r ∈ t.rows, r.ref = row → r.model = m
    | .returnParty none => t.rows = s.rows
    | .balance k balance => ∀ l ∈ s.lookups[k]?, t.rows = writtenRows s l.row fun m => { m with balance := balance }
    | .accountType k fetched => ∀ l ∈ s.lookups[k]?, t.rows =
      match fetched with
      | none => s.rows
      | some accountType => writtenRows s l.row fun m =>
        { m with partyType := partyTypeOf accountType, accountType := l.accountType.getD accountType }
    | _ => True

/-- A party type that a row takes on is the one that its party has been picked for. -/
def Takes (r : JournalRow) (partyType : String) : Prop := r.model.party = "" ∨ r.partyFor = partyType

/-- What a press takes from a row. -/
def untyped (m : AccountModel) : AccountModel := { m with accountType := "", partyType := "" }

/-- The row at the index of a lookup is the one that was pressed. -/
def InPlace (s : AccountSession) (l : Lookup) : Prop := ∀ r ∈ s.rows[l.index]?, r.ref = l.row

/-- A row that has been pressed and is still there is at its index. -/
def Reached (s : AccountSession) (l : Lookup) : Prop := s.rows[l.index]? = none → ∀ r ∈ s.rows, r.ref ≠ l.row

def Guard (s : AccountSession) : AccountEvent → Prop
  | .add m => TypesFit m
  | .pressAccount index => ∀ r ∈ s.rows[index]?, Takes r ""
  | .returnAccount none => ∀ index row m, s.picker = some (.account index row m) →
    untyped m = m ∨ ∀ r ∈ s.rows, r.ref = row → untyped r.model ≠ r.model
  | .balance k _ => ∀ l ∈ s.lookups[k]?, InPlace s l
  | .accountType k (some accountType) => ∀ l ∈ s.lookups[k]?, InPlace s l ∧ Reached s l ∧
    (∀ listed ∈ l.accountType, partyTypeOf accountType = "" ∨ listed = accountType) ∧
    ∀ r ∈ s.rows, r.ref = l.row → Takes r (partyTypeOf accountType)
  | .returnParty (some (some name)) => ∀ index partyType, s.picker = some (.party index partyType) →
    ∀ r ∈ s.rows[index]?, name = "" ∨ r.model.partyType = partyType
  | .partyType index value => ∀ r ∈ s.rows[index]?, Takes r value
  | _ => True

variable {s t : AccountSession} {e : AccountEvent} {r : JournalRow} {l : Lookup} {m : AccountModel} {ref index row : Nat}
  {f g : AccountModel → AccountModel}

/-! ### Writes -/

@[simp] theorem ref_write : (r.write ref f).ref = r.ref := by
  rw [JournalRow.write]
  split <;> rfl

theorem write_of_ne (h : r.ref ≠ ref) : r.write ref f = r := if_neg h

theorem write_of_eq (h : r.ref = ref) : r.write ref f = { r with model := f r.model } := if_pos h

theorem rows_write (s : AccountSession) (ref : Nat) (f : AccountModel → AccountModel) :
    (s.write ref f).rows = writtenRows s ref f := rfl

theorem refs_write (s : AccountSession) (ref : Nat) (f : AccountModel → AccountModel) :
    (writtenRows s ref f).map JournalRow.ref = s.rows.map JournalRow.ref := by
  rw [writtenRows, List.map_map]
  exact List.map_congr_left fun r _ => ref_write

theorem getElem?_writtenRows (s : AccountSession) (ref : Nat) (f : AccountModel → AccountModel) (index : Nat) :
    (writtenRows s ref f)[index]? = s.rows[index]?.map fun r => r.write ref f := List.getElem?_map

theorem writtenRows_of_gone (h : ∀ r ∈ s.rows, r.ref ≠ ref) : writtenRows s ref f = s.rows := by
  rw [writtenRows]
  conv_rhs => rw [← List.map_id s.rows]
  exact List.map_congr_left fun r hr => write_of_ne (h r hr)

theorem picker_write_write (p : Picker) : (p.write ref f).write ref g = p.write ref (g ∘ f) := by
  cases p with
  | account index row before =>
    simp only [Picker.write]
    split <;> rfl
  | party index partyType => rfl

theorem write_write (s : AccountSession) (ref : Nat) : (s.write ref f).write ref g = s.write ref (g ∘ f) := by
  have hrow : ∀ r : JournalRow, (r.write ref f).write ref g = r.write ref (g ∘ f) := by
    intro r
    by_cases h : r.ref = ref
    · rw [write_of_eq h, write_of_eq (r := { r with model := f r.model }) h, write_of_eq h]
      rfl
    · rw [write_of_ne h, write_of_ne h, write_of_ne h]
  have hpicker : (s.picker.map fun p => p.write ref f).map (fun p => p.write ref g) = s.picker.map fun p => p.write ref (g ∘ f) := by
    rw [Option.map_map]
    exact congrArg (fun w => s.picker.map w) (funext picker_write_write)
  simp only [AccountSession.write, List.map_map, hpicker, AccountSession.mk.injEq, and_true]
  exact List.map_congr_left fun r _ => hrow r

/-! ### The invariant -/

/-- Rows are distinct and consistent, what a lookup is assigned to is the row that was pressed, and so is the row that an
    account picker comes back to, which has lost its types at the press or has had new ones since. -/
structure Inv (s : AccountSession) : Prop where
  distinct : (s.rows.map JournalRow.ref).Nodup
  fresh : ∀ r ∈ s.rows, r.ref < s.next
  consistent : ∀ r ∈ s.rows, Consistent r
  targets : ∀ l ∈ s.lookups, l.target = l.row
  picked : ∀ index row before, s.picker = some (.account index row before) →
    ∃ r, s.rows[index]? = some r ∧ r.ref = row ∧ (r.model = before ∨ r.model = untyped before)

theorem eq_of_ref (h : Inv s) {r r' : JournalRow} (hr : r ∈ s.rows) (hr' : r' ∈ s.rows) (heq : r.ref = r'.ref) : r = r' :=
  List.inj_on_of_nodup_map h.distinct hr hr' heq

/-- A write that writes both types, or neither. -/
def Regular (f : AccountModel → AccountModel) : Prop := ∀ m, f (untyped m) = f m ∨ f (untyped m) = untyped (f m)

theorem inv_write (h : Inv s) (hregular : s.picker = none ∨ (∀ r ∈ s.rows, r.ref ≠ ref) ∨ Regular f)
    (hf : ∀ r ∈ s.rows, r.ref = ref → Consistent { r with model := f r.model }) : Inv (s.write ref f) where
  distinct := by
    rw [rows_write, refs_write]
    exact h.distinct
  fresh := by
    intro r hr
    obtain ⟨r', hr', rfl⟩ := List.mem_map.mp hr
    rw [ref_write]
    exact h.fresh r' hr'
  consistent := by
    intro r hr
    obtain ⟨r', hr', rfl⟩ := List.mem_map.mp hr
    by_cases href : r'.ref = ref
    · rw [write_of_eq href]
      exact hf r' hr' href
    · rw [write_of_ne href]
      exact h.consistent r' hr'
  targets := h.targets
  picked := by
    intro index row before hpicker
    obtain ⟨p, hp, hwritten⟩ := Option.map_eq_some_iff.mp hpicker
    cases p with
    | party index' partyType => cases hwritten
    | account index' row' before' =>
      cases hwritten
      obtain ⟨r, hr, href, hmodel⟩ := h.picked _ _ _ hp
      refine ⟨r.write ref f, ?_, ref_write.trans href, ?_⟩
      · rw [rows_write, getElem?_writtenRows, hr]
        rfl
      · by_cases hrow : row = ref
        · rw [if_pos hrow, write_of_eq (href.trans hrow)]
          rcases hregular with hclosed | hgone | hregular
          · rw [hclosed] at hp
            cases hp
          · exact absurd (href.trans hrow) (hgone r (List.mem_of_getElem? hr))
          · rcases hmodel with hmodel | hmodel
            · exact Or.inl (congrArg f hmodel)
            · dsimp only
              rw [hmodel]
              exact hregular before'
        · rw [if_neg hrow, write_of_ne fun heq => hrow (href.symm.trans heq)]
          exact hmodel

theorem inv_lookups (h : Inv s) {lookups : List Lookup} (hlookups : ∀ l ∈ lookups, l.target = l.row) :
    Inv { s with lookups := lookups } where
  distinct := h.distinct
  fresh := h.fresh
  consistent := h.consistent
  targets := hlookups
  picked := h.picked

theorem inv_erase (h : Inv s) (k : Nat) : Inv { s with lookups := s.lookups.eraseIdx k } :=
  inv_lookups h fun l hl => h.targets l (List.mem_of_mem_eraseIdx hl)

theorem inv_append (h : Inv s) {new : Lookup} (hnew : new.target = new.row) : Inv { s with lookups := s.lookups ++ [new] } :=
  inv_lookups h fun l hl => by
    rcases List.mem_append.mp hl with hl | hl
    · exact h.targets l hl
    · rw [List.mem_singleton.mp hl]
      exact hnew

theorem inv_closePicker (h : Inv s) : Inv { s with picker := none } where
  distinct := h.distinct
  fresh := h.fresh
  consistent := h.consistent
  targets := h.targets
  picked := nofun

/-- What a write keeps consistent when it leaves the types and the party. -/
theorem consistent_of_eq (h : Consistent r) {m : AccountModel} (htype : m.accountType = r.model.accountType)
    (hpartyType : m.partyType = r.model.partyType) (hparty : m.party = r.model.party) : Consistent { r with model := m } where
  types := by
    rw [TypesFit, htype, hpartyType]
    exact h.types
  party := by
    rw [PartyFits, hpartyType, hparty]
    exact h.party

theorem typesFit_blank (h : m.partyType = "") : TypesFit m := Or.inl h

theorem typesFit_partyTypeOf (h : m.partyType = partyTypeOf m.accountType) : TypesFit m := by
  rw [partyTypeOf] at h
  split at h
  · rename_i hreceivable
    exact Or.inr (Or.inl ⟨h, hreceivable⟩)
  · split at h
    · rename_i hpayable
      exact Or.inr (Or.inr ⟨Or.inl h, hpayable⟩)
    · exact typesFit_blank h

/-- A party type from the drop-down of the account type. -/
theorem typesFit_journalEntryTypePartyType (h : m.partyType ∈ journalEntryTypePartyType m.accountType) : TypesFit m := by
  unfold journalEntryTypePartyType at h
  split at h
  · rename_i hreceivable
    exact Or.inr (Or.inl ⟨List.mem_singleton.mp h, hreceivable⟩)
  · rename_i hpayable
    exact Or.inr (Or.inr ⟨by simpa using h, hpayable⟩)
  · cases h

/-! ### Rows -/

theorem inv_add (h : Inv s) (hpicker : s.picker = none) (hm : TypesFit m) : Inv (s.add m) where
  distinct := by
    have hnew : ∀ r ∈ s.rows, r.ref ≠ s.next := fun r hr => (h.fresh r hr).ne
    simpa [AccountSession.add, List.nodup_append, h.distinct] using hnew
  fresh := by
    intro r hr
    rcases List.mem_append.mp hr with hr | hr
    · exact (h.fresh r hr).trans (Nat.lt_succ_self _)
    · rw [List.mem_singleton.mp hr]
      exact Nat.lt_succ_self _
  consistent := by
    intro r hr
    rcases List.mem_append.mp hr with hr | hr
    · exact h.consistent r hr
    · rw [List.mem_singleton.mp hr]
      exact ⟨hm, Or.inr rfl⟩
  targets := h.targets
  picked := by
    intro index row before hopen
    rw [AccountSession.add, hpicker] at hopen
    cases hopen

theorem inv_sublist (h : Inv s) (hpicker : s.picker = none) {rows : List JournalRow} (hrows : rows.Sublist s.rows) :
    Inv { s with rows := rows } where
  distinct := h.distinct.sublist (hrows.map _)
  fresh r hr := h.fresh r (hrows.subset hr)
  consistent r hr := h.consistent r (hrows.subset hr)
  targets := h.targets
  picked := by
    intro index row before hopen
    rw [hpicker] at hopen
    cases hopen

/-! ### The account field -/

theorem inv_pressAccount (h : Inv s) (hr : s.rows[index]? = some r) (htakes : Takes r "") :
    Inv (s.pressAccount index r) := by
  have hreset : Inv (s.write r.ref fun m => { m with accountType := "", partyType := "" }) := by
    refine inv_write h (Or.inr (Or.inr fun m => Or.inl rfl)) fun r' hr' href => ?_
    obtain rfl := eq_of_ref h hr' (List.mem_of_getElem? hr) href
    exact ⟨typesFit_blank rfl, htakes⟩
  refine ⟨hreset.distinct, hreset.fresh, hreset.consistent, hreset.targets, ?_⟩
  intro index' row before hopen
  cases hopen
  refine ⟨r.write r.ref untyped, ?_, ref_write, ?_⟩
  · exact (getElem?_writtenRows s r.ref _ index).trans (by rw [hr]; rfl)
  · rw [write_of_eq rfl]
    exact Or.inr rfl

theorem inv_returnAccount (h : Inv s) {before : AccountModel} (hpicker : s.picker = some (.account index row before))
    (res : Option AccountChoice) : Inv (s.returnAccount index row res) := by
  obtain ⟨r, hr, href, _⟩ := h.picked _ _ _ hpicker
  have hclosed := inv_closePicker h
  unfold AccountSession.returnAccount
  dsimp only
  rw [hr]
  match res with
  | none => exact hclosed
  | some ⟨none, accountType⟩ => exact hclosed
  | some ⟨some name, accountType⟩ =>
    refine inv_append (inv_write hclosed (Or.inl rfl) fun r' hr' _ => ?_) href
    exact consistent_of_eq (h.consistent r' hr') rfl rfl rfl

theorem rows_cancel (h : Inv s) {before : AccountModel} (hpicker : s.picker = some (.account index row before)) :
    (s.returnAccount index row none).rows = s.rows := by
  obtain ⟨r, hr, _⟩ := h.picked _ _ _ hpicker
  unfold AccountSession.returnAccount
  dsimp only
  rw [hr]

theorem model_of_cancel (h : Inv s) (hpicker : s.picker = some (.account index row m))
    (hguard : untyped m = m ∨ ∀ r ∈ s.rows, r.ref = row → untyped r.model ≠ r.model) : ∀ r ∈ s.rows, r.ref = row → r.model = m := by
  intro r hr href
  obtain ⟨r', hr', href', hmodel⟩ := h.picked _ _ _ hpicker
  obtain rfl := eq_of_ref h hr (List.mem_of_getElem? hr') (href.trans href'.symm)
  rcases hmodel with hmodel | hmodel
  · exact hmodel
  · rcases hguard with hblank | htyped
    · exact hmodel.trans hblank
    · exact absurd (by rw [hmodel]; rfl) (htyped r hr href)

/-! ### Lookups -/

theorem inv_endBalance (h : Inv s) (hplace : InPlace s l) (balance : String) :
    Inv (s.endBalance l balance) := by
  have hwritten : Inv (s.write l.target fun m => { m with balance := balance }) :=
    inv_write h (Or.inr (Or.inr fun m => Or.inr rfl)) fun r hr _ => consistent_of_eq (h.consistent r hr) rfl rfl rfl
  rw [AccountSession.endBalance]
  split
  · rename_i r hr
    refine inv_append hwritten ?_
    rw [rows_write, getElem?_writtenRows] at hr
    obtain ⟨r', hr', rfl⟩ := Option.map_eq_some_iff.mp hr
    exact ref_write.trans (hplace r' hr')
  · exact hwritten

theorem rows_endBalance (s : AccountSession) (l : Lookup) (balance : String) :
    (s.endBalance l balance).rows = writtenRows s l.target fun m => { m with balance := balance } := by
  rw [AccountSession.endBalance]
  split <;> rfl

/-- What a lookup of an account type comes to in the row that was pressed. -/
def typed (l : Lookup) (accountType : String) (m : AccountModel) : AccountModel :=
  { m with partyType := partyTypeOf accountType, accountType := l.accountType.getD accountType }

theorem endAccountType_eq (hl : l.target = l.row) (hplace : InPlace s l) (accountType : String) :
    s.endAccountType l (some accountType) =
      if s.rows[l.index]? = none then s.write l.row fun m => { m with accountType := accountType }
      else s.write l.row (typed l accountType) := by
  rw [AccountSession.endAccountType]
  dsimp only
  rw [hl, rows_write, getElem?_writtenRows]
  cases hr : s.rows[l.index]? with
  | none => rfl
  | some r =>
    rw [if_neg nofun, Option.map_some]
    dsimp only
    rw [ref_write, hplace r hr, write_write]
    unfold typed
    cases l.accountType with
    | none => rfl
    | some listed =>
      dsimp only
      rw [write_write]
      rfl

theorem inv_endAccountType (h : Inv s) (hl : l.target = l.row) (hplace : InPlace s l) (hreached : Reached s l)
    {accountType : String} (hlisted : ∀ listed ∈ l.accountType, partyTypeOf accountType = "" ∨ listed = accountType)
    (htakes : ∀ r ∈ s.rows, r.ref = l.row → Takes r (partyTypeOf accountType)) :
    Inv (s.endAccountType l (some accountType)) ∧
      (s.endAccountType l (some accountType)).rows = writtenRows s l.row (typed l accountType) := by
  rw [endAccountType_eq hl hplace]
  split
  · rename_i hnone
    have hgone := hreached hnone
    refine ⟨inv_write h (Or.inr (Or.inl hgone)) fun r hr href => absurd href (hgone r hr), ?_⟩
    rw [rows_write, writtenRows_of_gone hgone, writtenRows_of_gone hgone]
  · refine ⟨inv_write h (Or.inr (Or.inr fun m => Or.inl rfl)) fun r hr href => ⟨?_, htakes r hr href⟩, rfl⟩
    cases haccount : l.accountType with
    | none => exact typesFit_partyTypeOf (by simp [typed, haccount])
    | some listed =>
      rcases hlisted listed haccount with hblank | rfl
      · exact typesFit_blank hblank
      · exact typesFit_partyTypeOf (by simp [typed, haccount])

/-! ### The party -/

theorem inv_pressParty (h : Inv s) (index : Nat) (r : JournalRow) : Inv (s.pressParty index r) := by
  rw [AccountSession.pressParty]
  split
  · exact ⟨h.distinct, h.fresh, h.consistent, h.targets, nofun⟩
  · exact h

theorem inv_returnParty (h : Inv s) (partyType : String) (res : Option (Option String))
    (hguard : ∀ name, res = some (some name) → ∀ r ∈ s.rows[index]?, name = "" ∨ r.model.partyType = partyType) :
    Inv (s.returnParty index partyType res) := by
  have hclosed := inv_closePicker h
  unfold AccountSession.returnParty
  dsimp only
  split
  · rename_i r name hr
    have hfits := hguard name rfl r hr
    have hrefs : ∀ r' : JournalRow, (if r'.ref = r.ref then
        { r' with model := { r'.model with party := name }, partyFor := partyType } else r').ref = r'.ref := fun r' => by
      split <;> rfl
    refine ⟨?_, fun r' hr' => ?_, fun r' hr' => ?_, h.targets, nofun⟩
    · rw [List.map_map]
      exact (List.map_congr_left fun r' _ => hrefs r').symm ▸ h.distinct
    · obtain ⟨r₀, hr₀, rfl⟩ := List.mem_map.mp hr'
      exact (hrefs r₀).symm ▸ h.fresh r₀ hr₀
    · obtain ⟨r₀, hr₀, rfl⟩ := List.mem_map.mp hr'
      split
      · rename_i href
        obtain rfl := eq_of_ref h hr₀ (List.mem_of_getElem? hr) href
        exact ⟨(h.consistent r₀ hr₀).types, hfits.imp_right Eq.symm⟩
      · exact h.consistent r₀ hr₀
  · exact hclosed

theorem rows_returnParty_none (s : AccountSession) (index : Nat) (partyType : String) :
    (s.returnParty index partyType none).rows = s.rows := by
  unfold AccountSession.returnParty
  dsimp only
  split
  · rename_i hnone
    cases hnone
  · rfl

theorem inv_setPartyType (h : Inv s) (hpicker : s.picker = none) (hr : r ∈ s.rows) {value : String}
    (hitems : value ∈ journalEntryTypePartyType r.model.accountType) (htakes : Takes r value) : Inv (s.setPartyType r value) :=
  inv_write h (Or.inl hpicker) fun r' hr' href => by
    obtain rfl := eq_of_ref h hr' hr href
    exact ⟨typesFit_journalEntryTypePartyType hitems, htakes⟩

/-! ### Runs -/

theorem inv_init : Inv {} where
  distinct := List.nodup_nil
  fresh := nofun
  consistent := nofun
  targets := nofun
  picked := nofun

/-- What a step does: the inversion of `step`. -/
def Stepped (s : AccountSession) (e : AccountEvent) (t : AccountSession) : Prop :=
  match e with
  | .add m => s.picker = none ∧ t = s.add m
  | .pressAccount index => ∃ r, s.rows[index]? = some r ∧ t = s.pressAccount index r
  | .returnAccount res => ∃ index row before, s.picker = some (.account index row before) ∧ t = s.returnAccount index row res
  | .balance k balance =>
    ∃ l, s.lookups[k]? = some l ∧ t = { s with lookups := s.lookups.eraseIdx k }.endBalance l balance
  | .accountType k fetched =>
    ∃ l, s.lookups[k]? = some l ∧ t = { s with lookups := s.lookups.eraseIdx k }.endAccountType l fetched
  | .pressParty index => ∃ r, t = s.pressParty index r
  | .returnParty res => ∃ index partyType, s.picker = some (.party index partyType) ∧ t = s.returnParty index partyType res
  | .partyType index value => s.picker = none ∧ ∃ r, s.rows[index]? = some r ∧
    value ∈ journalEntryTypePartyType r.model.accountType ∧ t = s.setPartyType r value
  | .dismiss index => s.picker = none ∧ t = { s with rows := s.rows.eraseIdx index }
  | .clearAll => s.picker = none ∧ t = { s with rows := [] }

theorem stepped_of_step (h : s.step e = some t) : Stepped s e t := by
  rw [AccountSession.step.eq_def] at h
  split at h
  · rename_i hpicker
    cases h
    exact ⟨hpicker, rfl⟩
  · obtain ⟨r, hr, rfl⟩ := Option.map_eq_some_iff.mp h
    exact ⟨r, hr, rfl⟩
  · rename_i hpicker
    cases h
    exact ⟨_, _, _, hpicker, rfl⟩
  · obtain ⟨l, hl, rfl⟩ := Option.map_eq_some_iff.mp h
    exact ⟨l, (Option.filter_eq_some_iff.mp hl).1, rfl⟩
  · obtain ⟨l, hl, rfl⟩ := Option.map_eq_some_iff.mp h
    exact ⟨l, (Option.filter_eq_some_iff.mp hl).1, rfl⟩
  · obtain ⟨r, _, rfl⟩ := Option.map_eq_some_iff.mp h
    exact ⟨r, rfl⟩
  · rename_i hpicker
    cases h
    exact ⟨_, _, hpicker, rfl⟩
  · rename_i hpicker
    obtain ⟨r, hr, rfl⟩ := Option.map_eq_some_iff.mp h
    obtain ⟨hindex, hitems⟩ := Option.filter_eq_some_iff.mp hr
    exact ⟨hpicker, r, hindex, of_decide_eq_true hitems, rfl⟩
  · rename_i hpicker
    obtain ⟨_, h⟩ := Option.ite_none_right_eq_some.mp h
    cases h
    exact ⟨hpicker, rfl⟩
  · rename_i hpicker
    cases h
    exact ⟨hpicker, rfl⟩
  · cases h

theorem inv_step (h : Inv s) (hstep : s.step e = some t) (hguard : Guard s e) : Inv t := by
  have hstepped := stepped_of_step hstep
  cases e with
  | add m =>
    obtain ⟨hpicker, rfl⟩ := hstepped
    exact inv_add h hpicker hguard
  | pressAccount index =>
    obtain ⟨r, hr, rfl⟩ := hstepped
    exact inv_pressAccount h hr (hguard r hr)
  | returnAccount res =>
    obtain ⟨index, row, before, hpicker, rfl⟩ := hstepped
    exact inv_returnAccount h hpicker res
  | balance k balance =>
    obtain ⟨l, hl, rfl⟩ := hstepped
    exact inv_endBalance (inv_erase h k) (hguard l hl) balance
  | accountType k fetched =>
    obtain ⟨l, hl, rfl⟩ := hstepped
    cases fetched with
    | none => exact inv_erase h k
    | some accountType =>
      obtain ⟨hplace, hreached, hlisted, htakes⟩ := hguard l hl
      have htarget := h.targets l (List.mem_of_getElem? hl)
      exact (inv_endAccountType (inv_erase h k) htarget hplace hreached hlisted htakes).1
  | pressParty index =>
    obtain ⟨r, rfl⟩ := hstepped
    exact inv_pressParty h index r
  | returnParty res =>
    obtain ⟨index, partyType, hpicker, rfl⟩ := hstepped
    refine inv_returnParty h partyType res fun name hname => ?_
    subst hname
    exact hguard index partyType hpicker
  | partyType index value =>
    obtain ⟨hpicker, r, hr, hitems, rfl⟩ := hstepped
    exact inv_setPartyType h hpicker (List.mem_of_getElem? hr) hitems (hguard r hr)
  | dismiss index =>
    obtain ⟨hpicker, rfl⟩ := hstepped
    exact inv_sublist h hpicker (List.eraseIdx_sublist _ _)
  | clearAll =>
    obtain ⟨hpicker, rfl⟩ := hstepped
    exact inv_sublist h hpicker (List.nil_sublist _)

theorem keepsRows_step (h : Inv s) (hstep : s.step e = some t) (hguard : Guard s e) : KeepsRows s e t := by
  refine ⟨(inv_step h hstep hguard).consistent, ?_⟩
  have hstepped := stepped_of_step hstep
  cases e with
  | add | pressAccount | pressParty | partyType | dismiss | clearAll => trivial
  | returnAccount res =>
    obtain ⟨index, row, before, hpicker, rfl⟩ := hstepped
    cases res with
    | some res => trivial
    | none =>
      intro index' row' m hopen
      cases hpicker.symm.trans hopen
      rw [rows_cancel h hpicker]
      exact model_of_cancel h hpicker (hguard index row before hpicker)
  | balance k balance =>
    obtain ⟨l, hl, rfl⟩ := hstepped
    intro l' hl'
    cases hl.symm.trans hl'
    rw [rows_endBalance, h.targets l (List.mem_of_getElem? hl)]
    rfl
  | accountType k fetched =>
    obtain ⟨l, hl, rfl⟩ := hstepped
    intro l' hl'
    cases hl.symm.trans hl'
    cases fetched with
    | none => rfl
    | some accountType =>
      obtain ⟨hplace, hreached, hlisted, htakes⟩ := hguard l hl
      have htarget := h.targets l (List.mem_of_getElem? hl)
      exact (inv_endAccountType (inv_erase h k) htarget hplace hreached hlisted htakes).2
  | returnParty res =>
    obtain ⟨index, partyType, _, rfl⟩ := hstepped
    match res with
    | none => exact rows_returnParty_none s index partyType
    | some res => trivial

/-- In every run of pickers, lookups that come back late or fail, drop-downs and dismissals the rows stay consistent, as long as
    a party goes with each party type that its row takes on, the account type that is fetched is the one of the list, no row
    above one that awaits a lookup is dismissed, and a picker is cancelled where the row has had no types to lose, or has
    types again. -/
theorem keepsRows_of_guarded (es : List AccountEvent) (h : Guarded AccountSession.step Guard {} es) :
    Each AccountSession.step KeepsRows {} es :=
  each_of_guarded (I := Inv) (fun _ _ _ => inv_step) (fun _ _ _ => keepsRows_step) inv_init h

def debtors : AccountChoice := ⟨some "Debtors", some "Receivable"⟩

/-- An account and its party are chosen, and a picker is cancelled on a new row. -/
theorem keepsRows_of_debtors :
    Each AccountSession.step KeepsRows {}
      [.add .blank, .pressAccount 0, .returnAccount (some debtors), .balance 0 "0.0", .accountType 0 (some "Receivable"),
        .pressParty 0, .returnParty (some (some "CUST-1")), .add .blank, .pressAccount 1, .returnAccount none] := by
  refine keepsRows_of_guarded _ ?_
  refine (each_cons rfl).mpr ⟨Or.inl rfl, ?_⟩
  refine (each_cons rfl).mpr ⟨?_, ?_⟩
  · intro r hr
    cases hr
    exact Or.inl rfl
  refine (each_cons rfl).mpr ⟨trivial, ?_⟩
  refine (each_cons rfl).mpr ⟨?_, ?_⟩
  · intro l hl r hr
    cases hl
    cases hr
    rfl
  refine (each_cons rfl).mpr ⟨?_, ?_⟩
  · intro l hl
    cases hl
    refine ⟨?_, nofun, ?_, ?_⟩
    · intro r hr
      cases hr
      rfl
    · intro listed hlisted
      cases hlisted
      exact Or.inr rfl
    · intro r hr _
      cases List.mem_singleton.mp hr
      exact Or.inl rfl
  refine (each_cons rfl).mpr ⟨trivial, ?_⟩
  refine (each_cons rfl).mpr ⟨?_, ?_⟩
  · intro index partyType hpicker r hr
    cases hpicker
    cases hr
    exact Or.inr rfl
  refine (each_cons rfl).mpr ⟨Or.inl rfl, ?_⟩
  refine (each_cons rfl).mpr ⟨?_, ?_⟩
  · intro r hr
    cases hr
    exact Or.inl rfl
  refine (each_cons rfl).mpr ⟨?_, trivial⟩
  intro index row m hpicker
  cases hpicker
  exact Or.inl rfl

/-- A picker that is cancelled takes the types of its row. -/
theorem cancelled_picker_takes_types :
    ¬ Each AccountSession.step KeepsRows {}
      [.add .blank, .pressAccount 0, .returnAccount (some debtors), .balance 0 "0.0", .accountType 0 (some "Receivable"),
        .pressAccount 0, .returnAccount none] := by
  intro h
  obtain ⟨-, h⟩ := h _ rfl
  obtain ⟨-, h⟩ := h _ rfl
  obtain ⟨-, h⟩ := h _ rfl
  obtain ⟨-, h⟩ := h _ rfl
  obtain ⟨-, h⟩ := h _ rfl
  obtain ⟨-, h⟩ := h _ rfl
  obtain ⟨⟨-, hcancel⟩, -⟩ := h _ rfl
  have hmodel := hcancel 0 0 _ rfl _ (List.mem_singleton.mpr rfl) rfl
  exact absurd (congrArg AccountModel.partyType hmodel) (by decide)

end NextApp.AccountPickers
