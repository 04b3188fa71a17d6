import Mathlib.Data.List.TakeWhile
import NextApp.Lib.Runs
import NextApp.Model.ContactForm

/-! # The rows that a contact and an item send

A contact sends the rows of its lists, which lose the rows of a document that is duplicated; an item sends the rows of the
document, whatever is done to its list. -/

namespace NextApp.ChildTables
open Runs

variable {t : RowTable}

/-- The rows of a document with their identities: none for a row that cannot be read. -/
def wantedRows (t : RowTable) (docs : List (Doc × Nat)) : List (Nat × Option t.Model) :=
  docs.map fun d => (d.2, t.fromJson d.1)

/-- The rows that the user wants to be sent, after an addition, an edit, a removal or Clear All. -/
def wantedStep (l : RowList t) (w : List (Nat × Option t.Model)) : TableEvent t → List (Nat × Option t.Model)
  | .add => w ++ [(l.next, t.fromJson l.init)]
  | .edit ref e => w.map fun r => if r.1 = ref then (ref, r.2.map (t.apply e)) else r
  | .remove ref => w.filter fun r => r.1 ≠ ref
  | .clearAll => []

/-- The rows sent are, as their model reads them, those wanted. -/
def Sends (docs : List Doc) (w : List (Nat × Option t.Model)) : Prop :=
  docs.map (fun d => (t.fromJson d).map t.toJson) = w.map fun r => r.2.map t.toJson

/-! ### A list against the rows wanted -/

/-- The wanted rows are those of the list with the lost ones at one place among them. -/
structure Split (l : RowList t) (w lost : List (Nat × Option t.Model)) : Prop where
  rows : ∃ before after, w = before ++ lost ++ after ∧ (l.rows.map fun r => (r.1, some r.2)) = before ++ after
  old : ∀ r ∈ lost, r.1 < l.next
  apart : ∀ r ∈ lost, r.1 ∉ l.rows.map Prod.fst

variable {l l' : RowList t} {w lost : List (Nat × Option t.Model)} {e : TableEvent t} {docs : List (Doc × Nat)}

theorem Split.lost_ne (h : Split l w lost) {ref : Nat} (href : ref ∈ l.rows.map Prod.fst) : ∀ r ∈ lost, r.1 ≠ ref := by
  rintro r hr rfl
  exact h.apart r hr href

theorem Split.step (h : Split l w lost) (hs : l.step e = some l') (he : e ≠ .clearAll) :
    Split l' (wantedStep l w e) lost := by
  obtain ⟨before, after, rfl, hrows⟩ := h.rows
  cases e with
  | add =>
    obtain ⟨m, hm, rfl⟩ := Option.map_eq_some_iff.mp hs
    refine ⟨⟨before, after ++ [(l.next, some m)], ?_, ?_⟩, fun r hr => (h.old r hr).trans (Nat.lt_succ_self _),
      fun r hr hmem => ?_⟩
    · rw [wantedStep, hm, List.append_assoc]
    · rw [List.map_append, hrows, List.append_assoc]
      rfl
    · rw [List.map_append] at hmem
      rcases List.mem_append.mp hmem with hmem | hmem
      · exact h.apart r hr hmem
      · exact (h.old r hr).ne (List.mem_singleton.mp hmem)
  | edit ref e =>
    obtain ⟨href, hs⟩ := Option.ite_none_right_eq_some.mp hs
    cases hs
    let f : Nat × Option t.Model → Nat × Option t.Model := fun r => if r.1 = ref then (ref, r.2.map (t.apply e)) else r
    have hlost : lost.map f = lost :=
      (List.map_congr_left fun r hr => if_neg (h.lost_ne href r hr)).trans (List.map_id' lost)
    refine ⟨⟨before.map f, after.map f, ?_, ?_⟩, h.old, fun r hr hmem => h.apart r hr ?_⟩
    · change (before ++ lost ++ after).map f = _
      rw [List.map_append, List.map_append, hlost]
    · rw [← List.map_append, ← hrows, List.map_map, List.map_map]
      refine List.map_congr_left fun r _ => ?_
      by_cases hr : r.1 = ref <;> simp [f, hr]
    · obtain ⟨_, hr', hfst⟩ := List.mem_map.mp hmem
      obtain ⟨r', hmem', rfl⟩ := List.mem_map.mp hr'
      refine List.mem_map.mpr ⟨r', hmem', ?_⟩
      by_cases href' : r'.1 = ref <;> simpa [href'] using hfst
  | remove ref =>
    obtain ⟨href, hs⟩ := Option.ite_none_right_eq_some.mp hs
    cases hs
    let p : Nat × Option t.Model → Bool := fun r => r.1 ≠ ref
    have hlost : lost.filter p = lost := List.filter_eq_self.mpr fun r hr => decide_eq_true (h.lost_ne href r hr)
    refine ⟨⟨before.filter p, after.filter p, ?_, ?_⟩, h.old, fun r hr hmem => h.apart r hr ?_⟩
    · change (before ++ lost ++ after).filter p = _
      rw [List.filter_append, List.filter_append, hlost]
    · rw [← List.filter_append, ← hrows, List.filter_map]
      rfl
    · obtain ⟨r', hr', hfst⟩ := List.mem_map.mp hmem
      exact List.mem_map.mpr ⟨r', (List.mem_filter.mp hr').1, hfst⟩
  | clearAll => exact absurd rfl he

theorem split_clear (l : RowList t) : Split l.clear [] [] :=
  ⟨⟨[], [], rfl, rfl⟩, fun _ hr => absurd hr List.not_mem_nil, fun _ hr => absurd hr List.not_mem_nil⟩

/-- Clear All leaves nothing lost. -/
theorem Split.advance (h : Split l w lost) (hs : l.step e = some l') :
    ∃ lost', Split l' (wantedStep l w e) lost' ∧ (lost' = [] ↔ lost = [] ∨ e = .clearAll) := by
  by_cases he : e = .clearAll
  · subst he
    obtain ⟨-, hs⟩ := Option.ite_none_right_eq_some.mp hs
    cases hs
    exact ⟨[], split_clear l, iff_of_true rfl (Or.inr rfl)⟩
  · exact ⟨lost, h.step hs he, by simp [he]⟩

/-- The rows of the list are those wanted when none is lost. -/
theorem Split.sends_iff (h : Split l w lost) : Sends (l.rows.map fun r => t.toJson r.2) w ↔ lost = [] := by
  obtain ⟨before, after, rfl, hrows⟩ := h.rows
  have hsent : (l.rows.map fun r => t.toJson r.2).map (fun d => (t.fromJson d).map t.toJson) =
      (before ++ after).map fun r => r.2.map t.toJson := by
    rw [← hrows, List.map_map, List.map_map]
    exact List.map_congr_left fun r _ => t.reads r.2
  rw [Sends, hsent]
  constructor
  · intro heq
    have hlen := congrArg List.length heq
    simp only [List.length_map, List.length_append] at hlen
    exact List.eq_nil_of_length_eq_zero (by omega)
  · rintro rfl
    rw [List.append_nil]

/-! ### The rows loaded -/

/-- The rows of a document that are read: those before the first that throws. -/
def readRows (t : RowTable) (docs : List (Doc × Nat)) : List (Doc × Nat) :=
  docs.takeWhile fun d => (t.fromJson d.1).isSome

def unreadRows (t : RowTable) (docs : List (Doc × Nat)) : List (Doc × Nat) :=
  docs.dropWhile fun d => (t.fromJson d.1).isSome

theorem load_cons (l : RowList t) (d : Doc × Nat) (docs : List (Doc × Nat)) :
    l.load (d :: docs) =
      .need l (t.fromJson d.1) fun m => RowList.load { l with rows := l.rows ++ [(d.2, m)] } docs := by
  rw [RowList.load, List.foldl_cons, Outcome.bind_done]
  cases t.fromJson d.1 with
  | none => exact Outcome.foldl_threw _ l docs
  | some m => rfl

theorem load_eq (l : RowList t) (docs : List (Doc × Nat)) :
    ∃ rows : List (Nat × t.Model), (rows.map fun r => (r.1, some r.2)) = wantedRows t (readRows t docs) ∧
      l.load docs = (if (unreadRows t docs).isEmpty then Outcome.done else .threw) { l with rows := l.rows ++ rows } := by
  induction docs generalizing l with
  | nil => exact ⟨[], rfl, by simp [RowList.load, unreadRows]⟩
  | cons d docs ih =>
    rw [load_cons]
    cases hd : t.fromJson d.1 with
    | none => exact ⟨[], by simp [readRows, wantedRows, hd], by simp [unreadRows, hd]⟩
    | some m =>
      obtain ⟨rows, hrows, hload⟩ := ih { l with rows := l.rows ++ [(d.2, m)] }
      refine ⟨(d.2, m) :: rows, ?_, ?_⟩
      · simpa [readRows, wantedRows, hd] using hrows
      · have hunread : unreadRows t (d :: docs) = unreadRows t docs := by simp [unreadRows, hd]
        rw [Outcome.need_some, hload, hunread, List.append_assoc]
        rfl

/-- A list that holds the first rows of a document has lost the others. -/
theorem split_rows {docs : List Doc} {first rest : List (Doc × Nat)} (hdocs : docs.zipIdx = first ++ rest)
    {rows : List (Nat × t.Model)} (hrows : (rows.map fun r => (r.1, some r.2)) = wantedRows t first) :
    Split ⟨rows, docs.length, t.init⟩ (wantedRows t docs.zipIdx) (wantedRows t rest) := by
  have hfst : ∀ ds : List (Doc × Nat), (wantedRows t ds).map Prod.fst = ds.map Prod.snd := fun ds => List.map_map
  have hnodup : (docs.zipIdx.map Prod.snd).Nodup := by
    rw [List.zipIdx_map_snd]
    exact List.nodup_range'
  refine ⟨⟨wantedRows t first, [], ?_, ?_⟩, fun r hr => ?_, fun r hr hmem => ?_⟩
  · rw [hdocs, wantedRows, List.map_append, List.append_nil]
    rfl
  · rw [hrows, List.append_nil]
  · obtain ⟨d, hd, rfl⟩ := List.mem_map.mp hr
    exact List.snd_lt_of_mem_zipIdx (hdocs ▸ List.mem_append_right _ hd)
  · rw [hdocs, List.map_append] at hnodup
    have hmem' : r.1 ∈ first.map Prod.snd := by
      rw [← hfst, ← hrows, List.map_map]
      exact hmem
    exact (List.nodup_append.mp hnodup).2.2 _ hmem' _ (hfst rest ▸ List.mem_map_of_mem hr) rfl

theorem readRows_append (t : RowTable) (docs : List (Doc × Nat)) : docs = readRows t docs ++ unreadRows t docs :=
  List.takeWhile_append_dropWhile.symm

/-- Every row of a document can be read. -/
def Readable (t : RowTable) (docs : List Doc) : Prop := ∀ d ∈ docs, (t.fromJson d).isSome

theorem unreadRows_eq_nil_iff {docs : List Doc} : unreadRows t docs.zipIdx = [] ↔ Readable t docs := by
  rw [unreadRows, List.dropWhile_eq_nil_iff]
  constructor
  · intro h d hd
    obtain ⟨i, hi, rfl⟩ := List.mem_iff_getElem.mp hd
    exact h (docs[i], i) (List.mk_mem_zipIdx_iff_getElem?.mpr (List.getElem?_eq_getElem hi))
  · intro h d hd
    exact h d.1 (List.fst_mem_of_mem_zipIdx hd)

theorem wantedRows_eq_nil_iff {docs : List (Doc × Nat)} : wantedRows t docs = [] ↔ docs = [] := List.map_eq_nil_iff

/-! ### A contact -/

structure Contact where
  form : ContactForm
  emails : List (Nat × Option emails.Model)
  phones : List (Nat × Option phones.Model)

inductive ContactEvent where
  | email (e : TableEvent emails)
  | phone (e : TableEvent phones)

/-- The rows of the document that a form in this mode starts from. -/
def rowsOf (mode : FormMode) (docs : List Doc) : List Doc := if mode.loadsPage then docs else []

def openContact (mode : FormMode) (emailIds phoneNos : List Doc) : Contact where
  form := .init mode (rowsOf mode emailIds) (rowsOf mode phoneNos)
  emails := wantedRows emails (rowsOf mode emailIds).zipIdx
  phones := wantedRows phones (rowsOf mode phoneNos).zipIdx

def contactStep (c : Contact) : ContactEvent → Option Contact
  | .email e => (c.form.emails.step e).map fun l =>
    { c with form := { c.form with emails := l }, emails := wantedStep c.form.emails c.emails e }
  | .phone e => (c.form.phones.step e).map fun l =>
    { c with form := { c.form with phones := l }, phones := wantedStep c.form.phones c.phones e }

variable {c c' : Contact} {lostEmails : List (Nat × Option emails.Model)} {lostPhones : List (Nat × Option phones.Model)}
  {es : List ContactEvent} {mode : FormMode} {emailIds phoneNos : List Doc}

theorem split_run (hrun : run contactStep c es = some c') (hemails : Split c.form.emails c.emails lostEmails)
    (hphones : Split c.form.phones c.phones lostPhones) :
    (Sends c'.form.emailIds c'.emails ↔ lostEmails = [] ∨ .email .clearAll ∈ es) ∧
      (Sends c'.form.phoneNos c'.phones ↔ lostPhones = [] ∨ .phone .clearAll ∈ es) := by
  induction es generalizing c lostEmails lostPhones with
  | nil =>
    cases hrun
    simpa using ⟨hemails.sends_iff, hphones.sends_iff⟩
  | cons e es ih =>
    obtain ⟨k, hk, hrun⟩ := Option.bind_eq_some_iff.mp hrun
    cases e with
    | email e =>
      obtain ⟨l, hl, rfl⟩ := Option.map_eq_some_iff.mp hk
      obtain ⟨lost, hsplit, hlost⟩ := hemails.advance hl
      have hboth := ih hrun hsplit hphones
      rw [hlost, or_assoc] at hboth
      simpa [eq_comm] using hboth
    | phone e =>
      obtain ⟨l, hl, rfl⟩ := Option.map_eq_some_iff.mp hk
      obtain ⟨lost, hsplit, hlost⟩ := hphones.advance hl
      have hboth := ih hrun hemails hsplit
      rw [hlost, or_assoc] at hboth
      simpa [eq_comm] using hboth

/-- Clear All was pressed, or the document has no rows, or it is edited and its rows can be read. -/
def EmailsKept (mode : FormMode) (emailIds : List Doc) (es : List ContactEvent) : Prop :=
  (mode.loadsPage = true → emailIds = [] ∨ mode = .edit ∧ Readable emails emailIds) ∨ .email .clearAll ∈ es

/-- The phones are read after the e-mails. -/
def PhonesKept (mode : FormMode) (emailIds phoneNos : List Doc) (es : List ContactEvent) : Prop :=
  (mode.loadsPage = true → phoneNos = [] ∨ mode = .edit ∧ Readable emails emailIds ∧ Readable phones phoneNos) ∨
    .phone .clearAll ∈ es

theorem load_state (l : RowList t) (docs : List (Doc × Nat)) :
    ∃ rows : List (Nat × t.Model), (rows.map fun r => (r.1, some r.2)) = wantedRows t (readRows t docs) ∧
      (l.load docs).state = { l with rows := l.rows ++ rows } := by
  obtain ⟨rows, hrows, hload⟩ := load_eq l docs
  refine ⟨rows, hrows, ?_⟩
  rw [hload]
  split_ifs <;> rfl

theorem clear_load (l : RowList t) (docs : List (Doc × Nat)) : (l.load docs).state.clear = l.clear := by
  obtain ⟨rows, -, hload⟩ := load_state l docs
  rw [hload]
  rfl

/-- A list that nothing was loaded into has lost the whole document. -/
theorem split_empty (docs : List Doc) : Split (RowList.empty docs) (wantedRows t docs.zipIdx) (wantedRows t docs.zipIdx) :=
  split_rows (show docs.zipIdx = [] ++ docs.zipIdx from rfl) rfl

theorem split_load (docs : List Doc) :
    Split ((RowList.empty docs).load docs.zipIdx).state (wantedRows t docs.zipIdx)
      (wantedRows t (unreadRows t docs.zipIdx)) := by
  obtain ⟨rows, hrows, hload⟩ := load_state (RowList.empty (t := t) docs) docs.zipIdx
  rw [hload]
  exact split_rows (readRows_append t docs.zipIdx) hrows

/-- A form that edits reads the e-mails and, when none throws, the phones. -/
theorem split_edit (emailIds phoneNos : List Doc) :
    let f : ContactForm := ((⟨.empty emailIds, .empty phoneNos⟩ : ContactForm).load emailIds phoneNos).state
    Split f.emails (wantedRows emails emailIds.zipIdx) (wantedRows emails (unreadRows emails emailIds.zipIdx)) ∧
      Split f.phones (wantedRows phones phoneNos.zipIdx)
        (wantedRows phones (if (unreadRows emails emailIds.zipIdx).isEmpty then unreadRows phones phoneNos.zipIdx
          else phoneNos.zipIdx)) := by
  obtain ⟨rows, hrows, hload⟩ := load_eq (RowList.empty (t := emails) emailIds) emailIds.zipIdx
  have hsplit := split_rows (t := emails) (readRows_append emails emailIds.zipIdx) hrows
  cases hread : (unreadRows emails emailIds.zipIdx).isEmpty with
  | true =>
    have hsplit' := split_load (t := phones) phoneNos
    simp only [ContactForm.load, hload, hread, if_true, Outcome.map, Outcome.bind_done]
    cases hphones : (RowList.empty (t := phones) phoneNos).load phoneNos.zipIdx with
    | done l | threw l =>
      rw [hphones] at hsplit'
      exact ⟨hsplit, hsplit'⟩
  | false =>
    simp only [ContactForm.load, hload, hread]
    exact ⟨hsplit, split_empty phoneNos⟩

theorem clear_contactLoad (f : ContactForm) (emailIds phoneNos : List Doc) :
    (f.load emailIds phoneNos).state.emails.clear = f.emails.clear ∧
      (f.load emailIds phoneNos).state.phones.clear = f.phones.clear := by
  have hemails := clear_load f.emails emailIds.zipIdx
  have hphones := clear_load f.phones phoneNos.zipIdx
  unfold ContactForm.load
  cases he : f.emails.load emailIds.zipIdx with
  | threw l =>
    rw [he] at hemails
    exact ⟨hemails, rfl⟩
  | done l =>
    rw [he] at hemails
    simp only [Outcome.map, Outcome.bind_done]
    cases hp : f.phones.load phoneNos.zipIdx with
    | done k | threw k =>
      rw [hp] at hphones
      exact ⟨hemails, hphones⟩

theorem init_of_ne_edit (hmode : mode ≠ .edit) :
    ContactForm.init mode emailIds phoneNos = ⟨.empty emailIds, .empty phoneNos⟩ := by
  simp only [ContactForm.init, ContactForm.listInitState, if_neg hmode]
  split_ifs
  · rw [(clear_contactLoad _ emailIds phoneNos).1, (clear_contactLoad _ emailIds phoneNos).2]
    rfl
  · rfl

theorem unread_eq_nil_iff {docs : List Doc} : wantedRows t (unreadRows t docs.zipIdx) = [] ↔ Readable t docs :=
  wantedRows_eq_nil_iff.trans unreadRows_eq_nil_iff

theorem zipIdx_rows_eq_nil_iff {docs : List Doc} : wantedRows t docs.zipIdx = [] ↔ docs = [] :=
  wantedRows_eq_nil_iff.trans List.zipIdx_eq_nil_iff

theorem readable_nil : Readable t [] := fun _ hd => absurd hd List.not_mem_nil

theorem split_openContact (mode : FormMode) (emailIds phoneNos : List Doc) :
    ∃ lostEmails lostPhones,
      Split (openContact mode emailIds phoneNos).form.emails (openContact mode emailIds phoneNos).emails lostEmails ∧
        Split (openContact mode emailIds phoneNos).form.phones (openContact mode emailIds phoneNos).phones lostPhones ∧
        (lostEmails = [] ↔ (mode.loadsPage = true → emailIds = [] ∨ mode = .edit ∧ Readable emails emailIds)) ∧
        (lostPhones = [] ↔ (mode.loadsPage = true →
          phoneNos = [] ∨ mode = .edit ∧ Readable emails emailIds ∧ Readable phones phoneNos)) := by
  by_cases hmode : mode = .edit
  · subst hmode
    obtain ⟨hemails, hphones⟩ := split_edit emailIds phoneNos
    refine ⟨_, _, hemails, hphones, ?_, ?_⟩
    · rw [unread_eq_nil_iff]
      constructor
      · exact fun h _ => Or.inr ⟨rfl, h⟩
      · intro h
        rcases h rfl with rfl | ⟨-, h⟩
        · exact readable_nil
        · exact h
    · split_ifs with hread
      · rw [unread_eq_nil_iff]
        have hread' : Readable emails emailIds := unreadRows_eq_nil_iff.mp (List.isEmpty_iff.mp hread)
        constructor
        · exact fun h _ => Or.inr ⟨rfl, hread', h⟩
        · intro h
          rcases h rfl with rfl | ⟨-, -, h⟩
          · exact readable_nil
          · exact h
      · rw [zipIdx_rows_eq_nil_iff]
        have hread' : ¬ Readable emails emailIds := fun h => hread (List.isEmpty_iff.mpr (unreadRows_eq_nil_iff.mpr h))
        simp [FormMode.loadsPage, hread']
  · have hform : ContactForm.init mode (rowsOf mode emailIds) (rowsOf mode phoneNos) = ⟨.empty _, .empty _⟩ :=
      init_of_ne_edit hmode
    refine ⟨wantedRows emails (rowsOf mode emailIds).zipIdx, wantedRows phones (rowsOf mode phoneNos).zipIdx, ?_, ?_, ?_, ?_⟩
    · rw [openContact, hform]
      exact split_empty _
    · rw [openContact, hform]
      exact split_empty _
    · rw [zipIdx_rows_eq_nil_iff, rowsOf]
      simp [hmode]
    · rw [zipIdx_rows_eq_nil_iff, rowsOf]
      simp [hmode]

/-! ### An item -/

structure Item where
  form : ItemForm
  uoms : List (Nat × Option uoms.Model)

def openItem (mode : FormMode) (docs : List Doc) : Item where
  form := .init mode (rowsOf mode docs)
  uoms := wantedRows uoms (rowsOf mode docs).zipIdx

def itemStep (i : Item) (e : TableEvent uoms) : Option Item :=
  (i.form.list.step e).map fun l => ⟨{ i.form with list := l }, wantedStep i.form.list i.uoms e⟩

/-- What the user has done to the rows comes to nothing: an item that is edited has the rows of its document, any other has
    none. -/
def Unchanged (mode : FormMode) (docs : List Doc) (w : List (Nat × Option uoms.Model)) : Prop :=
  if mode = .edit then
    (w.map fun r => r.2.map uoms.toJson) = (wantedRows uoms docs.zipIdx).map fun r => r.2.map uoms.toJson
  else w = []

theorem uoms_run {i j : Item} {es : List (TableEvent uoms)} (hrun : run itemStep i es = some j) :
    j.form.uoms = i.form.uoms :=
  invariant_run (I := fun k => k.form.uoms = i.form.uoms)
    (fun _ _ _ hk hstep => by
      obtain ⟨_, -, rfl⟩ := Option.map_eq_some_iff.mp hstep
      exact hk) rfl hrun

theorem uoms_openItem (mode : FormMode) (docs : List Doc) :
    (openItem mode docs).form.uoms = if mode = .edit then docs else [] := by
  rw [openItem, ItemForm.init, ItemForm.listInitState]
  by_cases hmode : mode = .edit
  · subst hmode
    rfl
  · rw [if_neg hmode, if_neg hmode]
    split_ifs <;> rfl

theorem sends_item_iff {mode : FormMode} {docs : List Doc} {w : List (Nat × Option uoms.Model)} :
    Sends (if mode = .edit then docs else []) w ↔ Unchanged mode docs w := by
  unfold Sends Unchanged
  split_ifs
  · have hdocs : (wantedRows uoms docs.zipIdx).map (fun r => r.2.map uoms.toJson) =
        docs.map fun d => (uoms.fromJson d).map uoms.toJson := by
      rw [wantedRows, List.map_map]
      conv_rhs => rw [← List.zipIdx_map_fst 0 docs, List.map_map]
      rfl
    rw [hdocs]
    exact eq_comm
  · rw [List.map_nil, eq_comm, List.map_eq_nil_iff]

/-- The list page of either form is built whichever of its pages is the current one. -/
theorem listPage_mounted {current : Nat} (h : current < 3) :
    PageView.Mounted current ContactForm.listPage ∧ PageView.Mounted current ItemForm.listPage := by
  simp only [PageView.Mounted, ContactForm.listPage, ItemForm.listPage]
  omega

/-- Whatever the user does to the rows of a contact, its e-mails and phones are sent with these changes exactly when they
    were read from the page that is edited, the page has none, or Clear All was pressed; and the UOMs of an item are sent
    with the user's changes exactly when these come to nothing. -/
theorem rows_submitted_iff (mode : FormMode) :
    (∀ emailIds phoneNos es c, run contactStep (openContact mode emailIds phoneNos) es = some c →
      (Sends c.form.emailIds c.emails ↔ EmailsKept mode emailIds es) ∧
        (Sends c.form.phoneNos c.phones ↔ PhonesKept mode emailIds phoneNos es)) ∧
      ∀ docs es i, run itemStep (openItem mode docs) es = some i →
        (Sends i.form.uoms i.uoms ↔ Unchanged mode docs i.uoms) := by
  refine ⟨fun emailIds phoneNos es c hrun => ?_, fun docs es i hrun => ?_⟩
  · obtain ⟨lostEmails, lostPhones, hemails, hphones, hlostEmails, hlostPhones⟩ := split_openContact mode emailIds phoneNos
    obtain ⟨hsentEmails, hsentPhones⟩ := split_run hrun hemails hphones
    rw [hlostEmails] at hsentEmails
    rw [hlostPhones] at hsentPhones
    exact ⟨hsentEmails, hsentPhones⟩
  · rw [uoms_run hrun, uoms_openItem]
    exact sends_item_iff

instance (docs : List Doc) (w : List (Nat × Option t.Model)) : Decidable (Sends docs w) := inferInstanceAs (Decidable (_ = _))

/-- A UOM that is added to a new item is not sent, and neither is the e-mail of a contact that is duplicated. -/
theorem added_uom_lost :
    (∃ i, run itemStep (openItem .new []) [.add, .edit 0 (.chosen "Box")] = some i ∧ ¬ Sends i.form.uoms i.uoms) ∧
      ∃ c, run contactStep (openContact .duplicate [[("email_id", .str "a@b.org")]] []) [] = some c ∧
        ¬ Sends c.form.emailIds c.emails :=
  ⟨⟨_, rfl, by decide⟩, ⟨_, rfl, by decide⟩⟩

/-- The e-mails of a contact that is edited are sent as the user has changed them. -/
theorem emails_kept_edit :
    ∃ c, run contactStep (openContact .edit [[("email_id", .str "a@b.org")]] []) [.email .add, .email (.remove 0)] = some c ∧
      Sends c.form.emailIds c.emails := by
  have hruns : (run contactStep (openContact .edit [[("email_id", .str "a@b.org")]] [])
      [.email .add, .email (.remove 0)]).isSome := by decide
  obtain ⟨c, hc⟩ := Option.isSome_iff_exists.mp hruns
  refine ⟨c, hc, ((rows_submitted_iff .edit).1 _ _ _ c hc).1.mpr (Or.inl fun _ => Or.inr ⟨rfl, ?_⟩)⟩
  intro d hd
  rw [List.mem_singleton.mp hd]
  rfl

end NextApp.ChildTables
