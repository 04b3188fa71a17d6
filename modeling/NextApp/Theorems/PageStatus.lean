import NextApp.Lib.Runs
import NextApp.Model.PageSession

/-! # The status of the page on show

A loaded page writes its docstatus beside it, and the buttons of the page go by that field. The page fields
saved for a connection and for a create-from form leave it out, so a remove brings back a page under the
status of the page loaded last. -/

namespace NextApp.PageStatus
open ModuleProvider

/-- The calls one after another, each with the reply to its request: none when the request fails. -/
inductive PageCall where
  | setModule (doctype : String)
  | pushPage (pageId : String) (reply : Option ServerPage)
  | loadPage (reply : Option ServerPage)
  | pushConnection (connection : String)
  | removeConnection
  | pushCreateFromPage (pageData : Doc) (doctype : String)
  | removeCreateFromPage

/-- The state after a call whose request, if it sent one, has been answered. -/
def answered (r : ModuleProvider × Option PageRequest) (reply : Option ServerPage) : ModuleProvider :=
  match r.2 with
  | some _ => (r.1.endLoadPage (responseBody reply)).state
  | none => r.1

/-- One call: a connection and a create-from form are opened one deep each, and left when open. -/
def callStep (s : ModuleProvider) : PageCall → Option ModuleProvider
  | .setModule doctype => some (s.setModule doctype)
  | .pushPage pageId reply => some (answered (s.pushPage pageId) reply)
  | .loadPage reply => some (answered s.startLoadPage reply)
  | .pushConnection connection =>
    if s.isSecondModule then none else some (s.pushConnection connection).state
  | .removeConnection => if s.isSecondModule then some s.removeConnection.state else none
  | .pushCreateFromPage pageData doctype =>
    if s.isSecondCreateFromPage then none else some (s.pushCreateFromPage pageData doctype)
  | .removeCreateFromPage => if s.isSecondCreateFromPage then some s.removeCreateFromPage.state else none

def docstatus? (page : Doc) : Option (Option Int) := (Doc.at page "docstatus").asIntOrNull?

/-- The status is that of the page on show, and so are the buttons. -/
structure StatusShown (s : ModuleProvider) : Prop where
  status : s.pageData ≠ [] → docstatus? s.pageData = some s.pageSubmitStatus
  submit : s.pageData ≠ [] → (docstatus? s.pageData).map submitWidget = some s.submitDocumentWidget
  edit : s.pageData ≠ [] → (docstatus? s.pageData = some (some 0) ↔ s.isEditable = true)

/-- The page saved in `d`, if there is one, has the status `status`. -/
def SavedStatus (d : Doc) (status : Option Int) : Prop :=
  ∀ f ∈ readFields? d, f.pageData ≠ [] → docstatus? f.pageData = some status

/-- A page is brought back under its own status. -/
def RemovesInStatus (s : ModuleProvider) : PageCall → Prop
  | .removeConnection => SavedStatus s.oldData s.pageSubmitStatus
  | .removeCreateFromPage => SavedStatus s.createFromPageData s.pageSubmitStatus
  | _ => True

/-- The status is that of the page on show, and what is saved can be read back. -/
structure Tracked (s : ModuleProvider) : Prop where
  status : s.pageData ≠ [] → docstatus? s.pageData = some s.pageSubmitStatus
  old : s.oldData = [] ∨ (readFields? s.oldData).isSome
  created : s.createFromPageData = [] ∨ (readFields? s.createFromPageData).isSome

variable {s t : ModuleProvider} {c : PageCall}

theorem statusShown_of_status (h : s.pageData ≠ [] → docstatus? s.pageData = some s.pageSubmitStatus) :
    StatusShown s where
  status := h
  submit hpage := by rw [h hpage]; rfl
  edit hpage := by simp [h hpage, isEditable]

theorem tracked_init (m : ModuleType) : Tracked { currentModule := some m } where
  status h := absurd rfl h
  old := Or.inl rfl
  created := Or.inl rfl

/-! ### The calls -/

theorem Tracked.answered (h : Tracked s) (req : Option PageRequest) (reply : Option ServerPage) :
    Tracked (answered (s, req) reply) := by
  cases req with
  | none => exact h
  | some r =>
    cases reply with
    | none => exact ⟨h.status, h.old, h.created⟩
    | some page =>
      obtain ⟨docstatus, pdf, hd, hend⟩ := endLoadPage_some s page
      simp only [PageStatus.answered, hend]
      exact ⟨fun _ => hd, h.old, h.created⟩

theorem Tracked.pushPage (h : Tracked s) (pageId : String) : Tracked (s.pushPage pageId).1 where
  status hpage := absurd rfl hpage
  old := h.old
  created := h.created

theorem Tracked.pushConnection (h : Tracked s) (connection : String) :
    Tracked (s.pushConnection connection).state := by
  cases hm : s.currentModule with
  | none =>
    rw [pushConnection_of_none hm]
    exact ⟨h.status, h.old, h.created⟩
  | some m =>
    rw [pushConnection_of_module hm]
    have hold : ∀ d, d = (if s.isSecondModule then s.oldData else saveFields s.oldData s) →
        d = [] ∨ (readFields? d).isSome := by
      rintro d rfl
      split
      · exact h.old
      · exact Or.inr (by simp)
    exact ⟨h.status, hold _ rfl, h.created⟩

theorem Tracked.removeConnection (h : Tracked s) (hopen : s.isSecondModule = true) :
    ∃ f, readFields? s.oldData = some f ∧ s.removeConnection.state =
      { s.withFields f with filterById := none, connection := none, oldData := [] } := by
  rcases h.old with hnil | hread
  · simp [isSecondModule, hnil] at hopen
  · obtain ⟨f, hf⟩ := Option.isSome_iff_exists.mp hread
    exact ⟨f, hf, congrArg Outcome.state (removeConnection_of_read hf)⟩

theorem Tracked.removeCreateFromPage (h : Tracked s) (hopen : s.isSecondCreateFromPage = true) :
    ∃ f, readFields? s.createFromPageData = some f ∧ s.removeCreateFromPage.state =
      { s.withFields f with createFromPageData := [] } := by
  rcases h.created with hnil | hread
  · simp [isSecondCreateFromPage, hnil] at hopen
  · obtain ⟨f, hf⟩ := Option.isSome_iff_exists.mp hread
    exact ⟨f, hf, congrArg Outcome.state (removeCreateFromPage_of_read hf)⟩

theorem Tracked.step (h : Tracked s) (hs : callStep s c = some t) (hg : RemovesInStatus s c) : Tracked t := by
  cases c with
  | setModule doctype => cases hs; exact ⟨h.status, h.old, h.created⟩
  | pushPage pageId reply => cases hs; exact (h.pushPage pageId).answered _ reply
  | loadPage reply =>
    cases hs
    exact Tracked.answered (s := { s with isLoading := true }) ⟨h.status, h.old, h.created⟩ _ reply
  | pushConnection connection =>
    obtain ⟨-, rfl⟩ := by simpa [callStep] using hs
    exact h.pushConnection connection
  | removeConnection =>
    obtain ⟨hopen, rfl⟩ := by simpa [callStep] using hs
    obtain ⟨f, hf, ht⟩ := h.removeConnection hopen
    rw [ht]
    exact ⟨hg f hf, Or.inl rfl, h.created⟩
  | pushCreateFromPage pageData doctype =>
    obtain ⟨-, rfl⟩ := by simpa [callStep] using hs
    exact ⟨h.status, h.old, Or.inr (by simp [ModuleProvider.pushCreateFromPage, setModule])⟩
  | removeCreateFromPage =>
    obtain ⟨hopen, rfl⟩ := by simpa [callStep] using hs
    obtain ⟨f, hf, ht⟩ := h.removeCreateFromPage hopen
    rw [ht]
    exact ⟨hg f hf, h.old, Or.inl rfl⟩

/-- A remove into a state with the right status has brought back a page of that status. -/
theorem Tracked.removesInStatus (h : Tracked s) (hs : callStep s c = some t) (ht : StatusShown t) :
    RemovesInStatus s c := by
  cases c with
  | removeConnection =>
    obtain ⟨hopen, rfl⟩ := by simpa [callStep] using hs
    obtain ⟨f, hf, hstate⟩ := h.removeConnection hopen
    rw [hstate] at ht
    intro f' hf' hpage
    obtain rfl : f = f' := Option.some.inj (hf.symm.trans hf')
    exact ht.status hpage
  | removeCreateFromPage =>
    obtain ⟨hopen, rfl⟩ := by simpa [callStep] using hs
    obtain ⟨f, hf, hstate⟩ := h.removeCreateFromPage hopen
    rw [hstate] at ht
    intro f' hf' hpage
    obtain rfl : f = f' := Option.some.inj (hf.symm.trans hf')
    exact ht.status hpage
  | _ => trivial

/-- Through any calls one after another the status and the buttons are those of the page on show, exactly
    when every remove brings back a page with the status of the page loaded last. -/
theorem pageSubmitStatus_iff (m : ModuleType) (cs : List PageCall) :
    Runs.Along callStep StatusShown { currentModule := some m } cs ↔
      Runs.Guarded callStep RemovesInStatus { currentModule := some m } cs :=
  Runs.along_iff_guarded (fun _ h => statusShown_of_status h.status) (fun _ _ _ h hs hg => h.step hs hg)
    (fun _ _ _ h hs ht => h.removesInStatus hs ht) (tracked_init m)

/-! ### A draft behind a submitted document -/

def draft : ServerPage := ⟨[("name", .str "SO-1"), ("docstatus", .int 0)], rfl, rfl⟩

def submitted : ServerPage := ⟨[("name", .str "SINV-1"), ("docstatus", .int 1)], rfl, rfl⟩

/-- A submitted invoice is looked up through the connections of a draft order: back on the order the
    buttons are those of the invoice. -/
theorem status_stale_after_connection :
    ¬ Runs.Along callStep StatusShown { currentModule := some .salesOrder }
      [.pushPage "SO-1" (some draft), .pushConnection "Sales Invoice", .pushPage "SINV-1" (some submitted),
        .removeConnection] := by
  intro h
  obtain ⟨-, h⟩ := (Runs.along_cons rfl).mp h
  obtain ⟨-, h⟩ := (Runs.along_cons rfl).mp h
  obtain ⟨-, h⟩ := (Runs.along_cons rfl).mp h
  obtain ⟨-, h⟩ := (Runs.along_cons rfl).mp h
  have hstatus := h.status (by decide)
  exact absurd hstatus (by decide)

end NextApp.PageStatus
