import NextApp.Lib.Runs
import NextApp.Model.PageSession

/-! # The page on show

A response carries no mark of the page it was asked for, and `loadPage` writes whatever arrives. So the
page on show is the one of the current id and module exactly while every answered request arrives with its
page still, or again, the current one. -/

namespace NextApp.PageLoad
open ModuleProvider PageSession

/-- The page data is the server's answer for the id and the module beside it. -/
def Answers (server : PageServer) (f : PageFields) : Prop :=
  f.currentModule.map (fun m => (server.answer m.pageService f.pageId).doc) = some f.pageData

instance (server : PageServer) (f : PageFields) : Decidable (Answers server f) :=
  inferInstanceAs (Decidable (_ = _))

/-- A loaded page is the server's answer for the current id and module. -/
def Coherent (server : PageServer) (s : PageSession) : Prop :=
  s.provider.isLoading = false → s.provider.pageData ≠ [] → Answers server s.provider.pageFields

instance (server : PageServer) (s : PageSession) : Decidable (Coherent server s) :=
  inferInstanceAs (Decidable (_ → _ → _))

/-- An answer arrives while its page is the current one. -/
def ArrivesInPlace (server : PageServer) (s : PageSession) : PageEvent → Prop
  | .arrive i true => ∀ r ∈ s.inFlight[i]?,
      s.provider.currentModule.map (fun m => (server.answer m.pageService s.provider.pageId).doc) =
        some (server.answer r.service r.id).doc
  | _ => True

/-- Saved page fields, if any, with a page that is theirs. -/
def FrameAnswers (server : PageServer) (d : Doc) : Prop :=
  d = [] ∨ ∃ f, readFields? d = some f ∧ (f.pageData ≠ [] → Answers server f)

/-- The page on show and the saved ones are answers for the fields beside them, loading or not. -/
structure Tracked (server : PageServer) (s : PageSession) : Prop where
  page : s.provider.pageData ≠ [] → Answers server s.provider.pageFields
  old : FrameAnswers server s.provider.oldData
  created : FrameAnswers server s.provider.createFromPageData

variable {server : PageServer} {s t : PageSession} {e : PageEvent}

theorem Tracked.coherent (h : Tracked server s) : Coherent server s := fun _ => h.page

theorem tracked_init : Tracked server {} where
  page h := absurd rfl h
  old := Or.inl rfl
  created := Or.inl rfl

theorem Tracked.savedFrame (h : Tracked server s) (d : Doc) :
    FrameAnswers server (saveFields d s.provider) :=
  Or.inr ⟨_, readFields?_saveFields d s.provider, h.page⟩

/-! ### The steps -/

theorem tracked_pushPage {p : ModuleProvider} (hold : FrameAnswers server p.oldData)
    (hcreated : FrameAnswers server p.createFromPageData) (pageId : String) :
    Tracked server (s.send (p.pushPage pageId)) where
  page h := absurd rfl h
  old := hold
  created := hcreated

theorem Tracked.openConnection (h : Tracked server s) (connection pageId : String)
    (hs : s.step server (.openConnection connection pageId) = some t) : Tracked server t := by
  cases hm : s.provider.currentModule with
  | none =>
    simp only [step, pushConnection_of_none hm, Option.some.injEq] at hs
    subst hs
    exact ⟨h.page, h.old, h.created⟩
  | some m =>
    simp only [step, pushConnection_of_module hm, Option.some.injEq] at hs
    subst hs
    have hold : FrameAnswers server
        (if s.provider.isSecondModule then s.provider.oldData else saveFields s.provider.oldData s.provider) := by
      split
      · exact h.old
      · exact h.savedFrame _
    apply tracked_pushPage
    · exact hold
    · exact h.created

theorem Tracked.removeConnection (h : Tracked server s)
    (hs : s.step server .removeConnection = some t) : Tracked server t := by
  simp only [step, Option.some.injEq] at hs
  subst hs
  rcases h.old with hnil | ⟨f, hf, hpage⟩
  · rw [removeConnection_of_nil hnil]
    exact ⟨h.page, h.old, h.created⟩
  · rw [removeConnection_of_read hf]
    exact ⟨hpage, Or.inl rfl, h.created⟩

theorem Tracked.removeCreateFromPage (h : Tracked server s)
    (hs : s.step server .removeCreateFromPage = some t) : Tracked server t := by
  simp only [step, Option.some.injEq] at hs
  subst hs
  rcases h.created with hnil | ⟨f, hf, hpage⟩
  · rw [removeCreateFromPage_of_nil hnil]
    exact ⟨h.page, h.old, h.created⟩
  · rw [removeCreateFromPage_of_read hf]
    exact ⟨hpage, h.old, Or.inl rfl⟩

theorem arrive_answered {i : Nat} {r : PageRequest} (hr : s.inFlight[i]? = some r)
    (hs : s.step server (.arrive i true) = some t) :
    t.provider.isLoading = false ∧ t.provider.pageData = (server.answer r.service r.id).doc ∧
      t.provider.pageId = s.provider.pageId ∧ t.provider.currentModule = s.provider.currentModule ∧
      t.provider.oldData = s.provider.oldData ∧ t.provider.createFromPageData = s.provider.createFromPageData := by
  obtain ⟨docstatus, pdf, -, hend⟩ := endLoadPage_some s.provider (server.answer r.service r.id)
  simp only [step, hr, Option.map_some, if_true, hend, Outcome.state_done, Option.some.injEq] at hs
  subst hs
  exact ⟨rfl, rfl, rfl, rfl, rfl, rfl⟩

theorem Tracked.arrive_failed (h : Tracked server s) {i : Nat}
    (hs : s.step server (.arrive i false) = some t) : Tracked server t := by
  obtain ⟨r, -, rfl⟩ := Option.map_eq_some_iff.mp hs
  exact ⟨h.page, h.old, h.created⟩

theorem Tracked.step (h : Tracked server s) (hs : s.step server e = some t)
    (hg : ArrivesInPlace server s e) : Tracked server t := by
  cases e with
  | openModule doctype pageId => cases hs; exact tracked_pushPage (p := s.provider.setModule doctype) h.old h.created pageId
  | openConnection connection pageId => exact h.openConnection connection pageId hs
  | openCreated pageData doctype pageId => 
    cases hs
    exact tracked_pushPage (p := s.provider.pushCreateFromPage pageData doctype) h.old (h.savedFrame _) pageId
  | pushPage pageId => cases hs; exact tracked_pushPage h.old h.created pageId
  | loadPage => cases hs; exact ⟨h.page, h.old, h.created⟩
  | removeConnection => exact h.removeConnection hs
  | removeCreateFromPage => exact h.removeCreateFromPage hs
  | arrive i answered =>
    cases answered with
    | false => exact h.arrive_failed hs
    | true =>
      obtain ⟨r, hr, -⟩ := Option.map_eq_some_iff.mp hs
      obtain ⟨-, hpage, hid, hmodule, hold, hcreated⟩ := arrive_answered hr hs
      refine ⟨fun _ => ?_, hold ▸ h.old, hcreated ▸ h.created⟩
      simpa [Answers, pageFields, hpage, hid, hmodule] using hg r hr

/-- An answer that leaves a coherent page has arrived in place. -/
theorem arrivesInPlace_of_coherent (hs : s.step server e = some t) (hc : Coherent server t) :
    ArrivesInPlace server s e := by
  cases e with
  | arrive i answered =>
    cases answered with
    | false => trivial
    | true =>
      intro r hr
      obtain ⟨hloading, hpage, hid, hmodule, -, -⟩ := arrive_answered hr hs
      have hanswers := hc hloading (hpage ▸ server.answer_ne_nil r.service r.id)
      simpa [Answers, pageFields, hpage, hid, hmodule] using hanswers
  | _ => trivial

/-- In every interleaving of the calls and the responses the page on show is the server's answer for the
    current id and module, exactly when every answer arrives while its page is the current one. -/
theorem page_coherent_iff (server : PageServer) (es : List PageEvent) :
    Runs.Along (PageSession.step server) (Coherent server) {} es ↔
      Runs.Guarded (PageSession.step server) (ArrivesInPlace server) {} es :=
  Runs.along_iff_guarded (fun _ h => h.coherent) (fun _ _ _ h hs hg => h.step hs hg)
    (fun _ _ _ _ hs hc => arrivesInPlace_of_coherent hs hc) tracked_init

/-! ### A late response -/

def namesOnly : PageServer where
  answer _ id := ⟨[("name", .str id)], rfl, rfl⟩
  name _ _ := rfl

/-- The user leaves a page before it is loaded; its answer arrives after that of the next page. -/
theorem page_incoherent_late_response :
    ¬ Runs.Along (PageSession.step namesOnly) (Coherent namesOnly) {}
      [.openModule "Sales Order" "SO-1", .pushPage "SO-2", .arrive 1 true, .arrive 0 true] := by
  decide

end NextApp.PageLoad
