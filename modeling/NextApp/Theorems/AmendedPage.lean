import NextApp.Model.AmendedPage
import NextApp.Theorems.Routes

/-! # Back from an amended page

The flag that sends the arrow to the amended page goes up before the amendment is created and goes down with the arrow
alone. While it is up, the pages that leaving the routes uncovers show an amendment as long as no other page is opened,
saved or taken back. -/

namespace NextApp.AmendedPages
open App Navigator Routes

variable {p q : ModuleProvider} {r new : Route} {rs : List Route} {s t : App} {cs cs' : List Amendment} {e : AppEvent}

/-- The provider's document has been created by amending the previous page, in the current module. -/
def Fits (cs : List Amendment) (p : ModuleProvider) : Prop :=
  ∃ a ∈ cs, p.currentModule = some a.module ∧ p.previousPageId = a.previous ∧ p.pageId = a.id

/-- Where the arrow takes its amended branch. -/
def ArrowFits (s : AmendedApp) : NavEvent → AmendedApp → Prop
  | .press (.back _), _ => s.app.onPage = true → s.app.provider.isAmended = true → Fits s.created s.app.provider
  | _, _ => True

/-! ### Conditions -/

/-- The route gives saved page fields back when it is left. -/
def restores (r : Route) : Bool := r.waiting = .removeConnection || r.waiting = .removeCreateFromPage

/-- What a route gives back is an amendment of the previous page. -/
def RestoresFit (cs : List Amendment) (p : ModuleProvider) (r : Route) : Prop :=
  (r.waiting = .removeConnection → ∃ f ∈ ModuleProvider.readFields? p.oldData, Fits cs (p.withFields f)) ∧
    (r.waiting = .removeCreateFromPage → ∃ f ∈ ModuleProvider.readFields? p.createFromPageData, Fits cs (p.withFields f))

/-- The same for the routes that go when the one on top is popped. -/
def LeavesFit (cs : List Amendment) (p : ModuleProvider) : List Route → Prop
  | [] => True
  | r :: rs => RestoresFit cs p r ∧ (r.popsNext = true → LeavesFit cs p rs)

/-- A page is uncovered before saved page fields are given back. -/
def pageNear : List Route → Bool
  | [] => false
  | r :: rs => r.isPage || (!restores r && pageNear rs)

/-- An amending submit that gets to its request creates its document. With the flag up, a submit that saves an edit leaves
    the form for an amendment, and what is saved as a new document is one. -/
def SubmitGuard (s : AmendedApp) (name : Option String) (result : SubmitResult) : Prop :=
  if amending s.app.provider then
    name ≠ none →
      s.app.provider.editPage = false ∧ s.app.routes.head?.any restores = false ∧ ∃ id, result = .succeeds (some id)
  else s.app.provider.isAmended = true →
    match result with
    | .fails =>
      s.app.provider.editPage = true → s.app.provider.currentModule.any popsOnFailedEdit = true →
        LeavesFit s.created s.app.provider s.app.routes
    | .succeeds id =>
      if s.app.provider.editPage then
        LeavesFit s.created s.app.provider s.app.routes ∧
          (s.app.provider.createFromPage = true → s.app.provider.currentModule.any goesOnAfterEdit = true →
            Fits s.created s.app.provider)
      else if s.app.provider.createFromPage ∧ s.app.provider.currentModule.any fillsFromPage then
        Fits s.created { s.app.provider with pageId := id.getD s.app.provider.pageId }
      else
        ∀ i ∈ id, s.app.routes.head?.any restores = false ∧ Fits s.created { s.app.provider with pageId := i }

/-- While the flag is up: no page is opened or saved but an amendment of the previous page, no tile of another module is
    pressed above a page, and no route is left that gives another page back. -/
def Guard (s : AmendedApp) : NavEvent → Prop
  | .systemBack => s.app.provider.isAmended = true → LeavesFit s.created s.app.provider s.app.routes
  | .openNotification doctype id _ =>
    s.app.provider.isAmended = true → Fits s.created { s.app.provider.setModule doctype with pageId := id }
  | .press e =>
    match e with
    | .openModule doctype | .createFromDashboard doctype =>
      s.app.provider.isAmended = true → pageNear s.app.routes = true → Fits s.created (s.app.provider.setModule doctype)
    | .openTransaction doctype id _ =>
      s.app.provider.isAmended = true → Fits s.created { s.app.provider.setModule doctype with pageId := id }
    | .openCard id _ => s.app.provider.isAmended = true → Fits s.created { s.app.provider with pageId := id }
    | .home => s.app.provider.isAmended = true → ∀ r ∈ s.app.routes.head?, RestoresFit s.created s.app.provider r
    | .back _ =>
      s.app.provider.isAmended = true → s.app.onPage = false → LeavesFit s.created s.app.provider s.app.routes
    | .submit name result _ => SubmitGuard s name result
    | _ => True

instance (cs : List Amendment) (p : ModuleProvider) : Decidable (Fits cs p) :=
  inferInstanceAs (Decidable (∃ a ∈ cs, p.currentModule = some a.module ∧ p.previousPageId = a.previous ∧ p.pageId = a.id))

instance (cs : List Amendment) (p : ModuleProvider) (r : Route) : Decidable (RestoresFit cs p r) :=
  inferInstanceAs (Decidable
    ((r.waiting = .removeConnection → ∃ f ∈ ModuleProvider.readFields? p.oldData, Fits cs (p.withFields f)) ∧
      (r.waiting = .removeCreateFromPage → ∃ f ∈ ModuleProvider.readFields? p.createFromPageData, Fits cs (p.withFields f))))

instance decLeavesFit (cs : List Amendment) (p : ModuleProvider) : (rs : List Route) → Decidable (LeavesFit cs p rs)
  | [] => isTrue trivial
  | r :: rs =>
    have := decLeavesFit cs p rs
    inferInstanceAs (Decidable (RestoresFit cs p r ∧ (r.popsNext = true → LeavesFit cs p rs)))

/-! ### What the document is read from -/

/-- The two providers have the same document, flag and saved page fields. -/
structure SameDoc (p q : ModuleProvider) : Prop where
  currentModule : q.currentModule = p.currentModule
  previousPageId : q.previousPageId = p.previousPageId
  pageId : q.pageId = p.pageId
  isAmended : q.isAmended = p.isAmended
  oldData : q.oldData = p.oldData
  createFromPageData : q.createFromPageData = p.createFromPageData

theorem fits_congr (hmodule : q.currentModule = p.currentModule) (hprevious : q.previousPageId = p.previousPageId)
    (hid : q.pageId = p.pageId) : Fits cs q ↔ Fits cs p := by
  rw [Fits, hmodule, hprevious, hid, Fits]

theorem SameDoc.fits (h : SameDoc p q) : Fits cs q ↔ Fits cs p := fits_congr h.currentModule h.previousPageId h.pageId

theorem fits_mono (h : Fits cs p) (hcs : cs ⊆ cs') : Fits cs' p := by
  obtain ⟨a, ha, hfits⟩ := h
  exact ⟨a, hcs ha, hfits⟩

theorem SameDoc.restoresFit (h : SameDoc p q) : RestoresFit cs q r ↔ RestoresFit cs p r := by
  have hfields : ∀ f, Fits cs (q.withFields f) ↔ Fits cs (p.withFields f) := fun f => fits_congr rfl h.previousPageId rfl
  simp only [RestoresFit, h.oldData, h.createFromPageData, hfields]

theorem SameDoc.leavesFit (h : SameDoc p q) : LeavesFit cs q rs ↔ LeavesFit cs p rs := by
  induction rs with
  | nil => exact Iff.rfl
  | cons r rs ih => simp only [LeavesFit, h.restoresFit, ih]

/-! ### Leaving a route -/

theorem sameDoc_resetCreationForm (r : Route) (p : ModuleProvider) :
    SameDoc p (if r.isForm then p.resetCreationForm else p) := by
  split <;> exact ⟨rfl, rfl, rfl, rfl, rfl, rfl⟩

theorem isAmended_complete (r : Route) (p : ModuleProvider) : (r.complete p).isAmended = p.isAmended := by
  have hdown := (sameDoc_resetCreationForm r p).isAmended
  rw [Route.complete]
  generalize (if r.isForm then p.resetCreationForm else p) = q at hdown
  cases r.waiting with
  | nothing | reset | pop => exact hdown
  | removeConnection =>
    obtain ⟨f, d, hremove⟩ := q.removeConnection_frame
    dsimp only
    rw [hremove]
    exact hdown
  | removeCreateFromPage =>
    obtain ⟨f, d, hremove⟩ := q.iAmCreatingAForm.removeCreateFromPage_frame
    dsimp only
    rw [hremove]
    exact hdown

theorem sameDoc_complete (h : restores r = false) (p : ModuleProvider) : SameDoc p (r.complete p) := by
  have hdown := sameDoc_resetCreationForm r p
  rw [Route.complete]
  generalize (if r.isForm then p.resetCreationForm else p) = q at hdown
  cases hwaiting : r.waiting with
  | nothing | reset | pop => exact hdown
  | removeConnection | removeCreateFromPage =>
    rw [restores, hwaiting] at h
    cases h

theorem fits_restored (h : restores r = true) (hfit : RestoresFit cs p r) : Fits cs (r.complete p) := by
  have hdown := (sameDoc_resetCreationForm r p).restoresFit.mpr hfit
  rw [Route.complete]
  generalize (if r.isForm then p.resetCreationForm else p) = q at hdown
  cases hwaiting : r.waiting with
  | nothing | reset | pop =>
    rw [restores, hwaiting] at h
    cases h
  | removeConnection =>
    obtain ⟨f, hread, hfits⟩ := hdown.1 hwaiting
    dsimp only
    rw [ModuleProvider.removeConnection_of_read hread]
    exact hfits
  | removeCreateFromPage =>
    obtain ⟨f, hread, hfits⟩ := hdown.2 hwaiting
    dsimp only
    rw [ModuleProvider.removeCreateFromPage_of_read (s := q.iAmCreatingAForm) hread]
    exact hfits

theorem fits_complete (h : Fits cs p) (hfit : RestoresFit cs p r) : Fits cs (r.complete p) := by
  cases hr : restores r with
  | true => exact fits_restored hr hfit
  | false => exact (sameDoc_complete hr p).fits.mpr h

theorem restores_of_popsNext (h : r.popsNext = true) : restores r = false := by
  rw [Route.popsNext, decide_eq_true_iff] at h
  rw [restores, h]
  rfl

/-! ### Stacks of routes -/

/-- With the flag up, the pages that are uncovered first show an amendment. -/
def Shown (cs : List Amendment) (p : ModuleProvider) (rs : List Route) : Prop :=
  p.isAmended = true → pageNear rs = true → Fits cs p

theorem shown_of_fits (h : p.isAmended = true → Fits cs p) (rs : List Route) : Shown cs p rs := fun hup _ => h hup

/-- A route that is taken down uncovers what is below it. -/
theorem shown_complete (h : Shown cs p (r :: rs)) (hfit : p.isAmended = true → RestoresFit cs p r) :
    Shown cs (r.complete p) rs := by
  intro hup hnear
  rw [isAmended_complete] at hup
  cases hr : restores r with
  | true => exact fits_restored hr (hfit hup)
  | false => exact (sameDoc_complete hr p).fits.mpr (h hup (by simp [pageNear, hr, hnear]))

theorem shown_pop (h : Shown cs p rs) (hfit : p.isAmended = true → LeavesFit cs p rs) :
    Shown cs (Navigator.pop Route.navigator p rs).1 (Navigator.pop Route.navigator p rs).2 := by
  induction rs generalizing p with
  | nil => exact h
  | cons r rs ih =>
    have hbelow : Shown cs (r.complete p) rs := shown_complete h fun hup => (hfit hup).1
    cases hnext : Route.navigator.popsNext r with
    | false =>
      rw [pop_cons hnext]
      exact hbelow
    | true =>
      rw [pop_cons_next hnext]
      refine ih hbelow fun hup => ?_
      have hsame := sameDoc_complete (restores_of_popsNext hnext) p
      exact hsame.leavesFit.mpr ((hfit (hsame.isAmended.symm.trans hup)).2 hnext)

theorem fits_pop (h : Fits cs p) (hfit : LeavesFit cs p rs) : Fits cs (Navigator.pop Route.navigator p rs).1 := by
  induction rs generalizing p with
  | nil => exact h
  | cons r rs ih =>
    have hbelow : Fits cs (r.complete p) := fits_complete h hfit.1
    cases hnext : Route.navigator.popsNext r with
    | false =>
      rw [pop_cons hnext]
      exact hbelow
    | true =>
      rw [pop_cons_next hnext]
      exact ih hbelow ((sameDoc_complete (restores_of_popsNext hnext) p).leavesFit.mpr (hfit.2 hnext))

theorem isAmended_pop (p : ModuleProvider) (rs : List Route) :
    (Navigator.pop Route.navigator p rs).1.isAmended = p.isAmended := by
  induction rs generalizing p with
  | nil => rfl
  | cons r rs ih =>
    cases hnext : Route.navigator.popsNext r with
    | false =>
      rw [pop_cons hnext]
      exact isAmended_complete r p
    | true =>
      rw [pop_cons_next hnext]
      exact (ih _).trans (isAmended_complete r p)

theorem pageNear_cons (hpage : r.isPage = false) (hr : restores r = false) : pageNear (r :: rs) = pageNear rs := by
  rw [pageNear, hpage, hr]
  rfl

theorem pageNear_restores (hpage : r.isPage = false) (hr : restores r = true) : pageNear (r :: rs) = false := by
  rw [pageNear, hpage, hr]
  rfl

theorem SameDoc.shown (h : SameDoc p q) (hs : Shown cs p rs) : Shown cs q rs := fun hup hnear =>
  h.fits.mpr (hs (h.isAmended.symm.trans hup) hnear)

theorem restores_of_nothing (h : r.waiting = .nothing) : restores r = false := by
  rw [restores, h]
  rfl

/-- What replaces a route, and the provider, when nothing waits for the new route. -/
theorem pushReplacement_cases {new : Route} (hnew : new.waiting = .nothing) (p : ModuleProvider) (r : Route) (rs : List Route) :
    Navigator.pushReplacement Route.navigator p new (r :: rs) = (r.complete p, new :: rs) ∨
      Navigator.pushReplacement Route.navigator p new (r :: rs) = (new.complete (r.complete p), rs) := by
  have hnothing : Route.navigator.popsNext new = false := popsNext_eq_false (by rw [hnew]; exact nofun)
  cases hnext : Route.navigator.popsNext r with
  | false => exact Or.inl (Navigator.pushReplacement_cons hnext)
  | true => exact Or.inr (Navigator.pushReplacement_cons_next hnext hnothing)

theorem shown_pushReplacement (h : Shown cs p (r :: rs)) (hfit : p.isAmended = true → RestoresFit cs p r)
    (hpage : new.isPage = false) (hnew : new.waiting = .nothing) :
    Shown cs (Navigator.pushReplacement Route.navigator p new (r :: rs)).1
      (Navigator.pushReplacement Route.navigator p new (r :: rs)).2 := by
  have hbelow : Shown cs (r.complete p) rs := shown_complete h hfit
  rcases pushReplacement_cases hnew p r rs with heq | heq
  · rw [heq, Shown, pageNear_cons hpage (restores_of_nothing hnew)]
    exact hbelow
  · rw [heq]
    exact (sameDoc_complete (restores_of_nothing hnew) _).shown hbelow

theorem fits_pushReplacement (h : p.isAmended = true → Fits cs p) (hr : restores r = false) (hnew : new.waiting = .nothing)
    (hup : (Navigator.pushReplacement Route.navigator p new (r :: rs)).1.isAmended = true) :
    Fits cs (Navigator.pushReplacement Route.navigator p new (r :: rs)).1 := by
  have hsame := sameDoc_complete hr p
  rcases pushReplacement_cases hnew p r rs with heq | heq
  · rw [heq] at hup ⊢
    exact hsame.fits.mpr (h (hsame.isAmended.symm.trans hup))
  · have hsame' := sameDoc_complete (restores_of_nothing hnew) (r.complete p)
    rw [heq] at hup ⊢
    exact hsame'.fits.mpr (hsame.fits.mpr (h (hsame.isAmended.symm.trans (hsame'.isAmended.symm.trans hup))))

/-! ### The same routes -/

theorem pageNear_map {f : Route → Route} (hwaiting : ∀ r, (f r).waiting = r.waiting) (hpage : ∀ r, (f r).isPage = r.isPage)
    (rs : List Route) : pageNear (rs.map f) = pageNear rs := by
  induction rs with
  | nil => rfl
  | cons r rs ih => simp only [List.map_cons, pageNear, restores, hwaiting, hpage, ih]

theorem isPage_of_relists {f : Route → Route} (hf : Relists f) (r : Route) : (f r).isPage = r.isPage := by
  rcases hf r with h | ⟨l, l', hscreen, h⟩ <;> simp [Route.isPage, *]

theorem isPage_refreshed (p : ModuleProvider) (r : Route) : (refreshed p r).isPage = r.isPage := by
  rcases refreshed_cases p r with h | ⟨own, own', hscreen, h⟩ <;> simp [Route.isPage, *]

theorem provider_refreshTop (s : App) : s.refreshTop.provider = s.provider := by
  rw [App.refreshTop]
  split <;> rfl

theorem pageNear_refreshTop (s : App) : pageNear s.refreshTop.routes = pageNear s.routes := by
  rw [App.refreshTop]
  split
  · rfl
  · rename_i r rs hroutes
    rw [hroutes]
    simp only [pageNear, restores, refreshed_waiting, isPage_refreshed]

/-- The invariant at an app. -/
abbrev ShownAt (cs : List Amendment) (s : App) : Prop := Shown cs s.provider s.routes

theorem ShownAt.refreshTop (h : ShownAt cs s) : ShownAt cs s.refreshTop := by
  rw [ShownAt, Shown, provider_refreshTop, pageNear_refreshTop]
  exact h

theorem ShownAt.rebuildLists (h : ShownAt cs s) : ShownAt cs s.rebuildLists := by
  intro hup hnear
  rw [App.rebuildLists, pageNear_map (relists_rebuilt _).waiting (isPage_of_relists (relists_rebuilt _))] at hnear
  exact h hup hnear

theorem ShownAt.pop (h : ShownAt cs s) (hfit : s.provider.isAmended = true → LeavesFit cs s.provider s.routes) :
    ShownAt cs s.pop := shown_pop h hfit

theorem ShownAt.pushHome {top : Route} {below : List Route} (h : ShownAt cs s) (hroutes : s.routes = top :: below)
    (hfit : s.provider.isAmended = true → RestoresFit cs s.provider top) :
    ShownAt cs (s.pushReplacement ⟨.home, false, .nothing⟩) := by
  obtain ⟨p, rs, done⟩ := s
  cases hroutes
  exact shown_pushReplacement h hfit rfl rfl

/-! ### Pages -/

theorem sameDoc_loadedPage (p : ModuleProvider) (id : String) (reply : Option ServerPage) :
    SameDoc { p with pageId := id } (loadedPage p id reply) := by
  obtain ⟨page, docstatus, pdf, loading, h⟩ := loadedPage_frame p id reply
  rw [h]
  exact ⟨rfl, rfl, rfl, rfl, rfl, rfl⟩

theorem sameDoc_reloadedPage (p : ModuleProvider) (reply : Option ServerPage) : SameDoc p (reloadedPage p reply) := by
  obtain ⟨page, docstatus, pdf, loading, h⟩ := reloadedPage_frame p reply
  rw [h]
  exact ⟨rfl, rfl, rfl, rfl, rfl, rfl⟩

/-! ### Submits -/

theorem shown_mono (h : Shown cs p rs) (hcs : cs ⊆ cs') : Shown cs' p rs := fun hup hnear => fits_mono (h hup hnear) hcs

theorem shown_push (h : s.provider.isAmended = true → Fits cs s.provider) (r : Route) : ShownAt cs (s.push r) :=
  shown_of_fits h (r :: s.routes)

/-- What amending leaves: the flag is up, and a submit with an id records the document that it creates. -/
theorem startSubmit_of_amending {name : Option String} (h : amending s.provider = true)
    (hstart : startSubmit s.provider name = some q) :
    ∃ m n, name = some n ∧ s.provider.currentModule = some m ∧
      q = { s.provider with previousPageId := n, isAmended := true } ∧
      (s.provider.editPage = false → ∀ id reply, s.creates (.submit name (.succeeds (some id)) reply) = [⟨m, n, id⟩]) := by
  rw [startSubmit, if_pos h] at hstart
  obtain ⟨n, rfl, rfl⟩ := Option.map_eq_some_iff.mp hstart
  have hsome : s.provider.currentModule ≠ none := fun hm => by simp [amending, hm] at h
  obtain ⟨m, hm⟩ := Option.ne_none_iff_exists'.mp hsome
  refine ⟨m, n, rfl, hm, rfl, fun hedit id reply => ?_⟩
  rw [App.creates, h, hedit, hm]
  rfl

theorem startSubmit_of_not_amending {name : Option String} (h : amending s.provider = false)
    (hstart : startSubmit s.provider name = some q) : q = s.provider := by
  rw [startSubmit, if_neg (ne_true_of_eq_false h)] at hstart
  exact (Option.some.inj hstart).symm

/-- The end of a submit that has saved a new document: it pushes a page over a create-from form, replaces another form, or
    stays when there is no id. -/
theorem shown_savedNew {top : Route} {below : List Route} (hroutes : s.routes = top :: below) (id : Option String)
    (hs : id = none → ShownAt cs s)
    (hover : s.provider.createFromPage = true ∧ s.provider.currentModule.any fillsFromPage = true →
      s.provider.isAmended = true → Fits cs { s.provider with pageId := id.getD s.provider.pageId })
    (hnew : ∀ i ∈ id, ¬ (s.provider.createFromPage = true ∧ s.provider.currentModule.any fillsFromPage = true) →
      s.provider.isAmended = true → restores top = false ∧ Fits cs { s.provider with pageId := i })
    (reply : Option ServerPage) :
    ShownAt cs
      (if s.provider.createFromPage = true ∧ s.provider.currentModule.any fillsFromPage = true then
        App.push { s with provider := id.elim s.provider fun id => loadedPage s.provider id reply }
          (pageRoute (id.elim s.provider fun id => loadedPage s.provider id reply) false .pop)
      else
        id.elim s fun id =>
          App.pushReplacement { s with provider := loadedPage s.provider id reply }
            (pageRoute (loadedPage s.provider id reply) false .nothing)) := by
  have hloaded : ∀ i, SameDoc { s.provider with pageId := i } (loadedPage s.provider i reply) := fun i =>
    sameDoc_loadedPage s.provider i reply
  split
  · rename_i hcreate
    refine shown_push (fun hup => ?_) _
    cases id with
    | none => exact hover hcreate hup
    | some i => exact (hloaded i).fits.mpr (hover hcreate ((hloaded i).isAmended.symm.trans hup))
  · rename_i hcreate
    cases id with
    | none => exact hs rfl
    | some i =>
      intro hup _
      rw [Option.elim_some, App.pushReplacement] at hup ⊢
      simp only [hroutes] at hup ⊢
      have hflag : (loadedPage s.provider i reply).isAmended = true := by
        have hnothing : (pageRoute (loadedPage s.provider i reply) false .nothing).waiting = .nothing := rfl
        rcases pushReplacement_cases hnothing (loadedPage s.provider i reply) top below with heq | heq
        · rw [heq, isAmended_complete] at hup
          exact hup
        · rw [heq, isAmended_complete, isAmended_complete] at hup
          exact hup
      obtain ⟨hr, hfits⟩ := hnew i rfl hcreate ((hloaded i).isAmended.symm.trans hflag)
      exact fits_pushReplacement (fun _ => (hloaded i).fits.mpr hfits) hr rfl hup

theorem shown_submit {top : Route} {below : List Route} (h : ShownAt cs s) (hroutes : s.routes = top :: below)
    (name : Option String) (result : SubmitResult) (reply : Option ServerPage) (hguard : SubmitGuard ⟨s, cs⟩ name result) :
    ShownAt (cs ++ s.creates (.submit name result reply)) (s.submit name result reply) := by
  have hcs : cs ⊆ cs ++ s.creates (.submit name result reply) := List.subset_append_left _ _
  unfold SubmitGuard at hguard
  rw [App.submit]
  cases hstart : startSubmit s.provider name with
  | none => exact shown_mono h hcs
  | some q =>
    dsimp only
    cases ham : amending s.provider with
    | true =>
      obtain ⟨m, n, rfl, hm, hq, hcreates⟩ := startSubmit_of_amending ham hstart
      rw [if_pos ham] at hguard
      obtain ⟨hedit, hr, id, rfl⟩ := hguard (Option.some_ne_none n)
      have hfits : Fits (cs ++ [⟨m, n, id⟩]) { q with pageId := id } := by
        refine ⟨⟨m, n, id⟩, by simp, ?_, ?_, rfl⟩ <;> rw [hq]
        exact hm
      have hnew : q.editPage = false := by
        rw [hq]
        exact hedit
      have htop : restores top = false := by simpa [hroutes] using hr
      rw [hcreates hedit id reply]
      dsimp only
      rw [if_neg (ne_true_of_eq_false hnew)]
      refine shown_savedNew (s := { s with provider := q }) hroutes (some id) (fun hnone => ?_) (fun _ _ => hfits)
        (fun i hi _ _ => ⟨htop, ?_⟩) reply
      · cases hnone
      · cases hi
        exact hfits
    | false =>
      obtain rfl := startSubmit_of_not_amending ham hstart
      rw [if_neg (ne_true_of_eq_false ham)] at hguard
      refine shown_mono ?_ hcs
      cases result with
      | fails =>
        dsimp only at hguard ⊢
        split
        · rename_i hpops
          exact h.pop fun hup => hguard hup hpops.1 hpops.2
        · exact h
      | succeeds id =>
        dsimp only at hguard ⊢
        have hreload := sameDoc_reloadedPage s.provider reply
        cases hedit : s.provider.editPage with
        | true =>
          rw [hedit, if_pos rfl] at hguard
          rw [if_pos rfl]
          have hguard' : (reloadedPage s.provider reply).isAmended = true → LeavesFit cs (reloadedPage s.provider reply) s.routes :=
            fun hup => hreload.leavesFit.mpr (hguard (hreload.isAmended.symm.trans hup)).1
          split
          · rename_i hgoes
            refine shown_push (fun hup => ?_) _
            rw [provider_refreshTop] at hup ⊢
            have hflag := (isAmended_pop (reloadedPage s.provider reply) s.routes).symm.trans hup
            have hfits := (hguard (hreload.isAmended.symm.trans hflag)).2 hgoes.1 hgoes.2
            exact fits_pop (hreload.fits.mpr hfits) (hguard' hflag)
          · have hs : ShownAt cs { s with provider := reloadedPage s.provider reply } := hreload.shown h
            exact (hs.pop hguard').refreshTop
        | false =>
          simp only [hedit, Bool.false_eq_true, if_false] at hguard ⊢
          refine shown_savedNew hroutes id (fun _ => h) (fun hcreate hup => ?_) (fun i hi hcreate hup => ?_) reply
          · have := hguard hup
            rw [if_pos hcreate] at this
            exact this
          · have hsaved := hguard hup
            rw [if_neg hcreate] at hsaved
            obtain ⟨hr, hfits⟩ := hsaved i hi
            exact ⟨by simpa [hroutes] using hr, hfits⟩

/-! ### Presses -/

theorem shown_openForm (h : ShownAt cs s) (hsame : SameDoc s.provider q) {mode : FormMode} {waiting : Waiting}
    (hwaiting : waiting = .nothing ∨ waiting = .reset) : ShownAt cs (s.openForm q mode waiting) := by
  intro hup hnear
  have hr : restores ⟨.form mode, false, waiting⟩ = false := by rcases hwaiting with rfl | rfl <;> rfl
  rw [App.openForm, App.push, pageNear_cons rfl hr] at hnear
  exact hsame.fits.mpr (h (hsame.isAmended.symm.trans hup) hnear)

theorem shown_openModule (doctype : String)
    (hguard : s.provider.isAmended = true → pageNear s.routes = true → Fits cs (s.provider.setModule doctype)) :
    ShownAt cs (s.openModule doctype) := by
  rcases s.openModule_cases doctype with ⟨m, _, _, heq⟩ | ⟨_, heq⟩
  · rw [heq]
    intro hup hnear
    rw [App.push, pageNear_cons rfl rfl] at hnear
    exact hguard hup hnear
  · rw [heq]
    exact hguard

theorem shown_openConnection (h : ShownAt cs s) (doctype : String) : ShownAt cs (s.openConnection doctype) := by
  cases hm : s.provider.currentModule with
  | none =>
    rw [openConnection_of_none hm]
    exact SameDoc.shown ⟨rfl, rfl, rfl, rfl, rfl, rfl⟩ h
  | some m =>
    rw [openConnection_of_module hm]
    intro _ hnear
    rw [pageNear_restores rfl rfl] at hnear
    cases hnear

/-- What an arrow does on a page with the flag up puts it down. -/
theorem isAmended_back (reply : Option ServerPage) (hpage : s.onPage = true) (hup : s.provider.isAmended = true) :
    (s.back reply).provider.isAmended = false := by
  obtain ⟨p, rs, done⟩ := s
  cases rs with
  | nil => cases hpage
  | cons r rs =>
    obtain ⟨screen, named, waiting⟩ := r
    cases screen with
    | home | list | form => cases hpage
    | page own =>
      dsimp only at hup
      simp only [App.back, hup, if_true]
      rw [provider_refreshTop]
      exact isAmended_pop _ _

theorem shown_back (h : ShownAt cs s) (reply : Option ServerPage)
    (hguard : s.provider.isAmended = true → s.onPage = false → LeavesFit cs s.provider s.routes) :
    ShownAt cs (s.back reply) := by
  cases hpage : s.onPage with
  | true =>
    cases hup : s.provider.isAmended with
    | true =>
      intro hstill
      rw [isAmended_back reply hpage hup] at hstill
      cases hstill
    | false =>
      have hdown : s.back reply = s.pop := by
        rw [App.back]
        split
        · rw [if_neg (ne_true_of_eq_false hup)]
        · rfl
      rw [hdown]
      refine h.pop fun hstill => ?_
      rw [hup] at hstill
      cases hstill
  | false =>
    have hpop : s.back reply = s.pop := by
      rw [App.back]
      split
      · rename_i hroutes
        rw [App.onPage, hroutes] at hpage
        cases hpage
      · rfl
    rw [hpop]
    exact h.pop fun hup => hguard hup hpage

theorem shown_pressed {top : Route} {below : List Route} (h : ShownAt cs s) (hroutes : s.routes = top :: below)
    (hpressed : Pressed s top below e t) (hguard : Guard ⟨s, cs⟩ (.press e)) : ShownAt (cs ++ s.creates e) t := by
  have hcs : cs ⊆ cs ++ s.creates e := List.subset_append_left _ _
  cases hpressed with
  | openModule doctype htop => exact shown_mono (shown_openModule doctype hguard) hcs
  | openTransaction doctype id reply htop =>
    have hloaded := sameDoc_loadedPage (s.provider.setModule doctype) id reply
    exact shown_mono (shown_push (fun hup => hloaded.fits.mpr (hguard (hloaded.isAmended.symm.trans hup))) _) hcs
  | createFromDashboard doctype htop =>
    refine shown_mono (fun hup hnear => ?_) hcs
    rw [App.openForm, App.push, pageNear_cons rfl rfl] at hnear
    exact hguard hup hnear
  | openCard l id reply htop =>
    have hloaded := sameDoc_loadedPage s.provider id reply
    exact shown_mono (shown_push (fun hup => hloaded.fits.mpr (hguard (hloaded.isAmended.symm.trans hup))) _) hcs
  | add l htop => exact shown_mono (shown_openForm h ⟨rfl, rfl, rfl, rfl, rfl, rfl⟩ (Or.inr rfl)) hcs
  | applyFilter l values htop =>
    refine shown_mono (fun hup hnear => ?_) hcs
    rw [App.applyFilter, pageNear_map (relists_filtered _ _).waiting (isPage_of_relists (relists_filtered _ _))] at hnear
    exact h hup hnear
  | loadMore l htop => exact shown_mono h hcs
  | edit own htop => exact shown_mono (shown_openForm h ⟨rfl, rfl, rfl, rfl, rfl, rfl⟩ (Or.inl rfl)) hcs
  | duplicate own htop => exact shown_mono (shown_openForm h ⟨rfl, rfl, rfl, rfl, rfl, rfl⟩ (Or.inl rfl)) hcs
  | amend own htop => exact shown_mono (shown_openForm h ⟨rfl, rfl, rfl, rfl, rfl, rfl⟩ (Or.inl rfl)) hcs
  | createFrom own pageData doctype htop =>
    refine shown_mono (fun _ hnear => ?_) hcs
    rw [App.openForm, App.push, pageNear_restores rfl rfl] at hnear
    cases hnear
  | openConnection own doctype htop => exact shown_mono (shown_openConnection h doctype) hcs
  | homeOfPage | homeOfList =>
    exact shown_mono (h.pushHome hroutes fun hup => hguard hup top (by rw [hroutes]; rfl)) hcs
  | submit mode name result reply htop => exact shown_submit h hroutes name result reply hguard
  | back reply hbelow => exact shown_mono (shown_back h reply hguard) hcs

/-! ### Runs -/

theorem shown_step {s t : AmendedApp} {e : NavEvent} (h : ShownAt s.created s.app) (hstep : s.step e = some t)
    (hguard : Guard s e) : ShownAt t.created t.app := by
  cases e with
  | press e =>
    obtain ⟨u, hu, rfl⟩ := Option.map_eq_some_iff.mp hstep
    obtain ⟨top, below, v, hroutes, hpressed, rfl⟩ := pressed_of_step hu
    exact (shown_pressed (s := { s.app with completed := [] }) h hroutes hpressed hguard).rebuildLists
  | systemBack =>
    obtain ⟨u, hu, rfl⟩ := Option.map_eq_some_iff.mp hstep
    rw [App.systemBack] at hu
    split at hu
    · cases hu
      exact (ShownAt.pop (s := { s.app with completed := [] }) h hguard).rebuildLists
    · cases hu
  | openNotification doctype id reply =>
    cases hstep
    have hloaded := sameDoc_loadedPage (s.app.provider.setModule doctype) id reply
    exact (shown_push (fun hup => hloaded.fits.mpr (hguard (hloaded.isAmended.symm.trans hup))) _).rebuildLists

theorem pageNear_of_onPage (h : s.onPage = true) : pageNear s.routes = true := by
  rw [App.onPage] at h
  cases hroutes : s.routes with
  | nil =>
    rw [hroutes] at h
    cases h
  | cons r rs =>
    rw [hroutes] at h
    rw [pageNear, show r.isPage = true from h]
    rfl

theorem arrowFits_of_shown {s t : AmendedApp} {e : NavEvent} (h : ShownAt s.created s.app) : ArrowFits s e t := by
  unfold ArrowFits
  split
  · exact fun hpage hup => h hup (pageNear_of_onPage hpage)
  · trivial

/-- In every run whose amending submits create their documents, and that opens, saves and takes back no other page while the
    flag is up, the arrow goes back to the amended page only from a document that has been created by amending it, in its
    module. -/
theorem arrowFits_of_guarded (es : List NavEvent) (h : Runs.Guarded AmendedApp.step Guard {} es) :
    Runs.Each AmendedApp.step ArrowFits {} es :=
  Runs.each_of_guarded (I := fun s => ShownAt s.created s.app) (fun _ _ _ hs hstep hguard => shown_step hs hstep hguard)
    (fun _ _ _ hs _ _ => arrowFits_of_shown hs) nofun h

def servedPage (name : String) (docstatus : Int) : Option ServerPage :=
  some ⟨[("name", .str name), ("docstatus", .int docstatus)], rfl, rfl⟩

/-- A cancelled order is amended, and the invoices of the new order are looked at before the arrow. -/
def amendingRun : List NavEvent :=
  [.press (.openModule "Sales Order"), .press (.openCard "SO-1" (servedPage "SO-1" 2)), .press .amend,
    .press (.submit (some "SO-1") (.succeeds (some "SO-1-1")) (servedPage "SO-1-1" 0)), .press (.openConnection "Sales Invoice"),
    .systemBack, .press (.back (servedPage "SO-1" 2))]

theorem arrowFits_of_amendingRun :
    Runs.Each AmendedApp.step ArrowFits {} amendingRun ∧
      (Runs.run AmendedApp.step {} (amendingRun.take 6)).map (fun s => (s.app.onPage, s.app.provider.isAmended)) =
        some (true, true) := by
  refine ⟨arrowFits_of_guarded _ ?_, rfl⟩
  refine (Runs.each_cons rfl).mpr ⟨nofun, ?_⟩
  refine (Runs.each_cons rfl).mpr ⟨nofun, ?_⟩
  refine (Runs.each_cons rfl).mpr ⟨trivial, ?_⟩
  refine (Runs.each_cons rfl).mpr ⟨fun _ => ⟨rfl, rfl, _, rfl⟩, ?_⟩
  refine (Runs.each_cons rfl).mpr ⟨trivial, ?_⟩
  refine (Runs.each_cons rfl).mpr ⟨fun _ => by decide, ?_⟩
  exact (Runs.each_cons rfl).mpr ⟨fun _ => nofun, trivial⟩

/-- An amendment that has failed leaves the flag up: the arrow of an invoice that is opened afterwards asks for the order among
    the invoices. -/
theorem arrow_after_failed_amendment :
    ¬ Runs.Each AmendedApp.step ArrowFits {}
      [.press (.openModule "Sales Order"), .press (.openCard "SO-1" (servedPage "SO-1" 2)), .press .amend,
        .press (.submit (some "SO-1") .fails none), .systemBack, .press .home, .press (.openModule "Sales Invoice"),
        .press (.openCard "SINV-1" (servedPage "SINV-1" 0)), .press (.back none)] := by
  intro h
  obtain ⟨-, h⟩ := h _ rfl
  obtain ⟨-, h⟩ := h _ rfl
  obtain ⟨-, h⟩ := h _ rfl
  obtain ⟨-, h⟩ := h _ rfl
  obtain ⟨-, h⟩ := h _ rfl
  obtain ⟨-, h⟩ := h _ rfl
  obtain ⟨-, h⟩ := h _ rfl
  obtain ⟨-, h⟩ := h _ rfl
  obtain ⟨h, -⟩ := h _ rfl
  obtain ⟨a, ha, -⟩ := h rfl rfl
  cases ha

end NextApp.AmendedPages
