import NextApp.Lib.Runs
import NextApp.Model.App

/-! # What the routes leave to those below

A property of the provider at a route is kept when leaving the routes above it, one after the other, ends in
a provider that has it. Most presses change nothing that the routes below can see; those that set the module
or the filters are for the theorems about them. -/

namespace NextApp.Routes
open App Navigator

/-- The fields that a route finds as those above it have left them: the query of the lists and the maps of
    saved page fields. -/
structure NavFields where
  currentModule : Option ModuleType
  connection : Option String
  filterById : Option String
  filter : Doc
  oldData : Doc
  createFromPageData : Doc

def navFields (p : ModuleProvider) : NavFields :=
  ⟨p.currentModule, p.connection, p.filterById, p.filter, p.oldData, p.createFromPageData⟩

variable {p q : ModuleProvider} {P : ModuleProvider → List Route → Prop} {r top : Route} {rs below : List Route}
  {s t : App} {e : AppEvent}

/-! ### The fields through the operations -/

/-- What a remove leaves of the module, and of the map it has read. -/
def takenBack (module : Option ModuleType) (d : Doc) : Option ModuleType × Doc :=
  match ModuleProvider.readFields? d with
  | some f => (f.currentModule, [])
  | none => (module, d)

theorem navFields_removeConnection (p : ModuleProvider) :
    navFields p.removeConnection.state =
      ⟨(takenBack p.currentModule p.oldData).1, none, none, p.filter, (takenBack p.currentModule p.oldData).2,
        p.createFromPageData⟩ := by
  rw [ModuleProvider.removeConnection, takenBack]
  dsimp only
  rcases ModuleProvider.restoreFields_cases { p with filterById := none, connection := none } p.oldData with
    ⟨f, hread, h⟩ | ⟨hread, f, hmodule, h⟩
  · rw [h, hread]
    rfl
  · rw [h, hread]
    simp only [Outcome.bind_threw, Outcome.state, navFields, ModuleProvider.withFields, hmodule]

theorem navFields_removeCreateFromPage (p : ModuleProvider) :
    navFields p.removeCreateFromPage.state =
      ⟨(takenBack p.currentModule p.createFromPageData).1, p.connection, p.filterById, p.filter, p.oldData,
        (takenBack p.currentModule p.createFromPageData).2⟩ := by
  rw [ModuleProvider.removeCreateFromPage, takenBack]
  rcases p.restoreFields_cases p.createFromPageData with ⟨f, hread, h⟩ | ⟨hread, f, hmodule, h⟩
  · rw [h, hread]
    rfl
  · rw [h, hread]
    simp only [Outcome.bind_threw, Outcome.state, navFields, ModuleProvider.withFields, hmodule]

theorem navFields_complete_congr (h : navFields p = navFields q) (r : Route) :
    navFields (r.complete p) = navFields (r.complete q) := by
  have hdown : navFields (if r.isForm then p.resetCreationForm else p) =
      navFields (if r.isForm then q.resetCreationForm else q) := by
    split <;> exact h
  rw [Route.complete, Route.complete]
  generalize (if r.isForm then p.resetCreationForm else p) = p' at hdown
  generalize (if r.isForm then q.resetCreationForm else q) = q' at hdown
  have hfields := hdown
  simp only [navFields, NavFields.mk.injEq] at hfields
  obtain ⟨hmodule, hconn, hid, hfilter, hold, hcreate⟩ := hfields
  cases r.waiting with
  | nothing | reset | pop => exact hdown
  | removeConnection =>
    simp only [navFields_removeConnection, hmodule, hold, hfilter, hcreate]
  | removeCreateFromPage =>
    simp only [navFields_removeCreateFromPage, ModuleProvider.iAmCreatingAForm, hmodule, hconn, hid, hold, hfilter,
      hcreate]

theorem filter_complete (p : ModuleProvider) (r : Route) : (r.complete p).filter = p.filter := by
  have hdown : (if r.isForm then p.resetCreationForm else p).filter = p.filter := by split <;> rfl
  rw [Route.complete]
  generalize (if r.isForm then p.resetCreationForm else p) = q at hdown
  cases r.waiting with
  | nothing | reset | pop => exact hdown
  | removeConnection => exact (congrArg NavFields.filter (navFields_removeConnection q)).trans hdown
  | removeCreateFromPage =>
    exact (congrArg NavFields.filter (navFields_removeCreateFromPage q.iAmCreatingAForm)).trans hdown

/-- Only what waits to remove a connection writes the page fields saved for it. -/
theorem oldData_complete (p : ModuleProvider) (r : Route) :
    (r.complete p).oldData = if r.waiting = .removeConnection then (takenBack none p.oldData).2 else p.oldData := by
  have hdown : (if r.isForm then p.resetCreationForm else p).oldData = p.oldData := by split <;> rfl
  rw [Route.complete]
  generalize (if r.isForm then p.resetCreationForm else p) = q at hdown
  have hsnd : ∀ m m' d, (takenBack m d).2 = (takenBack m' d).2 := by
    intro m m' d
    simp only [takenBack]
    split <;> rfl
  cases r.waiting with
  | nothing | reset | pop => exact hdown
  | removeConnection =>
    refine (congrArg NavFields.oldData (navFields_removeConnection q)).trans ?_
    rw [hdown]
    exact hsnd _ _ _
  | removeCreateFromPage =>
    exact (congrArg NavFields.oldData (navFields_removeCreateFromPage q.iAmCreatingAForm)).trans hdown

theorem connection_complete (p : ModuleProvider) (h : r.waiting ≠ .removeConnection) :
    (r.complete p).connection = p.connection ∧ (r.complete p).filterById = p.filterById := by
  have hdown : (if r.isForm then p.resetCreationForm else p).connection = p.connection ∧
      (if r.isForm then p.resetCreationForm else p).filterById = p.filterById := by split <;> exact ⟨rfl, rfl⟩
  rw [Route.complete]
  generalize (if r.isForm then p.resetCreationForm else p) = q at hdown
  cases hwaiting : r.waiting with
  | nothing | reset | pop => exact hdown
  | removeConnection => exact absurd hwaiting h
  | removeCreateFromPage =>
    have hnav := navFields_removeCreateFromPage q.iAmCreatingAForm
    exact ⟨(congrArg NavFields.connection hnav).trans hdown.1, (congrArg NavFields.filterById hnav).trans hdown.2⟩

theorem navFields_complete_connection {f : PageFields} (hform : r.isForm = false) (hwaiting : r.waiting = .removeConnection)
    (hread : ModuleProvider.readFields? p.oldData = some f) :
    navFields (r.complete p) = ⟨f.currentModule, none, none, p.filter, [], p.createFromPageData⟩ := by
  rw [Route.complete, hform, hwaiting]
  simp only [Bool.false_eq_true, if_false, navFields_removeConnection, takenBack, hread]

theorem navFields_complete_createFrom {f : PageFields} (hwaiting : r.waiting = .removeCreateFromPage)
    (hread : ModuleProvider.readFields? p.createFromPageData = some f) :
    navFields (r.complete p) = ⟨f.currentModule, p.connection, p.filterById, p.filter, p.oldData, []⟩ := by
  have hdown : navFields (if r.isForm then p.resetCreationForm else p) = navFields p := by split <;> rfl
  rw [Route.complete, hwaiting]
  generalize (if r.isForm then p.resetCreationForm else p) = q at hdown
  simp only [navFields, NavFields.mk.injEq] at hdown
  obtain ⟨-, hconn, hid, hfilter, hold, hcreate⟩ := hdown
  simp only [navFields_removeCreateFromPage, takenBack, ModuleProvider.iAmCreatingAForm, hcreate, hread, hconn, hid,
    hfilter, hold]

/-- Nothing waits for the route but a list below or the route itself. -/
theorem navFields_complete (p : ModuleProvider) (hwaiting : r.waiting = .nothing ∨ r.waiting = .reset ∨ r.waiting = .pop) :
    navFields (r.complete p) = navFields p := by
  have hdown : navFields (if r.isForm then p.resetCreationForm else p) = navFields p := by split <;> rfl
  rw [Route.complete]
  rcases hwaiting with h | h | h <;> rw [h] <;> exact hdown

theorem navFields_loadedPage (p : ModuleProvider) (id : String) (reply : Option ServerPage) :
    navFields (loadedPage p id reply) = navFields p := by
  obtain ⟨page, docstatus, pdf, loading, h⟩ := loadedPage_frame p id reply
  rw [h]
  rfl

theorem navFields_reloadedPage (p : ModuleProvider) (reply : Option ServerPage) :
    navFields (reloadedPage p reply) = navFields p := by
  obtain ⟨page, docstatus, pdf, loading, h⟩ := reloadedPage_frame p reply
  rw [h]
  rfl

theorem navFields_startSubmit {name : Option String} (h : startSubmit p name = some q) : navFields q = navFields p := by
  rw [startSubmit] at h
  split at h
  · obtain ⟨name, -, rfl⟩ := Option.map_eq_some_iff.mp h
    rfl
  · cases h
    rfl

/-! ### Presses that the routes below do not see -/

/-- `P` holds at every stage of leaving the routes, and so it did where the press has completed some. -/
structure Kept (P : ModuleProvider → List Route → Prop) (s : App) : Prop where
  unwinds : Unwinds Route.navigator P s.provider s.routes
  completed : ∀ x ∈ s.completed, Unwinds Route.navigator P x.1 x.2

/-- `P` is about the lists and the connections: it reads the fields that routes leave, and asks nothing of
    other routes. -/
structure AboutLists (P : ModuleProvider → List Route → Prop) : Prop where
  congr : ∀ p q rs, navFields p = navFields q → P p rs → P q rs
  plain : ∀ p r rs, r.named = false → (∀ l, r.screen ≠ .list l) → r.waiting ≠ .removeConnection → P p (r :: rs)
  card : ∀ p l named waiting rs own, P p (⟨.list l, named, waiting⟩ :: rs) →
    P p (⟨.page own, named, .nothing⟩ :: ⟨.list l, named, waiting⟩ :: rs)
  refreshed : ∀ p q r rs, P p (r :: rs) → P p (refreshed q r :: rs)
  rebuilt : ∀ p rs, P p rs → P p (rs.map (rebuilt p.filter))

theorem AboutLists.unwinds_congr (hP : AboutLists P) (h : Unwinds Route.navigator P p rs)
    (hq : navFields q = navFields p) : Unwinds Route.navigator P q rs :=
  h.congr (v := navFields) (fun r _ _ hst => navFields_complete_congr hst r) hP.congr hq.symm

theorem Kept.withProvider (h : Kept P s) (hP : AboutLists P) (hq : navFields q = navFields s.provider) :
    Kept P { s with provider := q } :=
  ⟨hP.unwinds_congr h.unwinds hq, h.completed⟩

theorem Kept.pop (h : Kept P s) : Kept P s.pop :=
  ⟨h.unwinds.pop, List.forall_mem_append.mpr ⟨h.completed, h.unwinds.popped⟩⟩

theorem Kept.push (h : Kept P s) (hP : AboutLists P) (hr : P s.provider (r :: s.routes))
    (hwaiting : r.waiting = .nothing ∨ r.waiting = .reset ∨ r.waiting = .pop) : Kept P (s.push r) :=
  ⟨⟨hr, hP.unwinds_congr h.unwinds (navFields_complete s.provider hwaiting)⟩, h.completed⟩

theorem Kept.pushPlain (h : Kept P s) (hP : AboutLists P) (hnamed : r.named = false) (hlist : ∀ l, r.screen ≠ .list l)
    (hwaiting : r.waiting = .nothing ∨ r.waiting = .reset ∨ r.waiting = .pop) : Kept P (s.push r) :=
  h.push hP (hP.plain _ _ _ hnamed hlist (by rcases hwaiting with h | h | h <;> simp [h])) hwaiting

theorem Kept.pushReplacement (h : Kept P s) (hP : AboutLists P) (hnamed : r.named = false)
    (hlist : ∀ l, r.screen ≠ .list l) (hwaiting : r.waiting = .nothing) : Kept P (s.pushReplacement r) := by
  obtain ⟨p, rs, done⟩ := s
  have hr : ∀ p rs, P p (r :: rs) := fun p rs => hP.plain p r rs hnamed hlist (by simp [hwaiting])
  cases rs with
  | nil =>
    have hp : P (r.complete p) [] := hP.congr _ _ _ (navFields_complete _ (Or.inl hwaiting)).symm h.unwinds
    exact ⟨⟨hr _ _, hp⟩, List.forall_mem_append.mpr ⟨h.completed, fun x hx => absurd hx List.not_mem_nil⟩⟩
  | cons r' rs =>
    have hnew : Unwinds Route.navigator P (r'.complete p) (r :: rs) :=
      ⟨hr _ _, hP.unwinds_congr h.unwinds.2 (navFields_complete _ (Or.inl hwaiting))⟩
    exact ⟨hnew.pushReplacement, List.forall_mem_append.mpr ⟨h.completed, h.unwinds.replaced hnew⟩⟩

theorem Kept.openForm {mode : FormMode} {waiting : Waiting} (h : Kept P s) (hP : AboutLists P)
    (hq : navFields q = navFields s.provider) (hwaiting : waiting = .nothing ∨ waiting = .reset) :
    Kept P (s.openForm q mode waiting) :=
  (h.withProvider hP hq).pushPlain hP rfl (fun _ hl => nomatch hl) (hwaiting.imp_right Or.inl)

theorem refreshed_cases (p : ModuleProvider) (r : Route) :
    refreshed p r = r ∨ ∃ own own', r.screen = .page own ∧ refreshed p r = { r with screen := .page own' } := by
  rw [refreshed]
  split
  · rename_i own hscreen
    split
    · exact Or.inr ⟨own, p.pageFields, hscreen, rfl⟩
    · exact Or.inl rfl
  · exact Or.inl rfl

theorem refreshed_waiting (p : ModuleProvider) (r : Route) : (refreshed p r).waiting = r.waiting := by
  rcases refreshed_cases p r with h | ⟨own, own', -, h⟩ <;> rw [h]

theorem refreshed_isForm (p : ModuleProvider) (r : Route) : (refreshed p r).isForm = r.isForm := by
  rcases refreshed_cases p r with h | ⟨own, own', hscreen, h⟩
  · rw [h]
  · simp only [h, Route.isForm, hscreen]

theorem complete_congr {r r' : Route} (hwaiting : r'.waiting = r.waiting) (hform : r'.isForm = r.isForm) :
    r'.complete p = r.complete p := by
  rw [Route.complete, Route.complete, hwaiting, hform]

theorem Kept.refreshTop (h : Kept P s) (hP : AboutLists P) : Kept P s.refreshTop := by
  rw [App.refreshTop]
  split
  · exact h
  · rename_i r rs hroutes
    have hunwinds := h.unwinds
    rw [hroutes] at hunwinds
    refine ⟨⟨hP.refreshed _ _ _ _ hunwinds.1, ?_⟩, h.completed⟩
    have hcomplete : (refreshed s.provider r).complete s.provider = r.complete s.provider :=
      complete_congr (refreshed_waiting _ _) (refreshed_isForm _ _)
    change Unwinds Route.navigator P ((refreshed s.provider r).complete s.provider) rs
    rw [hcomplete]
    exact hunwinds.2

theorem Kept.submit (h : Kept P s) (hP : AboutLists P) (name : Option String) (result : SubmitResult)
    (reply : Option ServerPage) : Kept P (s.submit name result reply) := by
  rw [App.submit]
  cases hstart : startSubmit s.provider name with
  | none => exact h
  | some q =>
    have hs : Kept P { s with provider := q } := h.withProvider hP (navFields_startSubmit hstart)
    cases result with
    | fails =>
      dsimp only
      split
      · exact hs.pop
      · exact hs
    | succeeds id =>
      dsimp only
      split
      · have hpop := ((hs.withProvider hP (navFields_reloadedPage q reply)).pop).refreshTop hP
        split
        · exact hpop.pushPlain hP rfl (fun _ hl => nomatch hl) (Or.inl rfl)
        · exact hpop
      · split
        · refine Kept.pushPlain (hs.withProvider hP ?_) hP rfl (fun _ hl => nomatch hl) (Or.inr (Or.inr rfl))
          cases id with
          | none => rfl
          | some id => exact navFields_loadedPage q id reply
        · cases id with
          | none => exact hs
          | some id =>
            exact (hs.withProvider hP (navFields_loadedPage q id reply)).pushReplacement hP rfl (fun _ hl => nomatch hl) rfl

theorem Kept.back (h : Kept P s) (hP : AboutLists P) (reply : Option ServerPage) : Kept P (s.back reply) := by
  rw [App.back]
  split
  · split
    · dsimp only
      generalize hu : App.pushReplacement { s with provider := loadedPage s.provider s.provider.previousPageId reply }
        (pageRoute (loadedPage s.provider s.provider.previousPageId reply) false .nothing) = u
      have hnew : Kept P u :=
        hu ▸ (h.withProvider hP (navFields_loadedPage _ _ _)).pushReplacement hP rfl (fun _ hl => nomatch hl) rfl
      exact ((hnew.withProvider hP (q := { u.provider with isAmended := false }) rfl).pop).refreshTop hP
    · exact h.pop
  · exact h.pop

/-- The press sets the module, a connection or the filters. -/
def setsQuery : AppEvent → Bool
  | .openModule _ | .openTransaction _ _ _ | .createFromDashboard _ | .createFrom _ _ | .openConnection _
  | .applyFilter _ => true
  | _ => false

theorem Kept.pressed (h : Kept P s) (hP : AboutLists P) (hroutes : s.routes = top :: below)
    (hpressed : Pressed s top below e t) (he : setsQuery e = false) : Kept P t := by
  cases hpressed with
  | openModule | openTransaction | createFromDashboard | createFrom | openConnection | applyFilter => cases he
  | openCard l id reply htop =>
    have hs := h.withProvider hP (navFields_loadedPage s.provider id reply)
    refine hs.push hP ?_ (Or.inl rfl)
    obtain ⟨screen, named, waiting⟩ := top
    cases htop
    have htop := hs.unwinds
    simp only [hroutes] at htop ⊢
    exact hP.card _ _ _ _ _ _ htop.1
  | add l htop => exact h.openForm hP rfl (Or.inr rfl)
  | loadMore l htop => exact h
  | edit own htop => exact h.openForm hP rfl (Or.inl rfl)
  | duplicate own htop => exact h.openForm hP rfl (Or.inl rfl)
  | amend own htop => exact h.openForm hP rfl (Or.inl rfl)
  | homeOfPage own htop => exact h.pushReplacement hP rfl (fun _ hl => nomatch hl) rfl
  | homeOfList l htop => exact h.pushReplacement hP rfl (fun _ hl => nomatch hl) rfl
  | submit mode name result reply htop => exact h.submit hP name result reply
  | back reply hbelow => exact h.back hP reply

/-- `f` changes nothing but what the lists hold. -/
def Relists (f : Route → Route) : Prop :=
  ∀ r, f r = r ∨ ∃ l l', r.screen = .list l ∧ f r = { r with screen := .list l' }

theorem relists_rebuilt (filter : Doc) : Relists (rebuilt filter) := by
  intro r
  rw [rebuilt]
  split
  · rename_i query values hscreen
    split
    · exact Or.inl rfl
    · exact Or.inr ⟨_, _, hscreen, rfl⟩
  · exact Or.inl rfl

theorem relists_filtered (current values : Doc) : Relists (filtered current values) := by
  intro r
  rw [filtered]
  split
  · rename_i l hscreen
    split <;> exact Or.inr ⟨l, _, hscreen, rfl⟩
  · exact Or.inl rfl

variable {f : Route → Route}

theorem Relists.waiting (hf : Relists f) (r : Route) : (f r).waiting = r.waiting := by
  rcases hf r with h | ⟨l, l', -, h⟩ <;> rw [h]

theorem Relists.named (hf : Relists f) (r : Route) : (f r).named = r.named := by
  rcases hf r with h | ⟨l, l', -, h⟩ <;> rw [h]

theorem Relists.isForm (hf : Relists f) (r : Route) : (f r).isForm = r.isForm := by
  rcases hf r with h | ⟨l, l', hscreen, h⟩
  · rw [h]
  · simp only [h, Route.isForm, hscreen]

theorem Relists.of_page (hf : Relists f) {own : PageFields} (h : r.screen = .page own) : f r = r := by
  rcases hf r with hr | ⟨l, l', hscreen, -⟩
  · exact hr
  · rw [h] at hscreen
    cases hscreen

theorem Relists.complete (hf : Relists f) (r : Route) (p : ModuleProvider) : (f r).complete p = r.complete p :=
  complete_congr (hf.waiting r) (hf.isForm r)

theorem Kept.rebuilt (h : Kept P s) (hP : AboutLists P) :
    Kept P { s with routes := s.routes.map (rebuilt s.provider.filter) } := by
  refine ⟨h.unwinds.map (I := fun p => p.filter = s.provider.filter) ?_ ?_ ?_ rfl, h.completed⟩
  · exact fun r p hp => (filter_complete p r).trans hp
  · exact (relists_rebuilt _).complete
  · exact fun p rs hp hr => hp ▸ hP.rebuilt p rs hr

end NextApp.Routes
