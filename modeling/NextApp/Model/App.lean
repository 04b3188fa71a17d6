import NextApp.Lib.Navigator
import NextApp.Model.ModuleForm
import NextApp.Model.PageSession

/-! # The app

The routes of the app's navigator over the module provider, and what the buttons of the screens on them do.
A route keeps what it was opened for: a list its query, a page its fields, a form its mode. The home screen
stands for the screens of categories and the dashboard too. -/

namespace NextApp

/-- A list screen: the module, the connection and the id it was opened with, and the filters of its last
    request. It is built anew when the filters change, and compares them with the map it was built with:
    `detached` is what is in that map once the provider has another one. -/
structure ListScreen where
  query : ListQuery
  detached : Option Doc := none
deriving DecidableEq

inductive Screen where
  | home
  | list (screen : ListScreen)
  /-- a `GenericPage`, opened for the page with these fields -/
  | page (own : PageFields)
  | form (mode : FormMode)
deriving DecidableEq

inductive Waiting where
  | nothing
  /-- the add button: the list below loads anew -/
  | reset
  /-- the connection card -/
  | removeConnection
  /-- the create-from button -/
  | removeCreateFromPage
  /-- a create-from form that has pushed the page of the document it has created -/
  | pop
deriving DecidableEq, Repr

structure Route where
  screen : Screen
  /-- the route carries the name `CONNECTION_ROUTE` -/
  named : Bool := false
  waiting : Waiting := .nothing
deriving DecidableEq

structure App where
  provider : ModuleProvider := {}
  /-- the top route first -/
  routes : List Route := [⟨.home, false, .nothing⟩]
  /-- the routes that the last press has completed, each on top of its stack, with the provider it found -/
  completed : List (ModuleProvider × List Route) := []
deriving DecidableEq

/-- How the submit of a form ends: it fails, or it succeeds with the id of the new document, if the response
    has one. -/
inductive SubmitResult where
  | fails
  | succeeds (id : Option String)

/-- The buttons. A page that they load comes with the reply of the server, none when the request fails. A form is submitted
    with the name that its data has, if it is a text. -/
inductive AppEvent where
  | openModule (doctype : String)
  | openTransaction (doctype id : String) (reply : Option ServerPage)
  | createFromDashboard (doctype : String)
  | openCard (id : String) (reply : Option ServerPage)
  | add
  | applyFilter (values : Doc)
  | loadMore
  | edit
  | duplicate
  | amend
  | createFrom (pageData : Doc) (doctype : String)
  | openConnection (doctype : String)
  | home
  | submit (name : Option String) (result : SubmitResult) (reply : Option ServerPage)
  | back (reply : Option ServerPage)

namespace Route

def isForm (r : Route) : Bool :=
  match r.screen with
  | .form _ => true
  | _ => false

/-- The taking down of a form resets the creation form, and what waits for the route runs. -/
def complete (r : Route) (p : ModuleProvider) : ModuleProvider :=
  let p := if r.isForm then p.resetCreationForm else p
  match r.waiting with
  | .nothing | .reset | .pop => p
  | .removeConnection => p.removeConnection.state
  | .removeCreateFromPage => p.iAmCreatingAForm.removeCreateFromPage.state

def popsNext (r : Route) : Bool := r.waiting = .pop

def navigator : Navigator.Semantics Route ModuleProvider := ⟨complete, popsNext⟩

end Route

namespace App
open Navigator

def push (s : App) (r : Route) : App := { s with routes := r :: s.routes }

def pop (s : App) : App :=
  let (p, rs) := Navigator.pop Route.navigator s.provider s.routes
  ⟨p, rs, s.completed ++ popped Route.navigator s.provider s.routes⟩

def pushReplacement (s : App) (r : Route) : App :=
  let (p, rs) := Navigator.pushReplacement Route.navigator s.provider r s.routes
  ⟨p, rs, s.completed ++ replaced Route.navigator s.provider r s.routes⟩

section
variable {p : ModuleProvider} {r new : Route} {rs : List Route}

theorem popsNext_eq_false (h : r.waiting ≠ .pop) : Route.navigator.popsNext r = false := decide_eq_false h

theorem popsNext_eq_true (h : r.waiting = .pop) : Route.navigator.popsNext r = true := decide_eq_true h

variable {done : List (ModuleProvider × List Route)}

theorem pop_cons (h : r.waiting ≠ .pop) :
    App.pop ⟨p, r :: rs, done⟩ = ⟨r.complete p, rs, done ++ popped Route.navigator p (r :: rs)⟩ := by
  rw [App.pop, Navigator.pop_cons (popsNext_eq_false h)]
  rfl

theorem pushReplacement_cons (h : r.waiting ≠ .pop) :
    App.pushReplacement ⟨p, r :: rs, done⟩ new =
      ⟨r.complete p, new :: rs, done ++ replaced Route.navigator p new (r :: rs)⟩ := by
  rw [App.pushReplacement, Navigator.pushReplacement_cons (popsNext_eq_false h)]
  rfl

theorem pushReplacement_cons_next (h : r.waiting = .pop) (hnew : new.waiting ≠ .pop) :
    App.pushReplacement ⟨p, r :: rs, done⟩ new =
      ⟨new.complete (r.complete p), rs, done ++ replaced Route.navigator p new (r :: rs)⟩ := by
  rw [App.pushReplacement, Navigator.pushReplacement_cons_next (popsNext_eq_true h) (popsNext_eq_false hnew)]
  rfl

end

def loadedPage (p : ModuleProvider) (id : String) (reply : Option ServerPage) : ModuleProvider :=
  match p.pushPage id with
  | (p, some _) => (p.endLoadPage (responseBody reply)).state
  | (p, none) => p

def reloadedPage (p : ModuleProvider) (reply : Option ServerPage) : ModuleProvider :=
  match p.startLoadPage with
  | (p, some _) => (p.endLoadPage (responseBody reply)).state
  | (p, none) => p

theorem reloadedPage_frame (p : ModuleProvider) (reply : Option ServerPage) :
    ∃ page docstatus pdf loading, reloadedPage p reply = { p with
      pageData := page, pageSubmitStatus := docstatus, availablePdfFormat := pdf, isLoading := loading } := by
  rw [reloadedPage, ModuleProvider.startLoadPage]
  generalize p.currentModule.map _ = request
  cases request with
  | none => exact ⟨p.pageData, p.pageSubmitStatus, p.availablePdfFormat, true, rfl⟩
  | some r =>
    obtain ⟨page, docstatus, pdf, hend⟩ := endLoadPage_frame { p with isLoading := true } reply
    exact ⟨page, docstatus, pdf, false, hend⟩

theorem loadedPage_frame (p : ModuleProvider) (id : String) (reply : Option ServerPage) :
    ∃ page docstatus pdf loading, loadedPage p id reply = { p with
      pageId := id, editPage := false
      pageData := page, pageSubmitStatus := docstatus, availablePdfFormat := pdf, isLoading := loading } := by
  obtain ⟨page, docstatus, pdf, loading, h⟩ := reloadedPage_frame
    { p with availablePdfFormat := false, pageData := [], isLoading := true, editPage := false, pageId := id } reply
  exact ⟨page, docstatus, pdf, loading, h⟩

/-- The mount of a module list adds the default sorting to the filters it finds. -/
def sortDefaults (p : ModuleProvider) : ModuleProvider :=
  { p with filter := (p.filter.set "sort_field" (.str "modified")).set "sort_type" (.str "desc") }

/-- A page is opened for the fields the provider has once it is loaded. -/
def pageRoute (p : ModuleProvider) (named : Bool) (waiting : Waiting) : Route := ⟨.page p.pageFields, named, waiting⟩

/-- The page below a form shows its document as it has been saved. -/
def refreshed (p : ModuleProvider) (r : Route) : Route :=
  match r.screen with
  | .page own =>
    if own.pageId = p.pageId ∧ own.currentModule = p.currentModule then { r with screen := .page p.pageFields } else r
  | _ => r

def refreshTop (s : App) : App :=
  match s.routes with
  | [] => s
  | r :: rs => { s with routes := refreshed s.provider r :: rs }

def openForm (s : App) (p : ModuleProvider) (mode : FormMode) (waiting : Waiting) : App :=
  { s with provider := p }.push ⟨.form mode, false, waiting⟩

/-- The tile of a module: a doctype without a module opens nothing. -/
def openModule (s : App) (doctype : String) : App :=
  let p := s.provider.setModule doctype
  match p.currentModule with
  | none => { s with provider := p }
  | some m =>
    if m.title = doctype then
      let p := sortDefaults p
      { s with provider := p }.push ⟨.list ⟨⟨m, none, none, p.filter⟩, none⟩, false, .nothing⟩
    else { s with provider := p }

/-- The connection card. The module is there when `pushConnection` is done. -/
def openConnection (s : App) (doctype : String) : App :=
  match s.provider.pushConnection doctype with
  | .threw p => { s with provider := p }
  | .done p =>
    let p := sortDefaults p
    p.listQuery.elim { s with provider := p } fun query =>
      let route : Route := ⟨.list ⟨query, none⟩, true, .removeConnection⟩
      if s.provider.isSecondModule then
        { s with provider := p, routes := pushAndRemoveUntil route (fun r => !r.named) s.routes }
      else { s with provider := p }.push route

/-- The form that is open calls the amending function, which amends. -/
def amending (p : ModuleProvider) : Bool := p.amendDoc && p.currentModule.any (·.form.amends)

/-- The amending function runs before the request is sent; without a name in the form's data it throws. -/
def startSubmit (p : ModuleProvider) (name : Option String) : Option ModuleProvider :=
  if amending p then name.map fun name => { p with previousPageId := name, isAmended := true } else some p

/-- The forms whose `submit` has a branch for the create-from mode. -/
def fillsFromPage : ModuleType → Bool
  | .lead | .customerVisit | .address | .contact | .item | .supplier | .employee | .leaveApplication
  | .employeeCheckin | .attendanceRequest | .employeeAdvance | .expenseClaim | .loanApplication | .journalEntry => false
  | _ => true

/-- The forms that go on to that branch after an edit. -/
def goesOnAfterEdit : ModuleType → Bool
  | .customer | .opportunity | .deliveryNote | .quotation => true
  | _ => false

def popsOnFailedEdit : ModuleType → Bool
  | .lead | .customer | .opportunity => true
  | _ => false

/-- `submit` of the form of the current module. -/
def submit (s : App) (name : Option String) (result : SubmitResult) (reply : Option ServerPage) : App :=
  match startSubmit s.provider name with
  | none => s
  | some p =>
    let s := { s with provider := p }
    match result with
    | .fails => if p.editPage ∧ p.currentModule.any popsOnFailedEdit then s.pop else s
    | .succeeds id =>
      if p.editPage then
        let s := { s with provider := reloadedPage p reply }.pop.refreshTop
        -- its `then` pops by the context of the form, which is gone by then
        if p.createFromPage ∧ p.currentModule.any goesOnAfterEdit then s.push (pageRoute s.provider false .nothing) else s
      else if p.createFromPage ∧ p.currentModule.any fillsFromPage then
        let p := id.elim p fun id => loadedPage p id reply
        { s with provider := p }.push (pageRoute p false .pop)
      else
        id.elim s fun id =>
          let p := loadedPage p id reply
          { s with provider := p }.pushReplacement (pageRoute p false .nothing)

/-- The arrow of the app bar. On a page that has just been amended it goes back by way of the amended one. -/
def back (s : App) (reply : Option ServerPage) : App :=
  match s.routes with
  | ⟨.page _, _, _⟩ :: _ =>
    if s.provider.isAmended then
      let p := loadedPage s.provider s.provider.previousPageId reply
      let s := { s with provider := p }.pushReplacement (pageRoute p false .nothing)
      { s with provider := { s.provider with isAmended := false } }.pop.refreshTop
    else s.pop
  | _ => s.pop

/-- A list when the user applies filters: it loads anew unless they are those it has. -/
def filtered (current values : Doc) (r : Route) : Route :=
  match r.screen with
  | .list l =>
    if values = current then { r with screen := .list { l with detached := some values } }
    else { r with screen := .list ⟨{ l.query with filters := values }, none⟩ }
  | _ => r

/-- The user applies filters on the list on show, which every list that is built sees. -/
def applyFilter (s : App) (values : Doc) : App :=
  { s with
    provider := s.provider.setFilter values
    routes := s.routes.map (filtered s.provider.filter values) }

/-- A button of the screen on top. -/
def press (s : App) (e : AppEvent) : Option App :=
  match s.routes with
  | [] => none
  | top :: below =>
    match e, top.screen with
    | .openModule doctype, .home => some (s.openModule doctype)
    | .openTransaction doctype id reply, .home =>
      let p := loadedPage (s.provider.setModule doctype) id reply
      some ({ s with provider := p }.push (pageRoute p false .nothing))
    | .createFromDashboard doctype, .home =>
      some (s.openForm (s.provider.setModule doctype).iAmCreatingAForm .new .nothing)
    | .openCard id reply, .list _ =>
      let p := loadedPage s.provider id reply
      some ({ s with provider := p }.push (pageRoute p top.named .nothing))
    | .add, .list _ => some (s.openForm s.provider.iAmCreatingAForm .new .reset)
    | .applyFilter values, .list _ => some (s.applyFilter values)
    | .loadMore, .list _ => some s
    | .edit, .page _ => some (s.openForm s.provider.editThisPage .edit .nothing)
    | .duplicate, .page _ => some (s.openForm (s.provider.setDuplicateMode true) .duplicate .nothing)
    | .amend, .page _ => some (s.openForm (s.provider.setAmendDoc true) .amend .nothing)
    | .createFrom pageData doctype, .page _ =>
      some (s.openForm (s.provider.pushCreateFromPage pageData doctype) .createFrom .removeCreateFromPage)
    | .openConnection doctype, .page _ => some (s.openConnection doctype)
    | .home, .page _ | .home, .list _ => some (s.pushReplacement ⟨.home, false, .nothing⟩)
    | .submit name result reply, .form _ => some (s.submit name result reply)
    | .back reply, _ => if below = [] then none else some (s.back reply)
    | _, _ => none

def rebuilt (filter : Doc) (r : Route) : Route :=
  match r.screen with
  | .list ⟨query, some values⟩ =>
    if values = filter then r else { r with screen := .list ⟨{ query with filters := filter }, none⟩ }
  | _ => r

/-- A press, after which the lists whose filters have changed are built anew. -/
def step (s : App) (e : AppEvent) : Option App :=
  (press { s with completed := [] } e).map fun t => { t with routes := t.routes.map (rebuilt t.provider.filter) }

/-! ### Requests of the lists -/

def lists (rs : List Route) : List ListScreen :=
  rs.filterMap fun r =>
    match r.screen with
    | .list l => some l
    | _ => none

/-- A request of a list: the query that the list is there for, and what the request carries, which is none when
    it throws. -/
structure ListRequest where
  due : ListQuery
  sent : Option ListQuery
deriving DecidableEq

/-- The request of the list on top: the first one when the press has opened it. -/
def mounts (t : App) : List ListRequest :=
  match t.routes with
  | ⟨.list l, _, _⟩ :: _ => [⟨l.query, t.provider.listQuery⟩]
  | _ => []

/-- The lists that load anew for other filters: the user has changed those of the list on top. -/
def filters (s : App) (values : Doc) : List ListRequest :=
  match lists s.routes with
  | [] => []
  | l :: ls =>
    ⟨{ l.query with filters := values }, (s.provider.setFilter values).listQuery⟩ ::
      ls.map fun l => ⟨l.query, (s.provider.setFilter values).listQuery⟩

/-- The lists that load anew as the form that adds to them completes. -/
def resets (t : App) : List ListRequest :=
  t.completed.filterMap fun x =>
    match x.2 with
    | r :: ⟨.list l, _, _⟩ :: _ => if r.waiting = .reset then some ⟨l.query, (r.complete x.1).listQuery⟩ else none
    | _ => none

/-- The lists that are built anew since their filters have changed. -/
def rebuilds (t : App) : List ListRequest :=
  (lists t.routes).filterMap fun l =>
    if l.detached.any (· ≠ t.provider.filter) then some ⟨l.query, t.provider.listQuery⟩ else none

/-- The list requests of a press on `s` that leads to `t`. -/
def requests (s : App) (e : AppEvent) (t : App) : List ListRequest :=
  (match e with
    | .openModule _ | .openConnection _ | .loadMore => mounts t
    | .applyFilter values => if values = s.provider.filter then [] else s.filters values
    | _ => []) ++ t.resets ++ t.rebuilds

/-! ### What the presses do -/

/-- The filters of a list that has just been opened. -/
def defaultFilters : Doc := [("sort_field", .str "modified"), ("sort_type", .str "desc")]

theorem sortDefaults_setModule (p : ModuleProvider) (doctype : String) :
    sortDefaults (p.setModule doctype) = { p.setModule doctype with filter := defaultFilters } := rfl

/-- A tile opens the list of its module, or does nothing but set the module and clear the filters. -/
theorem openModule_cases (s : App) (doctype : String) :
    (∃ m, (s.provider.setModule doctype).currentModule = some m ∧ m.title = doctype ∧
        s.openModule doctype =
          ({ s with provider := { s.provider.setModule doctype with filter := defaultFilters } } : App).push
            ⟨.list ⟨⟨m, none, none, defaultFilters⟩, none⟩, false, .nothing⟩) ∨
      ((∀ m, (s.provider.setModule doctype).currentModule = some m → m.title ≠ doctype) ∧
        s.openModule doctype = { s with provider := s.provider.setModule doctype }) := by
  rw [openModule]
  cases hm : (s.provider.setModule doctype).currentModule with
  | none => exact Or.inr ⟨fun m h => (nomatch h), rfl⟩
  | some m =>
    by_cases htitle : m.title = doctype
    · refine Or.inl ⟨m, rfl, htitle, ?_⟩
      simp only [htitle, if_true, sortDefaults_setModule]
    · refine Or.inr ⟨fun m' h => by cases h; exact htitle, ?_⟩
      simp only [htitle, if_false]

def connected (p : ModuleProvider) (m : ModuleType) (doctype : String) : ModuleProvider :=
  { p with
    currentModule := some ((ModuleType.ofDoctype? doctype).getD m)
    filterById := some p.pageId
    connection := some m.genericListService
    oldData := if p.isSecondModule then p.oldData else ModuleProvider.saveFields p.oldData p
    filter := defaultFilters }

def connectionRoute (p : ModuleProvider) (m : ModuleType) (doctype : String) : Route :=
  ⟨.list ⟨⟨(ModuleType.ofDoctype? doctype).getD m, some p.pageId, some m.genericListService, defaultFilters⟩, none⟩,
    true, .removeConnection⟩

theorem openConnection_of_none {s : App} (h : s.provider.currentModule = none) (doctype : String) :
    s.openConnection doctype = { s with provider := { s.provider with filterById := some s.provider.pageId } } := by
  rw [openConnection, ModuleProvider.pushConnection_of_none h]

theorem openConnection_of_module {s : App} {m : ModuleType} (h : s.provider.currentModule = some m) (doctype : String) :
    s.openConnection doctype =
      { s with
        provider := connected s.provider m doctype
        routes := connectionRoute s.provider m doctype ::
          if s.provider.isSecondModule then s.routes.dropWhile (·.named) else s.routes } := by
  have hmodule : (ModuleType.ofDoctype? doctype).or (some m) = some ((ModuleType.ofDoctype? doctype).getD m) := by
    cases ModuleType.ofDoctype? doctype <;> rfl
  rw [openConnection, ModuleProvider.pushConnection_of_module h]
  simp only [sortDefaults_setModule]
  simp only [ModuleProvider.listQuery, ModuleProvider.setModule, h, hmodule, Option.map_some, Option.elim_some,
    pushAndRemoveUntil, Bool.not_not, connected, connectionRoute]
  split <;> rfl

/-- What a press does, by the screen on top and its button. -/
inductive Pressed (s : App) (top : Route) (below : List Route) : AppEvent → App → Prop where
  | openModule (doctype : String) (htop : top.screen = .home) : Pressed s top below (.openModule doctype) (s.openModule doctype)
  | openTransaction (doctype id : String) (reply : Option ServerPage) (htop : top.screen = .home) :
      Pressed s top below (.openTransaction doctype id reply)
        ({ s with provider := loadedPage (s.provider.setModule doctype) id reply }.push
          (pageRoute (loadedPage (s.provider.setModule doctype) id reply) false .nothing))
  | createFromDashboard (doctype : String) (htop : top.screen = .home) :
      Pressed s top below (.createFromDashboard doctype)
        (s.openForm (s.provider.setModule doctype).iAmCreatingAForm .new .nothing)
  | openCard (l : ListScreen) (id : String) (reply : Option ServerPage) (htop : top.screen = .list l) :
      Pressed s top below (.openCard id reply)
        ({ s with provider := loadedPage s.provider id reply }.push
          (pageRoute (loadedPage s.provider id reply) top.named .nothing))
  | add (l : ListScreen) (htop : top.screen = .list l) :
      Pressed s top below .add (s.openForm s.provider.iAmCreatingAForm .new .reset)
  | applyFilter (l : ListScreen) (values : Doc) (htop : top.screen = .list l) :
      Pressed s top below (.applyFilter values) (s.applyFilter values)
  | loadMore (l : ListScreen) (htop : top.screen = .list l) : Pressed s top below .loadMore s
  | edit (own : PageFields) (htop : top.screen = .page own) :
      Pressed s top below .edit (s.openForm s.provider.editThisPage .edit .nothing)
  | duplicate (own : PageFields) (htop : top.screen = .page own) :
      Pressed s top below .duplicate (s.openForm (s.provider.setDuplicateMode true) .duplicate .nothing)
  | amend (own : PageFields) (htop : top.screen = .page own) :
      Pressed s top below .amend (s.openForm (s.provider.setAmendDoc true) .amend .nothing)
  | createFrom (own : PageFields) (pageData : Doc) (doctype : String) (htop : top.screen = .page own) :
      Pressed s top below (.createFrom pageData doctype)
        (s.openForm (s.provider.pushCreateFromPage pageData doctype) .createFrom .removeCreateFromPage)
  | openConnection (own : PageFields) (doctype : String) (htop : top.screen = .page own) :
      Pressed s top below (.openConnection doctype) (s.openConnection doctype)
  | homeOfPage (own : PageFields) (htop : top.screen = .page own) :
      Pressed s top below .home (s.pushReplacement ⟨.home, false, .nothing⟩)
  | homeOfList (l : ListScreen) (htop : top.screen = .list l) :
      Pressed s top below .home (s.pushReplacement ⟨.home, false, .nothing⟩)
  | submit (mode : FormMode) (name : Option String) (result : SubmitResult) (reply : Option ServerPage)
      (htop : top.screen = .form mode) : Pressed s top below (.submit name result reply) (s.submit name result reply)
  | back (reply : Option ServerPage) (hbelow : below ≠ []) : Pressed s top below (.back reply) (s.back reply)

theorem pressed_of_press {s t : App} {e : AppEvent} (h : s.press e = some t) :
    ∃ top below, s.routes = top :: below ∧ Pressed s top below e t := by
  rw [press] at h
  split at h
  · cases h
  · rename_i top below hroutes
    refine ⟨top, below, hroutes, ?_⟩
    split at h
    case h_16 =>
      split at h
      · cases h
      · cases h
        exact .back _ ‹_›
    case h_17 => cases h
    all_goals
      cases h
      first
        | exact .openModule _ ‹_›
        | exact .openTransaction _ _ _ ‹_›
        | exact .createFromDashboard _ ‹_›
        | exact .openCard _ _ _ ‹_›
        | exact .add _ ‹_›
        | exact .applyFilter _ _ ‹_›
        | exact .loadMore _ ‹_›
        | exact .edit _ ‹_›
        | exact .duplicate _ ‹_›
        | exact .amend _ ‹_›
        | exact .createFrom _ _ _ ‹_›
        | exact .openConnection _ _ ‹_›
        | exact .homeOfPage _ ‹_›
        | exact .homeOfList _ ‹_›
        | exact .submit _ _ _ _ ‹_›

theorem pressed_of_step {s t : App} {e : AppEvent} (h : s.step e = some t) :
    ∃ top below u, s.routes = top :: below ∧ Pressed { s with completed := [] } top below e u ∧
      t = { u with routes := u.routes.map (rebuilt u.provider.filter) } := by
  obtain ⟨u, hu, rfl⟩ := Option.map_eq_some_iff.mp h
  obtain ⟨top, below, hroutes, hpressed⟩ := pressed_of_press hu
  exact ⟨top, below, u, hroutes, hpressed, rfl⟩

/-- The app bar has its arrow on every route but the last. -/
theorem step_back {s : App} {top : Route} {below : List Route} (hroutes : s.routes = top :: below) (hbelow : below ≠ [])
    (reply : Option ServerPage) :
    ∃ u, u = back { s with completed := [] } reply ∧
      s.step (.back reply) = some { u with routes := u.routes.map (rebuilt u.provider.filter) } := by
  refine ⟨_, rfl, ?_⟩
  rw [step, press, hroutes]
  simp [hbelow]

end App
end NextApp
