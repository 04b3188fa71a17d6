import NextApp.Theorems.Connection

/-! # The query of a list

The lists read the module, the connection and the filters of the provider when they make a request. A list
that stays below other routes is right again as long as these leave it the query it had. The filters are
cleared by every press that sets the module and nothing brings them back, the module and the connection come
back with the saved page fields. -/

namespace NextApp.ListQueries
open App Navigator Routes Connections

variable {p q : ModuleProvider} {r top : Route} {rs below : List Route} {s t : App} {e : AppEvent}

/-- A list on top finds its query in the provider, and was built with the filters that are there. Only the list
    of a connection has one. -/
def Fits (p : ModuleProvider) : List Route → Prop
  | ⟨.list l, _, waiting⟩ :: _ =>
    p.listQuery = some l.query ∧ (∀ values ∈ l.detached, values = p.filter) ∧
      (waiting ≠ .removeConnection → l.query.connection = none ∧ l.query.filterById = none)
  | _ => True

theorem fits_plain (h : ∀ l, r.screen ≠ .list l) : Fits p (r :: rs) := by
  obtain ⟨screen, named, waiting⟩ := r
  cases screen with
  | list l => exact absurd rfl (h l)
  | home | page | form => trivial

theorem fits_aboutLists : AboutLists Fits where
  congr p q rs h hfits := by
    have hquery : p.listQuery = q.listQuery := by
      simp only [navFields, NavFields.mk.injEq] at h
      simp only [ModuleProvider.listQuery, h.1, h.2.1, h.2.2.1, h.2.2.2.1]
    have hfilter : p.filter = q.filter := congrArg NavFields.filter h
    unfold Fits at *
    split
    · rwa [hquery, hfilter] at hfits
    · trivial
  plain p r rs _ hlist _ := fits_plain hlist
  card p l named waiting rs own _ := trivial
  refreshed p q r rs h := by
    rcases refreshed_cases q r with hr | ⟨own, own', -, hr⟩
    · rwa [hr]
    · rw [hr]
      exact fits_plain fun l hl => by cases hl
  rebuilt p rs h := by
    cases rs with
    | nil => trivial
    | cons r rs =>
      obtain ⟨screen, named, waiting⟩ := r
      cases screen with
      | list l =>
        obtain ⟨query, detached⟩ := l
        obtain ⟨hquery, hdetached, hnone⟩ := h
        cases detached with
        | none => exact ⟨hquery, hdetached, hnone⟩
        | some values =>
          have hsame : values = p.filter := hdetached values rfl
          rw [List.map_cons, rebuilt]
          dsimp only
          rw [if_pos hsame]
          exact ⟨hquery, hdetached, hnone⟩
      | home | page | form => exact fits_plain fun l hl => by cases hl

/-! ### The lists below -/

theorem lists_cons_of_list {l : ListScreen} (h : r.screen = .list l) : lists (r :: rs) = l :: lists rs := by
  simp [lists, h]

theorem lists_cons_of_not (h : ∀ l, r.screen ≠ .list l) : lists (r :: rs) = lists rs := by
  obtain ⟨screen, named, waiting⟩ := r
  cases screen with
  | list l => exact absurd rfl (h l)
  | home | page | form => rfl

theorem screen_cases (r : Route) : (∃ l, r.screen = .list l) ∨ ∀ l, r.screen ≠ .list l := by
  obtain ⟨screen, named, waiting⟩ := r
  cases screen with
  | list l => exact Or.inl ⟨l, rfl⟩
  | home | page | form => exact Or.inr fun l hl => nomatch hl

theorem unwinds_of_no_lists (h : lists rs = []) : Unwinds Route.navigator Fits p rs := by
  induction rs generalizing p with
  | nil => trivial
  | cons r rs ih =>
    rcases screen_cases r with ⟨l, hl⟩ | hl
    · rw [lists_cons_of_list hl] at h
      cases h
    · rw [lists_cons_of_not hl] at h
      exact ⟨fits_plain hl, ih h⟩

theorem fits_list {l : ListScreen} (h : Fits p (r :: rs)) (hl : r.screen = .list l) :
    p.listQuery = some l.query ∧ (∀ values ∈ l.detached, values = p.filter) ∧
      (r.waiting ≠ .removeConnection → l.query.connection = none ∧ l.query.filterById = none) := by
  obtain ⟨screen, named, waiting⟩ := r
  cases hl
  exact h

theorem filter_of_listQuery {query : ListQuery} (h : p.listQuery = some query) : query.filters = p.filter := by
  obtain ⟨m, -, rfl⟩ := Option.map_eq_some_iff.mp h
  rfl

theorem listQuery_setFilter {query : ListQuery} (h : p.listQuery = some query) (values : Doc) :
    (p.setFilter values).listQuery = some { query with filters := values } := by
  obtain ⟨m, hm, rfl⟩ := Option.map_eq_some_iff.mp h
  simp only [ModuleProvider.listQuery, ModuleProvider.setFilter, hm, Option.map_some]

theorem lists_map_eq_nil {f : Route → Route} (hf : Relists f) (h : lists rs = []) : lists (rs.map f) = [] := by
  induction rs with
  | nil => rfl
  | cons r rs ih =>
    rcases screen_cases r with ⟨l, hl⟩ | hl
    · rw [lists_cons_of_list hl] at h
      cases h
    · have hsame : f r = r := by
        rcases hf r with hr | ⟨l, l', hl', -⟩
        · exact hr
        · exact absurd hl' (hl l)
      rw [List.map_cons, hsame, lists_cons_of_not hl]
      rw [lists_cons_of_not hl] at h
      exact ih h

theorem filters_of_unwinds (h : Unwinds Route.navigator Fits p rs) :
    ∀ l ∈ lists rs, l.query.filters = p.filter ∧ ∀ values ∈ l.detached, values = p.filter := by
  induction rs generalizing p with
  | nil => exact fun l hl => absurd hl List.not_mem_nil
  | cons r rs ih =>
    have hbelow := ih h.2
    have hfilter : (Route.navigator.complete r p).filter = p.filter := filter_complete p r
    rw [hfilter] at hbelow
    rcases screen_cases r with ⟨l, hl⟩ | hl
    · obtain ⟨hquery, hdetached, -⟩ := fits_list h.1 hl
      rw [lists_cons_of_list hl]
      exact List.forall_mem_cons.mpr ⟨⟨filter_of_listQuery hquery, hdetached⟩, hbelow⟩
    · rwa [lists_cons_of_not hl]

/-- With no page fields saved no list has a connection, and neither has the provider. -/
theorem connection_eq_none {R : PageFields → PageFields → Prop} (h : Unwinds Route.navigator Fits p rs)
    (hsaved : Unwinds Route.navigator (Saved R) p rs) (hold : p.oldData = []) (hlists : lists rs ≠ []) :
    p.connection = none ∧ p.filterById = none := by
  induction rs generalizing p with
  | nil => exact absurd rfl hlists
  | cons r rs ih =>
    have hwaiting : r.waiting ≠ .removeConnection := by
      intro hwaiting
      obtain ⟨-, -, own, waiting, rest, f, -, hread, -⟩ := hsaved.1.1 hwaiting
      rw [hold] at hread
      cases hread
    rcases screen_cases r with ⟨l, hl⟩ | hl
    · obtain ⟨hquery, -, hnone⟩ := fits_list h.1 hl
      obtain ⟨m, -, hm⟩ := Option.map_eq_some_iff.mp hquery
      have := hnone hwaiting
      rw [← hm] at this
      exact this
    · have hold' : (Route.navigator.complete r p).oldData = [] := by
        refine (oldData_complete p r).trans ?_
        rw [if_neg hwaiting, hold]
      obtain ⟨hconn, hid⟩ := ih h.2 hsaved.2 hold' (by rwa [lists_cons_of_not hl] at hlists)
      obtain ⟨hconn', hid'⟩ := connection_complete p hwaiting
      exact ⟨hconn'.symm.trans hconn, hid'.symm.trans hid⟩

/-! ### Presses that set the module or the filters -/

/-- The routes that stay below the list of a new connection. -/
def remaining (s : App) : List Route := if s.provider.isSecondModule then s.routes.dropWhile (·.named) else s.routes

/-- A press that sets the module, or the filters, leaves the lists below the query they have. -/
def KeepsQueries (s : App) : AppEvent → Prop
  | .openModule doctype =>
    let p := s.provider.setModule doctype
    if p.currentModule.map ModuleType.title = some doctype then
      s.provider.connection = none ∧ s.provider.filterById = none ∧
        (lists s.routes = [] ∨ p.currentModule = s.provider.currentModule ∧ s.provider.filter = defaultFilters)
    else lists s.routes = [] ∨ p.currentModule = s.provider.currentModule ∧ s.provider.filter = []
  | .openTransaction doctype _ _ | .createFromDashboard doctype =>
    lists s.routes = [] ∨
      (s.provider.setModule doctype).currentModule = s.provider.currentModule ∧ s.provider.filter = []
  | .createFrom _ _ => lists s.routes = [] ∨ s.provider.isSecondCreateFromPage = false ∧ s.provider.filter = []
  | .openConnection _ =>
    if s.provider.currentModule = none then lists s.routes = []
    else (s.provider.isSecondModule = true → s.routes.head?.any (·.named) = true) ∧
      (lists (remaining s) = [] ∨ s.provider.filter = defaultFilters)
  | .applyFilter values => values = s.provider.filter ∨ lists s.routes.tail = []
  | _ => True

instance (s : App) : DecidablePred (KeepsQueries s)
  | .openModule _ | .openTransaction _ _ _ | .createFromDashboard _ | .createFrom _ _ | .openConnection _ | .applyFilter _
  | .openCard _ _ | .add | .loadMore | .edit | .duplicate | .amend | .home | .submit _ _ _ | .back _ => by
    dsimp only [KeepsQueries]
    infer_instance

structure Settled (s : App) : Prop where
  fits : Kept Fits s
  saved : Kept (Saved fun _ _ => True) s

theorem kept_of_no_lists (h : Kept Fits s) (hlists : lists s.routes = []) : Kept Fits { s with provider := q } :=
  ⟨unwinds_of_no_lists hlists, h.completed⟩

theorem kept_withProvider (h : Kept Fits s) (hq : lists s.routes = [] ∨ navFields q = navFields s.provider) :
    Kept Fits { s with provider := q } := by
  rcases hq with hlists | hq
  · exact kept_of_no_lists h hlists
  · exact h.withProvider fits_aboutLists hq

theorem navFields_setModule {doctype : String} {filter : Doc}
    (hmodule : (p.setModule doctype).currentModule = p.currentModule) (hfilter : p.filter = filter) :
    navFields { p.setModule doctype with filter := filter } = navFields p := by
  simp only [navFields, hmodule, hfilter]
  rfl

theorem fits_openModule (h : Kept Fits s) (doctype : String) (hguard : KeepsQueries s (.openModule doctype)) :
    Kept Fits (s.openModule doctype) := by
  rcases openModule_cases s doctype with ⟨m, hm, htitle, hopen⟩ | ⟨hnot, hopen⟩
  · rw [KeepsQueries, hm, Option.map_some, htitle, if_pos rfl, ← hm] at hguard
    obtain ⟨hconn, hid, hlists⟩ := hguard
    rw [hopen]
    refine Kept.push (kept_withProvider h (hlists.imp_right fun hkeep => navFields_setModule hkeep.1 hkeep.2))
      fits_aboutLists ⟨?_, fun _ hv => (by cases hv), fun _ => ⟨rfl, rfl⟩⟩ (Or.inl rfl)
    simp only [ModuleProvider.listQuery, hm, Option.map_some]
    exact congrArg some (congrArg₂ (fun id conn => ListQuery.mk m id conn defaultFilters) hid hconn)
  · have htitle : (s.provider.setModule doctype).currentModule.map ModuleType.title ≠ some doctype := by
      intro h
      obtain ⟨m, hm, htitle⟩ := Option.map_eq_some_iff.mp h
      exact hnot m hm htitle
    rw [KeepsQueries, if_neg htitle] at hguard
    rw [hopen]
    exact kept_withProvider h (hguard.imp_right fun hkeep => navFields_setModule hkeep.1 hkeep.2)

theorem fits_createFrom (h : Kept Fits s) (pageData : Doc) (doctype : String)
    (hguard : KeepsQueries s (.createFrom pageData doctype)) :
    Kept Fits (s.openForm (s.provider.pushCreateFromPage pageData doctype) .createFrom .removeCreateFromPage) := by
  refine ⟨⟨fits_plain fun _ hl => (by cases hl), ?_⟩, h.completed⟩
  rcases hguard with hlists | ⟨hsecond, hfilter⟩
  · exact unwinds_of_no_lists hlists
  · have hcreate : s.provider.createFromPageData = [] := by
      simpa [ModuleProvider.isSecondCreateFromPage] using hsecond
    refine fits_aboutLists.unwinds_congr h.unwinds ?_
    refine (navFields_complete_createFrom rfl (ModuleProvider.readFields?_saveFields _ _)).trans ?_
    simp only [navFields, hcreate, hfilter]
    rfl

theorem fits_applyFilter (h : Kept Fits s) (hroutes : s.routes = top :: below) {l : ListScreen} (htop : top.screen = .list l)
    (values : Doc) (hguard : KeepsQueries s (.applyFilter values)) : Kept Fits (s.applyFilter values) := by
  have hunwinds := h.unwinds
  obtain ⟨p, rs, done⟩ := s
  cases hroutes
  refine ⟨?_, h.completed⟩
  by_cases hsame : values = p.filter
  · -- the lists keep the map that they were built with
    subst hsame
    refine hunwinds.map (I := fun q => q.filter = p.filter) ?_ (relists_filtered p.filter p.filter).complete ?_ rfl
    · exact fun r q hq => (filter_complete q r).trans hq
    · intro q rs hq hfits
      cases rs with
      | nil => trivial
      | cons r rs =>
        rcases screen_cases r with ⟨l, hl⟩ | hl
        · obtain ⟨hquery, -, hnone⟩ := fits_list hfits hl
          rw [List.map_cons, filtered, hl]
          simp only [if_pos]
          exact ⟨hquery, fun v hv => by cases hv; exact hq.symm, hnone⟩
        · refine fits_plain fun l' hl' => ?_
          rcases relists_filtered p.filter p.filter r with hr | ⟨l'', -, hl'', -⟩
          · exact hl l' (hr ▸ hl')
          · exact hl l'' hl''
  · -- the list on top is the only one
    have hlists : lists below = [] := hguard.resolve_left hsame
    obtain ⟨hquery, -, hnone⟩ := fits_list hunwinds.1 htop
    obtain ⟨screen, named, waiting⟩ := top
    cases htop
    refine ⟨?_, unwinds_of_no_lists (lists_map_eq_nil (relists_filtered p.filter values) hlists)⟩
    rw [filtered]
    simp only [hsame, if_false]
    exact ⟨listQuery_setFilter hquery values, fun _ hv => (by cases hv), hnone⟩

theorem fits_openConnection (hs : Settled s) (hroutes : s.routes = top :: below) {own : PageFields}
    (htop : top.screen = .page own) (doctype : String) (hguard : KeepsQueries s (.openConnection doctype)) :
    Kept Fits (s.openConnection doctype) := by
  obtain ⟨p, rs, done⟩ := s
  have hfits := hs.fits.unwinds
  have hsaved := hs.saved.unwinds
  cases hroutes
  cases hm : p.currentModule with
  | none =>
    rw [KeepsQueries, if_pos hm] at hguard
    rw [openConnection_of_none hm]
    exact kept_of_no_lists hs.fits hguard
  | some m =>
    rw [KeepsQueries, if_neg (by simp [hm])] at hguard
    obtain ⟨hnamed, hlists⟩ := hguard
    rw [openConnection_of_module hm]
    refine ⟨⟨⟨rfl, fun _ hv => (by cases hv), fun hwaiting => absurd rfl hwaiting⟩, ?_⟩, hs.fits.completed⟩
    rw [remaining] at hlists
    cases hsecond : p.isSecondModule with
    | false =>
      simp only [hsecond, Bool.false_eq_true, if_false] at hlists ⊢
      have hold := oldData_eq_nil hsecond
      rcases Classical.em (lists (top :: below) = []) with hnone | hsome
      · exact unwinds_of_no_lists hnone
      · obtain ⟨hconn, hid⟩ : p.connection = none ∧ p.filterById = none := connection_eq_none hfits hsaved hold hsome
        refine fits_aboutLists.unwinds_congr hfits ?_
        have hread : ModuleProvider.readFields? (connected p m doctype).oldData = some p.pageFields := by
          simp only [connected, hsecond, Bool.false_eq_true, if_false, ModuleProvider.readFields?_saveFields]
        refine (navFields_complete_connection rfl rfl hread).trans ?_
        simp only [navFields, ModuleProvider.pageFields, connected, hconn, hid, hold, hlists.resolve_left hsome]
    | true =>
      simp only [hsecond, if_true] at hlists ⊢
      have htopNamed : top.named = true := hnamed hsecond
      obtain ⟨r', own', waiting', rest, f, hrs, hnamed', hr', hnothing, hread, -⟩ :=
        routes_of_named hsaved ⟨own, htop⟩ htopNamed
      cases hrs
      have hdrop : List.dropWhile (fun r : Route => r.named) (top :: r' :: ⟨.page own', false, waiting'⟩ :: rest) =
          ⟨.page own', false, waiting'⟩ :: rest := by simp [htopNamed, hnamed']
      rw [hdrop] at hlists ⊢
      rcases hlists with hnone | hfilter
      · exact unwinds_of_no_lists hnone
      · refine fits_aboutLists.unwinds_congr hfits.2.2 ?_
        have hread' : ModuleProvider.readFields? (connected p m doctype).oldData = some f := by
          simp only [connected, hsecond, if_true, hread]
        have hform : r'.isForm = false := by
          obtain ⟨-, l, hl⟩ := hr'
          simp only [Route.isForm, hl]
        calc navFields ((connectionRoute p m doctype).complete (connected p m doctype))
            = ⟨f.currentModule, none, none, defaultFilters, [], p.createFromPageData⟩ :=
              navFields_complete_connection rfl rfl hread'
          _ = ⟨f.currentModule, none, none, p.filter, [], p.createFromPageData⟩ := by rw [hfilter]
          _ = navFields (r'.complete p) := (navFields_complete_connection hform hr'.1 hread).symm
          _ = navFields (r'.complete (top.complete p)) :=
              navFields_complete_congr (navFields_complete p (Or.inl hnothing)).symm r'

theorem connects_of_keepsQueries (h : KeepsQueries s e) : Connects (fun _ _ => True) s e := by
  cases e with
  | openConnection doctype =>
    simp only [Connects]
    split
    · rename_i own named waiting below hroutes
      intro hm
      rw [KeepsQueries, if_neg hm, hroutes] at h
      split
      · exact h.1 ‹_›
      · trivial
    · trivial
  | _ => trivial

theorem fits_pressed (hs : Settled s) (hroutes : s.routes = top :: below) (hpressed : Pressed s top below e t)
    (hguard : KeepsQueries s e) : Kept Fits t := by
  have hP := fits_aboutLists
  have hset : ∀ {doctype : String}, (lists s.routes = [] ∨
      (s.provider.setModule doctype).currentModule = s.provider.currentModule ∧ s.provider.filter = []) →
      lists s.routes = [] ∨ navFields (s.provider.setModule doctype) = navFields s.provider :=
    fun h => h.imp_right fun ⟨hmodule, hfilter⟩ => navFields_setModule hmodule hfilter
  cases hpressed with
  | openModule doctype htop => exact fits_openModule hs.fits doctype hguard
  | openTransaction doctype id reply htop =>
    have hload := navFields_loadedPage (s.provider.setModule doctype) id reply
    exact (kept_withProvider hs.fits ((hset hguard).imp_right hload.trans)).pushPlain hP rfl (fun _ hl => nomatch hl)
      (Or.inl rfl)
  | createFromDashboard doctype htop =>
    have hfits : Kept Fits { s with provider := (s.provider.setModule doctype).iAmCreatingAForm } :=
      kept_withProvider hs.fits ((hset hguard).imp_right fun h => h)
    exact hfits.openForm hP rfl (Or.inl rfl)
  | createFrom own pageData doctype htop => exact fits_createFrom hs.fits pageData doctype hguard
  | openConnection own doctype htop => exact fits_openConnection hs hroutes htop doctype hguard
  | applyFilter l values htop => exact fits_applyFilter hs.fits hroutes htop values hguard
  | openCard l id reply htop => exact hs.fits.pressed hP hroutes (.openCard l id reply htop) rfl
  | add l htop => exact hs.fits.pressed hP hroutes (.add l htop) rfl
  | loadMore l htop => exact hs.fits
  | edit own htop => exact hs.fits.pressed hP hroutes (.edit own htop) rfl
  | duplicate own htop => exact hs.fits.pressed hP hroutes (.duplicate own htop) rfl
  | amend own htop => exact hs.fits.pressed hP hroutes (.amend own htop) rfl
  | homeOfPage own htop => exact hs.fits.pressed hP hroutes (.homeOfPage own htop) rfl
  | homeOfList l htop => exact hs.fits.pressed hP hroutes (.homeOfList l htop) rfl
  | submit mode name result reply htop => exact hs.fits.pressed hP hroutes (.submit mode name result reply htop) rfl
  | back reply hbelow => exact hs.fits.pressed hP hroutes (.back reply hbelow) rfl

/-! ### The requests -/

/-- Every list request of a press carries the query that the list is there for. -/
def AsksForItsOwn (s : App) (e : AppEvent) (_ : App) : Prop :=
  ∀ t ∈ App.press { s with completed := [] } e, ∀ a ∈ requests s e t, a.sent = none ∨ a.sent = some a.due

instance (s : App) (e : AppEvent) (t : App) : Decidable (AsksForItsOwn s e t) := by
  unfold AsksForItsOwn
  infer_instance

theorem mounts_right (h : Kept Fits t) : ∀ a ∈ mounts t, a.sent = some a.due := by
  intro a ha
  rw [mounts] at ha
  split at ha
  · rename_i l named waiting rest hroutes
    obtain rfl := List.mem_singleton.mp ha
    have hfits := h.unwinds.head
    rw [hroutes] at hfits
    exact hfits.1
  · exact absurd ha List.not_mem_nil

/-- The list on top has the filters that the user applies, and it is the only one. -/
theorem filters_right (h : Kept Fits s) (hroutes : s.routes = top :: below) {l : ListScreen} (htop : top.screen = .list l)
    (hlists : lists below = []) (values : Doc) : ∀ a ∈ s.filters values, a.sent = some a.due := by
  intro a ha
  rw [App.filters, hroutes, lists_cons_of_list htop, hlists] at ha
  obtain rfl := List.mem_singleton.mp ha
  have hunwinds := h.unwinds
  rw [hroutes] at hunwinds
  exact listQuery_setFilter (fits_list hunwinds.1 htop).1 values

theorem resets_right (h : Kept Fits t) : ∀ a ∈ resets t, a.sent = some a.due := by
  intro a ha
  obtain ⟨x, hx, ha⟩ := List.mem_filterMap.mp ha
  split at ha
  · rename_i r l named waiting rest hroutes
    split at ha
    · cases ha
      have hfits := h.completed x hx
      rw [hroutes] at hfits
      exact hfits.2.head.1
    · cases ha
  · cases ha

/-- No list is built anew, since all have the filters of the provider. -/
theorem rebuilds_eq_nil (h : Kept Fits t) : rebuilds t = [] := by
  rw [rebuilds, List.filterMap_eq_nil_iff]
  intro l hl
  rw [if_neg]
  rw [Option.any_eq_true]
  rintro ⟨values, hvalues, hne⟩
  exact (of_decide_eq_true hne) ((filters_of_unwinds h.unwinds l hl).2 values hvalues)

theorem asksForItsOwn (hs : Settled s) (hguard : KeepsQueries s e) : AsksForItsOwn s e t := by
  intro u hu a ha
  obtain ⟨top, below, hroutes, hpressed⟩ := pressed_of_press hu
  have hs' : Settled { s with completed := [] } :=
    ⟨⟨hs.fits.unwinds, fun x hx => absurd hx List.not_mem_nil⟩, ⟨hs.saved.unwinds, fun x hx => absurd hx List.not_mem_nil⟩⟩
  have hguard' : KeepsQueries { s with completed := [] } e := by cases e <;> exact hguard
  have ht : Kept Fits u := fits_pressed hs' hroutes hpressed hguard'
  refine Or.inr ?_
  unfold requests at ha
  rw [rebuilds_eq_nil ht, List.append_nil, List.mem_append] at ha
  rcases ha with ha | ha
  · cases hpressed with
    | openModule | openConnection | loadMore => exact mounts_right ht a ha
    | applyFilter l values htop =>
      dsimp only at ha
      split at ha
      · exact absurd ha List.not_mem_nil
      · rename_i hne
        have hlists : lists s.routes.tail = [] := hguard.resolve_left hne
        rw [hroutes] at hlists
        exact filters_right hs.fits hroutes htop hlists values a ha
    | openTransaction | createFromDashboard | openCard | add | edit | duplicate | amend | createFrom | homeOfPage
    | homeOfList | submit | back => exact absurd ha List.not_mem_nil
  · exact resets_right ht a ha

theorem settled_step (hs : Settled s) (hstep : App.step s e = some t) (hguard : KeepsQueries s e) : Settled t := by
  refine ⟨?_, kept_step hs.saved hstep (connects_of_keepsQueries hguard)⟩
  obtain ⟨top, below, u, hroutes, hpressed, rfl⟩ := pressed_of_step hstep
  have hs' : Settled { s with completed := [] } :=
    ⟨⟨hs.fits.unwinds, fun x hx => absurd hx List.not_mem_nil⟩, ⟨hs.saved.unwinds, fun x hx => absurd hx List.not_mem_nil⟩⟩
  have hguard' : KeepsQueries { s with completed := [] } e := by cases e <;> exact hguard
  exact (fits_pressed hs' hroutes hpressed hguard').rebuilt fits_aboutLists

/-- In every run in which the presses that set the module or the filters leave the lists below their queries, every
    list request carries the query of its list. -/
theorem asksForItsOwn_of_keepsQueries (es : List AppEvent) (h : Runs.Guarded App.step KeepsQueries {} es) :
    Runs.Each App.step AsksForItsOwn {} es :=
  Runs.each_of_guarded (I := Settled) (fun _ _ _ hs hstep hguard => settled_step hs hstep hguard)
    (fun _ _ _ hs _ hguard => asksForItsOwn hs hguard)
    ⟨⟨⟨trivial, trivial⟩, fun _ hx => absurd hx List.not_mem_nil⟩, kept_start⟩ h

/-- The customers, the orders of one and the invoices of an order, and back to the customers. -/
theorem asksForItsOwn_customers :
    Runs.Each App.step AsksForItsOwn {}
      [.openModule "Customer", .loadMore, .openCard "CUST-1" none, .openConnection "Sales Order", .loadMore,
        .openCard "SO-1" none, .openConnection "Sales Invoice", .loadMore, .back none, .back none, .loadMore, .add,
        .back none] :=
  asksForItsOwn_of_keepsQueries _ (by decide)

/-- Customers are filtered, and the orders of one are opened and left again: more customers are asked for without
    the filter. -/
theorem filter_lost_on_connection :
    ¬ Runs.Each App.step AsksForItsOwn {}
      [.openModule "Customer",
        .applyFilter [("sort_field", .str "modified"), ("sort_type", .str "desc"), ("status", .str "Open")],
        .openCard "CUST-1" none, .openConnection "Sales Order", .back none, .back none, .loadMore] := by
  decide

end NextApp.ListQueries
