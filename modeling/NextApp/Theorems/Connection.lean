import NextApp.Theorems.Routes

/-! # Leaving a connection

The first of several open connections saves the page fields, and whatever leaves the list takes them back and
clears them. That is right as long as one list is open for a connection: a second one must drop the first, which
it does only where every route above the first is named. -/

namespace NextApp.Connections
open App Navigator Routes

variable {p : ModuleProvider} {R : PageFields → PageFields → Prop} {r top : Route} {rs below : List Route} {s t : App}
  {e : AppEvent}

/-- A list for which `removeConnection` waits. -/
def OpenList (r : Route) : Prop := r.waiting = .removeConnection ∧ ∃ l, r.screen = .list l

/-- A route for which `removeConnection` waits is a list with its name, over a page without a name; the page
    fields are saved, and they stand to those of the page as `R` says. Any other route with the name is a page
    over such a list. With all routes left no page fields are saved. -/
def Saved (R : PageFields → PageFields → Prop) (p : ModuleProvider) : List Route → Prop
  | [] => p.oldData = []
  | r :: rs =>
    (r.waiting = .removeConnection → (∃ l, r.screen = .list l) ∧ r.named = true ∧
        ∃ own waiting rest f, rs = ⟨.page own, false, waiting⟩ :: rest ∧
          ModuleProvider.readFields? p.oldData = some f ∧ R own f) ∧
      (r.waiting ≠ .removeConnection → r.named = true →
        (r.waiting = .nothing ∧ ∃ own, r.screen = .page own) ∧ ∃ r' rest, rs = r' :: rest ∧ r'.waiting = .removeConnection)

theorem saved_map {f : Route → Route} (hf : Relists f) (h : Saved R p rs) : Saved R p (rs.map f) := by
  cases rs with
  | nil => exact h
  | cons r rs =>
    refine ⟨fun hwaiting => ?_, fun hwaiting hnamed => ?_⟩
    · rw [hf.waiting] at hwaiting
      obtain ⟨⟨l, hl⟩, hnamed, own, waiting, rest, g, hrs, hread⟩ := h.1 hwaiting
      refine ⟨?_, (hf.named r).trans hnamed, own, waiting, rest.map f, g, ?_, hread⟩
      · rcases hf r with hr | ⟨l', l'', -, hr⟩
        · exact ⟨l, by rw [hr, hl]⟩
        · exact ⟨l'', by rw [hr]⟩
      · rw [hrs, List.map_cons, hf.of_page rfl]
    · rw [hf.waiting] at hwaiting
      rw [hf.named] at hnamed
      obtain ⟨⟨hnothing, own, hown⟩, r', rest, hrs, hr'⟩ := h.2 hwaiting hnamed
      refine ⟨⟨(hf.waiting r).trans hnothing, own, by rw [hf.of_page hown, hown]⟩, f r', rest.map f, ?_,
        (hf.waiting r').trans hr'⟩
      rw [hrs, List.map_cons]

theorem saved_aboutLists (R : PageFields → PageFields → Prop) : AboutLists (Saved R) where
  congr p q rs h hsaved := by
    have hold : p.oldData = q.oldData := congrArg NavFields.oldData h
    cases rs with
    | nil => exact hold.symm.trans hsaved
    | cons r rs => rwa [Saved, hold] at hsaved
  plain p r rs hnamed hlist hwaiting := by
    refine ⟨fun h => absurd h hwaiting, fun _ h => ?_⟩
    rw [hnamed] at h
    cases h
  card p l named waiting rs own h := by
    refine ⟨fun h => (nomatch h), fun _ hnamed => ⟨⟨rfl, own, rfl⟩, _, _, rfl, ?_⟩⟩
    by_contra hwaiting
    obtain ⟨⟨-, own', hscreen⟩, -⟩ := h.2 hwaiting hnamed
    cases hscreen
  refreshed p q r rs h := by
    rcases refreshed_cases q r with hr | ⟨own, own', hscreen, hr⟩
    · rwa [hr]
    · rw [hr]
      refine ⟨fun hwaiting => ?_, fun hwaiting hnamed => ?_⟩
      · obtain ⟨⟨l, hl⟩, -⟩ := h.1 hwaiting
        rw [hl] at hscreen
        cases hscreen
      · obtain ⟨⟨hnothing, -⟩, hrest⟩ := h.2 hwaiting hnamed
        exact ⟨⟨hnothing, own', rfl⟩, hrest⟩
  rebuilt p rs h := saved_map (relists_rebuilt p.filter) h

theorem unwinds_saved_congr {q : ModuleProvider} (h : Unwinds Route.navigator (Saved R) p rs) (hq : q.oldData = p.oldData) :
    Unwinds Route.navigator (Saved R) q rs := by
  refine h.congr (v := ModuleProvider.oldData) (fun r s t hst => ?_) (fun s t rs hst hsaved => ?_) hq.symm
  · exact (oldData_complete s r).trans (hst ▸ (oldData_complete t r).symm)
  · cases rs with
    | nil => exact hst.symm.trans hsaved
    | cons r rs => rwa [Saved, hst] at hsaved

/-! ### Presses that set the module -/

/-- A connection card is pressed on a page whose own fields stand to the provider's as `R` says, when no
    connection is open, and otherwise on a page that carries the name. -/
def Connects (R : PageFields → PageFields → Prop) (s : App) : AppEvent → Prop
  | .openConnection _ =>
    match s.routes with
    | ⟨.page own, named, _⟩ :: _ =>
      s.provider.currentModule ≠ none →
        if s.provider.isSecondModule then named = true else R own s.provider.pageFields
    | _ => True
  | _ => True

theorem oldData_eq_nil (h : p.isSecondModule = false) : p.oldData = [] := by
  simpa [ModuleProvider.isSecondModule] using h

theorem kept_saved (h : Kept (Saved R) s) {q : ModuleProvider} (hq : q.oldData = s.provider.oldData) :
    Kept (Saved R) { s with provider := q } :=
  ⟨unwinds_saved_congr h.unwinds hq, h.completed⟩

theorem oldData_complete_of_read {f : PageFields} (hwaiting : r.waiting = .removeConnection)
    (hread : ModuleProvider.readFields? p.oldData = some f) : (r.complete p).oldData = [] := by
  rw [oldData_complete, if_pos hwaiting, takenBack, hread]

theorem oldData_complete_of_saved (h : Saved R p (r :: rs)) (hwaiting : r.waiting = .removeConnection) :
    (r.complete p).oldData = [] := by
  obtain ⟨-, -, own, waiting, rest, f, -, hread, -⟩ := h.1 hwaiting
  exact oldData_complete_of_read hwaiting hread

/-- With no page fields saved no connection is open, so the page on top has no name. -/
theorem named_of_not_second (h : Unwinds Route.navigator (Saved R) p (r :: rs)) (hold : p.oldData = [])
    (hr : ∃ own, r.screen = .page own) : r.named = false ∧ r.waiting ≠ .removeConnection := by
  have hwaiting : r.waiting ≠ .removeConnection := by
    intro hwaiting
    obtain ⟨⟨l, hl⟩, -⟩ := h.1.1 hwaiting
    obtain ⟨own, hown⟩ := hr
    rw [hl] at hown
    cases hown
  refine ⟨?_, hwaiting⟩
  by_contra hnamed
  obtain ⟨-, r', rest, rfl, hr'⟩ := h.1.2 hwaiting (by simpa using hnamed)
  obtain ⟨-, -, own, waiting, rest', f, -, hread, -⟩ := h.2.1.1 hr'
  have hold' : (r.complete p).oldData = [] := by rw [oldData_complete, if_neg hwaiting, hold]
  change ModuleProvider.readFields? (r.complete p).oldData = some f at hread
  rw [hold'] at hread
  cases hread

/-- Under a page with the name lies the list of the open connection, over the page it was opened from. -/
theorem routes_of_named (h : Unwinds Route.navigator (Saved R) p (r :: rs)) (hr : ∃ own, r.screen = .page own)
    (hnamed : r.named = true) :
    ∃ r' own waiting rest f, r :: rs = r :: r' :: ⟨.page own, false, waiting⟩ :: rest ∧ r'.named = true ∧
      OpenList r' ∧ r.waiting = .nothing ∧ ModuleProvider.readFields? p.oldData = some f ∧ R own f := by
  have hwaiting : r.waiting ≠ .removeConnection := by
    intro hwaiting
    obtain ⟨⟨l, hl⟩, -⟩ := h.1.1 hwaiting
    obtain ⟨own, hown⟩ := hr
    rw [hl] at hown
    cases hown
  obtain ⟨⟨hnothing, -⟩, r', rest, rfl, hr'⟩ := h.1.2 hwaiting hnamed
  obtain ⟨hlist, hnamed', own, waiting, rest', f, rfl, hread, hR⟩ := h.2.1.1 hr'
  change ModuleProvider.readFields? (r.complete p).oldData = some f at hread
  rw [oldData_complete, if_neg hwaiting] at hread
  exact ⟨r', own, waiting, rest', f, rfl, hnamed', ⟨hr', hlist⟩, hnothing, hread, hR⟩

/-- The list of a connection over the page that it is opened from, or over the one that the open connection was
    opened from. -/
theorem kept_openConnection (h : Kept (Saved R) s) {own : PageFields} (hroutes : s.routes = top :: below)
    (htop : top.screen = .page own) (doctype : String) (hguard : Connects R s (.openConnection doctype)) :
    Kept (Saved R) (s.openConnection doctype) := by
  cases hm : s.provider.currentModule with
  | none =>
    rw [openConnection_of_none hm]
    exact kept_saved h rfl
  | some m =>
    obtain ⟨screen, named, waiting⟩ := top
    cases htop
    have hunwinds := h.unwinds
    rw [hroutes] at hunwinds
    simp only [Connects, hroutes, hm] at hguard
    have hpress := hguard (by simp)
    rw [openConnection_of_module hm]
    refine ⟨?_, h.completed⟩
    cases hsecond : s.provider.isSecondModule with
    | false =>
      have hold := oldData_eq_nil hsecond
      obtain ⟨hnamed, hwaiting⟩ := named_of_not_second hunwinds hold ⟨own, rfl⟩
      rw [if_neg (by simp [hsecond])] at hpress
      cases hnamed
      have hsaved : (connected s.provider m doctype).oldData = ModuleProvider.saveFields s.provider.oldData s.provider := by
        simp only [connected, hsecond, Bool.false_eq_true, if_false]
      simp only [Bool.false_eq_true, if_false, hroutes]
      have hfirst : Saved R (connected s.provider m doctype)
          (connectionRoute s.provider m doctype :: ⟨.page own, false, waiting⟩ :: below) := by
        refine ⟨fun _ => ⟨⟨_, rfl⟩, rfl, own, waiting, below, s.provider.pageFields, rfl, ?_, hpress⟩, fun h => absurd rfl h⟩
        rw [hsaved, ModuleProvider.readFields?_saveFields]
      exact ⟨hfirst, unwinds_saved_congr hunwinds ((oldData_complete_of_saved hfirst rfl).trans hold.symm)⟩
    | true =>
      rw [if_pos hsecond] at hpress
      obtain ⟨r', own', waiting', rest, f, hrs, hnamed', hr', hwaiting, hread, hR⟩ :=
        routes_of_named hunwinds ⟨own, rfl⟩ hpress
      cases hrs
      have hsaved : (connected s.provider m doctype).oldData = s.provider.oldData := by
        simp only [connected, hsecond, if_true]
      have hdrop : List.dropWhile (fun r : Route => r.named) s.routes = ⟨.page own', false, waiting'⟩ :: rest := by
        simp [hroutes, hpress, hnamed']
      simp only [if_true, hdrop]
      have hfirst : Saved R (connected s.provider m doctype)
          (connectionRoute s.provider m doctype :: ⟨.page own', false, waiting'⟩ :: rest) := by
        refine ⟨fun _ => ⟨⟨_, rfl⟩, rfl, own', waiting', rest, f, rfl, ?_, hR⟩, fun h => absurd rfl h⟩
        rw [hsaved, hread]
      refine ⟨hfirst, unwinds_saved_congr hunwinds.2.2 ?_⟩
      exact (oldData_complete_of_saved hfirst rfl).trans (oldData_complete_of_saved hunwinds.2.1 hr'.1).symm

theorem kept_pressed (h : Kept (Saved R) s) (hroutes : s.routes = top :: below) (hpressed : Pressed s top below e t)
    (hguard : Connects R s e) : Kept (Saved R) t := by
  have hP := saved_aboutLists R
  cases hset : setsQuery e with
  | false => exact h.pressed hP hroutes hpressed hset
  | true =>
    cases hpressed with
    | openModule doctype htop =>
      rcases openModule_cases s doctype with ⟨m, -, -, hopen⟩ | ⟨-, hopen⟩
      · have hs : Kept (Saved R) { s with provider := { s.provider.setModule doctype with filter := defaultFilters } } :=
          kept_saved h rfl
        rw [hopen]
        exact hs.push hP ⟨fun h => (nomatch h), fun _ h => (nomatch h)⟩ (Or.inl rfl)
      · rw [hopen]
        exact kept_saved h rfl
    | openTransaction doctype id reply htop =>
      refine (kept_saved h ?_).pushPlain hP rfl (fun _ hl => nomatch hl) (Or.inl rfl)
      exact congrArg NavFields.oldData (navFields_loadedPage (s.provider.setModule doctype) id reply)
    | createFromDashboard doctype htop =>
      have hs : Kept (Saved R) { s with provider := (s.provider.setModule doctype).iAmCreatingAForm } := kept_saved h rfl
      exact hs.openForm hP rfl (Or.inl rfl)
    | createFrom own pageData doctype htop =>
      refine ⟨⟨hP.plain _ _ _ rfl (fun _ hl => nomatch hl) (fun h => nomatch h), ?_⟩, h.completed⟩
      exact unwinds_saved_congr h.unwinds (oldData_complete _ _)
    | openConnection own doctype htop => exact kept_openConnection h hroutes htop doctype hguard
    | applyFilter l values htop =>
      have hs : Kept (Saved R) { s with provider := s.provider.setFilter values } := kept_saved h rfl
      have hf := relists_filtered s.provider.filter values
      refine ⟨?_, h.completed⟩
      exact hs.unwinds.map (I := fun _ => True) (fun _ _ _ => trivial) hf.complete (fun p rs _ hr => saved_map hf hr) trivial
    | openCard | add | edit | duplicate | amend | loadMore | homeOfPage | homeOfList | submit | back => cases hset

theorem kept_step (h : Kept (Saved R) s) (hstep : App.step s e = some t) (hguard : Connects R s e) :
    Kept (Saved R) t := by
  obtain ⟨top, below, u, hroutes, hpressed, rfl⟩ := pressed_of_step hstep
  have hs : Kept (Saved R) { s with completed := [] } := ⟨h.unwinds, fun x hx => absurd hx List.not_mem_nil⟩
  have hguard : Connects R { s with completed := [] } e := by cases e <;> exact hguard
  exact (kept_pressed hs hroutes hpressed hguard).rebuilt (saved_aboutLists R)

/-! ### Going back -/

/-- The page fields are saved when `removeConnection` runs. -/
def FrameSaved : ModuleProvider × List Route → Prop
  | (p, ⟨_, _, .removeConnection⟩ :: _) => p.isSecondModule = true
  | _ => True

/-- Back from the list of a connection goes to the fields of the page under it. -/
def BackToPage (s : App) (e : AppEvent) (t : App) : Prop :=
  match e, s.routes with
  | .back _, ⟨_, _, .removeConnection⟩ :: ⟨.page own, _, _⟩ :: _ => t.provider.pageFields = own
  | _, _ => True

/-- Every `removeConnection` of a step finds page fields, and back from a connection is right. -/
def LeavesConnections (s : App) (e : AppEvent) (t : App) : Prop := (∀ x ∈ t.completed, FrameSaved x) ∧ BackToPage s e t

instance : DecidablePred FrameSaved := fun x => by
  rw [FrameSaved.eq_def]
  split <;> infer_instance

instance (s : App) (e : AppEvent) (t : App) : Decidable (LeavesConnections s e t) := by
  unfold LeavesConnections BackToPage
  split <;> infer_instance

theorem frameSaved (x : ModuleProvider × List Route) (h : Saved R x.1 x.2) : FrameSaved x := by
  rw [FrameSaved.eq_def]
  split
  · obtain ⟨-, -, own, waiting, rest, f, -, hread, -⟩ := h.1 rfl
    rw [ModuleProvider.isSecondModule, Bool.not_eq_true', ← Bool.not_eq_true, List.isEmpty_iff]
    intro hold
    rw [hold] at hread
    cases hread
  · trivial

theorem pageFields_complete {f : PageFields} (hform : r.isForm = false) (hwaiting : r.waiting = .removeConnection)
    (hread : ModuleProvider.readFields? p.oldData = some f) : (r.complete p).pageFields = f := by
  rw [Route.complete, hform, hwaiting]
  simp only [Bool.false_eq_true, if_false, ModuleProvider.removeConnection_of_read hread]
  rfl

theorem backToPage (h : Kept (Saved Eq) s) (hroutes : s.routes = top :: below) (hpressed : Pressed s top below e t) :
    BackToPage s e t := by
  unfold BackToPage
  split
  · rename_i reply screen named own named' waiting' rest hrs
    cases hpressed
    obtain ⟨p, rs, done⟩ := s
    cases hrs
    obtain ⟨⟨l, hl⟩, -, own', waiting, rest', f, hbelow, hread, rfl⟩ := h.unwinds.1.1 rfl
    cases hbelow
    cases hl
    rw [App.back, App.pop_cons (by simp)]
    exact pageFields_complete rfl rfl hread
  · trivial

/-! ### A connection that is left open under another one -/

/-- Below `n` routes lies the list of a connection, over other routes, and no page fields are saved. -/
def Stranded (n : Nat) (s : App) : Prop :=
  s.provider.oldData = [] ∧
    ∃ above r below, s.routes = above ++ r :: below ∧ above.length = n ∧ OpenList r ∧ below ≠ []

/-- The last press has completed a route at which `removeConnection` found no page fields. -/
def Threw (s : App) : Prop := ∃ x ∈ s.completed, ¬ FrameSaved x

theorem not_frameSaved {r : Route} (hr : OpenList r) (hold : p.oldData = []) (below : List Route) :
    ¬ FrameSaved (p, r :: below) := by
  obtain ⟨screen, named, waiting⟩ := r
  cases hr.1
  simp [FrameSaved, ModuleProvider.isSecondModule, hold]

/-- A pop either comes to the list, where `removeConnection` throws, or ends above it. -/
theorem stranded_navigatorPop (above below : List Route) (hold : p.oldData = []) (hr : OpenList r) :
    (∃ x ∈ popped Route.navigator p (above ++ r :: below), ¬ FrameSaved x) ∨
      ∃ above', above'.length < above.length ∧ (Navigator.pop Route.navigator p (above ++ r :: below)).2 = above' ++ r :: below ∧
        (Navigator.pop Route.navigator p (above ++ r :: below)).1.oldData = [] := by
  induction above generalizing p with
  | nil => exact Or.inl ⟨_, List.mem_cons_self, not_frameSaved hr hold below⟩
  | cons x above ih =>
    have hold' : (x.complete p).oldData = [] := by
      rw [oldData_complete, hold]
      split <;> rfl
    by_cases hnext : x.waiting = .pop
    · rcases ih hold' with ⟨y, hy, hnot⟩ | ⟨above', hlength, hroutes, hprovider⟩
      · refine Or.inl ⟨y, List.mem_cons_of_mem _ ?_, hnot⟩
        rw [if_pos (popsNext_eq_true hnext)]
        exact hy
      · rw [List.cons_append, Navigator.pop_cons_next (popsNext_eq_true hnext)]
        exact Or.inr ⟨above', Nat.lt_succ_of_lt hlength, hroutes, hprovider⟩
    · rw [List.cons_append, Navigator.pop_cons (popsNext_eq_false hnext)]
      exact Or.inr ⟨above, Nat.lt_succ_self _, rfl, hold'⟩

theorem stranded_pop {n : Nat} (h : Stranded n s) : Threw s.pop ∨ ∃ m, m < n ∧ Stranded m s.pop := by
  obtain ⟨hold, above, r, below, hroutes, rfl, hr, hbelow⟩ := h
  rcases stranded_navigatorPop above below hold hr with ⟨x, hx, hnot⟩ | ⟨above', hlength, hpop, hprovider⟩
  · rw [← hroutes] at hx
    exact Or.inl ⟨x, List.mem_append_right _ hx, hnot⟩
  · rw [← hroutes] at hpop hprovider
    exact Or.inr ⟨above'.length, hlength, hprovider, above', r, below, hpop, rfl, hr, hbelow⟩

theorem stranded_pushReplacement {n : Nat} (new : Route) (h : Stranded n s) (htop : ∃ rs, s.routes = top :: rs)
    (hpage : ∃ own, top.screen = .page own) (hnew : new.waiting = .nothing) :
    ∃ m, m ≤ n ∧ Stranded m (s.pushReplacement new) := by
  obtain ⟨hold, above, r, below, hroutes, rfl, hr, hbelow⟩ := h
  obtain ⟨p, rs, done⟩ := s
  obtain ⟨rest, rfl⟩ := htop
  cases above with
  | nil =>
    cases hroutes
    obtain ⟨own, hown⟩ := hpage
    obtain ⟨-, l, hl⟩ := hr
    rw [hown] at hl
    cases hl
  | cons x above =>
    cases hroutes
    have hcomplete : ∀ y : Route, ∀ q : ModuleProvider, q.oldData = [] → (y.complete q).oldData = [] := by
      intro y q hq
      rw [oldData_complete, hq]
      split <;> rfl
    by_cases hnext : top.waiting = .pop
    · rw [App.pushReplacement_cons_next hnext (by simp [hnew])]
      exact ⟨above.length, Nat.le_succ _, hcomplete _ _ (hcomplete _ _ hold), above, r, below, rfl, rfl, hr, hbelow⟩
    · rw [App.pushReplacement_cons hnext]
      exact ⟨above.length + 1, Nat.le_refl _, hcomplete _ _ hold, new :: above, r, below, rfl, rfl, hr, hbelow⟩

theorem stranded_refreshTop {n : Nat} (h : Stranded n s) : Stranded n s.refreshTop := by
  obtain ⟨hold, above, r, below, hroutes, hn, hr, hbelow⟩ := h
  rw [App.refreshTop, hroutes]
  cases above with
  | nil =>
    obtain ⟨hwaiting, l, hl⟩ := hr
    have hsame : refreshed s.provider r = r := by simp only [refreshed, hl]
    exact ⟨hold, [], r, below, by simp only [List.nil_append, hsame], hn, ⟨hwaiting, l, hl⟩, hbelow⟩
  | cons x above => exact ⟨hold, refreshed s.provider x :: above, r, below, rfl, hn, hr, hbelow⟩

theorem stranded_back {n : Nat} (h : Stranded n s) (reply : Option ServerPage) :
    Threw (s.back reply) ∨ ∃ m, m < n ∧ Stranded m (s.back reply) := by
  rw [App.back]
  split
  · rename_i own named waiting rs hroutes
    split
    · have hload : Stranded n { s with provider := loadedPage s.provider s.provider.previousPageId reply } :=
        ⟨(congrArg NavFields.oldData (navFields_loadedPage _ _ _)).trans h.1, h.2⟩
      dsimp only
      obtain ⟨m, hm, hreplaced⟩ := stranded_pushReplacement
        (pageRoute (loadedPage s.provider s.provider.previousPageId reply) false .nothing) hload ⟨rs, hroutes⟩
        ⟨own, rfl⟩ rfl
      generalize App.pushReplacement { s with provider := loadedPage s.provider s.provider.previousPageId reply }
        (pageRoute (loadedPage s.provider s.provider.previousPageId reply) false .nothing) = u at hreplaced ⊢
      have hflag : Stranded m { u with provider := { u.provider with isAmended := false } } := ⟨hreplaced.1, hreplaced.2⟩
      rcases stranded_pop hflag with ⟨x, hx, hnot⟩ | ⟨k, hk, hpop⟩
      · refine Or.inl ⟨x, ?_, hnot⟩
        rw [App.refreshTop]
        split <;> exact hx
      · exact Or.inr ⟨k, Nat.lt_of_lt_of_le hk hm, stranded_refreshTop hpop⟩
    · exact stranded_pop h
  · exact stranded_pop h

theorem stranded_map {n : Nat} {f : Route → Route} (hf : Relists f) (h : Stranded n s) :
    Stranded n { s with routes := s.routes.map f } := by
  obtain ⟨hold, above, r, below, hroutes, hn, ⟨hwaiting, l, hl⟩, hbelow⟩ := h
  refine ⟨hold, above.map f, f r, below.map f, ?_, by rw [List.length_map, hn], ⟨(hf.waiting r).trans hwaiting, ?_⟩,
    by simpa using hbelow⟩
  · rw [hroutes, List.map_append, List.map_cons]
  · rcases hf r with hr | ⟨l', l'', -, hr⟩
    · exact ⟨l, by rw [hr, hl]⟩
    · exact ⟨l'', by rw [hr]⟩

/-- Going back comes to the list, and there `removeConnection` throws. -/
theorem not_each_of_stranded {n : Nat} (h : Stranded n s) :
    ∃ k, ¬ Runs.Each App.step LeavesConnections s (List.replicate k (.back none)) := by
  induction n using Nat.strong_induction_on generalizing s with
  | _ n ih =>
    have hs : Stranded n { s with completed := [] } := ⟨h.1, h.2⟩
    obtain ⟨top, rest, hroutes, hrest⟩ : ∃ top rest, s.routes = top :: rest ∧ rest ≠ [] := by
      obtain ⟨-, above, r, below, hroutes, -, -, hbelow⟩ := h
      cases above with
      | nil => exact ⟨r, below, hroutes, hbelow⟩
      | cons x above => exact ⟨x, above ++ r :: below, hroutes, by simp⟩
    obtain ⟨u, hu, hstep⟩ := step_back hroutes hrest none
    rcases stranded_back hs none with ⟨x, hx, hnot⟩ | ⟨m, hm, hback⟩
    · refine ⟨1, fun heach => hnot ?_⟩
      exact ((Runs.each_cons hstep).mp heach).1.1 x (hu ▸ hx)
    · obtain ⟨k, hk⟩ := ih m hm (stranded_map (relists_rebuilt _) hback)
      refine ⟨k + 1, fun heach => hk ?_⟩
      exact hu ▸ ((Runs.each_cons hstep).mp heach).2

theorem step_back_openList (hroutes : s.routes = r :: below) (hr : OpenList r) (hbelow : below ≠ []) :
    ∃ t, App.step s (.back none) = some t ∧ t.provider = r.complete s.provider ∧
      t.routes = below.map (rebuilt (r.complete s.provider).filter) := by
  obtain ⟨u, hu, hstep⟩ := step_back hroutes hbelow none
  refine ⟨_, hstep, ?_⟩
  obtain ⟨p, rs, done⟩ := s
  cases hroutes
  obtain ⟨screen, named, waiting⟩ := r
  obtain ⟨hwaiting, l, hl⟩ := hr
  cases hwaiting
  cases hl
  rw [App.back, App.pop_cons (by simp)] at hu
  subst hu
  exact ⟨rfl, rfl⟩

theorem exists_openList (h : Unwinds Route.navigator (Saved R) p rs) (hold : p.oldData ≠ []) :
    (∃ f, ModuleProvider.readFields? p.oldData = some f) ∧
      ∃ above r below, rs = above ++ r :: below ∧ OpenList r ∧ below ≠ [] := by
  induction rs generalizing p with
  | nil => exact absurd h hold
  | cons r rs ih =>
    by_cases hwaiting : r.waiting = .removeConnection
    · obtain ⟨hlist, -, own, waiting, rest, f, rfl, hread, -⟩ := h.1.1 hwaiting
      exact ⟨⟨f, hread⟩, [], r, _, rfl, ⟨hwaiting, hlist⟩, List.cons_ne_nil _ _⟩
    · have hsame : (r.complete p).oldData = p.oldData := by rw [oldData_complete, if_neg hwaiting]
      obtain ⟨hread, above, r', below, rfl, hr', hbelow⟩ := ih h.2 (hsame ▸ hold)
      exact ⟨hsame ▸ hread, r :: above, r', below, rfl, hr', hbelow⟩

theorem openList_connectionRoute (p : ModuleProvider) (m : ModuleType) (doctype : String) (filter : Doc) :
    OpenList (rebuilt filter (connectionRoute p m doctype)) := ⟨rfl, _, rfl⟩

def IsBack (e : AppEvent) : Prop := ∃ reply, e = .back reply

/-- A connection card pressed elsewhere goes wrong on the way back. -/
theorem not_each_of_not_connects (h : Kept (Saved Eq) s) (hstep : App.step s e = some t) (hguard : ¬ Connects Eq s e) :
    ∃ bs, (∀ b ∈ bs, IsBack b) ∧ ¬ Runs.Each App.step LeavesConnections s (e :: bs) := by
  obtain ⟨top, below, u, hroutes, hpressed, rfl⟩ := pressed_of_step hstep
  cases hpressed with
  | openConnection own doctype htop =>
    obtain ⟨p, rs, done⟩ := s
    obtain ⟨screen, named, waiting⟩ := top
    cases htop
    cases hroutes
    simp only [Connects, Classical.not_imp] at hguard
    obtain ⟨hm, hpress⟩ := hguard
    obtain ⟨m, hm⟩ := Option.ne_none_iff_exists'.mp hm
    rw [openConnection_of_module hm] at hstep
    cases hsecond : p.isSecondModule with
    | false =>
      -- the fields saved are not those of the page: one back shows it
      rw [if_neg (by simp [hsecond])] at hpress
      simp only [hsecond, Bool.false_eq_true, if_false, List.map_cons] at hstep
      have hread : ModuleProvider.readFields? (connected p m doctype).oldData = some p.pageFields := by
        simp only [connected, hsecond, Bool.false_eq_true, if_false, ModuleProvider.readFields?_saveFields]
      obtain ⟨t, hback, hprovider, -⟩ := step_back_openList
        (s := ⟨connected p m doctype, rebuilt defaultFilters (connectionRoute p m doctype) ::
          rebuilt defaultFilters ⟨.page own, named, waiting⟩ :: below.map (rebuilt defaultFilters), []⟩)
        rfl (openList_connectionRoute p m doctype _) (List.cons_ne_nil _ _)
      refine ⟨[.back none], by simp [IsBack], fun heach => hpress ?_⟩
      have hfields : t.provider.pageFields = own :=
        ((Runs.each_cons hback).mp ((Runs.each_cons hstep).mp heach).2).1.2
      rw [hprovider, pageFields_complete rfl rfl hread] at hfields
      exact hfields.symm
    | true =>
      -- the list of the open connection stays below, and one back takes its page fields
      rw [if_pos hsecond] at hpress
      have hnamed : named = false := by simpa using hpress
      cases hnamed
      have hold : p.oldData ≠ [] := by
        intro hold
        simp [ModuleProvider.isSecondModule, hold] at hsecond
      obtain ⟨⟨f, hread⟩, above, r, below', hrs, hr, hbelow⟩ := exists_openList h.unwinds hold
      simp only [hsecond, if_true] at hstep
      have hread' : ModuleProvider.readFields? (connected p m doctype).oldData = some f := by
        simp only [connected, hsecond, if_true, hread]
      obtain ⟨t, hback, hprovider, htroutes⟩ := step_back_openList
        (s := ⟨connected p m doctype, rebuilt defaultFilters (connectionRoute p m doctype) ::
          (⟨.page own, false, waiting⟩ :: below).map (rebuilt defaultFilters), []⟩)
        rfl (openList_connectionRoute p m doctype _) (List.cons_ne_nil _ _)
      have hnone : t.provider.oldData = [] := hprovider ▸ oldData_complete_of_read rfl hread'
      have hstranded : Stranded above.length ⟨t.provider, ⟨.page own, false, waiting⟩ :: below, t.completed⟩ :=
        ⟨hnone, above, r, below', hrs, rfl, hr, hbelow⟩
      have ht := stranded_map (relists_rebuilt ((rebuilt defaultFilters (connectionRoute p m doctype)).complete
        (connected p m doctype)).filter) (stranded_map (relists_rebuilt defaultFilters) hstranded)
      dsimp only at ht
      rw [← htroutes] at ht
      obtain ⟨k, hk⟩ := not_each_of_stranded ht
      refine ⟨.back none :: List.replicate k (.back none), ?_, fun heach => hk ?_⟩
      · intro b hb
        rcases List.mem_cons.mp hb with rfl | hb
        · exact ⟨none, rfl⟩
        · exact ⟨none, (List.mem_replicate.mp hb).2⟩
      · exact ((Runs.each_cons hback).mp ((Runs.each_cons hstep).mp heach).2).2
  | openModule | openTransaction | createFromDashboard | openCard | add | applyFilter | loadMore | edit | duplicate
  | amend | createFrom | homeOfPage | homeOfList | submit | back => exact absurd trivial hguard

theorem leavesConnections_step (h : Kept (Saved Eq) s) (hstep : App.step s e = some t) (hguard : Connects Eq s e) :
    LeavesConnections s e t := by
  have ht : Kept (Saved Eq) t := kept_step h hstep hguard
  refine ⟨fun x hx => frameSaved x (ht.completed x hx).head, ?_⟩
  obtain ⟨top, below, u, hroutes, hpressed, rfl⟩ := pressed_of_step hstep
  have hs : Kept (Saved Eq) { s with completed := [] } := ⟨h.unwinds, fun x hx => absurd hx List.not_mem_nil⟩
  have hback : BackToPage { s with completed := [] } e u := backToPage hs hroutes hpressed
  exact hback

theorem kept_start : Kept (Saved R) {} :=
  ⟨⟨⟨fun h => (nomatch h), fun _ h => (nomatch h)⟩, rfl⟩, fun _ hx => absurd hx List.not_mem_nil⟩

/-- Connections are left as they should, from every point of a run on which the user goes back, exactly when every
    connection card is pressed on a page that the provider holds the fields of, or, while a connection is open,
    on a page that carries the name. -/
theorem leavesConnections_iff_connects (es : List AppEvent) :
    (∀ p, p <+: es → ∀ bs, (∀ b ∈ bs, IsBack b) → Runs.Each App.step LeavesConnections {} (p ++ bs)) ↔
      Runs.Guarded App.step (Connects Eq) {} es := by
  refine Runs.each_closed_iff_guarded (I := Kept (Saved Eq)) ?_ ?_ ?_ ?_ kept_start
  · exact fun s e t hs hstep hguard => kept_step hs hstep hguard
  · exact fun s e t hs hstep hguard => leavesConnections_step hs hstep hguard
  · rintro s e ⟨reply, rfl⟩
    exact trivial
  · exact fun s e t hs hstep hguard => not_each_of_not_connects hs hstep hguard

/-- An order of a customer is duplicated, and the invoices of the new order are opened: back from them shows the
    customer in place of the order, and the list of the orders finds no saved page fields. -/
theorem back_to_customer :
    ¬ Runs.Each App.step LeavesConnections {}
      [.openModule "Customer", .openCard "CUST-1" (some ⟨[("name", .str "CUST-1"), ("docstatus", .int 0)], rfl, rfl⟩),
        .openConnection "Sales Order", .openCard "SO-1" (some ⟨[("name", .str "SO-1"), ("docstatus", .int 1)], rfl, rfl⟩),
        .duplicate, .submit (some "SO-1") (.succeeds (some "SO-2")) (some ⟨[("name", .str "SO-2"), ("docstatus", .int 0)], rfl, rfl⟩),
        .openConnection "Sales Invoice", .back none, .back none, .back none, .back none] := by
  decide

end NextApp.Connections
