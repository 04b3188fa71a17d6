import NextApp.Lib.Runs
import NextApp.Model.App

/-! # The mode a form is opened in

Four flags tell a form what it was opened for. Editing, duplicating and amending are reset as the form is
taken down, and only forms that load nothing stay below others; the create-from flag stays set on the pages
above a create-from form. So a form is opened in the mode of its button exactly when Edit, Duplicate and
Amend are pressed with that flag down. -/

namespace NextApp

/-- The four flags: `isEditing`, `duplicateMode`, `isAmendingMode` and `isCreateFromPage`. -/
structure Modes where
  edit : Bool
  duplicate : Bool
  amend : Bool
  createFrom : Bool
deriving DecidableEq, Repr

def ModuleProvider.modes (p : ModuleProvider) : Modes := ⟨p.editPage, p.duplicateMode, p.amendDoc, p.createFromPage⟩

/-- The flags select a mode: a new form is what is left when none is set. -/
def Modes.Selects (f : Modes) : FormMode → Prop
  | .new => f = ⟨false, false, false, false⟩
  | .edit => f.edit = true
  | .duplicate => f.duplicate = true
  | .amend => f.amend = true
  | .createFrom => f.createFrom = true

instance (f : Modes) : DecidablePred f.Selects := fun m => by
  cases m <;> exact inferInstanceAs (Decidable (_ = _))

def FormMode.modes (m : FormMode) : Modes :=
  ⟨m = .edit, m = .duplicate, m = .amend, m = .createFrom⟩

namespace FormModes
open App

/-- The mode of the button, when the event is the press of one that opens a form. -/
def opens : AppEvent → Option FormMode
  | .add | .createFromDashboard _ => some .new
  | .edit => some .edit
  | .duplicate => some .duplicate
  | .amend => some .amend
  | .createFrom _ _ => some .createFrom
  | _ => none

/-- A form that is opened finds its mode selected, and no other. -/
def OpensInMode (_ : App) (e : AppEvent) (t : App) : Prop :=
  ∀ m ∈ opens e, ∀ m', t.provider.modes.Selects m' ↔ m' = m

/-- Edit, Duplicate and Amend are pressed with the create-from flag down. -/
def PressedOutsideCreateFrom (s : App) (e : AppEvent) : Prop :=
  ∀ m ∈ opens e, m.loadsPage = true → s.provider.createFromPage = false

theorem selects_iff_modes (f : Modes) (m : FormMode) : (∀ m', f.Selects m' ↔ m' = m) ↔ f = m.modes := by
  constructor
  · intro h
    obtain ⟨e, d, a, c⟩ := f
    have hedit := h .edit
    have hduplicate := h .duplicate
    have hamend := h .amend
    have hcreate := h .createFrom
    simp only [Modes.Selects] at hedit hduplicate hamend hcreate
    simp only [FormMode.modes, Modes.mk.injEq]
    refine ⟨?_, ?_, ?_, ?_⟩
    · rw [Bool.eq_iff_iff, hedit, decide_eq_true_iff, eq_comm]
    · rw [Bool.eq_iff_iff, hduplicate, decide_eq_true_iff, eq_comm]
    · rw [Bool.eq_iff_iff, hamend, decide_eq_true_iff, eq_comm]
    · rw [Bool.eq_iff_iff, hcreate, decide_eq_true_iff, eq_comm]
  · rintro rfl m'
    cases m <;> cases m' <;> decide

instance (s : App) (e : AppEvent) (t : App) : Decidable (OpensInMode s e t) :=
  decidable_of_iff (∀ m ∈ opens e, t.provider.modes = m.modes) (by simp [OpensInMode, selects_iff_modes])

/-! ### Flags through the operations -/

variable {p : ModuleProvider} {r : Route} {rs : List Route} {s t : App} {e : AppEvent}

theorem modes_loadedPage (p : ModuleProvider) (id : String) (reply : Option ServerPage) :
    (loadedPage p id reply).modes = { p.modes with edit := false } := by
  obtain ⟨page, docstatus, pdf, loading, h⟩ := loadedPage_frame p id reply
  rw [h]
  rfl

/-! ### Routes that are taken down -/

/-- No form is being edited, duplicated or amended. -/
def Quiet (p : ModuleProvider) : Prop := p.editPage = false ∧ p.duplicateMode = false ∧ p.amendDoc = false

/-- Not a form that loads the page below it. -/
def NonLoading (r : Route) : Prop := ∀ m, r.screen = .form m → m.loadsPage = false

theorem nonLoading_of_isForm (h : r.isForm = false) : NonLoading r := fun m hm => by simp [Route.isForm, hm] at h

theorem quiet_of_modes {q : ModuleProvider} (h : q.modes = { p.modes with edit := false }) (hp : Quiet p) : Quiet q := by
  simp only [ModuleProvider.modes, Modes.mk.injEq] at h
  exact ⟨h.1, h.2.1.trans hp.2.1, h.2.2.1.trans hp.2.2⟩

theorem quiet_withFields {f : PageFields} (h : Quiet p) : Quiet (p.withFields f) := h

theorem quiet_removeConnection (h : Quiet p) : Quiet p.removeConnection.state := by
  obtain ⟨f, d, hframe⟩ := p.removeConnection_frame
  rw [hframe]
  exact quiet_withFields (f := f) h

theorem quiet_removeCreateFromPage (h : Quiet p) : Quiet p.removeCreateFromPage.state := by
  obtain ⟨f, d, hframe⟩ := p.removeCreateFromPage_frame
  rw [hframe]
  exact quiet_withFields (f := f) h

theorem quiet_complete (h : Quiet p ∨ r.isForm = true) : Quiet (r.complete p) := by
  have hdown : Quiet (if r.isForm then p.resetCreationForm else p) := by
    split
    · exact ⟨rfl, rfl, rfl⟩
    · rcases h with h | h
      · exact h
      · contradiction
  rw [Route.complete]
  generalize (if r.isForm then p.resetCreationForm else p) = q at hdown
  cases r.waiting with
  | nothing | reset | pop => exact hdown
  | removeConnection => exact quiet_removeConnection hdown
  | removeCreateFromPage => exact quiet_removeCreateFromPage ⟨rfl, hdown.2⟩

/-- A state between two forms: no mode is set, and the forms below load nothing. -/
structure Calm (s : App) : Prop where
  quiet : Quiet s.provider
  below : ∀ r ∈ s.routes, NonLoading r

/-- Popping a form, or anything else in a quiet state, ends in a quiet state. -/
theorem calm_navigatorPop (h : Quiet p ∨ ∃ r rs', rs = r :: rs' ∧ r.isForm = true)
    (hbelow : ∀ r ∈ rs.tail, NonLoading r) :
    Quiet (Navigator.pop Route.navigator p rs).1 ∧ ∀ r ∈ (Navigator.pop Route.navigator p rs).2, NonLoading r := by
  induction rs generalizing p with
  | nil =>
    rcases h with h | ⟨r, rs', h, -⟩
    · exact ⟨h, fun r hr => absurd hr List.not_mem_nil⟩
    · cases h
  | cons r rs ih =>
    have hquiet : Quiet (r.complete p) := quiet_complete (h.imp_right fun ⟨r', rs', h, hr⟩ => by cases h; exact hr)
    by_cases hnext : r.waiting = .pop
    · rw [Navigator.pop_cons_next (popsNext_eq_true hnext)]
      exact ih (Or.inl hquiet) fun r' hr' => hbelow r' (List.mem_of_mem_tail hr')
    · rw [Navigator.pop_cons (popsNext_eq_false hnext)]
      exact ⟨hquiet, hbelow⟩

theorem calm_pop (h : Quiet s.provider ∨ ∃ r rs', s.routes = r :: rs' ∧ r.isForm = true)
    (hbelow : ∀ r ∈ s.routes.tail, NonLoading r) : Calm s.pop :=
  ⟨(calm_navigatorPop h hbelow).1, (calm_navigatorPop h hbelow).2⟩

theorem calm_pushReplacement {new : Route} (h : Quiet s.provider ∨ ∃ r rs', s.routes = r :: rs' ∧ r.isForm = true)
    (hbelow : ∀ r ∈ s.routes.tail, NonLoading r) (hnew : new.isForm = false) (hwaiting : new.waiting = .nothing) :
    Calm (s.pushReplacement new) := by
  obtain ⟨p, rs, done⟩ := s
  have hplain : NonLoading new := nonLoading_of_isForm hnew
  have hw : new.waiting ≠ .pop := by simp [hwaiting]
  cases rs with
  | nil =>
    rcases h with h | ⟨r, rs', h, -⟩
    · exact ⟨h, List.forall_mem_singleton.mpr hplain⟩
    · cases h
  | cons r rs =>
    have hquiet : Quiet (r.complete p) := quiet_complete (h.imp_right fun ⟨r', rs', h, hr⟩ => by cases h; exact hr)
    by_cases hnext : r.waiting = .pop
    · rw [App.pushReplacement_cons_next hnext hw]
      exact ⟨quiet_complete (Or.inl hquiet), hbelow⟩
    · rw [App.pushReplacement_cons hnext]
      exact ⟨hquiet, List.forall_mem_cons.mpr ⟨hplain, hbelow⟩⟩

theorem calm_push {q : ModuleProvider} {new : Route} (hq : Quiet q) (hbelow : ∀ r ∈ s.routes, NonLoading r)
    (hnew : NonLoading new) : Calm (({ s with provider := q } : App).push new) :=
  ⟨hq, List.forall_mem_cons.mpr ⟨hnew, hbelow⟩⟩

theorem nonLoading_refreshed (h : NonLoading r) : NonLoading (refreshed p r) := by
  rw [refreshed]
  split
  · split
    · exact nonLoading_of_isForm rfl
    · exact h
  · exact h

theorem calm_refreshTop (h : Calm s) : Calm s.refreshTop := by
  rw [App.refreshTop]
  split
  · exact h
  · rename_i r rs hroutes
    have hbelow := h.below
    rw [hroutes, List.forall_mem_cons] at hbelow
    exact ⟨h.quiet, List.forall_mem_cons.mpr ⟨nonLoading_refreshed hbelow.1, hbelow.2⟩⟩

/-! ### The invariant -/

/-- A form that loads the page below it is on top, in the mode it was opened in. -/
def Loading (s : App) : Prop :=
  ∃ r rs m, s.routes = r :: rs ∧ r.screen = .form m ∧ m.loadsPage = true ∧ s.provider.modes = m.modes ∧
    ∀ r' ∈ rs, NonLoading r'

def Settled (s : App) : Prop := Calm s ∨ Loading s

theorem calm_of_settled {top : Route} {below : List Route} (h : Settled s) (hroutes : s.routes = top :: below)
    (htop : top.isForm = false) : Calm s := by
  rcases h with h | ⟨r, rs, m, hr, hscreen, -⟩
  · exact h
  · cases hroutes.symm.trans hr
    simp [Route.isForm, hscreen] at htop

theorem below_of_settled {top : Route} {below : List Route} (h : Settled s) (hroutes : s.routes = top :: below) :
    ∀ r ∈ below, NonLoading r := by
  rcases h with h | ⟨r, rs, m, hr, -, -, -, hbelow⟩
  · exact fun r hr => h.below r (hroutes ▸ List.mem_cons_of_mem _ hr)
  · cases hroutes.symm.trans hr
    exact hbelow

theorem quiet_or_form (h : Settled s) : Quiet s.provider ∨ ∃ r rs', s.routes = r :: rs' ∧ r.isForm = true := by
  rcases h with h | ⟨r, rs, m, hr, hscreen, -⟩
  · exact Or.inl h.quiet
  · exact Or.inr ⟨r, rs, hr, by simp [Route.isForm, hscreen]⟩

theorem calm_openConnection (h : Calm s) (doctype : String) : Calm (s.openConnection doctype) := by
  cases hm : s.provider.currentModule with
  | none =>
    rw [openConnection_of_none hm]
    exact ⟨h.quiet, h.below⟩
  | some m =>
    rw [openConnection_of_module hm]
    refine ⟨h.quiet, List.forall_mem_cons.mpr ⟨nonLoading_of_isForm rfl, fun r hr => h.below r ?_⟩⟩
    split at hr
    · exact (List.dropWhile_suffix _).subset hr
    · exact hr

theorem calm_openModule (h : Calm s) (doctype : String) : Calm (s.openModule doctype) := by
  rcases openModule_cases s doctype with ⟨m, -, -, hopen⟩ | ⟨-, hopen⟩
  · rw [hopen]
    exact ⟨h.quiet, List.forall_mem_cons.mpr ⟨nonLoading_of_isForm rfl, h.below⟩⟩
  · rw [hopen]
    exact ⟨h.quiet, h.below⟩

theorem calm_applyFilter (h : Calm s) (values : Doc) : Calm (s.applyFilter values) := by
  refine ⟨h.quiet, List.forall_mem_map.mpr fun r hr => ?_⟩
  rw [filtered]
  split
  · split <;> exact nonLoading_of_isForm rfl
  · exact h.below r hr

theorem rebuilt_of_form {m : FormMode} {filter : Doc} (h : r.screen = .form m) : rebuilt filter r = r := by
  simp only [rebuilt, h]

theorem nonLoading_rebuilt (filter : Doc) (h : NonLoading r) : NonLoading (rebuilt filter r) := by
  rw [rebuilt]
  split
  · split
    · exact h
    · exact nonLoading_of_isForm rfl
  · exact h

theorem settled_rebuilt (h : Settled s) :
    Settled { s with routes := s.routes.map (rebuilt s.provider.filter) } := by
  rcases h with h | ⟨r, rs, m, hr, hscreen, hm, hmodes, hbelow⟩
  · exact Or.inl ⟨h.quiet, List.forall_mem_map.mpr fun r hr => nonLoading_rebuilt _ (h.below r hr)⟩
  · refine Or.inr ⟨r, rs.map (rebuilt s.provider.filter), m, ?_, hscreen, hm, hmodes, ?_⟩
    · rw [hr, List.map_cons, rebuilt_of_form hscreen]
    · exact List.forall_mem_map.mpr fun r hr => nonLoading_rebuilt _ (hbelow r hr)

theorem nonLoading_pageRoute (p : ModuleProvider) (named : Bool) (waiting : Waiting) :
    NonLoading (pageRoute p named waiting) := nonLoading_of_isForm rfl

theorem modes_startSubmit {q : ModuleProvider} {name : Option String} (h : startSubmit p name = some q) : q.modes = p.modes := by
  rw [startSubmit] at h
  split at h
  · obtain ⟨name, -, rfl⟩ := Option.map_eq_some_iff.mp h
    rfl
  · cases h
    rfl

theorem quiet_iff_modes : Quiet p ↔ p.modes.edit = false ∧ p.modes.duplicate = false ∧ p.modes.amend = false := Iff.rfl

theorem settled_of_modes {q : ModuleProvider} {done : List (ModuleProvider × List Route)} (h : Settled s)
    (hq : q.modes = s.provider.modes) : Settled ⟨q, s.routes, done⟩ := by
  rcases h with h | ⟨r, rs, m, hr, hscreen, hm, hmodes, hbelow⟩
  · exact Or.inl ⟨quiet_iff_modes.mpr (hq ▸ quiet_iff_modes.mp h.quiet), h.below⟩
  · exact Or.inr ⟨r, rs, m, hr, hscreen, hm, hq.trans hmodes, hbelow⟩

theorem createFromPage_of_loading (h : Loading s) : s.provider.createFromPage = false := by
  obtain ⟨-, -, m, -, -, hm, hmodes, -⟩ := h
  have hflag : s.provider.createFromPage = m.modes.createFrom := congrArg Modes.createFrom hmodes
  rw [hflag]
  cases m <;> first | rfl | cases hm

theorem quiet_loadedPage (h : Quiet p) (id : String) (reply : Option ServerPage) : Quiet (loadedPage p id reply) :=
  quiet_of_modes (modes_loadedPage p id reply) h

theorem settled_submit {top : Route} {below : List Route} (h : Settled s) (hroutes : s.routes = top :: below)
    (htop : top.isForm = true) (name : Option String) (result : SubmitResult) (reply : Option ServerPage) :
    Settled (s.submit name result reply) := by
  rw [App.submit]
  cases hstart : startSubmit s.provider name with
  | none => exact h
  | some q =>
    have hs : Settled { s with provider := q } := settled_of_modes h (modes_startSubmit hstart)
    have hform : ∃ r rs', s.routes = r :: rs' ∧ r.isForm = true := ⟨top, below, hroutes, htop⟩
    have hbelow : ∀ r ∈ s.routes.tail, NonLoading r := by
      rw [hroutes]
      exact below_of_settled h hroutes
    cases result with
    | fails =>
      dsimp only
      split
      · exact Or.inl (calm_pop (Or.inr hform) hbelow)
      · exact hs
    | succeeds id =>
      dsimp only
      split
      · -- an edit, so the create-from flag is down and no page is pushed
        rename_i hedit
        have hflag : q.createFromPage = false := by
          rcases hs with hs | hs
          · rw [hs.quiet.1] at hedit
            cases hedit
          · exact createFromPage_of_loading hs
        rw [if_neg (by simp [hflag])]
        exact Or.inl (calm_refreshTop (calm_pop (Or.inr hform) hbelow))
      · split
        · rename_i hcreate
          have hcalm : Calm { s with provider := q } := by
            rcases hs with hs | hs
            · exact hs
            · rw [createFromPage_of_loading hs] at hcreate
              cases hcreate.1
          refine Or.inl (calm_push ?_ hcalm.below (nonLoading_pageRoute _ _ _))
          cases id with
          | none => exact hcalm.quiet
          | some id => exact quiet_loadedPage hcalm.quiet id reply
        · cases id with
          | none => exact hs
          | some id => exact Or.inl (calm_pushReplacement (Or.inr hform) hbelow rfl rfl)

theorem calm_back {top : Route} {below : List Route} (h : Settled s) (hroutes : s.routes = top :: below)
    (reply : Option ServerPage) : Calm (s.back reply) := by
  have hbelow : ∀ r ∈ s.routes.tail, NonLoading r := by
    rw [hroutes]
    exact below_of_settled h hroutes
  rw [App.back]
  split
  · rename_i own named waiting rs hpage
    have hs : Calm s := calm_of_settled h hpage rfl
    split
    · have hquiet : Quiet (loadedPage s.provider s.provider.previousPageId reply) :=
        quiet_loadedPage hs.quiet s.provider.previousPageId reply
      have hnew : Calm (App.pushReplacement { s with provider := loadedPage s.provider s.provider.previousPageId reply }
          (pageRoute (loadedPage s.provider s.provider.previousPageId reply) false .nothing)) :=
        calm_pushReplacement (Or.inl hquiet) hbelow rfl rfl
      refine calm_refreshTop (calm_pop (Or.inl hnew.quiet) fun r hr => hnew.below r (List.mem_of_mem_tail hr))
    · exact calm_pop (Or.inl hs.quiet) hbelow
  · exact calm_pop (quiet_or_form h) hbelow

theorem loading_of_calm {q : ModuleProvider} {m : FormMode} (h : Calm s) (hm : m.loadsPage = true)
    (hmodes : q.modes = m.modes) : Settled (s.openForm q m .nothing) :=
  Or.inr ⟨_, s.routes, m, rfl, rfl, hm, hmodes, h.below⟩

theorem modes_editThisPage (h : Quiet p) : p.editThisPage.modes = FormMode.edit.modes ↔ p.createFromPage = false := by
  simp [ModuleProvider.modes, ModuleProvider.editThisPage, FormMode.modes, h.2.1, h.2.2]

theorem modes_setDuplicateMode (h : Quiet p) :
    (p.setDuplicateMode true).modes = FormMode.duplicate.modes ↔ p.createFromPage = false := by
  simp [ModuleProvider.modes, ModuleProvider.setDuplicateMode, FormMode.modes, h.1, h.2.2]

theorem modes_setAmendDoc (h : Quiet p) :
    (p.setAmendDoc true).modes = FormMode.amend.modes ↔ p.createFromPage = false := by
  simp [ModuleProvider.modes, ModuleProvider.setAmendDoc, FormMode.modes, h.1, h.2.1]

theorem modes_iAmCreatingAForm (h : Quiet p) : p.iAmCreatingAForm.modes = FormMode.new.modes := by
  simp [ModuleProvider.modes, ModuleProvider.iAmCreatingAForm, FormMode.modes, h.2.1, h.2.2]

theorem modes_pushCreateFromPage (h : Quiet p) (pageData : Doc) (doctype : String) :
    (p.pushCreateFromPage pageData doctype).modes = FormMode.createFrom.modes := by
  simp [ModuleProvider.modes, ModuleProvider.pushCreateFromPage, ModuleProvider.setModule, FormMode.modes, h.2.1, h.2.2]

theorem settled_pressed {top : Route} {below : List Route} (h : Settled s) (hroutes : s.routes = top :: below)
    (hpressed : Pressed s top below e t) (hguard : PressedOutsideCreateFrom s e) : Settled t := by
  have hcalm (htop : top.isForm = false) : Calm s := calm_of_settled h hroutes htop
  cases hpressed with
  | openModule doctype htop => exact Or.inl (calm_openModule (hcalm (by simp [Route.isForm, htop])) doctype)
  | openTransaction doctype id reply htop =>
    have hs := hcalm (by simp [Route.isForm, htop])
    have hq : Quiet (s.provider.setModule doctype) := hs.quiet
    exact Or.inl (calm_push (quiet_loadedPage hq id reply) hs.below (nonLoading_pageRoute _ _ _))
  | createFromDashboard doctype htop =>
    have hs := hcalm (by simp [Route.isForm, htop])
    exact Or.inl (calm_push ⟨rfl, hs.quiet.2⟩ hs.below fun m hm => by cases hm; rfl)
  | openCard l id reply htop =>
    have hs := hcalm (by simp [Route.isForm, htop])
    exact Or.inl (calm_push (quiet_loadedPage hs.quiet id reply) hs.below (nonLoading_pageRoute _ _ _))
  | add l htop =>
    have hs := hcalm (by simp [Route.isForm, htop])
    exact Or.inl (calm_push ⟨rfl, hs.quiet.2⟩ hs.below fun m hm => by cases hm; rfl)
  | applyFilter l values htop => exact Or.inl (calm_applyFilter (hcalm (by simp [Route.isForm, htop])) values)
  | loadMore l htop => exact h
  | edit own htop =>
    have hs := hcalm (by simp [Route.isForm, htop])
    exact loading_of_calm hs rfl ((modes_editThisPage hs.quiet).mpr (hguard .edit rfl rfl))
  | duplicate own htop =>
    have hs := hcalm (by simp [Route.isForm, htop])
    exact loading_of_calm hs rfl ((modes_setDuplicateMode hs.quiet).mpr (hguard .duplicate rfl rfl))
  | amend own htop =>
    have hs := hcalm (by simp [Route.isForm, htop])
    exact loading_of_calm hs rfl ((modes_setAmendDoc hs.quiet).mpr (hguard .amend rfl rfl))
  | createFrom own pageData doctype htop =>
    have hs := hcalm (by simp [Route.isForm, htop])
    exact Or.inl (calm_push ⟨rfl, hs.quiet.2⟩ hs.below fun m hm => by cases hm; rfl)
  | openConnection own doctype htop => exact Or.inl (calm_openConnection (hcalm (by simp [Route.isForm, htop])) doctype)
  | homeOfPage own htop =>
    have hs := hcalm (by simp [Route.isForm, htop])
    exact Or.inl (calm_pushReplacement (Or.inl hs.quiet) (fun r hr => hs.below r (List.mem_of_mem_tail hr)) rfl rfl)
  | homeOfList l htop =>
    have hs := hcalm (by simp [Route.isForm, htop])
    exact Or.inl (calm_pushReplacement (Or.inl hs.quiet) (fun r hr => hs.below r (List.mem_of_mem_tail hr)) rfl rfl)
  | submit mode name result reply htop => exact settled_submit h hroutes (by simp [Route.isForm, htop]) name result reply
  | back reply hbelow => exact Or.inl (calm_back h hroutes reply)

/-- In a settled app a form is opened in its mode exactly when the press meets the guard. -/
theorem opensInMode_iff {top : Route} {below : List Route} (h : Settled s) (hroutes : s.routes = top :: below)
    (hpressed : Pressed s top below e t) : OpensInMode s e t ↔ PressedOutsideCreateFrom s e := by
  have hcalm (htop : top.isForm = false) : Calm s := calm_of_settled h hroutes htop
  have hopens {m : FormMode} (hm : opens e = some m) :
      (OpensInMode s e t ↔ PressedOutsideCreateFrom s e) ↔
        (t.provider.modes = m.modes ↔ (m.loadsPage = true → s.provider.createFromPage = false)) := by
    rw [OpensInMode, PressedOutsideCreateFrom, hm]
    simp only [Option.mem_def, Option.some.injEq, forall_eq', selects_iff_modes]
  cases hpressed with
  | createFromDashboard doctype htop =>
    have hs : Quiet (s.provider.setModule doctype) := (hcalm (by simp [Route.isForm, htop])).quiet
    exact (hopens (m := .new) rfl).mpr (iff_of_true (modes_iAmCreatingAForm hs) nofun)
  | add l htop =>
    have hs := (hcalm (by simp [Route.isForm, htop])).quiet
    exact (hopens (m := .new) rfl).mpr (iff_of_true (modes_iAmCreatingAForm hs) nofun)
  | edit own htop =>
    have hs := (hcalm (by simp [Route.isForm, htop])).quiet
    exact (hopens (m := .edit) rfl).mpr ((modes_editThisPage hs).trans ⟨fun h _ => h, fun h => h rfl⟩)
  | duplicate own htop =>
    have hs := (hcalm (by simp [Route.isForm, htop])).quiet
    exact (hopens (m := .duplicate) rfl).mpr ((modes_setDuplicateMode hs).trans ⟨fun h _ => h, fun h => h rfl⟩)
  | amend own htop =>
    have hs := (hcalm (by simp [Route.isForm, htop])).quiet
    exact (hopens (m := .amend) rfl).mpr ((modes_setAmendDoc hs).trans ⟨fun h _ => h, fun h => h rfl⟩)
  | createFrom own pageData doctype htop =>
    have hs := (hcalm (by simp [Route.isForm, htop])).quiet
    exact (hopens (m := .createFrom) rfl).mpr (iff_of_true (modes_pushCreateFromPage hs pageData doctype) nofun)
  | openModule | openTransaction | openCard | applyFilter | loadMore | openConnection | homeOfPage | homeOfList
  | submit | back => exact iff_of_true (fun m hm => nomatch hm) (fun m hm => nomatch hm)

theorem settled_step (h : Settled s) (hstep : App.step s e = some t) (hguard : PressedOutsideCreateFrom s e) :
    Settled t := by
  obtain ⟨top, below, u, hroutes, hpressed, rfl⟩ := pressed_of_step hstep
  have hs : Settled { s with completed := [] } := settled_of_modes h rfl
  exact settled_rebuilt (settled_pressed hs hroutes hpressed hguard)

theorem opensInMode_step_iff (h : Settled s) (hstep : App.step s e = some t) :
    OpensInMode s e t ↔ PressedOutsideCreateFrom s e := by
  obtain ⟨top, below, u, hroutes, hpressed, rfl⟩ := pressed_of_step hstep
  have hs : Settled { s with completed := [] } := settled_of_modes h rfl
  have hiff : OpensInMode { s with completed := [] } e u ↔ PressedOutsideCreateFrom { s with completed := [] } e :=
    opensInMode_iff hs hroutes hpressed
  exact hiff

/-- Every form of a run is opened in the mode of its button, and in no other, exactly when Edit, Duplicate
    and Amend are never pressed on a page above a create-from form. -/
theorem opensInMode_iff_pressedOutsideCreateFrom (es : List AppEvent) :
    Runs.Each App.step OpensInMode {} es ↔ Runs.Guarded App.step PressedOutsideCreateFrom {} es :=
  Runs.each_iff_guarded (I := Settled) (fun _ _ _ h hstep hguard => settled_step h hstep hguard)
    (fun _ _ _ h hstep => opensInMode_step_iff h hstep)
    (Or.inl ⟨⟨rfl, rfl, rfl⟩, List.forall_mem_singleton.mpr (nonLoading_of_isForm rfl)⟩)

/-- Edit on the page of an order that a create-from form has just created: its form is to edit the order and
    to fill a new one. -/
theorem edit_above_createFrom :
    ¬ Runs.Each App.step OpensInMode {}
      [.openModule "Quotation",
        .openCard "QTN-1" (some ⟨[("name", .str "QTN-1"), ("docstatus", .int 1)], rfl, rfl⟩),
        .createFrom [("name", .str "QTN-1")] "Sales Order",
        .submit none (.succeeds (some "SO-1")) (some ⟨[("name", .str "SO-1"), ("docstatus", .int 0)], rfl, rfl⟩),
        .edit] := by
  decide

end FormModes
end NextApp
