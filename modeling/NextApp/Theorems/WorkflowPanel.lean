import NextApp.Model.WorkflowPanel

/-! # The workflow panel follows the server

When a page shows the workflow of its document once the answers have come, and a change that returns closes the dialog in which
it was chosen, so that the panel asks again, whatever the order of what the user, the server and the network do. -/

namespace NextApp.WorkflowPanel
open Runs
variable {σ : Type*} {w : Workflow σ} {s t : WorkflowPanel σ} {e : WorkflowPanelEvent}

/-- Where no change is on its way, what will have been shown in the end is what the server has; a change that is on its way is
    the only one, and the dialog in which it was chosen is open. -/
structure Sound (w : Workflow σ) (s : WorkflowPanel σ) : Prop where
  actions : s.updates = [] → ∀ d ∈ s.pageId,
    s.actionsList.last (fun d => w.actions (s.documents d)) = w.actions (s.documents d)
  status : s.updates = [] → ∀ d ∈ s.pageId,
    s.workflowStatus.last (fun d => w.status (s.documents d)) = w.status (s.documents d)
  owned : s.updates = [] ∨ ∃ update, s.updates = [update] ∧ s.dialog = true ∧ update.dialog = s.dialogs
  page : s.dialog = true → s.pageId ≠ none

/-- With nothing on its way a sound panel shows what the server has. -/
theorem Sound.shown (h : s.Sound w) {d : String} (hpage : s.pageId = some d) (hupdates : s.updates = [])
    (hactions : s.actionsList.queries = []) (hstatus : s.workflowStatus.queries = []) :
    s.actionsList.shown = w.actions (s.documents d) ∧ s.workflowStatus.shown = w.status (s.documents d) := by
  constructor
  · rw [← h.actions hupdates d hpage, Polled.last_of_queries hactions]
  · rw [← h.status hupdates d hpage, Polled.last_of_queries hstatus]

/-- A change that returns to a sound panel closes the dialog, and the panel asks again. -/
theorem Sound.closes_updateReturns (h : s.Sound w) {index : Nat} (ht : step w s (.updateReturns index) = some t) :
    s.dialog = true ∧ t = { s with updates := [] }.closeDialog := by
  obtain ⟨update, hupdate, rfl⟩ := Option.map_eq_some_iff.mp ht
  rcases h.owned with hnil | ⟨update', hone, hdialog, hnumber⟩
  · rw [hnil] at hupdate
    cases hupdate
  · rw [hone] at hupdate ⊢
    obtain ⟨hlt, -⟩ := List.getElem?_eq_some_iff.mp hupdate
    obtain rfl : index = 0 := Nat.lt_one_iff.mp hlt
    obtain rfl : update = update' := List.mem_singleton.mp (List.mem_of_getElem? hupdate)
    refine ⟨hdialog, ?_⟩
    rw [popAfter, if_pos ⟨hdialog, hnumber⟩]
    rfl

/-- Nothing is chosen and the dialog is not left while a change is on its way. An answer that comes leaves the last of its kind
    to come, or is the last and has not failed; all that is said of a page with no change on its way. -/
def Guard (w : Workflow σ) (s : WorkflowPanel σ) : WorkflowPanelEvent → Prop
  | .choose _ | .dismiss => s.updates = []
  | .actionsArrive index ok => s.updates = [] → ∀ d ∈ s.pageId,
      (∀ q ∈ (s.actionsList.queries.eraseIdx index).getLast?,
        Polled.value (fun d => w.actions (s.documents d)) q = w.actions (s.documents d)) ∧
      (s.actionsList.queries.eraseIdx index = [] → ok = true ∨ w.actions (s.documents d) = [])
  | .statusArrives index ok => s.updates = [] → ∀ d ∈ s.pageId,
      (∀ q ∈ (s.workflowStatus.queries.eraseIdx index).getLast?,
        Polled.value (fun d => w.status (s.documents d)) q = w.status (s.documents d)) ∧
      (s.workflowStatus.queries.eraseIdx index = [] → ok = true ∨ w.status (s.documents d) = none)
  | .openPage _ | .back | .tapAction | .answerActions _ | .answerStatus _ | .applyUpdate _ | .updateReturns _ => True

/-! ### Steps -/

theorem Sound.updates_of_dialog (h : s.Sound w) (hdialog : s.dialog = false) : s.updates = [] := by
  obtain hnil | ⟨_, -, hopen, -⟩ := h.owned
  · exact hnil
  · exact absurd (hdialog.symm.trans hopen) Bool.false_ne_true

/-- What the panel asks for when it is refreshed will be shown. -/
theorem sound_refresh {d : String} (hupdates : s.updates = []) (hdialog : s.dialog = false) (hpage : s.pageId = some d) :
    (s.refresh d).Sound w where
  actions _ d' hd' := by
    cases hpage.symm.trans hd'
    exact Polled.last_ask
  status _ d' hd' := by
    cases hpage.symm.trans hd'
    exact Polled.last_ask
  owned := .inl hupdates
  page hopen := absurd (hdialog.symm.trans hopen) Bool.false_ne_true

theorem sound_closeDialog {d : String} (hupdates : s.updates = []) (hpage : s.pageId = some d) : s.closeDialog.Sound w := by
  rw [closeDialog, hpage]
  exact sound_refresh hupdates rfl rfl

/-- A panel whose page is left. -/
theorem sound_left (hupdates : s.updates = []) (hdialog : s.dialog = false) (hpage : s.pageId = none) : s.Sound w where
  actions _ _ hd := absurd (hpage.symm.trans hd) nofun
  status _ _ hd := absurd (hpage.symm.trans hd) nofun
  owned := .inl hupdates
  page hopen := absurd (hdialog.symm.trans hopen) Bool.false_ne_true

/-- With a change on its way nothing is asked of what is shown. -/
theorem sound_updating {update : WorkflowUpdate} (hupdates : s.updates = [update]) (hdialog : s.dialog = true)
    (hpage : update.dialog = s.dialogs) (hid : s.pageId ≠ none) : s.Sound w where
  actions hnil := absurd (hupdates.symm.trans hnil) nofun
  status hnil := absurd (hupdates.symm.trans hnil) nofun
  owned := .inr ⟨update, hupdates, hdialog, hpage⟩
  page _ := hid

theorem sound_actionsArrive {index : Nat} {ok : Bool} (h : s.Sound w) (ht : step w s (.actionsArrive index ok) = some t) :
    t.Sound w ↔ Guard w s (.actionsArrive index ok) := by
  obtain ⟨query, hquery, ht⟩ := Option.bind_eq_some_iff.mp ht
  have hiff : ∀ message, (ok = true → query.2 = some message) → (ok = false → message = []) →
      ({ s with actionsList := s.actionsList.arrive index message }.Sound w ↔ Guard w s (.actionsArrive index ok)) := by
    intro message hok hfailed
    constructor
    · exact fun ht hupdates d hd =>
        (Polled.last_arrive_iff (h.actions hupdates d hd) hquery hok hfailed).mp (ht.actions hupdates d hd)
    · exact fun hg => ⟨fun hupdates d hd =>
        (Polled.last_arrive_iff (h.actions hupdates d hd) hquery hok hfailed).mpr (hg hupdates d hd), h.status, h.owned, h.page⟩
  cases ok with
  | true =>
    obtain ⟨message, hmessage, rfl⟩ := Option.map_eq_some_iff.mp ht
    exact hiff message (fun _ => hmessage) nofun
  | false =>
    cases ht
    exact hiff [] nofun fun _ => rfl

theorem sound_statusArrives {index : Nat} {ok : Bool} (h : s.Sound w) (ht : step w s (.statusArrives index ok) = some t) :
    t.Sound w ↔ Guard w s (.statusArrives index ok) := by
  obtain ⟨query, hquery, ht⟩ := Option.bind_eq_some_iff.mp ht
  have hiff : ∀ message, (ok = true → query.2 = some message) → (ok = false → message = none) →
      ({ s with workflowStatus := s.workflowStatus.arrive index message }.Sound w ↔ Guard w s (.statusArrives index ok)) := by
    intro message hok hfailed
    constructor
    · exact fun ht hupdates d hd =>
        (Polled.last_arrive_iff (h.status hupdates d hd) hquery hok hfailed).mp (ht.status hupdates d hd)
    · exact fun hg => ⟨h.actions, fun hupdates d hd =>
        (Polled.last_arrive_iff (h.status hupdates d hd) hquery hok hfailed).mpr (hg hupdates d hd), h.owned, h.page⟩
  cases ok with
  | true =>
    obtain ⟨message, hmessage, rfl⟩ := Option.map_eq_some_iff.mp ht
    exact hiff message (fun _ => hmessage) nofun
  | false =>
    cases ht
    exact hiff none nofun fun _ => rfl

theorem sound_choose {index : Nat} (h : s.Sound w) (ht : step w s (.choose index) = some t) :
    t.Sound w ↔ Guard w s (.choose index) := by
  obtain ⟨hdialog, ht⟩ := Option.ite_none_right_eq_some.mp ht
  obtain ⟨d, hd, hmap⟩ := Option.bind_eq_some_iff.mp ht
  obtain ⟨action, -, rfl⟩ := Option.map_eq_some_iff.mp hmap
  constructor
  · intro ht
    obtain hnil | ⟨update, hone, -, -⟩ := ht.owned
    · exact absurd hnil (List.append_ne_nil_of_right_ne_nil _ (List.cons_ne_nil _ _))
    · have hlength := congrArg List.length hone
      rw [List.length_append, List.length_singleton, List.length_singleton] at hlength
      exact List.eq_nil_of_length_eq_zero (Nat.add_right_cancel (hlength.trans (Nat.zero_add 1).symm))
  · intro hg
    have hnil : s.updates = [] := hg
    have hone : s.updates ++ [{ docname := d, action, dialog := s.dialogs }] = [{ docname := d, action, dialog := s.dialogs }] := by
      rw [hnil]
      rfl
    exact sound_updating hone hdialog rfl (h.page hdialog)

theorem sound_dismiss (h : s.Sound w) (ht : step w s .dismiss = some t) : t.Sound w ↔ Guard w s .dismiss := by
  obtain ⟨hdialog, ht⟩ := Option.ite_none_right_eq_some.mp ht
  cases ht
  obtain ⟨d, hd⟩ := Option.ne_none_iff_exists'.mp (h.page hdialog)
  constructor
  · intro ht
    rw [closeDialog, hd] at ht
    exact ht.updates_of_dialog rfl
  · exact fun hg => sound_closeDialog hg hd

theorem sound_updateReturns {index : Nat} (h : s.Sound w) (ht : step w s (.updateReturns index) = some t) : t.Sound w := by
  obtain ⟨hdialog, rfl⟩ := h.closes_updateReturns ht
  obtain ⟨d, hd⟩ := Option.ne_none_iff_exists'.mp (h.page hdialog)
  exact sound_closeDialog rfl hd

/-- The guard is what a step needs to keep the panel sound. -/
theorem sound_step (h : s.Sound w) (ht : step w s e = some t) : t.Sound w ↔ Guard w s e := by
  cases e with
  | openPage d =>
    obtain ⟨hdialog, ht⟩ := Option.ite_none_left_eq_some.mp ht
    cases ht
    have hdialog : s.dialog = false := eq_false_of_ne_true hdialog
    exact iff_of_true (sound_refresh (h.updates_of_dialog hdialog) hdialog rfl) trivial
  | back =>
    obtain ⟨hleft, ht⟩ := Option.ite_none_left_eq_some.mp ht
    cases ht
    have hdialog : s.dialog = false := eq_false_of_ne_true fun hopen => hleft (.inl hopen)
    exact iff_of_true (sound_left (h.updates_of_dialog hdialog) hdialog rfl) trivial
  | tapAction =>
    obtain ⟨hleft, ht⟩ := Option.ite_none_left_eq_some.mp ht
    have hdialog : s.dialog = false := eq_false_of_ne_true fun hopen => hleft (.inl hopen)
    refine iff_of_true ?_ trivial
    split at ht
    · cases ht
      exact h
    · cases ht
      exact ⟨h.actions, h.status, .inl (h.updates_of_dialog hdialog), fun _ hnone => hleft (.inr hnone)⟩
  | choose index => exact sound_choose h ht
  | dismiss => exact sound_dismiss h ht
  | answerActions index =>
    cases ht
    refine iff_of_true ⟨fun hupdates d hd => ?_, h.status, h.owned, h.page⟩ trivial
    exact Polled.last_answer.trans (h.actions hupdates d hd)
  | answerStatus index =>
    cases ht
    refine iff_of_true ⟨h.actions, fun hupdates d hd => ?_, h.owned, h.page⟩ trivial
    exact Polled.last_answer.trans (h.status hupdates d hd)
  | applyUpdate index =>
    obtain ⟨update, hupdate, ht⟩ := Option.bind_eq_some_iff.mp ht
    obtain ⟨-, ht⟩ := Option.ite_none_left_eq_some.mp ht
    cases ht
    obtain hnil | ⟨update', hone, hdialog, hpage⟩ := h.owned
    · rw [hnil] at hupdate
      cases hupdate
    · rw [hone] at hupdate
      obtain ⟨hlt, -⟩ := List.getElem?_eq_some_iff.mp hupdate
      obtain rfl : index = 0 := Nat.lt_one_iff.mp hlt
      obtain rfl : update = update' := List.mem_singleton.mp (List.mem_of_getElem? hupdate)
      have hserved : s.updates.set 0 { update with served := true } = [{ update with served := true }] := by
        rw [hone]
        rfl
      exact iff_of_true (sound_updating hserved hdialog hpage (h.page hdialog)) trivial
  | actionsArrive index ok => exact sound_actionsArrive h ht
  | statusArrives index ok => exact sound_statusArrives h ht
  | updateReturns index => exact iff_of_true (sound_updateReturns h ht) trivial

theorem sound_start (documents : String → σ) : Sound w { documents } := sound_left rfl rfl rfl

/-- The panel is sound all along a run, of any documents and any workflow, exactly when each step meets the guard. -/
theorem sound_iff (w : Workflow σ) (documents : String → σ) (es : List WorkflowPanelEvent) :
    Along (step w) (Sound w) { documents } es ↔ Guarded (step w) (Guard w) { documents } es :=
  along_iff_guarded (I := Sound w) (fun _ h => h) (fun _ _ _ h ht hg => (sound_step h ht).mpr hg)
    (fun _ _ _ h ht hs => (sound_step h ht).mp hs) (sound_start documents)

end NextApp.WorkflowPanel
