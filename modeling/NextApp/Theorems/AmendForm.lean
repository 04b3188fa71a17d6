import NextApp.Model.AmendForm
import NextApp.Theorems.ModuleForm

/-! # Amendments that are submitted again

The amending function takes the name out of the data that it reads the name from: a form that is submitted again has none,
and throws before its request. -/

namespace NextApp.Amends
open Runs Duplicates

variable {m : ModuleType} {p : ModuleProvider} {d : Doc} {a : Submission} {s t : DuplicateForm} {e : DuplicateEvent}
  {es : List DuplicateEvent} {name : String} {v : Value}

/-- The submit reaches its request and amends the document of the name. -/
def SendsAmendment (s : DuplicateForm) (a : Submission) (name : String) : Prop :=
  ∃ p data, s.module.form.submit a s.provider s.data = .done (p, data) ∧ Doc.at data "amended_from" = .str name ∧
    data.get? "name" = none ∧ p.previousPageId = name

/-- The name that a form's data has after an event: what a field writes, and none once it has been submitted. -/
def nameAfter (v : Value) : DuplicateEvent → Value
  | .load => v
  | .write key value => if key = "name" then value else v
  | .drop key => if key = "name" then .null else v
  | .submit _ => .null

structure InAmendMode (m : ModuleType) (p : ModuleProvider) : Prop where
  amendDoc : p.amendDoc = true
  duplicateMode : p.duplicateMode = false
  currentModule : p.currentModule = some m

/-! ### One submit -/

theorem save_of_not_duplicate (h : p.duplicateMode = false) (form : ModuleForm) (saved : Doc) (d : Doc) :
    form.save saved p d = .done (d.addAll saved) := by
  have hdone : ∀ d : Doc, p.initializeDuplicationMode d = .done d := fun d => by
    rw [ModuleProvider.initializeDuplicationMode, if_neg (ne_true_of_eq_false h)]
  rw [ModuleForm.save]
  split
  · rw [hdone]
    rfl
  · exact hdone _
  · rfl

/-- The end of a submit, after the amending function. -/
def finish (form : ModuleForm) (a : Submission) (p : ModuleProvider) (data : Doc) : Outcome (ModuleProvider × Doc) :=
  let data := (data.addAll a.saved).addAll a.written
  if a.sends then .done (p, data.removeAll form.removed) else .threw (p, data)

theorem submit_eq (form : ModuleForm)
    (hamend : ∀ q data, form.amend p (d.addAll a.located) = .done (q, data) → q.duplicateMode = false) :
    form.submit a p d = (form.amend p (d.addAll a.located)).bind fun x => finish form a x.1 x.2 := by
  rw [ModuleForm.submit]
  cases hx : form.amend p (d.addAll a.located) with
  | threw x => rfl
  | done x =>
    rw [Outcome.bind_done, Outcome.bind_done]
    simp only [save_of_not_duplicate (hamend x.1 x.2 hx), Outcome.map, Outcome.bind_done, finish]

/-- What follows the amending function keeps the keys of the document's identity. -/
theorem finish_cases (ha : a.of m.form = true) (p : ModuleProvider) (d : Doc) :
    ∃ data, finish m.form a p d = (if a.sends then .done (p, data) else .threw (p, data)) ∧
      ∀ k ∈ identityKeys, data.get? k = d.get? k := by
  obtain ⟨⟨_, hsaved⟩, hwritten⟩ := by
    simpa only [Submission.of, Bool.and_eq_true] using ha
  have hkeep : ∀ k ∈ identityKeys, ((d.addAll a.saved).addAll a.written).get? k = d.get? k := by
    intro k hk
    obtain ⟨_, hnotSaved, hnotWritten, _⟩ := identityKeys_form m k hk
    rw [Dict.get?_addAll_of_keys hnotWritten hwritten, Dict.get?_addAll_of_keys hnotSaved hsaved]
  rw [finish]
  cases a.sends with
  | false => exact ⟨_, rfl, hkeep⟩
  | true =>
    refine ⟨_, rfl, fun k hk => ?_⟩
    rw [Dict.get?_removeAll, if_neg (identityKeys_form m k hk).2.2.2, hkeep k hk]

theorem get?_located (ha : a.of m.form = true) {k : String} (hk : k ∈ identityKeys) :
    (d.addAll a.located).get? k = d.get? k := by
  obtain ⟨⟨hlocated, _⟩, _⟩ := by
    simpa only [Submission.of, Bool.and_eq_true] using ha
  exact Dict.get?_addAll_of_keys (identityKeys_form m k hk).1 hlocated

/-- A form that does not amend sends the name and the amendment that its data has. -/
theorem submit_of_not_amends (hform : m.form.amends = false) (h : p.duplicateMode = false) (ha : a.of m.form = true) (d : Doc) :
    ∃ data, m.form.submit a p d = (if a.sends then .done (p, data) else .threw (p, data)) ∧
      ∀ k ∈ identityKeys, data.get? k = d.get? k := by
  have hamend : m.form.amend p (d.addAll a.located) = .done (p, d.addAll a.located) := by
    rw [ModuleForm.amend, if_neg (ne_true_of_eq_false hform)]
  rw [submit_eq m.form fun q data hdone => by rw [hamend] at hdone; cases hdone; exact h, hamend, Outcome.bind_done]
  obtain ⟨data, hfinish, hkeep⟩ := finish_cases ha p (d.addAll a.located)
  exact ⟨data, hfinish, fun k hk => (hkeep k hk).trans (get?_located ha hk)⟩

/-- A form that amends throws for data without a name, and takes the name that it finds. -/
theorem submit_of_amends (hform : m.form.amends = true) (h : InAmendMode m p) (ha : a.of m.form = true) (d : Doc) :
    ((Doc.at d "name").asString? = none ∧
        ∃ data, m.form.submit a p d = .threw (p, data) ∧ Doc.at data "name" = Doc.at d "name") ∨
      ∃ name data, Doc.at d "name" = .str name ∧
        m.form.submit a p d =
          (if a.sends then .done ({ p with previousPageId := name, isAmended := true }, data)
            else .threw ({ p with previousPageId := name, isAmended := true }, data)) ∧
        data.get? "name" = none ∧ Doc.at data "amended_from" = .str name := by
  have hlocated : Doc.at (d.addAll a.located) "name" = Doc.at d "name" := by
    rw [Doc.at, get?_located ha (by decide), Doc.at]
  have hamend : m.form.amend p (d.addAll a.located) = p.initializeAmendingFunction (d.addAll a.located) := by
    rw [ModuleForm.amend, if_pos hform]
  have hfunction : p.initializeAmendingFunction (d.addAll a.located) =
      let data := ((d.addAll a.located).set "doctype" (.str m.title)).set "amended_from" (Doc.at d "name")
      .need (p, data) (Doc.at d "name").asString? fun name =>
      .done ({ p with previousPageId := name, isAmended := true }, data.remove "name") := by
    rw [ModuleProvider.initializeAmendingFunction, if_pos h.amendDoc, h.currentModule]
    simp only [Outcome.need_some, ← hlocated]
    simp
  rw [submit_eq m.form, hamend, hfunction]
  · cases hname : (Doc.at d "name").asString? with
    | none =>
      refine Or.inl ⟨rfl, _, rfl, ?_⟩
      simp [hlocated]
    | some name =>
      have hstr : Doc.at d "name" = .str name := by
        cases hd : Doc.at d "name" <;> rw [hd] at hname <;> cases hname
        rfl
      obtain ⟨data, hfinish, hkeep⟩ := finish_cases ha { p with previousPageId := name, isAmended := true }
        ((((d.addAll a.located).set "doctype" (.str m.title)).set "amended_from" (.str name)).remove "name")
      refine Or.inr ⟨name, data, hstr, ?_, ?_, ?_⟩
      · rw [hstr]
        exact hfinish
      · rw [hkeep "name" (by decide)]
        exact Dict.get?_remove_self
      · rw [Doc.at, hkeep "amended_from" (by decide)]
        simp
  · intro q data hdone
    rw [hamend, hfunction] at hdone
    cases hname : (Doc.at d "name").asString? with
    | none => simp only [hname, Outcome.need_none, reduceCtorEq] at hdone
    | some name =>
      simp only [hname, Outcome.need_some, Outcome.done.injEq, Prod.mk.injEq] at hdone
      rw [← hdone.1]
      exact h.duplicateMode

/-! ### Runs -/

/-- The form is in amending mode, and where it calls the amending function its data has the name exactly when the value
    that is due is that name. -/
structure Amending (m : ModuleType) (name : String) (v : Value) (s : DuplicateForm) : Prop where
  module : s.module = m
  mode : InAmendMode m s.provider
  named : m.form.amends = true → (Doc.at s.data "name" = .str name ↔ v = .str name)

theorem loads_of_amends (h : m.form.amends = true) : m.opensPage .amend = true := by
  revert h
  cases m <;> decide

theorem name_updateData (p : ModuleProvider) : Doc.at p.updateData "name" = Doc.at p.pageData "name" := by
  simp [ModuleProvider.updateData]

theorem amending_start (page : ModuleProvider) (data : Doc) (hname : Doc.at page.pageData "name" = .str name)
    (hmode : page.duplicateMode = false) : Amending m name (.str name) (DuplicateForm.amend m page data) where
  module := rfl
  mode := ⟨rfl, hmode, rfl⟩
  named hform := by
    refine iff_of_true ?_ rfl
    rw [DuplicateForm.amend]
    dsimp only
    rw [if_pos (loads_of_amends hform)]
    exact (name_updateData _).trans hname

theorem amending_submit (h : Amending m name v s) (ha : a.of m.form = true) :
    ∃ q data, (m.form.submit a s.provider s.data = .done (q, data) ∨ m.form.submit a s.provider s.data = .threw (q, data)) ∧
      InAmendMode m q ∧ (m.form.amends = true → Doc.at data "name" ≠ .str name) := by
  cases hform : m.form.amends with
  | false =>
    obtain ⟨data, hsubmit, _⟩ := submit_of_not_amends hform h.mode.duplicateMode ha s.data
    refine ⟨s.provider, data, ?_, h.mode, nofun⟩
    rw [hsubmit]
    cases a.sends
    · exact Or.inr rfl
    · exact Or.inl rfl
  | true =>
    rcases submit_of_amends hform h.mode ha s.data with ⟨hnone, data, hsubmit, hkeep⟩ | ⟨name', data, _, hsubmit, hgone, _⟩
    · refine ⟨s.provider, data, Or.inr hsubmit, h.mode, fun _ hstr => ?_⟩
      rw [← hkeep, hstr] at hnone
      cases hnone
    · refine ⟨{ s.provider with previousPageId := name', isAmended := true }, data, ?_,
        ⟨h.mode.amendDoc, h.mode.duplicateMode, h.mode.currentModule⟩, fun _ hstr => ?_⟩
      · rw [hsubmit]
        cases a.sends
        · exact Or.inr rfl
        · exact Or.inl rfl
      · rw [Doc.at, hgone] at hstr
        cases hstr

theorem amending_step (h : Amending m name v s) (hstep : s.amendStep e = some t) : Amending m name (nameAfter v e) t := by
  obtain ⟨module, mode, named⟩ := h
  cases e with
  | load => cases hstep
  | write key value =>
    obtain ⟨_, hstep⟩ := Option.ite_none_right_eq_some.mp hstep
    cases hstep
    refine ⟨module, mode, fun hform => ?_⟩
    by_cases hkey : key = "name"
    · simp [nameAfter, hkey]
    · simpa [nameAfter, hkey] using named hform
  | drop key =>
    obtain ⟨_, hstep⟩ := Option.ite_none_right_eq_some.mp hstep
    cases hstep
    refine ⟨module, mode, fun hform => ?_⟩
    by_cases hkey : key = "name"
    · simp [nameAfter, hkey, Doc.at]
    · simpa [nameAfter, hkey, Doc.at] using named hform
  | submit a =>
    subst module
    have ha : a.of s.module.form = true := of_of_step hstep
    obtain ⟨q, data, hsubmit, hmode, hgone⟩ := amending_submit ⟨rfl, mode, named⟩ ha
    obtain ⟨_, hstep⟩ := Option.ite_none_right_eq_some.mp hstep
    simp only [ha, if_true] at hstep
    rcases hsubmit with hsubmit | hsubmit <;>
    · rw [hsubmit] at hstep
      cases hstep
      exact ⟨rfl, hmode, fun hform => iff_of_false (hgone hform) (fun h => by cases h)⟩

theorem amending_run (h : Amending m name v s) (hrun : run DuplicateForm.amendStep s es = some t) :
    Amending m name (es.foldl nameAfter v) t := by
  induction es generalizing s v with
  | nil =>
    cases hrun
    exact h
  | cons e es ih =>
    obtain ⟨u, hu, hrun⟩ := Option.bind_eq_some_iff.mp hrun
    exact ih (amending_step h hu) hrun

/-- After any events, among them submits that fail, a submit amends the document exactly when it does not throw for other
    reasons and the form's data still has the document's name, or has it again: no submit has gone before, or a field has
    written it since. A form that never calls the amending function sends what its data and the provider have. -/
theorem sendsAmendment_iff (m : ModuleType) (page : ModuleProvider) (data : Doc) (es : List DuplicateEvent) (a : Submission)
    (hname : Doc.at page.pageData "name" = .str name) (hmode : page.duplicateMode = false)
    (hrun : run DuplicateForm.amendStep (DuplicateForm.amend m page data) es = some s) (ha : a.of m.form = true) :
    SendsAmendment s a name ↔ a.sends = true ∧
      if m.form.amends then es.foldl nameAfter (.str name) = .str name
      else Doc.at s.data "amended_from" = .str name ∧ s.data.get? "name" = none ∧ s.provider.previousPageId = name := by
  obtain ⟨hmodule, hamend, hnamed⟩ := amending_run (amending_start (m := m) page data hname hmode) hrun
  subst hmodule
  rw [SendsAmendment]
  cases hform : s.module.form.amends with
  | false =>
    obtain ⟨data, hsubmit, hkeep⟩ := submit_of_not_amends hform hamend.duplicateMode ha s.data
    rw [hsubmit]
    cases hsends : a.sends with
    | false => simp
    | true => simp [Doc.at, hkeep "name" (by decide), hkeep "amended_from" (by decide)]
  | true =>
    rw [if_pos rfl, ← hnamed hform]
    rcases submit_of_amends hform hamend ha s.data with ⟨hnone, data, hsubmit, _⟩ | ⟨name', data, hstr, hsubmit, hgone, hfrom⟩
    · rw [hsubmit]
      refine iff_of_false ?_ fun h => ?_
      · rintro ⟨_, _, hdone, _⟩
        cases hdone
      · rw [h.2] at hnone
        cases hnone
    · rw [hsubmit, hstr]
      cases hsends : a.sends with
      | false => simp
      | true => simp [hgone, hfrom]

def cancelledOrder : ModuleProvider where
  pageData := [("name", .str "SO-1"), ("docstatus", .int 2)]

/-- A submit of a sales order that fails, or would fail, at the server. -/
def failingSubmit : Submission where
  located := []
  saved := []
  written := [("docstatus", .int 0)]
  sends := true
  succeeds := false

/-- The first submit of the amendment of an order. -/
theorem sendsAmendment_of_order :
    ∃ s ∈ run DuplicateForm.amendStep (DuplicateForm.amend .salesOrder cancelledOrder []) [.write "customer" (.str "C-1")],
      SendsAmendment s failingSubmit "SO-1" :=
  ⟨_, rfl, (sendsAmendment_iff .salesOrder cancelledOrder [] [.write "customer" (.str "C-1")] failingSubmit (by decide) rfl rfl
    (by decide)).mpr ⟨rfl, by decide⟩⟩

/-- The second submit throws before its request, with an amendment of nothing in its data. -/
theorem second_submit_throws :
    ∃ s ∈ run DuplicateForm.amendStep (DuplicateForm.amend .salesOrder cancelledOrder []) [.submit failingSubmit],
      ¬ SendsAmendment s failingSubmit "SO-1" ∧ s.sent (.submit failingSubmit) = none ∧
        (s.amendStep (.submit failingSubmit)).map (fun t => t.data.get? "amended_from") = some (some .null) := by
  refine ⟨_, rfl, ?_, rfl, by decide⟩
  rintro ⟨p, data, hdone, _⟩
  cases hdone

end NextApp.Amends
