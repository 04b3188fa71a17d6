import NextApp.Lib.Runs
import NextApp.Model.ModuleForm

/-! # Duplicates

Every submit but that of the task takes the name and the amendment out of the data of a duplicate, and none writes them
afterwards. So a duplicate is sent as a new document of its module, except a task whose data still has them. -/

namespace NextApp.Duplicates
variable {m : ModuleType} {p q : ModuleProvider} {d d' : Doc} {a : Submission} {s t : DuplicateForm} {e : DuplicateEvent}

/-- The data of a new document of the module. -/
structure NewDocument (m : ModuleType) (data : Doc) : Prop where
  name : data.get? "name" = none
  amendedFrom : Doc.at data "amended_from" = .null
  doctype : data.get? "doctype" = some (.str m.title)

/-- What a submit sends creates such a document. -/
def SendsNew (s : DuplicateForm) (e : DuplicateEvent) (_ : DuplicateForm) : Prop :=
  ∀ request ∈ s.sent e, ∃ data, request = .create data ∧ NewDocument s.module data

/-- The amending function throws for data without a name. -/
def AmendingThrows (form : ModuleForm) (p : ModuleProvider) (data : Doc) : Prop :=
  form.amends = true ∧ p.amendDoc = true ∧ (Doc.at data "name").asString? = none

/-- A duplicate is not sent while the form edits, and a task only with the data of a new document. -/
def LeavesIdentity (s : DuplicateForm) : DuplicateEvent → Prop
  | .submit a =>
    a.sends = true → ¬ AmendingThrows s.module.form s.provider s.data →
      s.provider.editPage = false ∧ (s.module = .task → NewDocument .task s.data)
  | _ => True

/-! ### Keys -/

def identityKeys : List String := ["name", "amended_from", "doctype"]

theorem identityKeys_form (m : ModuleType) : ∀ k ∈ identityKeys,
    k ∉ m.form.located ∧ k ∉ m.form.saved ∧ k ∉ m.form.written ∧ k ∉ m.form.removed := by
  cases m <;> decide

theorem newDocument_congr (h : ∀ k ∈ identityKeys, d.get? k = d'.get? k) : NewDocument m d ↔ NewDocument m d' := by
  have hname := h "name" (by decide)
  have hamended := h "amended_from" (by decide)
  have hdoctype := h "doctype" (by decide)
  constructor
  · intro hd
    exact ⟨hname ▸ hd.name, by rw [Doc.at, ← hamended]; exact hd.amendedFrom, hdoctype ▸ hd.doctype⟩
  · intro hd
    exact ⟨hname ▸ hd.name, by rw [Doc.at, hamended]; exact hd.amendedFrom, hdoctype ▸ hd.doctype⟩

theorem newDocument_addAll {keys : List String} {entries : Doc} (hkeys : ∀ k ∈ identityKeys, k ∉ keys)
    (h : entries.all fun e => e.1 ∈ keys) : NewDocument m (d.addAll entries) ↔ NewDocument m d :=
  newDocument_congr fun k hk => Dict.get?_addAll_of_keys (hkeys k hk) h

theorem newDocument_removeAll {keys : List String} (hkeys : ∀ k ∈ identityKeys, k ∉ keys) :
    NewDocument m (d.removeAll keys) ↔ NewDocument m d :=
  newDocument_congr fun k hk => by rw [Dict.get?_removeAll, if_neg (hkeys k hk)]

/-! ### Submits -/

def InDuplicateMode (m : ModuleType) (p : ModuleProvider) : Prop := p.duplicateMode = true ∧ p.currentModule = some m

theorem initializeDuplicationMode_of (h : InDuplicateMode m p) :
    ∃ data, p.initializeDuplicationMode d = .done data ∧ NewDocument m data := by
  simp only [ModuleProvider.initializeDuplicationMode, h.1, h.2, if_true, Outcome.need_some]
  refine ⟨_, rfl, ?_⟩
  split
  · exact ⟨by simp, by simp [Doc.at], by simp⟩
  · rename_i hnull
    exact ⟨by simp, not_not.mp hnull, by simp⟩

theorem initializeAmendingFunction_cases (h : InDuplicateMode m p) (d : Doc) :
    (p.amendDoc = true ∧ (Doc.at d "name").asString? = none ∧ ∃ data, p.initializeAmendingFunction d = .threw (p, data)) ∨
      (¬ (p.amendDoc = true ∧ (Doc.at d "name").asString? = none) ∧
        ∃ q data, InDuplicateMode m q ∧ q.editPage = p.editPage ∧ p.initializeAmendingFunction d = .done (q, data)) := by
  by_cases hamend : p.amendDoc = true
  · have hkeep : Doc.at ((d.set "doctype" (.str m.title)).set "amended_from" (Doc.at (d.set "doctype" (.str m.title)) "name"))
        "name" = Doc.at d "name" := by simp
    simp only [ModuleProvider.initializeAmendingFunction, if_pos hamend, h.2, Outcome.need_some, hkeep]
    cases hname : (Doc.at d "name").asString? with
    | none => exact Or.inl ⟨hamend, rfl, _, rfl⟩
    | some name =>
      refine Or.inr ⟨fun hthrows => Option.some_ne_none name hthrows.2,
        { p with currentModule := some m, previousPageId := name, isAmended := true },
        _, ⟨h.1, rfl⟩, rfl, rfl⟩
  · refine Or.inr ⟨fun hthrows => hamend hthrows.1, p, d, h, rfl, ?_⟩
    rw [ModuleProvider.initializeAmendingFunction, if_neg hamend]

theorem amend_cases (h : InDuplicateMode m p) (form : ModuleForm) (d : Doc) :
    (AmendingThrows form p d ∧ ∃ data, form.amend p d = .threw (p, data)) ∨
      (¬ AmendingThrows form p d ∧ ∃ q data, InDuplicateMode m q ∧ q.editPage = p.editPage ∧
        (form.amends = false → data = d) ∧ form.amend p d = .done (q, data)) := by
  unfold ModuleForm.amend
  split
  · rename_i hamends
    rcases initializeAmendingFunction_cases h d with ⟨hamend, hname, hthrew⟩ | ⟨hnot, q, data, hq, hedit, hdone⟩
    · exact Or.inl ⟨⟨hamends, hamend, hname⟩, hthrew⟩
    · refine Or.inr ⟨fun hthrows => hnot hthrows.2, q, data, hq, hedit, fun hno => ?_, hdone⟩
      rw [hamends] at hno
      cases hno
  · rename_i hamends
    exact Or.inr ⟨fun hthrows => hamends hthrows.1, p, d, h, rfl, fun _ => rfl, rfl⟩

theorem duplication_task (m : ModuleType) : m.form.duplication = .never ↔ m = .task := by
  cases m <;> decide

theorem save_cases (h : InDuplicateMode m p) {saved : Doc} (hsaved : saved.all fun e => e.1 ∈ m.form.saved) (d : Doc) :
    ∃ data, m.form.save saved p d = .done data ∧ (NewDocument m data ↔ (m = .task → NewDocument .task d)) := by
  have hkeys : ∀ k ∈ identityKeys, k ∉ m.form.saved := fun k hk => (identityKeys_form m k hk).2.1
  unfold ModuleForm.save
  split
  · rename_i hcall
    have hm : m ≠ .task := fun hm => by
      rw [(duplication_task m).mpr hm] at hcall
      cases hcall
    obtain ⟨data, hdata, hnew⟩ := initializeDuplicationMode_of (d := d) h
    rw [hdata]
    exact ⟨_, rfl, iff_of_true ((newDocument_addAll hkeys hsaved).mpr hnew) fun htask => absurd htask hm⟩
  · rename_i hcall
    have hm : m ≠ .task := fun hm => by
      rw [(duplication_task m).mpr hm] at hcall
      cases hcall
    obtain ⟨data, hdata, hnew⟩ := initializeDuplicationMode_of (d := d.addAll saved) h
    exact ⟨data, hdata, iff_of_true hnew fun htask => absurd htask hm⟩
  · rename_i hcall
    obtain rfl := (duplication_task m).mp hcall
    exact ⟨_, rfl, (newDocument_addAll hkeys hsaved).trans ⟨fun hnew _ => hnew, fun hnew => hnew rfl⟩⟩

/-- The spec of a submit: it throws, or its data is that of a new document, which for a task it was before. -/
theorem submit_cases (h : InDuplicateMode m p) (ha : a.of m.form = true) (d : Doc) :
    ((AmendingThrows m.form p d ∨ a.sends = false) ∧
        ∃ q data, InDuplicateMode m q ∧ m.form.submit a p d = .threw (q, data)) ∨
      (¬ AmendingThrows m.form p d ∧ a.sends = true ∧ ∃ q data, InDuplicateMode m q ∧ q.editPage = p.editPage ∧
        m.form.submit a p d = .done (q, data) ∧ (NewDocument m data ↔ (m = .task → NewDocument .task d))) := by
  obtain ⟨⟨hlocated, hsaved⟩, hwritten⟩ := by
    simpa only [Submission.of, Bool.and_eq_true] using ha
  have hlocatedKeys : ∀ k ∈ identityKeys, k ∉ m.form.located := fun k hk => (identityKeys_form m k hk).1
  have hwrittenKeys : ∀ k ∈ identityKeys, k ∉ m.form.written := fun k hk => (identityKeys_form m k hk).2.2.1
  have hremovedKeys : ∀ k ∈ identityKeys, k ∉ m.form.removed := fun k hk => (identityKeys_form m k hk).2.2.2
  have hthrows : AmendingThrows m.form p (d.addAll a.located) ↔ AmendingThrows m.form p d := by
    simp only [AmendingThrows, Doc.at, Dict.get?_addAll_of_keys (hlocatedKeys "name" (by decide)) hlocated]
  rw [← hthrows, ModuleForm.submit]
  rcases amend_cases h m.form (d.addAll a.located) with ⟨hamend, data, hthrew⟩ | ⟨hamend, q, data, hq, hedit, hsame, hdone⟩
  · rw [hthrew]
    exact Or.inl ⟨Or.inl hamend, p, data, h, rfl⟩
  · obtain ⟨data', hsave, hnew⟩ := save_cases hq hsaved data
    simp only [hdone, hsave, Outcome.bind_done, Outcome.map]
    cases hsends : a.sends with
    | false => exact Or.inl ⟨Or.inr rfl, q, _, hq, rfl⟩
    | true =>
      refine Or.inr ⟨hamend, rfl, q, _, hq, hedit, rfl, ?_⟩
      rw [newDocument_removeAll hremovedKeys, newDocument_addAll hwrittenKeys hwritten, hnew]
      refine forall_congr' fun hm => ?_
      subst hm
      rw [hsame rfl, newDocument_addAll hlocatedKeys hlocated]

/-! ### Runs -/

/-- The form is that of a duplicate, whatever has happened to it. -/
def Duplicating (s : DuplicateForm) : Prop := InDuplicateMode s.module s.provider

theorem of_of_step (h : s.step (.submit a) = some t) : a.of s.module.form = true := by
  rw [DuplicateForm.step] at h
  split at h
  · split at h
    · assumption
    · cases h
  · cases h

theorem duplicating_step (hs : Duplicating s) (h : s.step e = some t) : Duplicating t := by
  unfold DuplicateForm.step at h
  split at h
  · cases e with
    | load =>
      dsimp only at h
      split at h
      · cases h
        exact hs
      · cases h
    | write key value =>
      cases h
      exact hs
    | drop key =>
      cases h
      exact hs
    | submit a =>
      dsimp only at h
      split at h
      · rename_i ha
        rcases submit_cases hs ha s.data with ⟨-, q, data, hq, hthrew⟩ | ⟨-, -, q, data, hq, -, hdone, -⟩
        · rw [hthrew] at h
          cases h
          exact hq
        · rw [hdone] at h
          cases h
          exact hq
      · cases h
  · cases h

theorem sendsNew_iff (hs : Duplicating s) (h : s.step e = some t) : SendsNew s e t ↔ LeavesIdentity s e := by
  cases e with
  | load | write key value | drop key => exact iff_of_true (fun _ hsent => by cases hsent) trivial
  | submit a =>
    rw [SendsNew, DuplicateForm.sent, LeavesIdentity]
    rcases submit_cases hs (of_of_step h) s.data with ⟨hstop, q, data, -, hthrew⟩ |
      ⟨hamend, hsends, q, data, -, hedit, hdone, hnew⟩
    · rw [hthrew]
      refine iff_of_true (fun _ hsent => by cases hsent) fun hsends hamend => ?_
      rcases hstop with hthrows | hstop
      · exact absurd hthrows hamend
      · rw [hsends] at hstop
        cases hstop
    · rw [hdone, ← hedit, ← hnew]
      simp only [hsends, hamend, Option.mem_def, Option.some.injEq, forall_eq', not_false_eq_true, forall_true_left]
      split
      · rename_i hedits
        simp [hedits]
      · rename_i hcreates
        simp [hcreates]

/-- Every request of a duplicate creates a document of its module exactly when each submit leaves the identity. -/
theorem sendsNew_run_iff (m : ModuleType) (page : ModuleProvider) (data : Doc) (es : List DuplicateEvent) :
    Runs.Each DuplicateForm.step SendsNew (.press m page data) es ↔
      Runs.Guarded DuplicateForm.step LeavesIdentity (.press m page data) es :=
  Runs.each_iff_guarded (I := Duplicating) (fun _ _ _ hs h _ => duplicating_step hs h) (fun _ _ _ hs h => sendsNew_iff hs h)
    ⟨rfl, rfl⟩

/-- The duplicate of a task is sent with the name of the task. -/
theorem task_with_name :
    ¬ Runs.Each DuplicateForm.step SendsNew
        (.press .task { pageData := [("name", .str "TASK-1"), ("doctype", .str "Task")] } [("doctype", .str "Task")])
        [.load, .submit ⟨[], [("subject", .str "Call")], [("docstatus", .int 0)], true, true⟩] := by
  intro h
  rw [Runs.each_cons rfl, Runs.each_cons rfl] at h
  obtain ⟨data, hdata, hnew⟩ := h.2.1 _ rfl
  cases hdata
  exact absurd hnew.name (by decide)

end NextApp.Duplicates
