import NextApp.Model.EditForm
import NextApp.Theorems.ModuleForm
import NextApp.Theorems.RowForm

/-! # Forms and failed saves

A form that edits its page stays open over failed requests, with what the user has in it, and leaves with the first that
succeeds, where its submit writes nothing of its own into the data and rows and looks at the result before it pops. -/

namespace NextApp.EditForm
open Runs Duplicates

variable {m : ModuleType} {page p : ModuleProvider} {s t u : EditForm} {e : EditEvent} {a : Submission} {v : EditInput}
  {reply : UpdateReply} {below : List EditRoute} {d data : Doc} {taxes : Option (List (ItemRow Num))} {rows : List (ItemRow Num)}
  {r : ItemRow Num}

/-- The data with the texts that the fields hold. -/
def entered (s : EditForm) (v : EditInput) : Doc := s.data.addAll v.saved

/-- The data are those on show, and the taxes and rows too but for the types of numbers. -/
structure Unchanged (s : EditForm) (v : EditInput) (t : EditForm) : Prop where
  data : ∀ key, t.data.get? key = (s.entered v).get? key
  taxes : t.taxes.map (List.map ItemRow.view) = s.taxes.map (List.map ItemRow.view)
  rows : t.newItemList.map ItemRow.view = s.newItemList.map ItemRow.view

/-- A Save completes: when its request fails the form stays on top with what it has, and a saved one pops the dialog and
    the form. -/
def KeepsForm (s : EditForm) : EditEvent → EditForm → Prop
  | .change .., _ => True
  | .save v reply page, t =>
    s.save v reply page = .done t ∧
      if reply.saves then t.routes = s.routes.tail else t.routes = s.routes ∧ Unchanged s v t

def amends (s : EditForm) : Prop := s.module.form.amends = true ∧ s.provider.amendDoc = true

def IsText (value : Value) : Prop := ∃ text, value = .str text

/-- What the submit writes of its own once the fields are saved, if it does not throw. -/
def editWrites (m : ModuleType) (v : EditInput) (data : Doc) : Option Doc := (m.editWritten v data).map (· ++ m.editLast)

/-- What the submit joins or looks up is there. -/
def Joins (v : EditInput) (data : Doc) : ModuleType → Prop
  | .employee => IsText (Doc.at data "first_name") ∧ IsText (Doc.at data "last_name")
  | .employeeCheckin => IsText (Doc.at data "date_only") ∧ IsText (Doc.at data "time_only")
  | .customerVisit => v.location ≠ none
  | _ => True

/-- The submit gets to its request. -/
structure Sends (s : EditForm) (v : EditInput) : Prop where
  named : s.amends → IsText (Doc.at s.data "name")
  joined : Joins v (s.entered v) s.module
  taxed : s.module = .expenseClaim → ∃ row rows, s.taxes = some (row :: rows)
  turnable : ∀ r ∈ s.newItemList, s.module.turnable s.data.isReturn r = true

/-- The taxes are those that the submit makes of them. -/
def TaxesKept (v : EditInput) (taxes : Option (List (ItemRow Num))) (m : ModuleType) : Prop :=
  match m.submitTaxes with
  | .defaultTax => taxes.map (List.map ItemRow.view) = some (v.defaultTax.map ItemRow.view)
  | .defaultTaxUnlessEditing => taxes = some []
  | .own => m = .expenseClaim → ∀ row ∈ taxes.bind List.head?, v.tax.Written row

/-- What the submit writes before its request is what the form has. -/
structure Settled (s : EditForm) (v : EditInput) : Prop where
  amends : ¬ s.amends
  duplicate : s.provider.duplicateMode = true → s.module ≠ .task → NewDocument s.module s.data
  written : ∀ e ∈ s.module.editLocated v ++ (editWrites s.module v (s.entered v)).getD [],
    (s.entered v).get? e.1 = some e.2
  removed : ∀ key ∈ s.module.form.removed, (s.entered v).get? key = none
  taxes : TaxesKept v s.taxes s.module
  turned : ∀ r ∈ s.newItemList, ¬ s.module.Turns s.data.isReturn r
  linked : ∀ key ∈ s.module.rowForm.link, ∀ r ∈ s.newItemList, r.Reads key (Doc.at (s.entered v) key)

/-- Each Save gets to its request. Where it fails the form looks at the result before it pops, and has what its submit
    writes, and where it is saved the form does not go on while a create-from form is open. -/
def Guard (s : EditForm) : EditEvent → Prop
  | .change .. => True
  | .save v reply _ => Sends s v ∧
      if reply.saves then ¬ (App.goesOnAfterEdit s.module = true ∧ s.provider.createFromPage = true)
      else App.popsOnFailedEdit s.module = false ∧ Settled s v

/-- An open form is over the routes it was opened from. -/
structure Over (below : List EditRoute) (s : EditForm) : Prop where
  routes : s.routes = .form :: below
  currentModule : s.provider.currentModule = some s.module

/-! ### The request -/

theorem prefix_le_length (text : String) : 22 ≤ ("something went wrong!!" ++ text).length := by
  rw [String.length_append]
  exact Nat.le_add_right 22 _

/-- Every message of a failed update is long enough for the snack bar. -/
theorem substring?_exception {message : String} (h : reply.exception? = some message) :
    ∃ rest, substring? message 22 = some rest := by
  have hlong : 22 ≤ message.length := by
    cases reply with
    | response statusCode text =>
      obtain ⟨_, h⟩ := Option.ite_none_left_eq_some.mp h
      cases h
      exact prefix_le_length text
    | dioException =>
      cases h
      decide
  exact ⟨_, if_pos hlong⟩

theorem handleRequest_eq (s : EditForm) (reply : UpdateReply) (page : Option ServerPage) (h : s.provider.currentModule ≠ none) :
    s.handleRequest reply page =
      .done (if reply.saves then { s with provider := App.reloadedPage s.provider page } else s, reply.saves) := by
  rw [handleRequest, UpdateReply.saves]
  cases hex : reply.exception? with
  | some message =>
    obtain ⟨rest, hrest⟩ := substring?_exception hex
    dsimp only
    rw [hrest]
    rfl
  | none =>
    obtain ⟨m, hm⟩ := Option.ne_none_iff_exists'.mp h
    dsimp only
    rw [hm]
    rfl

theorem createFromPage_reloadedPage (p : ModuleProvider) (page : Option ServerPage) :
    (App.reloadedPage p page).createFromPage = p.createFromPage := by
  obtain ⟨doc, docstatus, pdf, loading, h⟩ := App.reloadedPage_frame p page
  rw [h]

/-! ### What is sent -/

/-- The call for a duplicate completes, and leaves the data of a new document. -/
theorem initializeDuplicationMode_spec (hcurrent : p.currentModule = some m) (d : Doc) :
    ∃ data, p.initializeDuplicationMode d = .done data ∧
      (∀ k, k ∉ identityKeys → data.get? k = d.get? k) ∧ (d.get? "name" = none → data.get? "name" = none) ∧
      ((∀ k ∈ identityKeys, data.get? k = d.get? k) ↔ (p.duplicateMode = true → NewDocument m d)) := by
  by_cases hmode : p.duplicateMode = true
  · obtain ⟨data, hdone, hnew⟩ := initializeDuplicationMode_of (d := d) ⟨hmode, hcurrent⟩
    refine ⟨data, hdone, fun k hk => ?_, fun _ => hnew.name, fun hsame _ => (newDocument_congr hsame).mp hnew, fun hold k hk => ?_⟩
    · have hkeys := ModuleForm.get?_initializeDuplicationMode (k := k) (by simp_all [identityKeys]) p d
      rwa [hdone] at hkeys
    · have hold := hold hmode
      have hdata : data = if Doc.at d "amended_from" ≠ .null then ((d.set "doctype" (.str m.title)).remove "name").remove "amended_from"
          else (d.set "doctype" (.str m.title)).remove "name" := by
        rw [ModuleProvider.initializeDuplicationMode, if_pos hmode, hcurrent, Outcome.need_some] at hdone
        simpa [eq_comm] using hdone
      rw [if_neg (not_not.mpr hold.amendedFrom), Dict.set_of_get? hold.doctype, Dict.remove_of_get? hold.name] at hdata
      rw [hdata]
  · rw [ModuleProvider.initializeDuplicationMode, if_neg hmode]
    exact ⟨d, rfl, fun k _ => rfl, id, iff_of_true (fun k _ => rfl) fun h => absurd h hmode⟩

/-- The fields are saved, and the identity of a duplicate is that of a new document. -/
theorem save_spec (hcurrent : p.currentModule = some m) (hsaved : v.saved.all fun e => e.1 ∈ m.form.saved) (d : Doc) :
    ∃ data, m.form.save v.saved p d = .done data ∧
      (∀ k, k ∉ identityKeys → data.get? k = (d.addAll v.saved).get? k) ∧ (d.get? "name" = none → data.get? "name" = none) ∧
      ((∀ k ∈ identityKeys, data.get? k = d.get? k) ↔ (p.duplicateMode = true → m ≠ .task → NewDocument m d)) := by
  have hkeys : ∀ k ∈ identityKeys, ∀ d : Doc, (d.addAll v.saved).get? k = d.get? k := fun k hk d =>
    Dict.get?_addAll_of_keys (identityKeys_form m k hk).2.1 hsaved
  have htask := duplication_task m
  rw [ModuleForm.save]
  cases hcall : m.form.duplication with
  | beforeSave =>
    have hne : m ≠ .task := fun h => by simp [hcall] at htask; exact htask h
    obtain ⟨data, hdone, hothers, hname, hidentity⟩ := initializeDuplicationMode_spec hcurrent d
    refine ⟨data.addAll v.saved, by rw [hdone]; rfl, fun k hk => Dict.get?_addAll_congr (Or.inr (hothers k hk)),
      fun hnone => (hkeys "name" (by decide) data).trans (hname hnone), ?_⟩
    have hsame : (∀ k ∈ identityKeys, (data.addAll v.saved).get? k = d.get? k) ↔ ∀ k ∈ identityKeys, data.get? k = d.get? k :=
      forall₂_congr fun k hk => by rw [hkeys k hk data]
    rw [hsame, hidentity]
    exact ⟨fun h hmode _ => h hmode, fun h hmode => h hmode hne⟩
  | afterSave =>
    have hne : m ≠ .task := fun h => by simp [hcall] at htask; exact htask h
    obtain ⟨data, hdone, hothers, hname, hidentity⟩ := initializeDuplicationMode_spec hcurrent (d.addAll v.saved)
    refine ⟨data, hdone, hothers, fun hnone => hname ((hkeys "name" (by decide) d).trans hnone), ?_⟩
    have hsame : (∀ k ∈ identityKeys, data.get? k = d.get? k) ↔ ∀ k ∈ identityKeys, data.get? k = (d.addAll v.saved).get? k :=
      forall₂_congr fun k hk => by rw [hkeys k hk d]
    rw [hsame, hidentity, newDocument_congr fun k hk => hkeys k hk d]
    exact ⟨fun h hmode _ => h hmode, fun h hmode => h hmode hne⟩
  | never =>
    refine ⟨d.addAll v.saved, rfl, fun k _ => rfl, (hkeys "name" (by decide) d).trans, iff_of_true (fun k hk => hkeys k hk d) fun _ hne => ?_⟩
    exact absurd (htask.mp hcall) hne

theorem visitTime_cases (time : Value) : visitTime time = [] ∨ ∃ text, visitTime time = [("time", .str text)] := by
  cases time with
  | str s =>
    rw [visitTime]
    rcases s.splitOn "T" with _ | ⟨date, _ | ⟨rest, _⟩⟩
    · exact Or.inl rfl
    · exact Or.inl rfl
    · exact Or.inr ⟨_, rfl⟩
  | _ => exact Or.inl rfl

/-- What the form writes is under keys of its own, none of them twice. -/
theorem keys_written (m : ModuleType) (v : EditInput) (d : Doc) :
    ((m.editLocated v ++ (editWrites m v d).getD []).map Prod.fst).Nodup ∧
      ((m.editLocated v).all fun e => e.1 ∈ m.form.located) ∧
      (((editWrites m v d).getD []).all fun e => e.1 ∈ m.form.written) := by
  cases m with
  | customerVisit =>
    rw [editWrites, ModuleType.editWritten]
    cases v.location with
    | none => simp [ModuleType.editLocated, ModuleType.form]
    | some location =>
      rcases visitTime_cases (Doc.at d "time") with htime | ⟨text, htime⟩ <;>
        simp [htime, ModuleType.editLocated, ModuleType.editLast, ModuleType.form]
  | employee =>
    rw [editWrites, ModuleType.editWritten]
    cases joined? (Doc.at d "first_name") (Doc.at d "last_name") <;>
      simp [ModuleType.editLocated, ModuleType.editLast, ModuleType.form]
  | employeeCheckin =>
    rw [editWrites, ModuleType.editWritten]
    cases joined? (Doc.at d "date_only") (Doc.at d "time_only") <;>
      simp [ModuleType.editLocated, ModuleType.editLast, ModuleType.form]
  | _ => simp [editWrites, ModuleType.editLocated, ModuleType.editWritten, ModuleType.editLast, ModuleType.form, nulls]

theorem keys_located {e : String × Value} (h : e ∈ m.editLocated v) : e.1 ∉ m.form.saved := by
  cases m with
  | attendanceRequest =>
    rcases List.mem_pair.mp h with rfl | rfl <;> simp [ModuleType.form]
  | _ => simp [ModuleType.editLocated] at h

theorem keys_removed (m : ModuleType) : ∀ k ∈ m.form.removed, k ∉ m.form.located ∧ k ∉ m.form.written := by
  cases m <;> decide

theorem keys_sent {written : Doc} (hwritten : editWrites m v d = some written) {e : String × Value}
    (he : e ∈ m.editLocated v ++ written) : e.1 ∈ m.form.located ∨ e.1 ∈ m.form.written := by
  obtain ⟨-, hlocated, hkeys⟩ := keys_written m v d
  rw [hwritten, Option.getD_some] at hkeys
  rcases List.mem_append.mp he with he | he
  · exact Or.inl (by simpa using List.all_eq_true.mp hlocated e he)
  · exact Or.inr (by simpa using List.all_eq_true.mp hkeys e he)

theorem located_apart (hsaved : v.saved.all fun e => e.1 ∈ m.form.saved) {e : String × Value} (he : e ∈ m.editLocated v) :
    e.1 ∉ v.saved.map Prod.fst := by
  intro hmem
  obtain ⟨e', he', heq⟩ := List.mem_map.mp hmem
  have hform : e'.1 ∈ m.form.saved := by simpa using List.all_eq_true.mp hsaved e' he'
  exact keys_located he (heq ▸ hform)

theorem amend_of_not_amends (hamends : ¬ (m.form.amends = true ∧ p.amendDoc = true)) (d : Doc) :
    m.form.amend p d = .done (p, d) := by
  rw [ModuleForm.amend]
  split
  · next hform => rw [ModuleProvider.initializeAmendingFunction, if_neg fun hdoc => hamends ⟨hform, hdoc⟩]
  · rfl

/-- What a submit that does not amend leaves in the data, and when they are those on show. -/
theorem submit_spec (hcurrent : p.currentModule = some m) (hamends : ¬ (m.form.amends = true ∧ p.amendDoc = true))
    (hsaved : v.saved.all fun e => e.1 ∈ m.form.saved) {written : Doc} (hwritten : editWrites m v (d.addAll v.saved) = some written) :
    ∃ data, m.form.submit ⟨m.editLocated v, v.saved, written, true, true⟩ p d = .done (p, data) ∧
      ((∀ k, data.get? k = (d.addAll v.saved).get? k) ↔
        (p.duplicateMode = true → m ≠ .task → NewDocument m d) ∧
        (∀ e ∈ m.editLocated v ++ written, (d.addAll v.saved).get? e.1 = some e.2) ∧
        ∀ k ∈ m.form.removed, (d.addAll v.saved).get? k = none) := by
  obtain ⟨hnodup, hlocated, hwrittenKeys⟩ := keys_written m v (d.addAll v.saved)
  rw [hwritten, Option.getD_some] at hnodup hwrittenKeys
  obtain ⟨data, hsave, hothers, _, hidentity⟩ := save_spec hcurrent hsaved (d.addAll (m.editLocated v))
  have hsubmit : m.form.submit ⟨m.editLocated v, v.saved, written, true, true⟩ p d =
      .done (p, (data.addAll written).removeAll m.form.removed) := by
    rw [ModuleForm.submit, amend_of_not_amends hamends, Outcome.bind_done]
    dsimp only
    rw [hsave]
    rfl
  have hrest : ∀ k, k ∉ identityKeys →
      (data.addAll written).get? k = ((d.addAll v.saved).addAll (m.editLocated v ++ written)).get? k := by
    intro k hk
    rw [Dict.get?_addAll_congr (Or.inr (hothers k hk)), Dict.addAll_append]
    exact Dict.get?_addAll_congr (Or.inr (Dict.get?_addAll_comm fun e he => located_apart hsaved he))
  have hnew : NewDocument m (d.addAll (m.editLocated v)) ↔ NewDocument m d :=
    newDocument_addAll (fun k hk => (identityKeys_form m k hk).1) hlocated
  have hkept : ∀ k ∈ identityKeys, ((data.addAll written).removeAll m.form.removed).get? k = (d.addAll v.saved).get? k ↔
      data.get? k = (d.addAll (m.editLocated v)).get? k := by
    intro k hk
    obtain ⟨hnotLocated, hnotSaved, hnotWritten, hnotRemoved⟩ := identityKeys_form m k hk
    rw [Dict.get?_removeAll, if_neg hnotRemoved, Dict.get?_addAll_of_keys hnotWritten hwrittenKeys,
      Dict.get?_addAll_of_keys hnotSaved hsaved, Dict.get?_addAll_of_keys hnotLocated hlocated]
  refine ⟨_, hsubmit, ?_⟩
  rw [← hnew, ← hidentity, ← Dict.get?_addAll_eq_iff hnodup]
  constructor
  · intro hsame
    refine ⟨fun k hk => (hkept k hk).mp (hsame k), fun k => ?_, fun k hk => ?_⟩
    · by_cases hmem : k ∈ (m.editLocated v ++ written).map Prod.fst
      · obtain ⟨e, he, rfl⟩ := List.mem_map.mp hmem
        have hnotRemoved : e.1 ∉ m.form.removed := fun hk => by
          obtain ⟨hnotLocated, hnotWritten⟩ := keys_removed m e.1 hk
          exact (keys_sent hwritten he).elim hnotLocated hnotWritten
        have hnotIdentity : e.1 ∉ identityKeys := fun hk => by
          obtain ⟨hnotLocated, _, hnotWritten, _⟩ := identityKeys_form m e.1 hk
          exact (keys_sent hwritten he).elim hnotLocated hnotWritten
        rw [← hrest e.1 hnotIdentity, ← hsame e.1, Dict.get?_removeAll, if_neg hnotRemoved]
      · exact Dict.get?_addAll_of_not_mem hmem
    · rw [← hsame k, Dict.get?_removeAll, if_pos hk]
  · rintro ⟨hidentity, hwritten, hremoved⟩ k
    by_cases hk : k ∈ identityKeys
    · exact (hkept k hk).mpr (hidentity k hk)
    · rw [Dict.get?_removeAll]
      split
      · next hdropped => rw [hremoved k hdropped]
      · rw [hrest k hk, hwritten k]

/-- A submit that amends leaves no name in the data. -/
theorem submit_amending (hcurrent : p.currentModule = some m) (hamends : m.form.amends = true ∧ p.amendDoc = true)
    (hsaved : v.saved.all fun e => e.1 ∈ m.form.saved) {written : Doc} (hwritten : editWrites m v (d.addAll v.saved) = some written)
    {name : String} (hname : Doc.at d "name" = .str name) :
    ∃ q data, m.form.submit ⟨m.editLocated v, v.saved, written, true, true⟩ p d = .done (q, data) ∧ data.get? "name" = none := by
  obtain ⟨_, hlocated, hwrittenKeys⟩ := keys_written m v (d.addAll v.saved)
  rw [hwritten, Option.getD_some] at hwrittenKeys
  obtain ⟨hnotLocated, _, hnotWritten, hnotRemoved⟩ := identityKeys_form m "name" (by decide)
  have hfound : Doc.at (d.addAll (m.editLocated v)) "name" = .str name := by
    rw [Doc.at, Dict.get?_addAll_of_keys hnotLocated hlocated]
    exact hname
  have hamend : ∃ q data, m.form.amend p (d.addAll (m.editLocated v)) = .done (q, data) ∧ q.currentModule = some m ∧
      data.get? "name" = none := by
    rw [ModuleForm.amend, if_pos hamends.1, ModuleProvider.initializeAmendingFunction, if_pos hamends.2, hcurrent]
    simp [hfound]
  obtain ⟨q, data, hdone, hq, hgone⟩ := hamend
  obtain ⟨data', hsave, _, hkeep, _⟩ := save_spec hq hsaved data
  refine ⟨q, (data'.addAll written).removeAll m.form.removed, ?_, ?_⟩
  · rw [ModuleForm.submit, hdone, Outcome.bind_done]
    dsimp only
    rw [hsave]
    rfl
  · rw [Dict.get?_removeAll, if_neg hnotRemoved, Dict.get?_addAll_of_keys hnotWritten hwrittenKeys]
    exact hkeep hgone

/-- A submit that gets to its request has found a name where it amends. -/
theorem of_submit_done {form : ModuleForm} {x : ModuleProvider × Doc} (hlocated : a.located.all fun e => e.1 ∈ form.located)
    (hname : "name" ∉ form.located) (h : form.submit a p d = .done x) :
    a.sends = true ∧ (form.amends = true → p.amendDoc = true → IsText (Doc.at d "name")) := by
  rw [ModuleForm.submit] at h
  cases hamend : form.amend p (d.addAll a.located) with
  | threw y =>
    rw [hamend] at h
    cases h
  | done y =>
    obtain ⟨q, data⟩ := y
    rw [hamend, Outcome.bind_done] at h
    dsimp only at h
    constructor
    · cases hsave : form.save a.saved q data with
      | threw z =>
        rw [hsave] at h
        cases h
      | done z =>
        rw [hsave] at h
        cases hsends : a.sends with
        | true => rfl
        | false => simp [hsends, Outcome.map] at h
    · intro hform hdoc
      rw [ModuleForm.amend, if_pos hform, ModuleProvider.initializeAmendingFunction, if_pos hdoc] at hamend
      cases hm : p.currentModule with
      | none => simp [hm] at hamend
      | some m =>
        rw [hm] at hamend
        cases hn : (Doc.at (d.addAll a.located) "name").asString? with
        | none => simp [hn] at hamend
        | some name =>
          have hfound : Doc.at (d.addAll a.located) "name" = Doc.at d "name" := by
            rw [Doc.at, Dict.get?_addAll_of_keys hname hlocated, Doc.at]
          rw [hfound] at hn
          exact Value.asString?_ne_none_iff.mp (by simp [hn])


/-- A submit writes no more of the provider than the amended page. -/
def AmendsOnly (p q : ModuleProvider) : Prop := ∃ id amended, q = { p with previousPageId := id, isAmended := amended }

theorem amendsOnly_amend (form : ModuleForm) (p : ModuleProvider) (d : Doc) : AmendsOnly p (form.amend p d).state.1 := by
  have hself : AmendsOnly p p := ⟨p.previousPageId, p.isAmended, rfl⟩
  rw [ModuleForm.amend]
  split
  · rw [ModuleProvider.initializeAmendingFunction]
    split
    · cases hm : p.currentModule with
      | none => exact hself
      | some m =>
        rw [Outcome.need_some]
        dsimp only
        cases (Doc.at _ "name").asString? with
        | none => exact hself
        | some name => exact ⟨name, true, by rw [← hm]; rfl⟩
    · exact hself
  · exact hself

theorem amendsOnly_submit (form : ModuleForm) (a : Submission) (p : ModuleProvider) (d : Doc) :
    AmendsOnly p (form.submit a p d).state.1 := by
  rw [ModuleForm.submit]
  refine Outcome.state_bind (P := fun x : ModuleProvider × Doc => AmendsOnly p x.1) (amendsOnly_amend form p _)
    fun x hx => Outcome.state_bind (P := fun x : ModuleProvider × Doc => AmendsOnly p x.1) ?_ fun x hx => ?_
  · rw [Outcome.state_map]
    exact hx
  · dsimp only
    split <;> exact hx


/-! ### Taxes and rows -/

theorem editTaxes_spec (h : m = .expenseClaim → ∃ row rows, taxes = some (row :: rows)) :
    ∃ taxes', m.editTaxes v taxes = .done taxes' ∧
      (taxes'.map (List.map ItemRow.view) = taxes.map (List.map ItemRow.view) ↔ TaxesKept v taxes m) := by
  unfold ModuleType.editTaxes TaxesKept
  cases m.submitTaxes with
  | defaultTax => exact ⟨_, rfl, eq_comm⟩
  | defaultTaxUnlessEditing =>
    refine ⟨_, rfl, ?_⟩
    rcases taxes with _ | _ | ⟨row, rows⟩ <;> simp
  | own =>
    by_cases hclaim : m = .expenseClaim
    · obtain ⟨row, rows, rfl⟩ := h hclaim
      simp [hclaim, TaxData.write_view_iff]
    · simp [hclaim]

theorem of_editTaxes_done {taxes' : Option (List (ItemRow Num))} (h : m.editTaxes v taxes = .done taxes') (hclaim : m = .expenseClaim) :
    ∃ row rows, taxes = some (row :: rows) := by
  subst hclaim
  rcases taxes with _ | _ | ⟨row, rows⟩
  · cases h
  · cases h
  · exact ⟨row, rows, rfl⟩

theorem plain_of_not_submitsItems {isReturn : Option ℚ} (h : m.rowForm.submitsItems = false) :
    m.turnable isReturn r = true ∧ ¬ m.Turns isReturn r := by
  have hs : m ≠ .salesInvoice := by
    rintro rfl
    cases h
  have hp : m ≠ .purchaseInvoice := by
    rintro rfl
    cases h
  exact ⟨by simp [ModuleType.turnable, hs, hp], by simp [ModuleType.Turns, hs, hp]⟩

theorem link_of_not_submitsItems (h : m.rowForm.submitsItems = false) : m.rowForm.link = none := by
  cases m <;> first | rfl | cases h

/-- Both loops get to their ends exactly when the first does, and leave the rows as they are when they change none. -/
theorem writeRows_spec (m : ModuleType) (data : Doc) (rows : List (ItemRow Num)) :
    ((∃ rows', m.writeRows data rows = .done rows') ↔ ∀ r ∈ rows, m.turnable data.isReturn r = true) ∧
      ∀ rows', m.writeRows data rows = .done rows' →
        (rows'.map ItemRow.view = rows.map ItemRow.view ↔ (∀ r ∈ rows, ¬ m.Turns data.isReturn r) ∧
          ∀ key ∈ m.rowForm.link, ∀ r ∈ rows, r.Reads key (Doc.at data key)) := by
  have hturn := ModuleType.turn_eq m data.isReturn
  rw [ModuleType.writeRows]
  cases hsubmits : m.rowForm.submitsItems with
  | false =>
    refine ⟨iff_of_true ⟨rows, rfl⟩ fun r _ => (plain_of_not_submitsItems hsubmits).1, fun rows' h => ?_⟩
    cases h
    refine iff_of_true rfl ⟨fun r _ => (plain_of_not_submitsItems hsubmits).2, fun key hkey r _ => ?_⟩
    rw [link_of_not_submitsItems hsubmits] at hkey
    cases hkey
  | true =>
    rw [if_pos rfl, ← Outcome.each_done_iff hturn]
    cases heach : Outcome.each (m.rowForm.turn data.isReturn) rows with
    | threw ys => exact ⟨by simp, fun rows' h => by cases h⟩
    | done ys =>
      obtain rfl := Outcome.eq_of_each hturn heach
      refine ⟨by simp, fun rows' h => ?_⟩
      have hrows : rows' = rows.map fun r =>
          m.rowForm.link.elim (m.turned data.isReturn r) fun key => (m.turned data.isReturn r).setOther key (Doc.at data key) := by
        rw [Outcome.bind_done, Outcome.done.injEq] at h
        rw [← h]
        cases m.rowForm.link <;> simp [ModuleType.turned]
      rw [hrows, List.map_map, List.map_inj_left]
      constructor
      · intro hall
        have hrow := fun r hr => ModuleType.linked_view_iff.mp (hall r hr)
        exact ⟨fun r hr => (hrow r hr).1, fun key hkey r hr => (hrow r hr).2 key hkey⟩
      · rintro ⟨hturned, hlinked⟩ r hr
        exact ModuleType.linked_view_iff.mpr ⟨hturned r hr, fun key hkey => hlinked key hkey r hr⟩

theorem untouched_isReturn (m : ModuleType) : m.form.Untouched "is_return" := by
  constructor <;> cases m <;> decide

theorem editWrites_ne_none_iff : editWrites m v d ≠ none ↔ Joins v d m := by
  cases m <;> simp [editWrites, ModuleType.editWritten, Joins, joined?, IsText, ← Value.asString?_ne_none_iff, Option.ne_none_iff_exists']

theorem editWritten_located (m : ModuleType) (v : EditInput) (d : Doc) :
    m.editWritten v ((d.addAll (m.editLocated v)).addAll v.saved) = m.editWritten v (d.addAll v.saved) := by
  cases m <;> rfl

/-- What comes after the loops can be written with the rest. -/
theorem submit_last (m : ModuleType) (located saved written : Doc) (p : ModuleProvider) (d : Doc) :
    m.form.submit ⟨located, saved, written ++ m.editLast, true, true⟩ p d =
      (m.form.submit ⟨located, saved, written, true, true⟩ p d).bind fun x => .done (x.1, x.2.addAll m.editLast) := by
  have hnone : m.form.removed = [] ∨ m.editLast = [] := by
    cases m <;> simp [ModuleType.form, ModuleType.editLast]
  rw [ModuleForm.submit, ModuleForm.submit]
  cases m.form.amend p (d.addAll located) with
  | threw x => rfl
  | done x =>
    obtain ⟨q, data⟩ := x
    dsimp only [Outcome.bind_done]
    cases m.form.save saved q data with
    | threw y => rfl
    | done y =>
      rcases hnone with hnone | hnone
      · simp [Outcome.map, hnone, Dict.removeAll, Dict.addAll_append]
      · simp [Outcome.map, hnone, Dict.addAll]

theorem keys_last (m : ModuleType) : "is_return" ∉ m.editLast.map Prod.fst ∧
    ∀ key ∈ m.rowForm.link, key ∉ m.editLast.map Prod.fst := by
  cases m <;> decide

/-- The loops over the rows read nothing of it. -/
theorem writeRows_last (m : ModuleType) (data : Doc) (rows : List (ItemRow Num)) :
    m.writeRows (data.addAll m.editLast) rows = m.writeRows data rows := by
  obtain ⟨hreturn, hlink⟩ := keys_last m
  have hsame : Doc.isReturn (data.addAll m.editLast) = data.isReturn := by
    rw [Doc.isReturn, Doc.at, Dict.get?_addAll_of_not_mem hreturn, Doc.isReturn, Doc.at]
  rw [ModuleType.writeRows, ModuleType.writeRows, hsame]
  cases hkey : m.rowForm.link with
  | none => rfl
  | some key =>
    have hat : Doc.at (data.addAll m.editLast) key = Doc.at data key := by
      rw [Doc.at, Dict.get?_addAll_of_not_mem (hlink key hkey), Doc.at]
    simp only [Option.elim_some, hat]

/-- What a Save goes through before it sends its request. -/
structure Sent (s : EditForm) (v : EditInput) (u : EditForm) (written : Doc) : Prop where
  frame : u.module = s.module ∧ u.routes = s.routes ∧ u.isOpen = s.isOpen
  writes : editWrites s.module v (s.entered v) = some written
  submit : s.module.form.submit ⟨s.module.editLocated v, v.saved, written, true, true⟩ s.provider s.data = .done (u.provider, u.data)
  taxes : s.module.editTaxes v s.taxes = .done u.taxes
  rows : s.module.writeRows u.data s.newItemList = .done u.newItemList

theorem sent_of_request (h : s.request v = .done u) : ∃ written, Sent s v u written := by
  rw [request, editWritten_located] at h
  cases hsubmit : s.module.form.submit ⟨s.module.editLocated v, v.saved,
      (s.module.editWritten v (s.data.addAll v.saved)).getD (s.module.editThrown v),
      (s.module.editWritten v (s.data.addAll v.saved)).isSome, true⟩ s.provider s.data with
  | threw x =>
    rw [hsubmit] at h
    cases h
  | done x =>
    obtain ⟨written, hwritten⟩ := Option.isSome_iff_exists.mp
      (of_submit_done (keys_written s.module v s.data).2.1 (identityKeys_form s.module "name" (by decide)).1 hsubmit).1
    rw [hsubmit] at h
    dsimp only at h
    cases htaxes : s.module.editTaxes v s.taxes with
    | threw taxes =>
      rw [htaxes] at h
      cases h
    | done taxes =>
      rw [htaxes] at h
      dsimp only at h
      cases hrows : s.module.writeRows x.2 s.newItemList with
      | threw rows =>
        rw [hrows] at h
        cases h
      | done rows =>
        rw [hrows] at h
        cases h
        rw [hwritten, Option.getD_some, Option.isSome_some] at hsubmit
        refine ⟨written ++ s.module.editLast, ⟨rfl, rfl, rfl⟩, ?_, ?_, htaxes, ?_⟩
        · rw [editWrites, entered, hwritten]
          rfl
        · rw [submit_last, hsubmit]
          rfl
        · exact (writeRows_last s.module x.2 s.newItemList).trans hrows

theorem isReturn_submit {q : ModuleProvider} {written : Doc} (hsaved : v.saved.all fun e => e.1 ∈ m.form.saved)
    (hwritten : editWrites m v (d.addAll v.saved) = some written)
    (h : m.form.submit ⟨m.editLocated v, v.saved, written, true, true⟩ p d = .done (q, data)) : data.isReturn = d.isReturn := by
  obtain ⟨_, hlocated, hkeys⟩ := keys_written m v (d.addAll v.saved)
  rw [hwritten, Option.getD_some] at hkeys
  have hkey := ModuleForm.get?_submit (untouched_isReturn m) (a := ⟨m.editLocated v, v.saved, written, true, true⟩)
    (by rw [Submission.of, hlocated, hsaved, hkeys]; rfl) p d
  rw [h, Outcome.state_done] at hkey
  dsimp only at hkey
  rw [Doc.isReturn, Doc.at, hkey, Doc.isReturn, Doc.at]

/-- The amending function has found a name, and the rows have their quantities. -/
theorem sends_of_sent {written : Doc} (h : Sent s v u written) (hsaved : v.saved.all fun e => e.1 ∈ s.module.form.saved) :
    Sends s v where
  named hamends :=
    (of_submit_done (keys_written s.module v s.data).2.1 (identityKeys_form s.module "name" (by decide)).1 h.submit).2
      hamends.1 hamends.2
  joined := editWrites_ne_none_iff.mp (by simp [h.writes])
  taxed := of_editTaxes_done h.taxes
  turnable := by
    rw [← isReturn_submit hsaved h.writes h.submit]
    exact (writeRows_spec s.module u.data s.newItemList).1.mp ⟨_, h.rows⟩

theorem request_of_sends (h : Sends s v) (hcurrent : s.provider.currentModule = some s.module)
    (hsaved : v.saved.all fun e => e.1 ∈ s.module.form.saved) : ∃ u, s.request v = .done u := by
  obtain ⟨written, hwrites⟩ := Option.ne_none_iff_exists'.mp (editWrites_ne_none_iff.mpr h.joined)
  have hsubmit : ∃ p data, s.module.form.submit ⟨s.module.editLocated v, v.saved, written, true, true⟩ s.provider s.data =
      .done (p, data) := by
    by_cases hamends : s.amends
    · obtain ⟨name, hname⟩ := h.named hamends
      obtain ⟨p, data, hsubmit, _⟩ := submit_amending hcurrent hamends hsaved hwrites hname
      exact ⟨p, data, hsubmit⟩
    · obtain ⟨data, hsubmit, _⟩ := submit_spec hcurrent hamends hsaved hwrites
      exact ⟨s.provider, data, hsubmit⟩
  obtain ⟨p, data, hsubmit⟩ := hsubmit
  have hturnable := h.turnable
  rw [← isReturn_submit hsaved hwrites hsubmit] at hturnable
  obtain ⟨rows, hrows⟩ := (writeRows_spec s.module data s.newItemList).1.mpr hturnable
  obtain ⟨taxes, htaxes, _⟩ := editTaxes_spec (v := v) h.taxed
  obtain ⟨early, hwritten, rfl⟩ := Option.map_eq_some_iff.mp hwrites
  rw [submit_last] at hsubmit
  cases hearly : s.module.form.submit ⟨s.module.editLocated v, v.saved, early, true, true⟩ s.provider s.data with
  | threw x =>
    rw [hearly] at hsubmit
    cases hsubmit
  | done x =>
    rw [hearly, Outcome.bind_done, Outcome.done.injEq, Prod.mk.injEq] at hsubmit
    rw [← hsubmit.2, writeRows_last] at hrows
    refine ⟨{ s with provider := x.1, data := x.2.addAll s.module.editLast, taxes, newItemList := rows }, ?_⟩
    rw [request, editWritten_located, ← entered, hwritten, Option.getD_some, Option.isSome_some, hearly]
    dsimp only
    rw [htaxes]
    dsimp only
    rw [hrows]

/-- What is sent is what the form has exactly when the submit writes nothing else. -/
theorem unchanged_sent_iff {written : Doc} (h : Sent s v u written) (hcurrent : s.provider.currentModule = some s.module)
    (hsaved : v.saved.all fun e => e.1 ∈ s.module.form.saved) : Unchanged s v u ↔ Settled s v := by
  have hsends := sends_of_sent h hsaved
  obtain ⟨taxes, htaxes, htaxesKept⟩ := editTaxes_spec (v := v) hsends.taxed
  have hrowsKept := (writeRows_spec s.module u.data s.newItemList).2 u.newItemList h.rows
  rw [isReturn_submit hsaved h.writes h.submit] at hrowsKept
  rw [h.taxes, Outcome.done.injEq] at htaxes
  rw [← htaxes] at htaxesKept
  have hat : (∀ key, u.data.get? key = (s.entered v).get? key) → ∀ key, Doc.at u.data key = Doc.at (s.entered v) key :=
    fun hdata key => by rw [Doc.at, hdata key, Doc.at]
  by_cases hamends : s.amends
  · refine iff_of_false (fun hsame => ?_) fun hsettled => hsettled.amends hamends
    obtain ⟨name, hname⟩ := hsends.named hamends
    obtain ⟨p, data, hsubmit, hgone⟩ := submit_amending hcurrent hamends hsaved h.writes hname
    rw [h.submit, Outcome.done.injEq, Prod.mk.injEq] at hsubmit
    rw [← hsubmit.2] at hgone
    have hkey := (hsame.data "name").symm.trans hgone
    rw [entered, Dict.get?_addAll_of_keys (identityKeys_form s.module "name" (by decide)).2.1 hsaved] at hkey
    rw [Doc.at, hkey] at hname
    cases hname
  · obtain ⟨data, hsubmit, hdata⟩ := submit_spec hcurrent hamends hsaved h.writes
    rw [h.submit, Outcome.done.injEq, Prod.mk.injEq] at hsubmit
    rw [← hsubmit.2, ← entered] at hdata
    constructor
    · rintro ⟨hsame, htaxesSame, hrowsSame⟩
      obtain ⟨hduplicate, hwritten, hremoved⟩ := hdata.mp hsame
      obtain ⟨hturned, hlinked⟩ := hrowsKept.mp hrowsSame
      refine ⟨hamends, hduplicate, ?_, hremoved, htaxesKept.mp htaxesSame, hturned, fun key hkey r hr => ?_⟩
      · rw [h.writes]
        exact hwritten
      · rw [← hat hsame]
        exact hlinked key hkey r hr
    · rintro ⟨_, hduplicate, hwritten, hremoved, htaxes, hturned, hlinked⟩
      rw [h.writes] at hwritten
      have hsame := hdata.mpr ⟨hduplicate, hwritten, hremoved⟩
      refine ⟨hsame, htaxesKept.mpr htaxes, hrowsKept.mpr ⟨hturned, fun key hkey r hr => ?_⟩⟩
      rw [hat hsame]
      exact hlinked key hkey r hr

/-! ### The result -/

/-- Past its request the submit completes it, and goes on without the loading dialog. -/
theorem save_of_request (hu : s.request v = .done u) (hmodule : u.provider.currentModule ≠ none) (loaded : Option ServerPage) :
    s.save v reply loaded =
      (if reply.saves then { u with provider := App.reloadedPage u.provider loaded } else u).afterRequest reply.saves := by
  rw [save, hu]
  dsimp only
  rw [handleRequest_eq { u with routes := .loadingDialog :: u.routes } reply loaded hmodule]
  cases reply.saves <;> rfl

theorem pop_of_form (h : s.routes = .form :: below) :
    s.pop.routes = below ∧ s.pop.isOpen = false ∧ s.pop.module = s.module ∧
      s.pop.provider.createFromPage = s.provider.createFromPage := by
  rw [pop, h]
  exact ⟨rfl, rfl, rfl, rfl⟩

/-- After a failed request the form is on top as it was, or gone. -/
theorem afterRequest_false (s : EditForm) :
    (App.popsOnFailedEdit s.module = false ∧ s.afterRequest false = .done s) ∨
      (App.popsOnFailedEdit s.module = true ∧ (s.afterRequest false).state = s.pop) := by
  cases hpops : App.popsOnFailedEdit s.module with
  | false => exact Or.inl ⟨rfl, by rw [afterRequest, if_pos ⟨rfl, hpops⟩]⟩
  | true =>
    refine Or.inr ⟨rfl, ?_⟩
    rw [afterRequest, if_neg fun hnot => ne_false_of_eq_true hpops hnot.2]
    dsimp only
    split <;> rfl

/-- After a saved one it is gone, and the page of a new document may be there. -/
theorem afterRequest_true (h : s.routes = .form :: below) :
    ∃ t, s.afterRequest true = .done t ∧ t.isOpen = false ∧
      t.routes = if App.goesOnAfterEdit s.module = true ∧ s.provider.createFromPage = true then .genericPage :: below else below := by
  obtain ⟨hroutes, hclosed, hmodule, hcreate⟩ := pop_of_form h
  rw [afterRequest, if_neg fun hnot => nomatch hnot.1]
  dsimp only
  rw [hmodule, hcreate]
  cases App.goesOnAfterEdit s.module with
  | false => exact ⟨s.pop, rfl, hclosed, hroutes⟩
  | true =>
    cases s.provider.createFromPage with
    | false => exact ⟨s.pop, rfl, hclosed, hroutes⟩
    | true => exact ⟨_, rfl, hclosed, congrArg _ hroutes⟩

/-! ### Runs -/

theorem provider_sent {written : Doc} (h : Sent s v u written) : AmendsOnly s.provider u.provider := by
  have hprovider := amendsOnly_submit s.module.form ⟨s.module.editLocated v, v.saved, written, true, true⟩ s.provider s.data
  rw [h.submit] at hprovider
  exact hprovider

theorem over_sent {written : Doc} (h : Sent s v u written) (hover : Over below s) : Over below u := by
  obtain ⟨hmodule, hroutes, _⟩ := h.frame
  obtain ⟨id, amended, hprovider⟩ := provider_sent h
  refine ⟨hroutes.trans hover.routes, ?_⟩
  rw [hprovider, hmodule]
  exact hover.currentModule

/-- The spec of a Save: it throws before its request, or its form is gone once it is saved, or else pops or stays with
    what it has sent. -/
theorem save_cases (h : Over below s) (hsaved : v.saved.all fun e => e.1 ∈ s.module.form.saved) (reply : UpdateReply)
    (loaded : Option ServerPage) :
    (¬ Sends s v ∧ ∃ t, s.save v reply loaded = .threw t) ∨
      Sends s v ∧ ∃ u written, Sent s v u written ∧
        if reply.saves then
          ∃ t, s.save v reply loaded = .done t ∧ t.isOpen = false ∧
            (t.routes = below ↔ ¬ (App.goesOnAfterEdit s.module = true ∧ s.provider.createFromPage = true))
        else if App.popsOnFailedEdit s.module then (s.save v reply loaded).state.routes = below
        else s.save v reply loaded = .done u := by
  cases hrequest : s.request v with
  | threw t =>
    refine Or.inl ⟨fun hsends => ?_, t, by rw [save, hrequest]⟩
    obtain ⟨u, hdone⟩ := request_of_sends hsends h.currentModule hsaved
    rw [hrequest] at hdone
    cases hdone
  | done u =>
    obtain ⟨written, hsent⟩ := sent_of_request hrequest
    obtain ⟨hroutes, hcurrent⟩ := over_sent hsent h
    obtain ⟨hmodule, _⟩ := hsent.frame
    refine Or.inr ⟨sends_of_sent hsent hsaved, u, written, hsent, ?_⟩
    rw [save_of_request hrequest (by simp [hcurrent]), ← hmodule]
    cases reply.saves with
    | true =>
      obtain ⟨t, hdone, hclosed, ht⟩ := afterRequest_true (s := { u with provider := App.reloadedPage u.provider loaded }) hroutes
      obtain ⟨id, amended, hprovider⟩ := provider_sent hsent
      have hcreate : (App.reloadedPage u.provider loaded).createFromPage = s.provider.createFromPage := by
        rw [createFromPage_reloadedPage, hprovider]
      dsimp only at ht
      rw [hcreate] at ht
      refine ⟨t, hdone, hclosed, ?_⟩
      rw [ht]
      split
      · next hgoes => exact iff_of_false (List.cons_ne_self _ _) fun hnot => hnot hgoes
      · next hnot => exact iff_of_true rfl hnot
    | false =>
      simp only [Bool.false_eq_true, if_false]
      rcases afterRequest_false u with ⟨hpops, hdone⟩ | ⟨hpops, hstate⟩
      · rw [hpops, hdone]
        rfl
      · rw [hpops, hstate]
        exact (pop_of_form hroutes).1

theorem keepsForm_iff (h : s.isOpen = true → Over below s) (hstep : s.step e = some t) : KeepsForm s e t ↔ Guard s e := by
  obtain ⟨⟨hopen, _⟩, hstep⟩ := Option.ite_none_right_eq_some.mp hstep
  cases e with
  | change data taxes rows => exact Iff.rfl
  | save v reply loaded =>
    obtain ⟨hsaved, hstep⟩ := Option.ite_none_right_eq_some.mp hstep
    obtain ⟨hroutes, hcurrent⟩ := h hopen
    rw [Option.some.injEq] at hstep
    rcases save_cases (h hopen) hsaved reply loaded with ⟨hnot, t', hthrew⟩ | ⟨hsends, u, written, hsent, hcase⟩
    · refine iff_of_false (fun hkeep => ?_) fun hguard => hnot hguard.1
      have hdone := hkeep.1
      rw [hthrew] at hdone
      cases hdone
    · rw [KeepsForm, Guard, and_iff_right hsends]
      cases hsaves : reply.saves with
      | true =>
        rw [hsaves, if_pos rfl] at hcase
        obtain ⟨t', hdone, _, hgone⟩ := hcase
        rw [hdone, Outcome.state_done] at hstep
        subst hstep
        rw [if_pos rfl, if_pos rfl, hroutes, List.tail_cons, hgone, hdone]
        exact and_iff_right rfl
      | false =>
        rw [hsaves] at hcase
        simp only [Bool.false_eq_true, if_false] at hcase ⊢
        cases hpops : App.popsOnFailedEdit s.module with
        | true =>
          rw [hpops, if_pos rfl, hstep] at hcase
          refine iff_of_false (fun hkeep => ?_) fun hguard => absurd hguard.1 (by simp)
          exact List.cons_ne_self _ _ (hroutes.symm.trans (hkeep.2.1.symm.trans hcase))
        | false =>
          rw [hpops, if_neg Bool.false_ne_true] at hcase
          rw [hcase, Outcome.state_done] at hstep
          subst hstep
          rw [hcase, ← unchanged_sent_iff hsent hcurrent hsaved]
          exact ⟨fun hkeep => ⟨rfl, hkeep.2.2⟩, fun hguard => ⟨rfl, hsent.frame.2.1, hguard.2⟩⟩

theorem over_step (h : s.isOpen = true → Over below s) (hstep : s.step e = some t) (hguard : Guard s e) :
    t.isOpen = true → Over below t := by
  obtain ⟨⟨hopen, _⟩, hstep⟩ := Option.ite_none_right_eq_some.mp hstep
  cases e with
  | change data taxes rows =>
    cases hstep
    exact fun _ => ⟨(h hopen).routes, (h hopen).currentModule⟩
  | save v reply loaded =>
    obtain ⟨hsaved, hstep⟩ := Option.ite_none_right_eq_some.mp hstep
    obtain ⟨hsends, hguard⟩ := hguard
    rw [Option.some.injEq] at hstep
    rcases save_cases (h hopen) hsaved reply loaded with ⟨hnot, _⟩ | ⟨_, u, written, hsent, hcase⟩
    · exact absurd hsends hnot
    · cases hsaves : reply.saves with
      | true =>
        rw [hsaves, if_pos rfl] at hcase
        obtain ⟨t', hdone, hclosed, _⟩ := hcase
        rw [hdone, Outcome.state_done] at hstep
        subst hstep
        intro hopen
        rw [hclosed] at hopen
        cases hopen
      | false =>
        rw [hsaves] at hcase hguard
        simp only [Bool.false_eq_true, if_false] at hcase hguard
        rw [hguard.1, if_neg Bool.false_ne_true] at hcase
        rw [hcase, Outcome.state_done] at hstep
        subst hstep
        exact fun _ => over_sent hsent (h hopen)

/-- A check-in drops the two texts that its submit joins: no failed save leaves it as it is. -/
theorem not_settled_checkin (hmodule : s.module = .employeeCheckin) (hsends : Sends s v) : ¬ Settled s v := by
  intro hsettled
  have hjoined := hsends.joined
  have hremoved := hsettled.removed
  rw [hmodule] at hjoined hremoved
  obtain ⟨⟨text, htext⟩, _⟩ := hjoined
  rw [Doc.at, hremoved "date_only" (by decide)] at htext
  cases htext

/-- Over any number of failed saves and the one that succeeds, a form stays on top with its data and rows and leaves with
    the saved one exactly when each Save gets to its request, a failed one finds in the form what its submit writes and is
    none of a form that pops on a failure, and the saved one does not go on to a page of its own with the create-from mode
    up. -/
theorem keepsForm_run_iff (m : ModuleType) (page : ModuleProvider) (below : List EditRoute) (data : Doc)
    (taxes : Option (List (ItemRow Num))) (rows : List (ItemRow Num)) (es : List EditEvent) :
    Each step KeepsForm (opened m page below data taxes rows) es ↔ Guarded step Guard (opened m page below data taxes rows) es :=
  each_iff_guarded (fun _ _ _ hover hstep => over_step hover hstep) (fun _ _ _ hover hstep => keepsForm_iff hover hstep)
    (fun _ => ⟨rfl, rfl⟩)

/-- A page of a document that has been loaded. -/
def savedPage : ModuleProvider where
  pageData := [("name", .str "DOC-1")]
  pageId := "DOC-1"

/-- A lead loses what the user has written when its update fails: the form is popped. -/
theorem failed_lead_pops :
    ¬ Each step KeepsForm (opened .lead savedPage [.genericPage] [] none [])
      [.change [("lead_name", .str "Ada")] none [], .save {} .dioException none] := by
  intro h
  obtain ⟨_, h⟩ := h _ rfl
  obtain ⟨h, _⟩ := h _ rfl
  have hroutes := h.2.1
  exact absurd hroutes (by decide)

end NextApp.EditForm
