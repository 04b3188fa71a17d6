import NextApp.Model.CheckinForm

/-! # What a check-in sends, and sends again

The first submit removes the two keys that the time is put together from, so the second throws. -/

namespace NextApp.CheckinForm

/-- The provider while the form is open. -/
def shown (p : ModuleProvider) : ModuleProvider := { p with currentModule := some .employeeCheckin }

/-- Each submit reaches its request, and sends the time as entered. -/
def SendsTime (p : ModuleProvider) (now : String) (s : TimeStamp) (page : Doc) (as : List CheckinAttempt) : Prop :=
  ∀ a ∈ submits (shown p) (openForm p now s page) as, ∃ data, a.2 = some data ∧ Doc.at data "time" = .str s.text

/-- A request has the position of the device. -/
def SendsPosition (p : ModuleProvider) (now : String) (s : TimeStamp) (page : Doc) (as : List CheckinAttempt) : Prop :=
  ∀ a ∈ submits (shown p) (openForm p now s page) as, ∀ data ∈ a.2,
    Doc.at data "latitude" = .double a.1.latitude ∧ Doc.at data "longitude" = .double a.1.longitude

/-- The position of the device is known and, unless the form edits, a placemark was found for it. -/
def Located (p : ModuleProvider) (a : CheckinAttempt) : Prop :=
  ¬ (a.latitude = 0 ∧ a.longitude = 0) ∧ (p.editPage = true ∨ a.placeman ≠ [])

/-- There is no retry, and the one submit is located. -/
def Once (p : ModuleProvider) : List CheckinAttempt → Prop
  | [] => True
  | [a] => Located p a
  | _ => False

variable {p : ModuleProvider} {a : CheckinAttempt} {as : List CheckinAttempt} {data : Doc} {s : TimeStamp} {now : String}
  {page : Doc}

/-! ### The two parts of the time -/

theorem split_text (s : TimeStamp) : split s.text = [s.date, s.time] := by
  have htext : s.text.toList = s.date.toList ++ ' ' :: s.time.toList := by
    rw [TimeStamp.text, String.toList_append, String.toList_append, List.append_assoc]
    rfl
  rw [split, htext, List.splitOn_append_cons_self_of_not_mem s.date_blank, List.splitOn_eq_singleton s.time_blank]
  simp

/-- The data has the two keys of the time. -/
structure Parts (s : TimeStamp) (data : Doc) : Prop where
  date : Doc.at data "date_only" = .str s.date
  time : Doc.at data "time_only" = .str s.time

theorem parts_openForm (p : ModuleProvider) (now : String) (s : TimeStamp) (page : Doc) : Parts s (openForm p now s page) := by
  unfold openForm
  split_ifs
  · constructor <;> simp [load, split_text]
  · exact ⟨rfl, rfl⟩

/-! ### A submit -/

theorem initializeDuplicationMode_shown (p : ModuleProvider) (data : Doc) :
    ∃ data', (shown p).initializeDuplicationMode data = .done data' ∧
      ∀ k ∉ ["doctype", "amended_from", "name"], Doc.at data' k = Doc.at data k := by
  have hframe := fun k hk => ModuleForm.get?_initializeDuplicationMode (k := k) hk (shown p) data
  have hdone : ∃ data', (shown p).initializeDuplicationMode data = .done data' := by
    rw [ModuleProvider.initializeDuplicationMode]
    split_ifs <;> exact ⟨_, rfl⟩
  obtain ⟨data', hdone⟩ := hdone
  rw [hdone] at hframe
  exact ⟨data', hdone, fun k hk => congrArg (fun v => Option.getD v Value.null) (hframe k hk)⟩

/-- The data with the time, and without its parts. -/
def timed (s : TimeStamp) (data : Doc) : Doc := ((data.set "time" (.str s.text)).remove "time_only").remove "date_only"

theorem composeTime_of_parts (h : Parts s data) : composeTime data = .done (timed s data) := by
  simp [composeTime, h.date, h.time, timed, TimeStamp.text]

theorem composeTime_of_null (h : Doc.at data "date_only" = .null) : composeTime data = .threw data := by
  rw [composeTime, h]
  rfl

@[simp] theorem at_saveFields {k : String} (hk : k ≠ "device_id") (a : CheckinAttempt) (data : Doc) :
    Doc.at (saveFields a data) k = Doc.at data k := by
  unfold saveFields
  split
  · rfl
  · exact Doc.at_set_ne _ _ hk.symm

/-- A located submit sends the time, with latitude and longitude exchanged unless it edits, and leaves no date. -/
theorem submit_of_parts (h : Parts s data) (ha : Located p a) :
    ∃ data', submit (shown p) a data = some (.done data') ∧ Doc.at data' "time" = .str s.text ∧
      Doc.at data' "date_only" = .null ∧
      (p.editPage = false →
        Doc.at data' "latitude" = .double a.longitude ∧ Doc.at data' "longitude" = .double a.latitude) := by
  obtain ⟨data', hdup, hkeys⟩ := initializeDuplicationMode_shown p data
  have hparts : ∀ data'' : Doc, Doc.at data'' "date_only" = Doc.at data' "date_only" →
      Doc.at data'' "time_only" = Doc.at data' "time_only" → composeTime data'' = .done (timed s data'') := by
    intro data'' hdate htime
    exact composeTime_of_parts ⟨hdate.trans ((hkeys _ (by decide)).trans h.date), htime.trans ((hkeys _ (by decide)).trans h.time)⟩
  rw [submit, if_neg ha.1, hdup, Outcome.bind_done]
  cases hedit : p.editPage with
  | true =>
    refine ⟨timed s (saveFields a data'), ?_, by simp [timed], by simp [timed], fun h => by cases h⟩
    simp only [shown, hedit, if_true, Outcome.bind_done]
    rw [hparts _ (by simp) (by simp)]
  | false =>
    obtain ⟨area, areas, hareas⟩ := List.exists_cons_of_ne_nil (ha.2.resolve_left (by simp [hedit]))
    refine ⟨timed s ((((saveFields a data').set "latitude" (.double a.longitude)).set "longitude"
      (.double a.latitude)).set "location" area), ?_, by simp [timed], by simp [timed], fun _ => by simp [timed]⟩
    simp only [shown, hedit, Bool.false_eq_true, if_false, locate, hareas, List.head?_cons, Outcome.need_some, Outcome.bind_done]
    rw [hparts _ (by simp) (by simp)]

/-- A submit that gets to its request is located, and finds a date. -/
theorem of_submit_done {data' : Doc} (h : submit (shown p) a data = some (.done data')) :
    Located p a ∧ Doc.at data "date_only" ≠ .null := by
  obtain ⟨hknown, h⟩ := Option.ite_none_left_eq_some.mp h
  obtain ⟨dup, hdup, hkeys⟩ := initializeDuplicationMode_shown p data
  have hdate : Doc.at dup "date_only" = Doc.at data "date_only" := hkeys _ (by decide)
  rw [hdup, Outcome.bind_done] at h
  refine ⟨⟨hknown, ?_⟩, fun hnull => ?_⟩
  · by_contra hnone
    obtain ⟨hedit, hareas⟩ := not_or.mp hnone
    simp [shown, hedit, locate, not_not.mp hareas] at h
  · have hthrew : ∀ data'' : Doc, Doc.at data'' "date_only" = Doc.at dup "date_only" → composeTime data'' = .threw data'' :=
      fun data'' heq => composeTime_of_null (heq.trans (hdate.trans hnull))
    cases hedit : p.editPage with
    | true =>
      simp only [shown, hedit, if_true, Outcome.bind_done] at h
      rw [hthrew _ (by simp)] at h
      simp at h
    | false =>
      cases hareas : a.placeman.head? with
      | none => simp [shown, hedit, locate, hareas] at h
      | some area =>
        simp only [shown, hedit, Bool.false_eq_true, if_false, locate, hareas, Outcome.need_some, Outcome.bind_done] at h
        rw [hthrew _ (by simp)] at h
        simp at h

/-! ### Submits one after the other -/

theorem submits_of_done {data' : Doc} (h : submit (shown p) a data = some (.done data')) :
    submits (shown p) data (a :: as) = (a, some data') :: submits (shown p) data' as := by
  rw [submits, h]

theorem mem_submits (h : ∀ data', submit (shown p) a data ≠ some (.done data')) :
    (a, none) ∈ submits (shown p) data (a :: as) := by
  rw [submits]
  split
  · exact List.mem_cons_self
  · exact List.mem_cons_self
  · next data' hdone => exact absurd hdone (h data')

theorem sendsTime_iff (p : ModuleProvider) (now : String) (s : TimeStamp) (page : Doc) (as : List CheckinAttempt) :
    SendsTime p now s page as ↔ Once p as := by
  have hparts := parts_openForm p now s page
  cases as with
  | nil => exact iff_of_true (fun a ha => absurd ha List.not_mem_nil) trivial
  | cons a as =>
    by_cases ha : Located p a
    · obtain ⟨data', hdone, htime, hdate, -⟩ := submit_of_parts hparts ha
      unfold SendsTime
      rw [submits_of_done hdone]
      cases as with
      | nil =>
        refine iff_of_true (fun b hb => ?_) ha
        rw [List.mem_singleton.mp hb]
        exact ⟨data', rfl, htime⟩
      | cons b bs =>
        refine iff_of_false (fun h => ?_) not_false
        have hagain : (b, none) ∈ submits (shown p) data' (b :: bs) :=
          mem_submits fun d hd => (of_submit_done hd).2 hdate
        obtain ⟨d, hd, -⟩ := h _ (List.mem_cons_of_mem _ hagain)
        cases hd
    · refine iff_of_false (fun h => ?_) (fun h => ?_)
      · obtain ⟨d, hd, -⟩ := h (a, none) (mem_submits fun d hd => ha (of_submit_done hd).1)
        cases hd
      · cases as with
        | nil => exact ha h
        | cons b bs => exact h

theorem sendsPosition_iff (h : Once p as) (hedit : p.editPage = false) :
    SendsPosition p now s page as ↔ ∀ a ∈ as, a.latitude = a.longitude := by
  match as, h with
  | [], _ => exact iff_of_true (fun a ha => absurd ha List.not_mem_nil) (fun a ha => absurd ha List.not_mem_nil)
  | [a], ha =>
    obtain ⟨data', hdone, -, -, hposition⟩ := submit_of_parts (parts_openForm p now s page) ha
    obtain ⟨hlatitude, hlongitude⟩ := hposition hedit
    unfold SendsPosition
    rw [submits_of_done hdone]
    simp only [submits, List.mem_singleton, forall_eq, Option.mem_def, Option.some.injEq, forall_eq', hlatitude, hlongitude,
      Value.double.injEq]
    exact ⟨fun heq => heq.1.symm, fun heq => ⟨heq.symm, heq⟩⟩

end NextApp.CheckinForm
