import Mathlib.Tactic.Ring
import NextApp.Lib.Runs
import NextApp.Model.LeaveApplication

/-! # The days that a leave application sends

Only a pick of the last day writes the total; the first day, and half a day, change what it should be. -/

namespace NextApp.LeaveForm
open DateText Runs

/-- The calendar day of a date. -/
def dayOf (v : Value) : Option Int := (readDate v).map fun t => t.micros / 86400000000

def halfDay (s : LeaveForm) : Bool := (Doc.at s.data "half_day").isNumber 1

/-- The total is that of the calendar days from one to the other, less half a day exactly when `half_day` is 1. -/
def Totals (s : LeaveForm) (fromDay toDay : Int) (half : Bool) : Prop :=
  (Doc.at s.data "total_leave_days").number? =
    some (.finite (((toDay - fromDay + 1 : Int) : ℚ) - if half then 1 / 2 else 0))

/-- There is no half day without `half_day`, and none outside the leave. -/
def HalfDayRight (s : LeaveForm) (fromDay toDay : Int) : Prop :=
  Doc.at s.data "half_day_date" ≠ .null →
    s.halfDay ∧ (dayOf (Doc.at s.data "half_day_date")).any fun day => fromDay ≤ day ∧ day ≤ toDay

/-- No callback has thrown, and when both dates are set the total and the half day are right. -/
def Right (s : LeaveForm) : Prop :=
  s.threw = false ∧ ∀ fromDay ∈ dayOf (Doc.at s.data "from_date"), ∀ toDay ∈ dayOf (Doc.at s.data "to_date"),
    s.Totals fromDay toDay s.halfDay ∧ s.HalfDayRight fromDay toDay

/-- The first day is picked before the last, or so that the total stays right; the last day after the first; a date that is
    picked is the text of the other only while `half_day` is 1; and `half_day` is set to what it is once both are set. -/
def Guard (s : LeaveForm) : LeaveEvent → Prop
  | .fromDate d => ∀ toDay ∈ dayOf (Doc.at s.data "to_date"),
    s.Totals d.dayNumber toDay s.halfDay ∧ (Doc.at s.data "to_date" = .str d.iso → s.halfDay)
  | .toDate d => Doc.at s.data "from_date" ≠ .null ∧ ((Doc.at s.data "half_day").isNumber 0 ∨ s.halfDay) ∧
    (Doc.at s.data "from_date" = .str d.iso → s.halfDay)
  | .halfDay value => Doc.at s.data "from_date" ≠ .null → Doc.at s.data "to_date" ≠ .null → value = s.halfDay
  | .halfDayDate _ => True

/-- A form as it is opened: a new one, or one on a document with these dates. -/
inductive Start where
  | new (postingDate : String)
  | loaded (page : Doc) (fromDate toDate halfDayDate : Option Date)

def Start.form : Start → LeaveForm
  | .new postingDate => ⟨newData postingDate, false⟩
  | .loaded page fromDate toDate halfDayDate => openForm page fromDate toDate halfDayDate

/-! ### Dates -/

/-- The texts that a date of the form can be. -/
def IsDate (v : Value) : Prop := v = .null ∨ ∃ d : Date, v = .str d.ymd ∨ v = .str d.iso

variable {s t : LeaveForm} {e : LeaveEvent} {es : List LeaveEvent} {d : Date} {v : Value} {data : Doc}

theorem readDate_ymd (d : Date) : readDate (.str d.ymd) = some ⟨micros d.dayNumber 0 0 0 0, false⟩ := by
  rw [readDate, Value.asString?_str, Option.bind_some, parse_ymd]

theorem readDate_iso (d : Date) : readDate (.str d.iso) = some ⟨micros d.dayNumber 0 0 0 0, false⟩ := by
  rw [readDate, Value.asString?_str, Option.bind_some, parse_iso]

theorem dayOf_iso (d : Date) : dayOf (.str d.iso) = some d.dayNumber := by
  rw [dayOf, readDate_iso, Option.map_some, day_midnight]

theorem IsDate.read (h : IsDate v) (hnull : v ≠ .null) :
    ∃ d : Date, readDate v = some ⟨micros d.dayNumber 0 0 0 0, false⟩ ∧ dayOf v = some d.dayNumber := by
  obtain ⟨d, rfl | rfl⟩ := h.resolve_left hnull
  · exact ⟨d, readDate_ymd d, by rw [dayOf, readDate_ymd, Option.map_some, day_midnight]⟩
  · exact ⟨d, readDate_iso d, dayOf_iso d⟩

theorem IsDate.dayOf_iff (h : IsDate v) : v ≠ .null ↔ ∃ day, dayOf v = some day := by
  constructor
  · intro hnull
    obtain ⟨d, -, hday⟩ := h.read hnull
    exact ⟨_, hday⟩
  · rintro ⟨day, hday⟩ rfl
    cases hday

theorem isDate_iso (d : Date) : IsDate (.str d.iso) := Or.inr ⟨d, Or.inr rfl⟩

theorem isDate_loadedDate (date : Option Date) : IsDate (loadedDate date) := by
  cases date with
  | none => exact Or.inl rfl
  | some d => exact Or.inr ⟨d, Or.inl rfl⟩

/-! ### The text of the total -/

theorem number?_decimal (negative : Bool) (m : Nat) {fraction : List Char} (h : ∀ c ∈ fraction, c.isDigit) :
    (Value.str (String.ofList (decimal negative m fraction))).number? =
      some (.finite (Decimal.toRat ⟨negative, Nat.ofDigitChars 10 fraction m, 0, fraction.length⟩)) := by
  rw [Value.number?, trim_ofList (not_isBlank_decimal h), decimal?_decimal negative m h, Option.map_some]

theorem number?_daysText (days : Int) (half : Bool) :
    (Value.str (daysText days half)).number? = some (.finite ((days : ℚ) - if half then 1 / 2 else 0)) := by
  unfold daysText
  cases half with
  | false =>
    have hsigned : (if decide (days < 0) = true then -(days.natAbs : Int) else days.natAbs) = days := by
      split_ifs with h
      · have := of_decide_eq_true h
        omega
      · have := of_decide_eq_false (eq_false_of_ne_true h)
        omega
    rw [if_neg Bool.false_ne_true, number?_decimal _ _ fun c hc => absurd hc List.not_mem_nil, Decimal.toRat]
    rw [Nat.ofDigitChars_nil, hsigned]
    simp [Rat.mkRat_one]
  | true =>
    have hdigit : ∀ m, Nat.ofDigitChars 10 ['5'] m = 10 * m + 5 := fun m => rfl
    have hsigned : (if decide (days ≤ 0) = true then -((10 * (if days ≤ 0 then -days else days - 1).toNat + 5 : Nat) : Int)
        else (10 * (if days ≤ 0 then -days else days - 1).toNat + 5 : Nat)) = 10 * days - 5 := by
      split_ifs with h h' h'
      · omega
      · exact absurd (of_decide_eq_true h) h'
      · exact absurd (decide_eq_true h') h
      · omega
    rw [if_pos rfl, number?_decimal _ _ fun c hc => by rw [List.mem_singleton.mp hc]; rfl, Decimal.toRat]
    rw [hdigit, hsigned, Rat.mkRat_eq_div]
    push_cast
    simp
    ring

/-! ### The callbacks -/

/-- What a date picked for one key, beside the other, leaves in the data. -/
structure DateSet (key other : String) (d : Date) (data data' : Doc) : Prop where
  picked : Doc.at data' key = .str d.iso
  kept : Doc.at data' other = Doc.at data other
  halfDay : Doc.at data' "half_day" = Doc.at data "half_day"
  halfDayDate : Doc.at data' "half_day_date" = if Doc.at data other = .str d.iso then .str d.iso else .null

theorem removed_halfDayDate (data : Doc) :
    ∃ data', (if Doc.at data "half_day_date" ≠ .null then data.remove "half_day_date" else data) = data' ∧
      Doc.at data' "half_day_date" = .null ∧ ∀ k, k ≠ "half_day_date" → Doc.at data' k = Doc.at data k := by
  by_cases h : Doc.at data "half_day_date" = .null
  · exact ⟨data, if_neg (not_not.mpr h), h, fun _ _ => rfl⟩
  · exact ⟨data.remove "half_day_date", if_pos h, Doc.at_remove_self _ _, fun _ hk => Doc.at_remove_ne _ (Ne.symm hk)⟩

theorem setDate_spec {key other : String} (hkeys : key = "from_date" ∧ other = "to_date" ∨ key = "to_date" ∧ other = "from_date")
    (d : Date) (data : Doc) :
    DateSet key other d data (setDate key d data) ∧
      Doc.at (setDate key d data) "total_leave_days" = Doc.at data "total_leave_days" := by
  obtain ⟨data', hdata', hnull, hkept⟩ := removed_halfDayDate (data.set key (.str d.iso))
  have hset : setDate key d data =
      if Doc.at data' "from_date" = Doc.at data' "to_date" then data'.set "half_day_date" (Doc.at data' "from_date") else data' := by
    rw [← hdata']
    rfl
  have hdates : (Doc.at data' "from_date" = Doc.at data' "to_date" ↔ Doc.at data other = .str d.iso) ∧
      (Doc.at data other = .str d.iso → Doc.at data' "from_date" = .str d.iso) ∧
      Doc.at data' key = .str d.iso ∧ Doc.at data' other = Doc.at data other ∧
      Doc.at data' "half_day" = Doc.at data "half_day" ∧
      Doc.at data' "total_leave_days" = Doc.at data "total_leave_days" := by
    rcases hkeys with ⟨rfl, rfl⟩ | ⟨rfl, rfl⟩ <;> simp [hkept, eq_comm]
  have hne : "half_day_date" ≠ key ∧ "half_day_date" ≠ other := by
    rcases hkeys with ⟨rfl, rfl⟩ | ⟨rfl, rfl⟩ <;> decide
  obtain ⟨heq, hiso, hpicked, hother, hhalf, htotal⟩ := hdates
  rw [hset]
  by_cases hsame : Doc.at data other = .str d.iso
  · rw [if_pos (heq.mpr hsame)]
    exact ⟨⟨(Doc.at_set_ne _ _ hne.1).trans hpicked, (Doc.at_set_ne _ _ hne.2).trans hother,
      (Doc.at_set_ne _ _ (by decide)).trans hhalf, by rw [Doc.at_set_self, hiso hsame, if_pos hsame]⟩,
      (Doc.at_set_ne _ _ (by decide)).trans htotal⟩
  · rw [if_neg fun h => hsame (heq.mp h)]
    exact ⟨⟨hpicked, hother, hhalf, by rw [hnull, if_neg hsame]⟩, htotal⟩

theorem DateSet.set_total {data' : Doc} (h : DateSet "to_date" "from_date" d data data') (v : Value) :
    DateSet "to_date" "from_date" d data (data'.set "total_leave_days" v) where
  picked := (Doc.at_set_ne _ _ (by decide)).trans h.picked
  kept := (Doc.at_set_ne _ _ (by decide)).trans h.kept
  halfDay := (Doc.at_set_ne _ _ (by decide)).trans h.halfDay
  halfDayDate := (Doc.at_set_ne _ _ (by decide)).trans h.halfDayDate

/-- The invariant: the state is right, and its dates are texts of dates. -/
structure Inv (s : LeaveForm) : Prop where
  right : s.Right
  fromDate : IsDate (Doc.at s.data "from_date")
  toDate : IsDate (Doc.at s.data "to_date")

/-- After a date is picked the half day is right exactly when `half_day` is 1, if the other date is the same text. -/
theorem halfDayRight_iff {key other : String} {data : Doc} (h : DateSet key other d data s.data) {fromDay toDay : Int}
    (hday : Doc.at data other = .str d.iso → fromDay ≤ d.dayNumber ∧ d.dayNumber ≤ toDay) :
    s.HalfDayRight fromDay toDay ↔ (Doc.at data other = .str d.iso → (Doc.at data "half_day").isNumber 1) := by
  rw [HalfDayRight, halfDay, h.halfDay, h.halfDayDate]
  by_cases hsame : Doc.at data other = .str d.iso
  · simp [hsame, dayOf_iso, hday hsame]
  · simp [hsame]

theorem DateSet.halfDay_eq {key other : String} {data : Doc} (h : DateSet key other d data s.data) :
    s.halfDay = (Doc.at data "half_day").isNumber 1 := congrArg (Value.isNumber · 1) h.halfDay

theorem right_fromDate_iff (h : s.Inv) (d : Date) :
    Right { s with data := setDate "from_date" d s.data } ↔ s.Guard (.fromDate d) := by
  obtain ⟨hset, htotal⟩ := setDate_spec (Or.inl ⟨rfl, rfl⟩) d s.data
  refine (and_iff_right h.right.1).trans ?_
  rw [hset.picked, hset.kept, dayOf_iso]
  simp only [Option.mem_some_iff, forall_eq', Guard]
  refine forall₂_congr fun toDay htoDay => and_congr ?_ (halfDayRight_iff hset fun hsame => ?_)
  · rw [Totals, Totals, htotal, hset.halfDay_eq]
    rfl
  · rw [hsame, dayOf_iso] at htoDay
    exact ⟨le_rfl, (Option.mem_some_iff.mp htoDay).le⟩

theorem not_isNumber_one {v : Value} (h : v.isNumber 0) : v.isNumber 1 = false := by
  have hzero : v.rational? = some 0 := of_decide_eq_true h
  rw [Value.isNumber, hzero]
  simp

theorem sub_half_inj {days : ℚ} {half half' : Bool} :
    (days - if half then 1 / 2 else 0) = days - (if half' then 1 / 2 else 0) ↔ half = half' := by
  rw [sub_right_inj]
  cases half <;> cases half' <;> simp

/-- The code looks for 0 where the total should lose half a day for 1. -/
theorem not_isNumber_zero_iff {v : Value} : (!v.isNumber 0) = v.isNumber 1 ↔ v.isNumber 0 ∨ v.isNumber 1 := by
  cases hzero : v.isNumber 0 with
  | true => simp [not_isNumber_one hzero]
  | false => simp

theorem right_toDate_iff (h : s.Inv) (d : Date) : Right (s.toDateChanged d) ↔ s.Guard (.toDate d) := by
  obtain ⟨hset, -⟩ := setDate_spec (Or.inr ⟨rfl, rfl⟩) d s.data
  unfold toDateChanged totalLeaveDays
  dsimp only
  rw [hset.picked, hset.kept, readDate_iso, hset.halfDay]
  by_cases hnull : Doc.at s.data "from_date" = .null
  · rw [hnull]
    exact iff_of_false (fun hright => Bool.noConfusion hright.1) fun hguard => hguard.1 hnull
  · obtain ⟨first, hread, hday⟩ := h.fromDate.read hnull
    rw [hread]
    simp only [Option.bind_some, Option.map_some, daysBetween_midnight]
    have hset' := hset.set_total (.str (daysText (d.dayNumber - first.dayNumber + 1) !(Doc.at s.data "half_day").isNumber 0))
    refine (and_iff_right h.right.1).trans ?_
    rw [hset'.picked, hset'.kept, dayOf_iso, hday]
    simp only [Option.mem_some_iff, forall_eq', Guard, ne_eq, hnull, not_false_eq_true, true_and]
    refine and_congr ?_ (halfDayRight_iff hset' fun hsame => ?_)
    · rw [Totals, Doc.at_set_self, number?_daysText, hset'.halfDay_eq, Option.some.injEq, Number.finite.injEq,
        sub_half_inj]
      exact not_isNumber_zero_iff
    · rw [hsame, dayOf_iso] at hday
      exact ⟨(Option.some.inj hday).ge, le_rfl⟩

theorem right_halfDay_iff (h : s.Inv) (value : Bool) :
    Right { s with data := s.data.set "half_day" (.int (if value then 1 else 0)) } ↔ s.Guard (.halfDay value) := by
  let t : LeaveForm := { s with data := s.data.set "half_day" (.int (if value then 1 else 0)) }
  have hkept : ∀ k, k ≠ "half_day" → Doc.at t.data k = Doc.at s.data k := fun k hk => Doc.at_set_ne _ _ (Ne.symm hk)
  have hhalf : t.halfDay = value := by
    rw [halfDay, Doc.at_set_self]
    cases value <;> rfl
  refine (and_iff_right h.right.1).trans ?_
  rw [hkept _ (by decide), hkept _ (by decide), hhalf, Guard, h.fromDate.dayOf_iff, h.toDate.dayOf_iff]
  constructor
  · rintro hright ⟨fromDay, hfrom⟩ ⟨toDay, hto⟩
    have hnew := (hright fromDay hfrom toDay hto).1
    have hold := (h.right.2 fromDay hfrom toDay hto).1
    rw [Totals, hkept _ (by decide), hold, Option.some.injEq, Number.finite.injEq, sub_half_inj] at hnew
    exact hnew.symm
  · intro hsame fromDay hfrom toDay hto
    have hvalue : value = s.halfDay := hsame ⟨fromDay, hfrom⟩ ⟨toDay, hto⟩
    obtain ⟨htotal, hdate⟩ := h.right.2 fromDay hfrom toDay hto
    constructor
    · rw [Totals, hkept _ (by decide), hvalue]
      exact htotal
    · rw [HalfDayRight, hkept _ (by decide), hhalf, hvalue]
      exact hdate

/-- A date that the picker offers is not before, or not after, the other. -/
theorem dayOf_of_offers {day : Int} (hv : IsDate v) (hday : dayOf v = some day) :
    (offers v d false → day ≤ d.dayNumber) ∧ (offers v d true → d.dayNumber ≤ day) := by
  obtain ⟨bound, hread, hbound⟩ := hv.read (hv.dayOf_iff.mpr ⟨day, hday⟩)
  cases hbound.symm.trans hday
  simp only [offers, hread, Option.all_some, Bool.false_eq_true, if_false, if_true, micros]
  constructor
  · intro hle
    have := of_decide_eq_true hle
    omega
  · intro hle
    have := of_decide_eq_true hle
    omega

theorem right_halfDayDate (h : s.Inv) (hs : s.step (.halfDayDate d) = some t) : t.Right := by
  obtain ⟨⟨hhalf, hfrom, hto⟩, hs⟩ := Option.ite_none_right_eq_some.mp hs
  cases hs
  have hkept : ∀ k, k ≠ "half_day_date" → Doc.at (s.data.set "half_day_date" (.str d.iso)) k = Doc.at s.data k :=
    fun k hk => Doc.at_set_ne _ _ (Ne.symm hk)
  refine ⟨h.right.1, ?_⟩
  rw [hkept _ (by decide), hkept _ (by decide)]
  intro fromDay hfromDay toDay htoDay
  constructor
  · rw [Totals, hkept _ (by decide), halfDay, hkept _ (by decide)]
    exact (h.right.2 fromDay hfromDay toDay htoDay).1
  · rw [HalfDayRight, Doc.at_set_self, halfDay, hkept _ (by decide), dayOf_iso]
    refine fun _ => ⟨hhalf, ?_⟩
    simp [(dayOf_of_offers h.fromDate hfromDay).1 hfrom, (dayOf_of_offers h.toDate htoDay).2 hto]

/-! ### Runs -/

theorem right_step_iff (h : s.Inv) (hs : s.step e = some t) : t.Right ↔ s.Guard e := by
  cases e with
  | fromDate d =>
    cases hs
    exact right_fromDate_iff h d
  | toDate d =>
    cases hs
    exact right_toDate_iff h d
  | halfDay value =>
    cases hs
    exact right_halfDay_iff h value
  | halfDayDate d => exact iff_of_true (right_halfDayDate h hs) trivial

theorem isDate_step (h : s.Inv) (hs : s.step e = some t) :
    IsDate (Doc.at t.data "from_date") ∧ IsDate (Doc.at t.data "to_date") := by
  cases e with
  | fromDate d =>
    cases hs
    obtain ⟨hset, -⟩ := setDate_spec (Or.inl ⟨rfl, rfl⟩) d s.data
    exact ⟨hset.picked ▸ isDate_iso d, hset.kept ▸ h.toDate⟩
  | toDate d =>
    cases hs
    obtain ⟨hset, -⟩ := setDate_spec (Or.inr ⟨rfl, rfl⟩) d s.data
    unfold toDateChanged
    dsimp only
    split
    · exact ⟨(hset.set_total _).kept ▸ h.fromDate, (hset.set_total _).picked ▸ isDate_iso d⟩
    · exact ⟨hset.kept ▸ h.fromDate, hset.picked ▸ isDate_iso d⟩
  | halfDay value =>
    cases hs
    constructor
    · rw [Doc.at_set_ne _ _ (by decide)]
      exact h.fromDate
    · rw [Doc.at_set_ne _ _ (by decide)]
      exact h.toDate
  | halfDayDate d =>
    obtain ⟨-, hs⟩ := Option.ite_none_right_eq_some.mp hs
    cases hs
    constructor
    · rw [Doc.at_set_ne _ _ (by decide)]
      exact h.fromDate
    · rw [Doc.at_set_ne _ _ (by decide)]
      exact h.toDate

theorem isDate_start (start : Start) :
    IsDate (Doc.at start.form.data "from_date") ∧ IsDate (Doc.at start.form.data "to_date") := by
  cases start with
  | new postingDate => exact ⟨Or.inl rfl, Or.inl rfl⟩
  | loaded page fromDate toDate halfDayDate =>
    have hfrom : Doc.at (openForm page fromDate toDate halfDayDate).data "from_date" = loadedDate fromDate := by
      simp [openForm]
    have hto : Doc.at (openForm page fromDate toDate halfDayDate).data "to_date" = loadedDate toDate := by
      simp [openForm]
    exact ⟨hfrom ▸ isDate_loadedDate fromDate, hto ▸ isDate_loadedDate toDate⟩

/-- From any start, every state of a run is right exactly when the first one is and every step meets the guard. -/
theorem right_run_iff (start : Start) (es : List LeaveEvent) :
    Along step Right start.form es ↔ start.form.Right ∧ Guarded step Guard start.form es := by
  obtain ⟨hfrom, hto⟩ := isDate_start start
  have hiff : start.form.Right → (Along step Right start.form es ↔ Guarded step Guard start.form es) := fun hright =>
    along_iff_guarded (I := Inv) (fun _ h => h.right)
      (fun _ _ _ h hs hg => ⟨(right_step_iff h hs).mpr hg, (isDate_step h hs).1, (isDate_step h hs).2⟩)
      (fun _ _ _ h hs hright => (right_step_iff h hs).mp hright) ⟨hright, hfrom, hto⟩
  exact ⟨fun h => ⟨h.head, (hiff h.head).mp h⟩, fun h => (hiff h.1).mpr h.2⟩

/-- Half a day that is set after the dates is not taken from the total. -/
theorem half_day_after_dates :
    let first : Date := ⟨2024, 2, 28, by decide, by decide, by decide⟩
    let last : Date := ⟨2024, 3, 1, by decide, by decide, by decide⟩
    ¬ Along step Right (Start.new "2024-02-20").form [.fromDate first, .toDate last, .halfDay true] := by
  intro first last h
  have hlast := ((h.2 _ rfl).2 _ rfl).2 _ rfl
  obtain ⟨-, hright⟩ := hlast
  have hdays := (hright first.dayNumber (by decide +kernel) last.dayNumber (by decide +kernel)).1
  exact absurd hdays (by unfold Totals; decide +kernel)

end NextApp.LeaveForm
