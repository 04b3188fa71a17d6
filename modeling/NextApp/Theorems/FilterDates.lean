import NextApp.Model.FilterDates
import NextApp.Theorems.FilterScreen

/-! # Filters with dates in order

In a list request the first date of a filter is not after the second one, whatever is picked, cleared and applied in what
order: for the pairs of pickers that compare with each other. For the others it is a condition on each pick. -/

namespace NextApp
open Runs DateText

variable {m : ModuleType} {r r' : DateRange} {d d' values : Doc} {k : String}

/-! ### The date ranges of the modules -/

/-- The handler of each picker reads the date of the other. -/
structure DateRange.Sound (r : DateRange) : Prop where
  check : r.checkKey = r.toKey
  first : r.firstKey = r.fromKey
  untimed : r.timed = false

theorem mem_dateKeys (hr : r ∈ m.dateRanges) : r.fromKey ∈ m.dateKeys ∧ r.toKey ∈ m.dateKeys :=
  ⟨List.mem_flatMap.mpr ⟨r, hr, List.mem_cons_self⟩,
    List.mem_flatMap.mpr ⟨r, hr, List.mem_cons_of_mem _ List.mem_cons_self⟩⟩

theorem dateKeys_filter : ∀ k ∈ m.dateKeys, k ≠ "" ∧ k ∉ sortKeys := by
  cases m <;> decide

theorem from_ne_to : ∀ r ∈ m.dateRanges, r.fromKey ≠ r.toKey := by
  cases m <;> decide

/-- What the handler of the first date removes is the second date or no date at all. -/
theorem check_key : ∀ r ∈ m.dateRanges, r.checkKey = r.toKey ∨ r.checkKey ∉ m.dateKeys := by
  cases m <;> decide

theorem apart : ∀ r ∈ m.dateRanges, ∀ r' ∈ m.dateRanges, r' = r ∨
    (r.fromKey ≠ r'.fromKey ∧ r.fromKey ≠ r'.toKey) ∧ r.toKey ≠ r'.fromKey ∧ r.toKey ≠ r'.toKey := by
  cases m <;> decide

theorem timed_eq : ∀ r ∈ m.dateRanges, ∀ r' ∈ m.dateRanges, r'.timed = r.timed := by
  cases m <;> decide

/-! ### Dates in order -/

/-- The first date is not after the second one. -/
def Ordered (r : DateRange) (d : Doc) : Prop :=
  ∀ first ∈ dateAt d r.fromKey, ∀ second ∈ dateAt d r.toKey, first.micros ≤ second.micros

/-- Each date is one that a date picker gives, or not set. -/
def Dated (r : DateRange) (d : Doc) : Prop :=
  ∀ k ∈ [r.fromKey, r.toKey], Doc.at d k = .null ∨ ∃ date : Date, Doc.at d k = .str date.iso

/-- The values have the dates of the range as `d` has them. -/
def SameDates (r : DateRange) (d d' : Doc) : Prop :=
  Doc.at d' r.fromKey = Doc.at d r.fromKey ∧ Doc.at d' r.toKey = Doc.at d r.toKey

structure RangeOk (r : DateRange) (d : Doc) : Prop where
  ordered : Ordered r d
  dated : r.Sound → Dated r d

theorem SameDates.refl (r : DateRange) (d : Doc) : SameDates r d d := ⟨rfl, rfl⟩

theorem SameDates.ok (h : SameDates r d d') (hok : RangeOk r d) : RangeOk r d' where
  ordered := by
    rw [Ordered, dateAt, dateAt, h.1, h.2]
    exact hok.ordered
  dated hr k hk := by
    have hsame : Doc.at d' k = Doc.at d k := by
      rcases List.mem_pair.mp hk with rfl | rfl
      · exact h.1
      · exact h.2
    rw [hsame]
    exact hok.dated hr k hk

theorem sameDates_set {v : Value} (hfrom : k ≠ r.fromKey) (hto : k ≠ r.toKey) : SameDates r d (d.set k v) :=
  ⟨Doc.at_set_ne d v hfrom, Doc.at_set_ne d v hto⟩

theorem sameDates_remove (hfrom : k ≠ r.fromKey) (hto : k ≠ r.toKey) : SameDates r d (d.remove k) :=
  ⟨Doc.at_remove_ne d hfrom, Doc.at_remove_ne d hto⟩

theorem dateAt_of_null (h : Doc.at d k = .null) : dateAt d k = none := by
  rw [dateAt, h]
  rfl

theorem dateAt_of_str {text : String} (h : Doc.at d k = .str text) : dateAt d k = parse text := by
  rw [dateAt, h, Value.asString?, Option.bind_some]

theorem dateAt_set_self {text : String} : dateAt (d.set k (.str text)) k = parse text :=
  dateAt_of_str (Doc.at_set_self d _ _)

theorem dateAt_set_ne {k' : String} {v : Value} (h : k ≠ k') : dateAt (d.set k v) k' = dateAt d k' := by
  rw [dateAt, Doc.at_set_ne d v h]
  rfl

theorem rangeOk_of_null (hfrom : Doc.at d r.fromKey = .null) (hto : Doc.at d r.toKey = .null) : RangeOk r d where
  ordered := by
    rw [Ordered, dateAt_of_null hfrom]
    exact nofun
  dated _ k hk := by
    rcases List.mem_pair.mp hk with rfl | rfl
    · exact .inl hfrom
    · exact .inl hto

/-- A date that is removed is in order. -/
theorem rangeOk_remove (hk : k = r.fromKey ∨ k = r.toKey) (h : r.Sound → Dated r d) : RangeOk r (d.remove k) where
  ordered first hfirst second hsecond := by
    rcases hk with rfl | rfl
    · rw [dateAt_of_null (Doc.at_remove_self d _)] at hfirst
      cases hfirst
    · rw [dateAt_of_null (Doc.at_remove_self d _)] at hsecond
      cases hsecond
  dated hr k' hk' := by
    by_cases heq : k = k'
    · subst heq
      exact .inl (Doc.at_remove_self d _)
    · rw [Doc.at_remove_ne d heq]
      exact h hr k' hk'

theorem dated_set {date : Date} (h : Dated r d) : Dated r (d.set k (.str date.iso)) := by
  intro k' hk'
  by_cases heq : k = k'
  · subst heq
    exact .inr ⟨date, Doc.at_set_self d _ _⟩
  · rw [Doc.at_set_ne d _ heq]
    exact h k' hk'

namespace FilterDates
variable {s t : FilterDates} {e : FilterDatesEvent} {value : String}

/-! ### The invariant -/

/-- No request asks for dates out of order, and none would if the screen were applied. -/
def InOrder (m : ModuleType) (s : FilterDates) : Prop :=
  ∀ r ∈ m.dateRanges, Ordered r s.screens.filter ∧ ∀ screen ∈ s.screens.screen, Ordered r screen.2

structure Inv (m : ModuleType) (s : FilterDates) : Prop where
  filter : ∀ r ∈ m.dateRanges, RangeOk r s.screens.filter
  screen : ∀ r ∈ m.dateRanges, ∀ screen ∈ s.screens.screen, RangeOk r screen.2
  /-- the second picker starts at the date on the screen, where there is one -/
  built : ∀ r ∈ m.dateRanges, r.Sound → ∀ values ∈ s.values?, ∀ first ∈ dateAt values r.fromKey,
    dateAt s.built r.fromKey = some first
  times : (∀ r ∈ m.dateRanges, r.timed = false) → s.timeFrom = none ∧ s.timeTo = none

theorem inOrder_of_inv (h : s.Inv m) : s.InOrder m :=
  fun r hr => ⟨(h.filter r hr).ordered, fun screen hscreen => (h.screen r hr screen hscreen).ordered⟩

theorem values?_eq_some : s.values? = some values ↔ s.screens.screen = some (.filter, values) := by
  rw [values?, Option.bind_eq_some_iff]
  constructor
  · rintro ⟨⟨kind, d⟩, hscreen, hvalues⟩
    obtain ⟨hkind, hd⟩ := Option.ite_none_right_eq_some.mp hvalues
    cases hkind
    cases hd
    exact hscreen
  · intro hscreen
    exact ⟨_, hscreen, if_pos rfl⟩

@[simp] theorem values?_setValues : (s.setValues values).values? = some values := rfl

theorem ok_values (h : s.Inv m) (hv : s.values? = some values) : ∀ r ∈ m.dateRanges, RangeOk r values :=
  fun r hr => h.screen r hr _ (values?_eq_some.mp hv)

theorem inv_setValues (h : s.Inv m) (hok : ∀ r ∈ m.dateRanges, RangeOk r values)
    (hbuilt : ∀ r ∈ m.dateRanges, r.Sound → ∀ first ∈ dateAt values r.fromKey, dateAt s.built r.fromKey = some first) :
    (s.setValues values).Inv m where
  filter := h.filter
  screen r hr screen hscreen := by
    cases hscreen
    exact hok r hr
  built r hr hsound values' hvalues' := by
    cases hvalues'
    exact hbuilt r hr hsound
  times := h.times

/-- A rebuild brings the second picker up to date. -/
theorem inv_rebuilt (h : s.Inv m) (hok : ∀ r ∈ m.dateRanges, RangeOk r values) : (s.rebuilt values).Inv m where
  filter := h.filter
  screen r hr screen hscreen := by
    cases hscreen
    exact hok r hr
  built r hr _ values' hvalues' first hfirst := by
    cases hvalues'
    exact hfirst
  times := h.times

/-- What is done to the filters of one range leaves those of the others. -/
theorem ok_of_other (hr : r ∈ m.dateRanges) (hall : ∀ r' ∈ m.dateRanges, RangeOk r' d) (hself : RangeOk r d')
    (hother : ∀ r' ∈ m.dateRanges, r' ≠ r → SameDates r' d d') : ∀ r' ∈ m.dateRanges, RangeOk r' d' := by
  intro r' hr'
  by_cases heq : r' = r
  · subst heq
    exact hself
  · exact (hother r' hr' heq).ok (hall r' hr')

theorem other_set {v : Value} (hr : r ∈ m.dateRanges) (hr' : r' ∈ m.dateRanges) (hne : r' ≠ r)
    (hk : k = r.fromKey ∨ k = r.toKey) : SameDates r' d (d.set k v) := by
  obtain ⟨hfrom, hto⟩ := (apart r hr r' hr').resolve_left hne
  rcases hk with rfl | rfl
  · exact sameDates_set hfrom.1 hfrom.2
  · exact sameDates_set hto.1 hto.2

theorem other_remove (hr : r ∈ m.dateRanges) (hr' : r' ∈ m.dateRanges) (hne : r' ≠ r)
    (hk : k = r.fromKey ∨ k = r.toKey) : SameDates r' d (d.remove k) := by
  obtain ⟨hfrom, hto⟩ := (apart r hr r' hr').resolve_left hne
  rcases hk with rfl | rfl
  · exact sameDates_remove hfrom.1 hfrom.2
  · exact sameDates_remove hto.1 hto.2

/-! ### The first date -/

/-- What the handler of the first date may do. -/
theorem fromChanged_cases (r : DateRange) (value : String) (s : FilterDates) (values : Doc) :
    let d := values.set r.fromKey (.str value)
    (s.fromChanged r value values = s.rebuilt d ∧ (Doc.at d r.checkKey = .null ∨
      ∃ second first, dateAt d r.checkKey = some second ∧ parse value = some first ∧ first.micros ≤ second.micros)) ∨
    s.fromChanged r value values = s.rebuilt (d.remove r.checkKey) ∨
    s.fromChanged r value values = s.setValues d ∧ Doc.at d r.checkKey ≠ .null ∧
      (dateAt d r.checkKey = none ∨ parse value = none) := by
  intro d
  unfold fromChanged
  dsimp only
  split
  · next hnull => exact .inl ⟨rfl, .inl hnull⟩
  · next check hcheck =>
    split
    · next second first hsecond hfirst =>
      split
      · exact .inr (.inl rfl)
      · next hlt => exact .inl ⟨rfl, .inr ⟨second, first, hsecond, hfirst, Int.not_lt.mp hlt⟩⟩
    · next hnone =>
      refine .inr (.inr ⟨rfl, fun hnull => hcheck hnull, ?_⟩)
      cases hsecond : dateAt d r.checkKey with
      | none => exact .inl rfl
      | some second =>
        cases hfirst : parse value with
        | none => exact .inr rfl
        | some first => exact absurd hfirst (hnone second first hsecond)

/-- The second date is not before the text of the first. -/
def FitsFirst (r : DateRange) (values : Doc) (text : String) : Prop :=
  ∀ first ∈ parse text, ∀ second ∈ dateAt values r.toKey, first.micros ≤ second.micros

/-- The first date is not after the text of the second. -/
def FitsSecond (r : DateRange) (values : Doc) (text : String) : Prop :=
  ∀ first ∈ dateAt values r.fromKey, ∀ second ∈ parse text, first.micros ≤ second.micros

theorem ordered_set_from (hr : r ∈ m.dateRanges) :
    Ordered r (values.set r.fromKey (.str value)) ↔ FitsFirst r values value := by
  rw [Ordered, FitsFirst, dateAt_set_self, dateAt_set_ne (from_ne_to r hr)]

theorem ordered_set_to (hr : r ∈ m.dateRanges) :
    Ordered r (values.set r.toKey (.str value)) ↔ FitsSecond r values value := by
  rw [Ordered, FitsSecond, dateAt_set_self, dateAt_set_ne (from_ne_to r hr).symm]

/-- A date that is no text of a date is in order with any other. -/
theorem fitsFirst_of_none (h : dateAt values r.toKey = none ∨ parse value = none) : FitsFirst r values value := by
  intro first hfirst second hsecond
  rcases h with h | h
  · rw [h] at hsecond
    cases hsecond
  · rw [h] at hfirst
    cases hfirst

theorem inv_fromChanged (h : s.Inv m) (hr : r ∈ m.dateRanges) (hv : s.values? = some values)
    (hdate : r.Sound → ∃ date : Date, value = date.iso) (hfits : r.checkKey ≠ r.toKey → FitsFirst r values value) :
    (s.fromChanged r value values).Inv m := by
  have hvalues := ok_values h hv
  have hother : ∀ r' ∈ m.dateRanges, r' ≠ r → SameDates r' values (values.set r.fromKey (.str value)) :=
    fun r' hr' hne => other_set hr hr' hne (.inl rfl)
  have hdated (hsound : r.Sound) : Dated r (values.set r.fromKey (.str value)) := by
    obtain ⟨date, rfl⟩ := hdate hsound
    exact dated_set ((hvalues r hr).dated hsound)
  have hset (hfirst : FitsFirst r values value) : ∀ r' ∈ m.dateRanges, RangeOk r' (values.set r.fromKey (.str value)) :=
    ok_of_other hr hvalues ⟨(ordered_set_from hr).mpr hfirst, hdated⟩ hother
  have hto : dateAt (values.set r.fromKey (.str value)) r.toKey = dateAt values r.toKey := dateAt_set_ne (from_ne_to r hr)
  rcases fromChanged_cases r value s values with ⟨heq, hcheck⟩ | heq | ⟨heq, hnull, hnone⟩
  · rw [heq]
    refine inv_rebuilt h (hset ?_)
    by_cases hkey : r.checkKey = r.toKey
    · rw [hkey, hto] at hcheck
      rcases hcheck with hnull | ⟨second, first, hsecond, hfirst, hle⟩
      · exact fitsFirst_of_none (.inl (hto.symm.trans (dateAt_of_null hnull)))
      · intro first' hfirst' second' hsecond'
        cases hfirst.symm.trans hfirst'
        cases hsecond.symm.trans hsecond'
        exact hle
    · exact hfits hkey
  · rw [heq]
    refine inv_rebuilt h ?_
    by_cases hkey : r.checkKey = r.toKey
    · rw [hkey]
      refine ok_of_other hr hvalues (rangeOk_remove (.inr rfl) hdated) fun r' hr' hne => ?_
      obtain ⟨hfrom, hto'⟩ := hother r' hr' hne
      obtain ⟨hfrom', hto''⟩ := other_remove (d := values.set r.fromKey (.str value)) hr hr' hne (.inr rfl)
      exact ⟨hfrom'.trans hfrom, hto''.trans hto'⟩
    · have hkeys := (check_key r hr).resolve_left hkey
      intro r' hr'
      obtain ⟨hfrom, hto'⟩ := mem_dateKeys hr'
      have hsame : SameDates r' (values.set r.fromKey (.str value)) ((values.set r.fromKey (.str value)).remove r.checkKey) :=
        sameDates_remove (fun heq => hkeys (heq ▸ hfrom)) fun heq => hkeys (heq ▸ hto')
      exact hsame.ok (hset (hfits hkey) r' hr')
  · rw [heq]
    have hfirst : FitsFirst r values value := by
      by_cases hkey : r.checkKey = r.toKey
      · rw [hkey, hto] at hnone
        exact fitsFirst_of_none hnone
      · exact hfits hkey
    refine inv_setValues h (hset hfirst) fun r' hr' hsound' first hfirst' => ?_
    by_cases heq' : r' = r
    · -- the dates of a sound range are dates, so that its handler does not throw
      subst heq'
      obtain ⟨date, rfl⟩ := hdate hsound'
      have hvalid := (hvalues r' hr').dated hsound' r'.toKey (List.mem_cons_of_mem _ List.mem_cons_self)
      rw [hsound'.check, Doc.at_set_ne _ _ (from_ne_to r' hr')] at hnull
      obtain ⟨date', hdate'⟩ := hvalid.resolve_left hnull
      have hparse : dateAt values r'.toKey = some ⟨micros date'.dayNumber 0 0 0 0, false⟩ :=
        (dateAt_of_str hdate').trans parse_iso
      rw [hsound'.check, hto, hparse, parse_iso] at hnone
      rcases hnone with hnone | hnone <;> cases hnone
    · have hsame := (hother r' hr' heq').1
      rw [dateAt, hsame] at hfirst'
      exact h.built r' hr' hsound' values hv first hfirst'

/-! ### The second date -/

theorem midnight_le {a b : Date} (h : micros a.dayNumber 0 0 0 0 / 86400000000 ≤ b.dayNumber) :
    micros a.dayNumber 0 0 0 0 ≤ micros b.dayNumber 0 0 0 0 := by
  rw [day_midnight] at h
  simp only [micros]
  omega

/-- A picker that starts at the first date offers no date before it. -/
theorem fitsSecond_of_allows {d : Date} (hr : r.Sound) (hdated : Dated r values)
    (hbuilt : ∀ first ∈ dateAt values r.fromKey, dateAt s.built r.fromKey = some first)
    (hallows : allows r s.built d = true) : FitsSecond r values d.iso := by
  intro first hfirst second hsecond
  cases parse_iso.symm.trans hsecond
  obtain hnull | ⟨date, hdate⟩ := hdated r.fromKey List.mem_cons_self
  · rw [dateAt_of_null hnull] at hfirst
    cases hfirst
  · have hparse : dateAt values r.fromKey = some ⟨micros date.dayNumber 0 0 0 0, false⟩ :=
      (dateAt_of_str hdate).trans parse_iso
    cases hparse.symm.trans hfirst
    have hshown := hbuilt _ hparse
    rw [allows, hr.first] at hallows
    split at hallows
    · next hnull =>
      rw [dateAt_of_null hnull] at hshown
      cases hshown
    · have hday : dateAt s.built r.fromKey = (Doc.at s.built r.fromKey).asString?.bind parse := rfl
      rw [← hday, hshown] at hallows
      exact midnight_le (of_decide_eq_true hallows)

theorem inv_set_to (h : s.Inv m) (hr : r ∈ m.dateRanges) (hv : s.values? = some values)
    (hdate : r.Sound → ∃ date : Date, value = date.iso) (hfits : FitsSecond r values value) :
    (s.rebuilt (values.set r.toKey (.str value))).Inv m := by
  have hvalues := ok_values h hv
  refine inv_rebuilt h (ok_of_other hr hvalues ⟨(ordered_set_to hr).mpr hfits, fun hsound => ?_⟩
    fun r' hr' hne => other_set hr hr' hne (.inr rfl))
  obtain ⟨date, rfl⟩ := hdate hsound
  exact dated_set ((hvalues r hr).dated hsound)

theorem inv_set_from (h : s.Inv m) (hr : r ∈ m.dateRanges) (hv : s.values? = some values)
    (hdate : r.Sound → ∃ date : Date, value = date.iso) (hfits : FitsFirst r values value) :
    (s.rebuilt (values.set r.fromKey (.str value))).Inv m := by
  have hvalues := ok_values h hv
  refine inv_rebuilt h (ok_of_other hr hvalues ⟨(ordered_set_from hr).mpr hfits, fun hsound => ?_⟩
    fun r' hr' hne => other_set hr hr' hne (.inl rfl))
  obtain ⟨date, rfl⟩ := hdate hsound
  exact dated_set ((hvalues r hr).dated hsound)

theorem inv_remove (h : s.Inv m) (hr : r ∈ m.dateRanges) (hv : s.values? = some values)
    (hk : k = r.fromKey ∨ k = r.toKey) : (s.setValues (values.remove k)).Inv m := by
  have hvalues := ok_values h hv
  have hother : ∀ r' ∈ m.dateRanges, r' ≠ r → SameDates r' values (values.remove k) :=
    fun r' hr' hne => other_remove hr hr' hne hk
  refine inv_setValues h (ok_of_other hr hvalues (rangeOk_remove hk (hvalues r hr).dated) hother)
    fun r' hr' hsound first hfirst => h.built r' hr' hsound values hv first ?_
  by_cases heq : r' = r
  · subst heq
    rcases hk with rfl | rfl
    · rw [dateAt_of_null (Doc.at_remove_self values _)] at hfirst
      cases hfirst
    · rwa [dateAt, Doc.at_remove_ne values (from_ne_to r' hr').symm] at hfirst
  · rwa [dateAt, (hother r' hr' heq).1] at hfirst

/-! ### Steps -/

/-- What the two pickers of a range do not check themselves: that the dates they leave are in order. -/
def Guard (s : FilterDates) : FilterDatesEvent → Prop
  | .pickFrom r d => r.checkKey ≠ r.toKey → ∀ values ∈ s.values?, FitsFirst r values (stampText d s.timeFrom)
  | .pickTo r d => ¬ r.Sound → ∀ values ∈ s.values?, FitsSecond r values (stampText d s.timeTo)
  | .pickTimeFrom r now t => ∀ values ∈ s.values?, FitsFirst r values (timeText values r.fromKey now t)
  | .pickTimeTo r now t => ∀ values ∈ s.values?, FitsSecond r values (timeText values r.toKey now t)
  | .screen _ | .rebuild | .clearFrom _ | .clearTo _ => True

theorem onRange_eq_some {f : Doc → FilterDates} (h : s.onRange m r f = some t) :
    r ∈ m.dateRanges ∧ ∃ values, s.values? = some values ∧ f values = t := by
  obtain ⟨hr, h⟩ := Option.ite_none_right_eq_some.mp h
  obtain ⟨values, hv, h⟩ := Option.map_eq_some_iff.mp h
  exact ⟨hr, values, hv, h⟩

/-- Where no picker has a time beside it, the text of a pick is that of its date. -/
theorem stampText_of_sound {d : Date} (h : s.Inv m) (hr : r ∈ m.dateRanges) (hsound : r.Sound) :
    stampText d s.timeFrom = d.iso ∧ stampText d s.timeTo = d.iso := by
  have huntimed : ∀ r' ∈ m.dateRanges, r'.timed = false := fun r' hr' => (timed_eq r hr r' hr').trans hsound.untimed
  obtain ⟨hfrom, hto⟩ := h.times huntimed
  rw [hfrom, hto]
  exact ⟨rfl, rfl⟩

theorem inv_timed {timeFrom timeTo : Option TimeOfDay} (h : s.Inv m) (hr : r ∈ m.dateRanges) (htimed : r.timed = true) :
    ({ s with timeFrom, timeTo } : FilterDates).Inv m where
  filter := h.filter
  screen := h.screen
  built := h.built
  times huntimed := absurd ((huntimed r hr).symm.trans htimed) (by decide)

/-! #### The buttons of the screens and the other filters -/

theorem ok_write {v : Option Value} (hk : k ∉ m.dateKeys) (hall : ∀ r ∈ m.dateRanges, RangeOk r values) :
    ∀ r ∈ m.dateRanges, RangeOk r (FilterScreens.write values k v) := by
  intro r hr
  obtain ⟨hfrom, hto⟩ := mem_dateKeys hr
  have hneFrom : k ≠ r.fromKey := fun heq => hk (heq ▸ hfrom)
  have hneTo : k ≠ r.toKey := fun heq => hk (heq ▸ hto)
  cases v with
  | none => exact (sameDates_remove hneFrom hneTo).ok (hall r hr)
  | some v => exact (sameDates_set hneFrom hneTo).ok (hall r hr)

/-- The filters that are left after a clear have no dates. -/
theorem ok_cleared : ∀ r ∈ m.dateRanges, RangeOk r [("", .str "")] := by
  intro r hr
  obtain ⟨hfrom, hto⟩ := mem_dateKeys hr
  have hnull {k : String} (hk : k ∈ m.dateKeys) : Doc.at [("", .str "")] k = .null := by
    have hne : "" ≠ k := (dateKeys_filter k hk).1.symm
    exact Doc.at_set_ne [] _ hne
  exact rangeOk_of_null (hnull hfrom) (hnull hto)

theorem inv_reopened {screens : FilterScreens} (hfilter : ∀ r ∈ m.dateRanges, RangeOk r screens.filter)
    (hscreen : ∀ r ∈ m.dateRanges, ∀ screen ∈ screens.screen, RangeOk r screen.2) : (reopened screens).Inv m where
  filter := hfilter
  screen := hscreen
  built r _ _ values hvalues first hfirst := by
    have hopen : screens.screen = some (.filter, values) := values?_eq_some.mp hvalues
    have hbuilt : (reopened screens).built = values := by
      rw [reopened, hopen]
      rfl
    rw [hbuilt]
    exact hfirst
  times _ := ⟨rfl, rfl⟩

theorem inv_screen {kind : FilterScreenKind} (h : s.Inv m) (hok : ∀ r ∈ m.dateRanges, RangeOk r values)
    (hbuilt : kind = .filter → ∀ r ∈ m.dateRanges, r.Sound → ∀ first ∈ dateAt values r.fromKey,
      dateAt s.built r.fromKey = some first) :
    ({ s with screens := { s.screens with screen := some (kind, values) } } : FilterDates).Inv m := by
  cases kind with
  | filter => exact inv_setValues h hok (hbuilt rfl)
  | sorting => exact ⟨h.filter, fun r hr screen hscreen => by cases hscreen; exact hok r hr, nofun, h.times⟩

/-- With no screen open only the filters of the list count. -/
theorem inv_of_closed (hscreen : s.screens.screen = none) (hfilter : ∀ r ∈ m.dateRanges, RangeOk r s.screens.filter)
    (htimes : (∀ r ∈ m.dateRanges, r.timed = false) → s.timeFrom = none ∧ s.timeTo = none) : s.Inv m := by
  have hvalues : s.values? = none := by rw [values?, hscreen, Option.bind_none]
  refine ⟨hfilter, fun r _ screen hmem => ?_, fun r _ _ values hmem => ?_, htimes⟩
  · rw [hscreen] at hmem
    cases hmem
  · rw [hvalues] at hmem
    cases hmem

theorem inv_screenStep {e : FilterScreenEvent} (h : s.Inv m) (ht : s.screenStep m e = some t) : t.Inv m := by
  have hopen (kind : FilterScreenKind) {filter : Doc} (hfilter : ∀ r ∈ m.dateRanges, RangeOk r filter) :
      (reopened { filter, screen := some (kind, filter) }).Inv m :=
    inv_reopened hfilter fun r hr screen hscreen => by cases hscreen; exact hfilter r hr
  cases e with
  | «open» kind =>
    obtain ⟨screens, hstep, rfl⟩ := Option.map_eq_some_iff.mp ht
    obtain ⟨-, hstep⟩ := Option.ite_none_right_eq_some.mp hstep
    cases hstep
    exact hopen kind h.filter
  | clear =>
    obtain ⟨screens, hstep, rfl⟩ := Option.map_eq_some_iff.mp ht
    obtain ⟨screen, -, rfl⟩ := Option.map_eq_some_iff.mp hstep
    exact hopen screen.1 ok_cleared
  | edit key value =>
    obtain ⟨hkey, ht⟩ := Option.ite_none_left_eq_some.mp ht
    obtain ⟨screens, hstep, rfl⟩ := Option.map_eq_some_iff.mp ht
    rw [FilterScreens.step] at hstep
    split at hstep
    · next values hscreen =>
      cases hstep
      have hv : s.values? = some values := values?_eq_some.mpr hscreen
      refine inv_screen h (ok_write hkey (ok_values h hv)) fun _ r hr hsound first hfirst => ?_
      refine h.built r hr hsound values hv first ?_
      have hne : key.1 ≠ r.fromKey := fun heq => hkey (heq ▸ (mem_dateKeys hr).1)
      cases value with
      | none => rwa [FilterScreens.write, dateAt, Doc.at_remove_ne values hne] at hfirst
      | some v => rwa [FilterScreens.write, dateAt_set_ne hne] at hfirst
    · cases hstep
  | sortField value =>
    obtain ⟨screens, hstep, rfl⟩ := Option.map_eq_some_iff.mp ht
    rw [FilterScreens.step] at hstep
    split at hstep
    · next values hscreen =>
      cases hstep
      have hkey : "sort_field" ∉ m.dateKeys := fun hk => (dateKeys_filter _ hk).2 (by decide)
      exact inv_screen h (ok_write hkey fun r hr => h.screen r hr _ hscreen) fun hkind => by cases hkind
    · cases hstep
  | sortType value =>
    obtain ⟨screens, hstep, rfl⟩ := Option.map_eq_some_iff.mp ht
    rw [FilterScreens.step] at hstep
    split at hstep
    · next values hscreen =>
      cases hstep
      have hkey : "sort_type" ∉ m.dateKeys := fun hk => (dateKeys_filter _ hk).2 (by decide)
      exact inv_screen h (ok_write hkey fun r hr => h.screen r hr _ hscreen) fun hkind => by cases hkind
    · cases hstep
  | apply =>
    obtain ⟨screens, hstep, rfl⟩ := Option.map_eq_some_iff.mp ht
    obtain ⟨screen, hscreen, rfl⟩ := Option.map_eq_some_iff.mp hstep
    exact inv_of_closed rfl (fun r hr => h.screen r hr screen hscreen) h.times
  | back =>
    obtain ⟨screens, hstep, rfl⟩ := Option.map_eq_some_iff.mp ht
    obtain ⟨screen, -, rfl⟩ := Option.map_eq_some_iff.mp hstep
    exact inv_of_closed rfl h.filter h.times

/-! ### Runs -/

theorem inv_step (h : s.Inv m) (ht : s.step m e = some t) (hg : Guard s e) : t.Inv m := by
  cases e with
  | screen e => exact inv_screenStep h ht
  | rebuild =>
    obtain ⟨values, hv, rfl⟩ := Option.map_eq_some_iff.mp ht
    exact inv_rebuilt h (ok_values h hv)
  | pickFrom r d =>
    obtain ⟨hr, values, hv, rfl⟩ := onRange_eq_some ht
    refine inv_fromChanged h hr hv (fun hsound => ⟨d, (stampText_of_sound h hr hsound).1⟩) fun hkey => ?_
    exact hg hkey values hv
  | pickTo r d =>
    obtain ⟨hallows, ht⟩ := Option.ite_none_right_eq_some.mp ht
    obtain ⟨hr, values, hv, rfl⟩ := onRange_eq_some ht
    refine inv_set_to h hr hv (fun hsound => ⟨d, (stampText_of_sound h hr hsound).2⟩) ?_
    by_cases hsound : r.Sound
    · rw [(stampText_of_sound h hr hsound).2]
      exact fitsSecond_of_allows hsound ((ok_values h hv r hr).dated hsound) (h.built r hr hsound values hv) hallows
    · exact hg hsound values hv
  | pickTimeFrom r now time =>
    obtain ⟨htimed, ht⟩ := Option.ite_none_right_eq_some.mp ht
    obtain ⟨hr, values, hv, rfl⟩ := onRange_eq_some ht
    refine inv_set_from (inv_timed h hr htimed) hr hv (fun hsound => ?_) (hg values hv)
    exact absurd (htimed.symm.trans hsound.untimed) (by decide)
  | pickTimeTo r now time =>
    obtain ⟨htimed, ht⟩ := Option.ite_none_right_eq_some.mp ht
    obtain ⟨hr, values, hv, rfl⟩ := onRange_eq_some ht
    refine inv_set_to (inv_timed h hr htimed) hr hv (fun hsound => ?_) (hg values hv)
    exact absurd (htimed.symm.trans hsound.untimed) (by decide)
  | clearFrom r =>
    obtain ⟨hr, values, hv, rfl⟩ := onRange_eq_some ht
    exact inv_remove h hr hv (.inl rfl)
  | clearTo r =>
    obtain ⟨hr, values, hv, rfl⟩ := onRange_eq_some ht
    exact inv_remove h hr hv (.inr rfl)

theorem ordered_of_setValues (h : (s.setValues values).InOrder m) (hr : r ∈ m.dateRanges) : Ordered r values :=
  (h r hr).2 _ rfl

/-- A pick that leaves the dates in order fits the other date. -/
theorem guard_step (ht : s.step m e = some t) (hord : t.InOrder m) : Guard s e := by
  cases e with
  | pickFrom r d =>
    obtain ⟨hr, values, hv, rfl⟩ := onRange_eq_some ht
    intro hkey values' hv'
    cases hv.symm.trans hv'
    refine (ordered_set_from hr).mp ?_
    rcases fromChanged_cases r (stampText d s.timeFrom) s values with ⟨heq, -⟩ | heq | ⟨heq, -, -⟩
    · rw [heq] at hord
      exact ordered_of_setValues hord hr
    · rw [heq] at hord
      have hkeys := (check_key r hr).resolve_left hkey
      obtain ⟨hfrom, hto⟩ := mem_dateKeys hr
      have hremoved := ordered_of_setValues hord hr
      have hneFrom : r.checkKey ≠ r.fromKey := fun heq => hkeys (heq ▸ hfrom)
      rwa [Ordered, dateAt, dateAt, Doc.at_remove_ne _ hneFrom, Doc.at_remove_ne _ hkey] at hremoved
    · rw [heq] at hord
      exact ordered_of_setValues hord hr
  | pickTo r d =>
    obtain ⟨-, ht⟩ := Option.ite_none_right_eq_some.mp ht
    obtain ⟨hr, values, hv, rfl⟩ := onRange_eq_some ht
    intro _ values' hv'
    cases hv.symm.trans hv'
    exact (ordered_set_to hr).mp (ordered_of_setValues hord hr)
  | pickTimeFrom r now time =>
    obtain ⟨-, ht⟩ := Option.ite_none_right_eq_some.mp ht
    obtain ⟨hr, values, hv, rfl⟩ := onRange_eq_some ht
    intro values' hv'
    cases hv.symm.trans hv'
    exact (ordered_set_from hr).mp ((hord r hr).2 _ rfl)
  | pickTimeTo r now time =>
    obtain ⟨-, ht⟩ := Option.ite_none_right_eq_some.mp ht
    obtain ⟨hr, values, hv, rfl⟩ := onRange_eq_some ht
    intro values' hv'
    cases hv.symm.trans hv'
    exact (ordered_set_to hr).mp ((hord r hr).2 _ rfl)
  | screen _ | rebuild | clearFrom _ | clearTo _ => trivial

/-- A list that is opened with the filters of a tile: none of them is a date. -/
def start (m : ModuleType) (filters : List { e : FilterKey × Value // e.1.1 ∉ m.dateKeys }) : FilterDates where
  screens := FilterScreens.opened (filters.map Subtype.val)

theorem inv_start (filters : List { e : FilterKey × Value // e.1.1 ∉ m.dateKeys }) : (start m filters).Inv m := by
  have hnull {k : String} (hk : k ∈ m.dateKeys) : Doc.at (start m filters).screens.filter k = .null := by
    obtain ⟨-, hsort⟩ := dateKeys_filter k hk
    have hfield : "sort_field" ≠ k := fun heq => hsort (heq ▸ by decide)
    have htype : "sort_type" ≠ k := fun heq => hsort (heq ▸ by decide)
    have hkeys : k ∉ ((filters.map Subtype.val).map fun e => (e.1.1, e.2)).map Prod.fst := by
      simp only [List.map_map, List.mem_map, not_exists, not_and]
      intro e _ heq
      have hkey : e.1.1.1 = k := heq
      exact e.2 (hkey ▸ hk)
    rw [start, FilterScreens.opened, Doc.at_set_ne _ _ htype, Doc.at_set_ne _ _ hfield, Doc.at,
      Dict.get?_addAll_of_not_mem hkeys]
    rfl
  exact inv_of_closed rfl (fun r hr => rangeOk_of_null (hnull (mem_dateKeys hr).1) (hnull (mem_dateKeys hr).2))
    fun _ => ⟨rfl, rfl⟩

/-- The dates are in order all along a run exactly when each pick that is not checked against the other date fits it:
    both dates of the material requests, the second one of the payments and the check-ins, and the times of the check-ins. -/
theorem inOrder_iff (m : ModuleType) (filters : List { e : FilterKey × Value // e.1.1 ∉ m.dateKeys })
    (es : List FilterDatesEvent) :
    Along (step m) (InOrder m) (start m filters) es ↔ Guarded (step m) Guard (start m filters) es :=
  along_iff_guarded (I := Inv m) (fun _ => inOrder_of_inv) (fun _ _ _ h ht hg => inv_step h ht hg)
    (fun _ _ _ _ ht hord => guard_step ht hord) (inv_start filters)

/-- A module whose pickers compare with each other never asks for dates out of order. -/
theorem inOrder_of_sound (hm : ∀ r ∈ m.dateRanges, r.Sound)
    (filters : List { e : FilterKey × Value // e.1.1 ∉ m.dateKeys }) (es : List FilterDatesEvent) :
    Along (step m) (InOrder m) (start m filters) es := by
  have hstep (s : FilterDates) (e : FilterDatesEvent) (t : FilterDates) (h : s.Inv m) (ht : s.step m e = some t) :
      Guard s e := by
    cases e with
    | pickFrom r d =>
      obtain ⟨hr, -⟩ := onRange_eq_some ht
      exact fun hkey => absurd (hm r hr).check hkey
    | pickTo r d =>
      obtain ⟨-, ht⟩ := Option.ite_none_right_eq_some.mp ht
      obtain ⟨hr, -⟩ := onRange_eq_some ht
      exact fun hsound => absurd (hm r hr) hsound
    | pickTimeFrom r now time =>
      obtain ⟨htimed, ht⟩ := Option.ite_none_right_eq_some.mp ht
      obtain ⟨hr, -⟩ := onRange_eq_some ht
      exact absurd (htimed.symm.trans (hm r hr).untimed) (by decide)
    | pickTimeTo r now time =>
      obtain ⟨htimed, ht⟩ := Option.ite_none_right_eq_some.mp ht
      obtain ⟨hr, -⟩ := onRange_eq_some ht
      exact absurd (htimed.symm.trans (hm r hr).untimed) (by decide)
    | screen _ | rebuild | clearFrom _ | clearTo _ => trivial
  exact (inOrder_iff m filters es).mpr (each_of_invariant (I := Inv m) (fun s e t h ht => inv_step h ht (hstep s e t h ht))
    hstep (inv_start filters))

end FilterDates

end NextApp
