import Mathlib.Data.List.Induction
import NextApp.Model.TimeLog

/-! # What a time log is left with

A field is the date of its last date pick, with a `T` and the time of each time pick since then. -/

namespace NextApp.TimeLog
open DateText TimeLogDialog

/-! ### The picks of one field -/

/-- The picks of the field with the key. -/
def picksOf {dialog : TimeLogDialog} (key : String) (es : List ({key // key ∈ dialog.fields} × TimePick)) : List TimePick :=
  es.filterMap fun e => if e.1.1 = key then some e.2 else none

def dates (ps : List TimePick) : List Date :=
  ps.filterMap fun
    | .date d => some d
    | .time _ => none

def times (ps : List TimePick) : List TimeOfDay :=
  ps.filterMap fun
    | .date _ => none
    | .time t => some t

/-- What the field should be: its last date, with its last time if one was picked. -/
def composed (ps : List TimePick) : Value :=
  match (dates ps).getLast?, (times ps).getLast? with
  | none, _ => .null
  | some d, none => .str d.ymd
  | some d, some t => .str (d.ymd ++ "T" ++ t.text)

/-- No pick throws, and then each field is composed as it should be, and a time that `DateTime.parse` reads when its date
    was picked. -/
def Composes (dialog : TimeLogDialog) (es : List ({key // key ∈ dialog.fields} × TimePick)) : Prop :=
  ∃ data, picks [] es = .done data ∧ ∀ key ∈ dialog.fields,
    data.at key = composed (picksOf key es) ∧
      (dates (picksOf key es) ≠ [] → ∃ text, data.at key = .str text ∧ (parse text).isSome)

/-- No time is picked, or a date is picked first and exactly one time after the last date. -/
def InOrder (ps : List TimePick) : Prop :=
  times ps = [] ∨ (∃ d, ps.head? = some (.date d)) ∧ ∃ qs d t, ps = qs ++ [.date d, .time t]

variable {dialog : TimeLogDialog} {es : List ({key // key ∈ dialog.fields} × TimePick)} {ps : List TimePick}
  {p : TimePick} {d : Date} {t : TimeOfDay} {ts : List TimeOfDay} {data : Doc} {key : String}

/-- The last date with the times since then, none while a time comes first. -/
def enter : Option (Date × List TimeOfDay) → TimePick → Option (Date × List TimeOfDay)
  | _, .date d => some (d, [])
  | v, .time t => v.map fun v => (v.1, v.2 ++ [t])

def entered (ps : List TimePick) : Option (Date × List TimeOfDay) := ps.foldl enter none

def textOf (v : Date × List TimeOfDay) : String := v.2.foldl (fun text t => text ++ "T" ++ t.text) v.1.ymd

def valueOf : Option (Date × List TimeOfDay) → Value
  | none => .null
  | some v => .str (textOf v)

theorem entered_snoc : entered (ps ++ [p]) = enter (entered ps) p := by
  rw [entered, List.foldl_append]
  rfl

theorem textOf_snoc : textOf (d, ts ++ [t]) = textOf (d, ts) ++ "T" ++ t.text := by
  rw [textOf, List.foldl_append]
  rfl

theorem length_textOf : (textOf (d, ts)).length = d.ymd.length + 9 * ts.length := by
  induction ts using List.reverseRecOn with
  | nil =>
    have hnil : textOf (d, []) = d.ymd := rfl
    rw [hnil, List.length_nil, Nat.mul_zero, Nat.add_zero]
  | append_singleton ts t ih =>
    have htime : t.text.length = 8 := by
      rw [TimeOfDay.text, String.length_ofList, List.length_append, List.length_cons, List.length_append,
        length_padLeft (by decide) (lt_trans t.hour_range (by decide : 24 < 10 ^ 2)),
        length_padLeft (by decide) (lt_trans t.minute_range (by decide : 60 < 10 ^ 2))]
      rfl
    have hone : "T".length = 1 := rfl
    rw [textOf_snoc, String.length_append, String.length_append, ih, htime, hone, List.length_append, List.length_singleton]
    omega

/-- The last date is that of the last date pick, and the times are the last of all. -/
theorem entered_some (h : entered ps = some (d, ts)) : (dates ps).getLast? = some d ∧ ts <:+ times ps := by
  induction ps using List.reverseRecOn generalizing d ts with
  | nil => cases h
  | append_singleton ps p ih =>
    rw [entered_snoc] at h
    cases p with
    | date d' =>
      cases h
      exact ⟨by simp [dates], List.nil_suffix⟩
    | time t =>
      obtain ⟨⟨d', ts'⟩, hv, h⟩ := Option.map_eq_some_iff.mp h
      cases h
      obtain ⟨hd, hts⟩ := ih hv
      refine ⟨by simpa [dates] using hd, ?_⟩
      obtain ⟨l, hl⟩ := hts
      rw [times, List.filterMap_append]
      exact ⟨l, by rw [← List.append_assoc, hl]; rfl⟩

/-- A field that a time was picked for since its last date is composed when it was one. -/
theorem valueOf_eq_composed_iff (h : entered ps = some (d, ts)) :
    valueOf (entered ps) = composed ps ↔ times ps = [] ∨ ts.length = 1 := by
  obtain ⟨hdate, hsuffix⟩ := entered_some h
  rw [h, composed, hdate]
  cases hlast : (times ps).getLast? with
  | none =>
    have hnil := List.getLast?_eq_none_iff.mp hlast
    obtain rfl : ts = [] := List.suffix_nil.mp (hnil ▸ hsuffix)
    exact iff_of_true rfl (Or.inl hnil)
  | some t =>
    have hne : times ps ≠ [] := List.ne_nil_of_mem (List.mem_of_getLast? hlast)
    simp only [valueOf, Value.str.injEq, hne, false_or]
    constructor
    · intro heq
      have hlen : (textOf (d, ts)).length = (textOf (d, [t])).length := congrArg String.length heq
      rw [length_textOf, length_textOf, List.length_singleton] at hlen
      omega
    · intro hone
      obtain ⟨t', rfl⟩ := List.length_eq_one_iff.mp hone
      obtain ⟨l, hl⟩ := hsuffix
      rw [← hl, List.getLast?_concat] at hlast
      cases hlast
      rfl

theorem entered_date (h : entered ps = some (d, [])) : ∃ qs, ps = qs ++ [.date d] := by
  rcases List.eq_nil_or_concat' ps with rfl | ⟨qs, p, rfl⟩
  · cases h
  · rw [entered_snoc] at h
    cases p with
    | date d' =>
      cases h
      exact ⟨qs, rfl⟩
    | time t =>
      obtain ⟨⟨d', ts⟩, -, h⟩ := Option.map_eq_some_iff.mp h
      exact absurd (Prod.mk.injEq .. ▸ h).2 (List.append_ne_nil_of_right_ne_nil _ (List.cons_ne_nil _ _))

/-- One time since the last date: the picks end with the two. -/
theorem entered_date_time (h : entered ps = some (d, [t])) : ∃ qs, ps = qs ++ [.date d, .time t] := by
  rcases List.eq_nil_or_concat' ps with rfl | ⟨qs, p, rfl⟩
  · cases h
  · rw [entered_snoc] at h
    cases p with
    | date d' => cases h
    | time t' =>
      obtain ⟨⟨d', ts⟩, hv, h⟩ := Option.map_eq_some_iff.mp h
      obtain ⟨rfl, hts⟩ := Prod.mk.inj h
      have hts' : ts ++ [t'] = [] ++ [t] := hts
      obtain ⟨rfl, ht⟩ := List.append_inj' hts' rfl
      cases ht
      obtain ⟨qs', rfl⟩ := entered_date hv
      exact ⟨qs', by simp⟩

/-- No time is picked before a date. -/
def Starts (ps : List TimePick) : Prop := ∀ t, ps.head? ≠ some (.time t)

theorem starts_of_inOrder (h : InOrder ps) : Starts ps := by
  intro t ht
  rcases h with hnil | ⟨⟨d, hd⟩, -⟩
  · cases ps with
    | nil => cases ht
    | cons p ps =>
      cases ht
      cases hnil
  · rw [hd] at ht
    cases ht

theorem Starts.of_snoc (hs : Starts (ps ++ [p])) : Starts ps := by
  intro t ht
  refine hs t ?_
  rw [List.head?_append, ht]
  rfl

theorem nil_of_entered (hs : Starts ps) (h : entered ps = none) : ps = [] := by
  induction ps using List.reverseRecOn with
  | nil => rfl
  | append_singleton ps p ih =>
    rw [entered_snoc] at h
    cases p with
    | date d => cases h
    | time t =>
      obtain rfl := ih hs.of_snoc (Option.map_eq_none_iff.mp h)
      exact absurd rfl (hs t)

theorem composed_iff (hs : Starts ps) : valueOf (entered ps) = composed ps ↔ InOrder ps := by
  cases h : entered ps with
  | none =>
    obtain rfl := nil_of_entered hs h
    exact iff_of_true rfl (Or.inl rfl)
  | some v =>
    obtain ⟨d, ts⟩ := v
    rw [← h, valueOf_eq_composed_iff h]
    refine or_congr_right ⟨fun hone => ?_, ?_⟩
    · obtain ⟨t, rfl⟩ := List.length_eq_one_iff.mp hone
      obtain ⟨qs, rfl⟩ := entered_date_time h
      refine ⟨?_, qs, d, t, rfl⟩
      cases hhead : (qs ++ [TimePick.date d, .time t]).head? with
      | none => simp at hhead
      | some p =>
        cases p with
        | date d' => exact ⟨d', rfl⟩
        | time t' => exact absurd hhead (hs t')
    · rintro ⟨-, qs, d', t, rfl⟩
      have hlast : entered (qs ++ [.date d', .time t]) = some (d', [t]) := by
        rw [entered, List.foldl_append]
        rfl
      cases hlast.symm.trans h
      rfl

/-! ### The picks of a dialog -/

theorem pick_date (key : String) (data : Doc) (d : Date) : pick key data (.date d) = .done (data.set key (.str d.ymd)) := by
  simp only [pick, dateChanged, formateToReadableDate, parse_iso, Option.map_some, formatDate_midnight, Outcome.need_some]

theorem pick_done {v : Option (Date × List TimeOfDay)} (hdata : data.at key = valueOf v) (hp : enter v p ≠ none) :
    pick key data p = .done (data.set key (valueOf (enter v p))) := by
  cases p with
  | date d =>
    rw [pick_date]
    rfl
  | time t =>
    cases v with
    | none => exact absurd rfl hp
    | some v =>
      rw [pick, timeChanged, hdata]
      simp only [valueOf, Value.asString?_str, Outcome.need_some, enter, Option.map_some, textOf_snoc]

theorem pick_threw (hdata : data.at key = .null) : pick key data (.time t) = .threw data := by
  rw [pick, timeChanged, hdata]
  rfl

theorem picksOf_snoc_self {e : {key // key ∈ dialog.fields} × TimePick} :
    picksOf e.1 (es ++ [e]) = picksOf e.1 es ++ [e.2] := by
  simp [picksOf]

theorem picksOf_snoc_ne {e : {key // key ∈ dialog.fields} × TimePick} (h : e.1.1 ≠ key) :
    picksOf key (es ++ [e]) = picksOf key es := by
  simp [picksOf, h]

theorem picks_snoc {e : {key // key ∈ dialog.fields} × TimePick} :
    picks data (es ++ [e]) = (picks data es).bind fun data => pick e.1 data e.2 := by
  rw [picks, List.foldl_append]
  rfl

/-- When each field starts with a date no pick throws, and each field is what was entered there. -/
theorem picks_of_starts (hs : ∀ key, Starts (picksOf key es)) :
    ∃ data, picks [] es = .done data ∧ ∀ key, data.at key = valueOf (entered (picksOf key es)) := by
  induction es using List.reverseRecOn with
  | nil => exact ⟨[], rfl, fun _ => rfl⟩
  | append_singleton es e ih =>
    have hs' : ∀ key, Starts (picksOf key es) := by
      intro key
      by_cases hkey : e.1.1 = key
      · subst hkey
        exact (picksOf_snoc_self ▸ hs e.1.1).of_snoc
      · exact picksOf_snoc_ne hkey ▸ hs key
    obtain ⟨data, hdata, hvalue⟩ := ih hs'
    have henter : enter (entered (picksOf e.1 es)) e.2 ≠ none := by
      intro hnone
      rw [← entered_snoc, ← picksOf_snoc_self] at hnone
      have := nil_of_entered (hs e.1.1) hnone
      rw [picksOf_snoc_self] at this
      exact List.append_ne_nil_of_right_ne_nil _ (List.cons_ne_nil _ _) this
    refine ⟨data.set e.1 (valueOf (enter (entered (picksOf e.1 es)) e.2)), ?_, fun key => ?_⟩
    · rw [picks_snoc, hdata]
      exact pick_done (hvalue e.1) henter
    · by_cases hkey : e.1.1 = key
      · subst hkey
        rw [Doc.at_set_self, picksOf_snoc_self, entered_snoc]
      · rw [Doc.at_set_ne _ _ hkey, hvalue, picksOf_snoc_ne hkey]

/-- A pick of a time where no date is throws. -/
theorem starts_of_picks (h : picks [] es = .done data) : ∀ key, Starts (picksOf key es) := by
  induction es using List.reverseRecOn generalizing data with
  | nil =>
    intro key t ht
    cases ht
  | append_singleton es e ih =>
    rw [picks_snoc] at h
    cases hes : picks [] es with
    | threw data' =>
      rw [hes] at h
      cases h
    | done data' =>
      have hs := ih hes
      obtain ⟨_, hdata, hvalue⟩ := picks_of_starts hs
      cases hdata.symm.trans hes
      intro key t ht
      by_cases hkey : e.1.1 = key
      · subst hkey
        rw [picksOf_snoc_self, List.head?_append] at ht
        cases hhead : (picksOf e.1.1 es).head? with
        | some p =>
          rw [hhead] at ht
          exact hs e.1.1 t (hhead.trans ht)
        | none =>
          rw [hhead] at ht
          have hnone : data'.at e.1.1 = .null := by
            rw [hvalue, List.head?_eq_none_iff.mp hhead]
            rfl
          rw [hes, Outcome.bind_done, Option.some.inj ht, pick_threw hnone] at h
          cases h
      · exact hs key t (picksOf_snoc_ne hkey ▸ ht)

theorem isSome_parse_composed (h : dates ps ≠ []) : ∃ text, composed ps = .str text ∧ (parse text).isSome := by
  rw [composed, List.getLast?_eq_some_getLast h]
  cases (times ps).getLast? with
  | none => exact ⟨_, rfl, by rw [parse_ymd]; rfl⟩
  | some t => exact ⟨_, rfl, by rw [parse_clock]; rfl⟩

theorem picksOf_of_not_mem (h : key ∉ dialog.fields) : picksOf key es = [] :=
  List.filterMap_eq_nil_iff.mpr fun e _ => if_neg fun he : e.1.1 = key => h (he ▸ e.1.2)

/-- In each of the two dialogs every sequence of picks composes its fields exactly when on each field no time is picked, or
    the first pick is a date and one time is picked after the last date. -/
theorem composes_iff (dialog : TimeLogDialog) (es : List ({key // key ∈ dialog.fields} × TimePick)) :
    Composes dialog es ↔ ∀ key ∈ dialog.fields, InOrder (picksOf key es) := by
  constructor
  · rintro ⟨data, hdata, hfields⟩ key hkey
    have hs := starts_of_picks hdata
    obtain ⟨_, hdata', hvalue⟩ := picks_of_starts hs
    cases hdata.symm.trans hdata'
    exact (composed_iff (hs key)).mp ((hvalue key).symm.trans (hfields key hkey).1)
  · intro horder
    have hs : ∀ key, Starts (picksOf key es) := by
      intro key
      by_cases hkey : key ∈ dialog.fields
      · exact starts_of_inOrder (horder key hkey)
      · rw [picksOf_of_not_mem hkey]
        intro t ht
        cases ht
    obtain ⟨data, hdata, hvalue⟩ := picks_of_starts hs
    refine ⟨data, hdata, fun key hkey => ?_⟩
    have hcomposed : data.at key = composed (picksOf key es) :=
      (hvalue key).trans ((composed_iff (hs key)).mpr (horder key hkey))
    exact ⟨hcomposed, fun hdates => hcomposed ▸ isSome_parse_composed hdates⟩

/-- A time that is corrected is appended to the first. -/
theorem time_picked_twice :
    let date : Date := ⟨2024, 3, 1, by decide, by decide, by decide⟩
    ¬ Composes addTimeSheetDialog [(⟨"from_time", by decide⟩, .date date),
      (⟨"from_time", by decide⟩, .time ⟨10, 0, by decide, by decide⟩),
      (⟨"from_time", by decide⟩, .time ⟨11, 0, by decide, by decide⟩)] := by
  rintro date ⟨data, hdata, hfields⟩
  obtain ⟨hcomposed, -⟩ := hfields "from_time" (by decide)
  have htwice : Outcome.done data = .done [("from_time", .str "2024-03-01T10:00:00T11:00:00")] :=
    hdata.symm.trans (by decide +kernel)
  cases htwice
  exact absurd hcomposed (by decide +kernel)

end NextApp.TimeLog
