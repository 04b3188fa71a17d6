import NextApp.Model.PickerField

/-! # What the pickers show

A run of either picker is right as long as it is given values that its texts are made of. The update of the time picker has
no case for a bare time, which is what the picker itself passes on. -/

namespace NextApp
open DateText Runs

/-! ### Numbers of digits -/

section
variable {ds : List Char} {c : Char} {n width : Nat}

theorem takeSign_digits (hds : ∀ c ∈ ds, c.isDigit) : takeSign ds = (false, ds) := by
  unfold takeSign
  split
  · exact absurd (hds '-' List.mem_cons_self) (by decide)
  · exact absurd (hds '+' List.mem_cons_self) (by decide)
  · rfl

theorem intOfText_digits (hds : ∀ c ∈ ds, c.isDigit) (hne : ds ≠ []) (hlt : Nat.ofDigitChars 10 ds 0 < 2 ^ 63) :
    intOfText (String.ofList ds) = some (Nat.ofDigitChars 10 ds 0 : Int) := by
  have htake : takeDigits 0 0 (ds ++ []) = (Nat.ofDigitChars 10 ds 0, 0 + ds.length, []) :=
    takeDigits_append hds (fun c hc => by cases hc)
  rw [List.append_nil, Nat.zero_add] at htake
  obtain ⟨k, hk⟩ := Nat.exists_eq_add_one_of_ne_zero (List.length_pos_iff.mpr hne).ne'
  have htext : integerText? (String.ofList ds) = some ⟨false, false, Nat.ofDigitChars 10 ds 0⟩ := by
    rw [integerText?, trim_ofList fun c hc => not_isBlank_of_isDigit (hds c hc), takeSign_digits hds]
    dsimp only
    split
    · exact absurd (hds 'x' (by simp)) (by decide)
    · exact absurd (hds 'X' (by simp)) (by decide)
    · rw [htake, hk]
  have hrange : (⟨false, false, Nat.ofDigitChars 10 ds 0⟩ : IntegerText).InRange := by
    simp only [IntegerText.InRange, IntegerText.value, Bool.false_eq_true, if_false]
    omega
  rw [intOfText, htext, Option.bind_some, IntegerText.toInt64?, if_pos hrange]
  rfl

theorem intOfText_padLeft (hw : 0 < width) (hn : n < 10 ^ width) (hlt : n < 2 ^ 63) :
    intOfText (String.ofList (padLeft width n)) = some (n : Int) := by
  have hne : padLeft width n ≠ [] := by
    have hlen := length_padLeft hw hn
    intro hnil
    rw [hnil, List.length_nil] at hlen
    exact hw.ne hlen
  rw [intOfText_digits (fun c hc => isDigit_padLeft hc) hne (by rw [ofDigitChars_padLeft]; exact hlt), ofDigitChars_padLeft]

theorem intText_eq (n : Nat) : intText n = Nat.toDigits 10 n := by
  have hsign : decide ((n : Int) < 0) = false := decide_eq_false (by omega)
  rw [intText, hsign, Int.natAbs_natCast]
  simp [decimal]

theorem isDigit_intText (hc : c ∈ intText n) : c.isDigit := by
  rw [intText_eq] at hc
  exact Nat.isDigit_of_mem_toDigits (by decide) (by decide) hc

theorem intOfText_intText (hlt : n < 2 ^ 63) : intOfText (String.ofList (intText n)) = some (n : Int) := by
  have hvalue : Nat.ofDigitChars 10 (intText n) 0 = n := by rw [intText_eq, Nat.ofDigitChars_ten_toDigits]
  have hne : intText n ≠ [] := by
    rw [intText_eq]
    exact Nat.toDigits_ne_nil
  rw [intOfText_digits (fun c hc => isDigit_intText hc) hne (by rw [hvalue]; exact hlt), hvalue]

end

/-! ### The parts of a text -/

section
variable {sep : Char} {a rest : List Char} {i : Nat}

theorem part?_zero (h : sep ∉ a) : part? sep 0 (String.ofList (a ++ sep :: rest)) = some (String.ofList a) := by
  rw [part?, String.toList_ofList, List.splitOn_append_cons_self_of_not_mem h]
  rfl

theorem part?_succ (h : sep ∉ a) : part? sep (i + 1) (String.ofList (a ++ sep :: rest)) = part? sep i (String.ofList rest) := by
  rw [part?, part?, String.toList_ofList, String.toList_ofList, List.splitOn_append_cons_self_of_not_mem h, List.map_cons,
    List.getElem?_cons_succ]

theorem part?_last (h : sep ∉ a) : part? sep 0 (String.ofList a) = some (String.ofList a) := by
  rw [part?, String.toList_ofList, List.splitOn_eq_singleton h]
  rfl

theorem part?_eq_none (h : sep ∉ a) : part? sep 1 (String.ofList a) = none := by
  rw [part?, String.toList_ofList, List.splitOn_eq_singleton h]
  rfl

end

/-! ### The characters of a value -/

section
variable {d : Date} {k : Clock} {c : Char}

theorem mem_ymd (h : c ∈ d.ymd.toList) : c.isDigit ∨ c = '-' := by
  simp only [Date.ymd, String.toList_ofList, List.mem_append, List.mem_cons] at h
  rcases h with h | h | h | h | h
  · exact .inl (isDigit_padLeft h)
  · exact .inr h
  · exact .inl (isDigit_padLeft h)
  · exact .inr h
  · exact .inl (isDigit_padLeft h)

theorem mem_clock (h : c ∈ k.text.toList) : c.isDigit ∨ c = ':' ∨ c = '.' := by
  simp only [Clock.text, String.toList_ofList, List.mem_append, List.mem_cons] at h
  rcases h with h | h | h | h | h | h
  · exact .inl (isDigit_padLeft h)
  · exact .inr (.inl h)
  · exact .inl (isDigit_padLeft h)
  · exact .inr (.inl h)
  · exact .inl (isDigit_padLeft h)
  · split at h
    · cases h
    · rcases List.mem_cons.mp h with h | h
      · exact .inr (.inr h)
      · exact .inl (k.fraction_digits c h)

theorem not_mem_ymd (hdigit : c.isDigit = false) (hdash : c ≠ '-') : c ∉ d.ymd.toList := fun h =>
  (mem_ymd h).elim (fun h => absurd h (ne_true_of_eq_false hdigit)) hdash

theorem not_mem_clock (hdigit : c.isDigit = false) (hcolon : c ≠ ':') (hpoint : c ≠ '.') : c ∉ k.text.toList := fun h =>
  (mem_clock h).elim (fun h => absurd h (ne_true_of_eq_false hdigit)) fun h => h.elim hcolon hpoint

theorem not_mem_padLeft {width n : Nat} (hdigit : c.isDigit = false) : c ∉ padLeft width n := fun h =>
  absurd (isDigit_padLeft h) (ne_true_of_eq_false hdigit)

/-- What stands between the date and the time of a value is in neither of them. -/
def separators : List Char := ['T', ' ']

theorem separator_ne (h : c ∈ separators) : c.isDigit = false ∧ c ≠ '-' ∧ c ≠ ':' ∧ c ≠ '.' := by
  rcases List.mem_cons.mp h with rfl | h
  · simp
  · rw [List.mem_singleton.mp h]
    simp

theorem separator_not_mem_ymd (d : Date) (h : c ∈ separators) : c ∉ d.ymd.toList :=
  not_mem_ymd (separator_ne h).1 (separator_ne h).2.1

theorem separator_not_mem_clock (k : Clock) (h : c ∈ separators) : c ∉ k.text.toList :=
  not_mem_clock (separator_ne h).1 (separator_ne h).2.2.1 (separator_ne h).2.2.2

theorem mem_separators : 'T' ∈ separators ∧ ' ' ∈ separators := by simp [separators]

theorem mark_not_mem_dateTime (d : Date) (k : Clock) : 'T' ∉ (d.ymd ++ " " ++ k.text).toList := by
  simp [separator_not_mem_ymd d mem_separators.1, separator_not_mem_clock k mem_separators.1]

end

/-! ### What the date picker shows -/

namespace DatePickerTest
variable {d : Date} {k : Clock} {t : DateTime} {utc : Bool}

def fields (d : Date) : Int × Int × Int := (d.year, d.month, d.day)

theorem readDay_formatDate (h : t.micros / 86400000000 = d.dayNumber) : readDay (ListCard.formatDate t) = some (fields d) := by
  have hyear : d.year < 2 ^ 63 := lt_trans d.year_lt (by decide)
  have hmonth : d.month < 2 ^ 63 := lt_trans d.month_lt (by decide)
  have hday : d.day < 2 ^ 63 := lt_trans d.day_lt (by decide)
  have hslash : ∀ {n : Nat}, '/' ∉ intText n := fun h => absurd (isDigit_intText h) (by decide)
  simp only [ListCard.formatDate, h, civil_dayNumber, readDay, part?_zero hslash, part?_succ (i := 0) hslash,
    part?_succ (i := 1) hslash, part?_last hslash, Option.bind_some, intOfText_intText hyear, intOfText_intText hmonth,
    intOfText_intText hday, Option.map_some, fields]

/-- What the update tests besides is never met. -/
theorem update_eq_initState : update = initState := by
  funext value
  cases value with
  | none => rfl
  | some value =>
    simp only [update, initState]
    split_ifs with hT hempty
    · rw [String.isEmpty_iff.mp hempty] at hT
      cases hT
    · rfl
    · rfl
    · rfl

theorem initState_ymd : ∃ text, initState (some d.ymd) = some text ∧ readDay text = some (fields d) := by
  have hT := separator_not_mem_ymd d mem_separators.1
  have hblank := separator_not_mem_ymd d mem_separators.2
  refine ⟨_, ?_, readDay_formatDate (t := ⟨micros d.dayNumber 0 0 0 0, false⟩) (day_midnight d)⟩
  rw [initState, if_neg hT, if_neg hblank, parse_ymd, Option.map_some]

theorem initState_iso :
    ∃ text, initState (PickerValue.iso d k utc).text = some text ∧ readDay text = some (fields d) := by
  obtain ⟨t, hparse, hday⟩ := parse_day d k utc
  refine ⟨_, ?_, readDay_formatDate hday⟩
  have hT : 'T' ∈ (d.ymd ++ "T" ++ k.text ++ String.ofList (zoneText utc)).toList := by simp
  rw [PickerValue.text, initState, if_pos hT, hparse, Option.map_some]

theorem initState_dateTime :
    ∃ text, initState (PickerValue.dateTime d k).text = some text ∧ readDay text = some (fields d) := by
  obtain ⟨t, hparse, hday⟩ := parse_day d k false
  refine ⟨_, ?_, readDay_formatDate hday⟩
  have hT := mark_not_mem_dateTime d k
  have hblank : ' ' ∈ (d.ymd ++ " " ++ k.text).toList := by simp
  have htext : d.ymd ++ " " ++ k.text = String.ofList (d.ymd.toList ++ ' ' :: k.text.toList) := by
    simp [← String.toList_inj]
  have hzero : part? ' ' 0 (d.ymd ++ " " ++ k.text) = some d.ymd := by
    rw [htext, part?_zero (separator_not_mem_ymd d mem_separators.2), String.ofList_toList]
  have hone : part? ' ' 1 (d.ymd ++ " " ++ k.text) = some k.text := by
    rw [htext, part?_succ (separator_not_mem_ymd d mem_separators.2),
      part?_last (separator_not_mem_clock k mem_separators.2), String.ofList_toList]
  have hzone : d.ymd ++ "T" ++ k.text ++ String.ofList (zoneText false) = d.ymd ++ "T" ++ k.text := by simp [zoneText]
  rw [hzone] at hparse
  rw [PickerValue.text, initState, if_neg hT, if_pos hblank, hzero, hone, Option.bind_some, Option.bind_some, hparse,
    Option.map_some]

theorem parse_clock_text : parse k.text = none := by
  have hyear : ∀ rest, number 4 6 (padLeft 2 k.hour ++ ':' :: rest) = [] := by
    intro rest
    have htake : ((padLeft 2 k.hour ++ ':' :: rest).takeWhile Char.isDigit).length = 2 := by
      rw [List.takeWhile_append_of_pos fun c hc => isDigit_padLeft hc,
        List.takeWhile_cons_of_neg (ne_true_of_eq_false isDigit_colon), List.append_nil, length_padLeft (by decide) k.hour_lt]
    simp [number, Matcher.digits_of_short (show _ < 4 by rw [htake]; decide)]
  have hnil : dateTime k.text.toList = [] := by
    simp only [dateTime, Matcher.bind_apply, Clock.text, String.toList_ofList, optional_char_padLeft not_isDigit_sign,
      List.flatMap_cons, List.flatMap_nil, hyear, List.append_nil]
  rw [parse, Matcher.full, hnil]
  rfl

theorem initState_time : initState (PickerValue.time k).text = none := by
  have hT := separator_not_mem_clock k mem_separators.1
  have hblank := separator_not_mem_clock k mem_separators.2
  rw [PickerValue.text, initState, if_neg hT, if_neg hblank, parse_clock_text, Option.map_none]

end DatePickerTest

/-! ### What the time picker shows -/

namespace TimePickerTest
variable {d : Date} {k : Clock} {utc : Bool} {sep : Char} {pre rest : List Char}

def fields (hour minute : Nat) : Int × Int := (hour, minute)

theorem readTime_text {hour minute : Nat} (hhour : hour < 10 ^ 2) (hminute : minute < 10 ^ 2) (rest : List Char) :
    readTime (String.ofList (padLeft 2 hour ++ ':' :: (padLeft 2 minute ++ ':' :: rest))) = some (fields hour minute) := by
  have hcolon : ∀ {n : Nat}, ':' ∉ padLeft 2 n := not_mem_padLeft rfl
  have hhour' : hour < 2 ^ 63 := lt_trans hhour (by decide)
  have hminute' : minute < 2 ^ 63 := lt_trans hminute (by decide)
  simp only [readTime, part?_zero hcolon, part?_succ (i := 0) hcolon, Option.bind_some, fields, Option.map_some,
    intOfText_padLeft (show 0 < 2 by decide) hhour hhour', intOfText_padLeft (show 0 < 2 by decide) hminute hminute']

theorem hourMinute_clock (hpre : sep ∉ pre) (hrest : sep ∉ k.text.toList ++ rest) :
    ∃ text, hourMinute sep (String.ofList (pre ++ sep :: (k.text.toList ++ rest))) = some text ∧
      readTime text = some (fields k.hour k.minute) := by
  have hcolon : ∀ {n : Nat}, ':' ∉ padLeft 2 n := not_mem_padLeft rfl
  have htext : k.text.toList ++ rest = padLeft 2 k.hour ++ ':' :: (padLeft 2 k.minute ++ ':' ::
      (padLeft 2 k.second ++ ((if k.fraction = [] then [] else '.' :: k.fraction) ++ rest))) := by
    simp [Clock.text]
  refine ⟨_, ?_, readTime_text k.hour_lt k.minute_lt ['0', '0']⟩
  rw [hourMinute, part?_succ hpre, part?_last hrest, Option.bind_some, htext, part?_zero hcolon, part?_succ hcolon,
    part?_zero hcolon, Option.bind_some, Option.map_some, Option.some_inj]
  simp [← String.toList_inj]

theorem hourMinute_iso : ∃ text, hourMinute 'T' (d.ymd ++ "T" ++ k.text ++ String.ofList (zoneText utc)) = some text ∧
    readTime text = some (fields k.hour k.minute) := by
  have htext : d.ymd ++ "T" ++ k.text ++ String.ofList (zoneText utc) =
      String.ofList (d.ymd.toList ++ 'T' :: (k.text.toList ++ zoneText utc)) := by
    simp [← String.toList_inj]
  have hrest : 'T' ∉ k.text.toList ++ zoneText utc := by
    rw [List.mem_append, not_or]
    exact ⟨separator_not_mem_clock k mem_separators.1, by cases utc <;> simp [zoneText]⟩
  rw [htext]
  exact hourMinute_clock (separator_not_mem_ymd d mem_separators.1) hrest

theorem hourMinute_dateTime : ∃ text, hourMinute ' ' (d.ymd ++ " " ++ k.text) = some text ∧
    readTime text = some (fields k.hour k.minute) := by
  have htext : d.ymd ++ " " ++ k.text = String.ofList (d.ymd.toList ++ ' ' :: (k.text.toList ++ [])) := by
    simp [← String.toList_inj]
  rw [htext]
  refine hourMinute_clock (separator_not_mem_ymd d mem_separators.2) ?_
  rw [List.append_nil]
  exact separator_not_mem_clock k mem_separators.2

end TimePickerTest

/-! ### What a picker is for -/

/-- What the texts of a picker say, what the values and the picks stand for. -/
structure Reading {α β : Type} (p : TextPicker α β) (δ : Type) where
  read : String → Option δ
  denoted : PickerValue → Option δ
  picked : α → δ
  read_empty : read "" = none
  read_format : ∀ x, read (p.format x) = some (picked x)

/-- The text says what the value stands for, and is empty where it stands for nothing. -/
def Reading.Shows {α β δ : Type} {p : TextPicker α β} (r : Reading p δ) (text : String) (value : PickerValue) : Prop :=
  r.read text = r.denoted value ∧ (r.denoted value = none → text = "")

/-- The values that `initState` and the update of a picker make a text of, and the texts that it opens with. -/
structure Limits {α β δ : Type} {p : TextPicker α β} (r : Reading p δ) where
  starts : PickerValue → Prop
  updates : PickerValue → Prop
  within : β → String → Prop
  starts_iff : ∀ v, (∃ text, p.initState v.text = some text ∧ r.Shows text v) ↔ starts v
  updates_iff : ∀ v, (∃ text, p.update v.text = some text ∧ r.Shows text v) ↔ updates v
  within_iff : ∀ b text, p.opens b text ↔ within b text

namespace PickerField
variable {α β δ : Type} {p : TextPicker α β} (r : Reading p δ) {s t u : PickerField} {v : PickerValue}
  {e : PickerEvent α β} {es : List (PickerEvent α β)}

/-- Nothing has thrown, and the text says what the value stands for, or will when the update that is due has run. -/
def Right (s : PickerField) : Prop :=
  s.threw = false ∧ if s.updates = 0 then r.Shows s.text s.initialValue
    else ∃ text, p.update s.initialValue.text = some text ∧ r.Shows text s.initialValue

def Opens (p : TextPicker α β) (s : PickerField) : PickerEvent α β → Prop
  | .tap b _ => p.opens b s.text
  | _ => True

/-- The picker is right from the first on, and whatever it is opened with is in range. -/
def Faithful (v : PickerValue) (es : List (PickerEvent α β)) : Prop :=
  Right r (mounted p v) ∧ Each (step p) (fun s e t => Opens p s e ∧ Right r t) (mounted p v) es

variable {r} in
/-- A new value is one that the update takes; the dialog is opened within its range; and where the form does not pass a
    new value on, the pick is the value it has, or an update is due that shows that. -/
def Guard (l : Limits r) (s : PickerField) : PickerEvent α β → Prop
  | .parent v => v.text = s.initialValue.text ∨ l.updates v
  | .tap b none => l.within b s.text
  | .tap b (some (x, v)) => l.within b s.text ∧
      if v.text = s.initialValue.text then s.updates = 0 → r.denoted s.initialValue = some (r.picked x) else l.updates v
  | .update => True

variable {r} {l : Limits r}

theorem right_mounted_iff : Right r (mounted p v) ↔ l.starts v := by
  rw [← l.starts_iff, mounted]
  cases hinit : p.initState v.text with
  | none => simp [Right]
  | some text => simp [Right]

theorem right_pass_iff (hthrew : u.threw = false) :
    Right r (u.pass v) ↔ if v.text = u.initialValue.text then Right r u else l.updates v := by
  by_cases hsame : u.initialValue.text = v.text
  · rw [pass, if_pos hsame, if_pos hsame.symm]
  · rw [pass, if_neg hsame, if_neg (Ne.symm hsame), ← l.updates_iff, Right, if_neg (Nat.succ_ne_zero _)]
    exact and_iff_right hthrew

theorem right_format_iff (h : Right r s) {x : α} :
    Right r { s with text := p.format x } ↔ (s.updates = 0 → r.denoted s.initialValue = some (r.picked x)) := by
  by_cases hdue : s.updates = 0
  · simp only [Right, h.1, hdue, Reading.Shows, r.read_format, true_and, if_true, forall_const]
    refine ⟨fun hshows => hshows.1.symm, fun hdenoted => ⟨hdenoted.symm, fun hnone => ?_⟩⟩
    rw [hnone] at hdenoted
    cases hdenoted
  · have hlater := h.2
    rw [if_neg hdue] at hlater
    simp only [Right, h.1, hdue, if_false, true_and, false_implies, iff_true]
    exact hlater

theorem right_update (h : Right r s) (hdue : 0 < s.updates) : Right r (update p s) := by
  obtain ⟨hthrew, hlater⟩ := h
  rw [if_neg hdue.ne'] at hlater
  obtain ⟨text, htext, hshows⟩ := hlater
  have hupdate : update p s = { s with text, updates := s.updates - 1 } := by rw [update, htext]
  rw [hupdate]
  refine ⟨hthrew, ?_⟩
  split
  · exact hshows
  · exact ⟨text, htext, hshows⟩

theorem right_step_iff (h : Right r s) (hs : step p s e = some t) : (Opens p s e ∧ Right r t) ↔ Guard l s e := by
  cases e with
  | parent v =>
    cases hs
    rw [right_pass_iff (l := l) h.1]
    by_cases hsame : v.text = s.initialValue.text <;> simp [Opens, Guard, hsame, h]
  | tap b pick =>
    cases pick with
    | none =>
      cases hs
      simp [Opens, Guard, l.within_iff, h]
    | some pick =>
      obtain ⟨x, v⟩ := pick
      cases hs
      rw [right_pass_iff (l := l) (u := { s with text := p.format x }) h.1, right_format_iff h]
      simp only [Opens, Guard, l.within_iff]
  | update =>
    obtain ⟨hdue, hs⟩ := Option.ite_none_right_eq_some.mp hs
    cases hs
    simp [Opens, Guard, right_update h hdue]

theorem faithful_iff : Faithful r v es ↔ l.starts v ∧ Guarded (step p) (Guard l) (mounted p v) es := by
  rw [Faithful, right_mounted_iff (l := l)]
  refine and_congr_right fun hstarts => each_iff_guarded (I := Right r) ?_ ?_ (right_mounted_iff.mpr hstarts)
  · exact fun s e t h hs hg => ((right_step_iff h hs).mpr hg).2
  · exact fun s e t h hs => right_step_iff h hs

end PickerField

/-! ### The two pickers -/

namespace DatePickerTest

def denoted : PickerValue → Option (Int × Int × Int)
  | .date d | .iso d _ _ | .dateTime d _ => some (fields d)
  | .null | .empty | .time _ => none

def reading : Reading picker (Int × Int × Int) where
  read := readDay
  denoted := denoted
  picked := fields
  read_empty := rfl
  read_format d := readDay_formatDate (day_midnight d)

/-- A date, with or without a time, or nothing at all. -/
def Dated : PickerValue → Prop
  | .null | .date _ | .iso _ _ _ | .dateTime _ _ => True
  | .empty | .time _ => False

theorem initState_shows_iff (v : PickerValue) :
    (∃ text, initState v.text = some text ∧ reading.Shows text v) ↔ Dated v := by
  have hshown {v : PickerValue} {d : Date} (hd : denoted v = some (fields d))
      (h : ∃ text, initState v.text = some text ∧ readDay text = some (fields d)) :
      ∃ text, initState v.text = some text ∧ reading.Shows text v := by
    obtain ⟨text, htext, hread⟩ := h
    exact ⟨text, htext, hread.trans hd.symm, fun hnone => by rw [show denoted v = none from hnone] at hd; cases hd⟩
  cases v with
  | null => exact iff_of_true ⟨"", rfl, rfl, fun _ => rfl⟩ trivial
  | empty => exact iff_of_false (fun ⟨_, htext, _⟩ => Option.some_ne_none _ htext.symm) id
  | date d => exact iff_of_true (hshown rfl initState_ymd) trivial
  | iso d k utc => exact iff_of_true (hshown rfl initState_iso) trivial
  | dateTime d k => exact iff_of_true (hshown rfl initState_dateTime) trivial
  | time k =>
    refine iff_of_false (fun ⟨_, htext, _⟩ => ?_) id
    rw [initState_time] at htext
    cases htext

/-- With a text, the day that it says is one of the days given; without, the first of them is not after the last, where
    one is given, and the day of the tap is not after the last otherwise. -/
def Within (b : Bounds) (text : String) : Prop :=
  if text = "" then
    match b.firstDate with
    | some first => first ≤ b.last
    | none => ∀ last ∈ b.lastDate, b.now.dayNumber ≤ last
  else ∃ day, readDay text = some day ∧
    b.first ≤ Calendar.dayNumber day.1 day.2.1 day.2.2 ∧ Calendar.dayNumber day.1 day.2.1 day.2.2 ≤ b.last

/-- The days that are taken where none are given: a year back, and five years on. -/
theorem dayNumber_range_default (d : Date) :
    Calendar.dayNumber (d.year - 1) 1 1 ≤ d.dayNumber ∧ d.dayNumber ≤ Calendar.dayNumber (d.year + 5) 1 1 := by
  have hmonth := d.month_range
  have hday := d.day_range.1
  have hlast := d.day_lt
  simp only [Date.dayNumber, Calendar.dayNumber]
  omega

theorem opens_iff (b : Bounds) (text : String) : picker.opens b text ↔ Within b text := by
  obtain ⟨now, firstDate, lastDate⟩ := b
  by_cases hempty : text = ""
  · subst hempty
    have hrange := dayNumber_range_default now
    cases firstDate <;> cases lastDate <;> simp [picker, Bounds.initialDate, Within, Bounds.first, Bounds.last, hrange]
  · simp [picker, Bounds.initialDate, Within, hempty]

def limits : Limits reading where
  starts := Dated
  updates := Dated
  within := Within
  starts_iff := initState_shows_iff
  updates_iff v := by
    have hstarts := initState_shows_iff v
    rwa [← update_eq_initState] at hstarts
  within_iff := opens_iff

end DatePickerTest

namespace TimePickerTest
variable {d : Date} {k : Clock} {utc : Bool} {v : PickerValue}

def denoted : PickerValue → Option (Int × Int)
  | .iso _ k _ | .dateTime _ k | .time k => some (fields k.hour k.minute)
  | .null | .empty | .date _ => none

def reading : Reading picker (Int × Int) where
  read := readTime
  denoted := denoted
  picked t := fields t.hour t.minute
  read_empty := rfl
  read_format t := readTime_text (lt_trans t.hour_range (by decide)) (lt_trans t.minute_range (by decide)) ['0', '0']

/-- Everything but a bare date. -/
def Timed : PickerValue → Prop
  | .null | .empty | .iso _ _ _ | .dateTime _ _ | .time _ => True
  | .date _ => False

/-- A time that comes after a date, or nothing at all. -/
def TimedUpdate : PickerValue → Prop
  | .null | .empty | .iso _ _ _ | .dateTime _ _ => True
  | .date _ | .time _ => False

theorem not_empty_ymd : d.ymd.isEmpty = false := by
  have hne : d.ymd.toList ≠ [] := by simp [Date.ymd]
  simpa using hne

theorem not_empty_clock : k.text.isEmpty = false := by
  have hne : k.text.toList ≠ [] := by simp [Clock.text]
  simpa using hne

theorem initState_ymd : initState (some d.ymd) = some d.ymd := by
  rw [initState, if_neg (separator_not_mem_ymd d mem_separators.1), if_neg (separator_not_mem_ymd d mem_separators.2)]

theorem initState_clock : initState (some k.text) = some k.text := by
  rw [initState, if_neg (separator_not_mem_clock k mem_separators.1), if_neg (separator_not_mem_clock k mem_separators.2)]

theorem update_ymd : update (some d.ymd) = none := by
  have hpart : part? ' ' 1 d.ymd = none := by
    rw [← String.ofList_toList (s := d.ymd)]
    exact part?_eq_none (separator_not_mem_ymd d mem_separators.2)
  rw [update, if_neg (separator_not_mem_ymd d mem_separators.1), not_empty_ymd, if_neg Bool.false_ne_true, hourMinute, hpart,
    Option.bind_none]

theorem update_clock : update (some k.text) = none := by
  have hpart : part? ' ' 1 k.text = none := by
    rw [← String.ofList_toList (s := k.text)]
    exact part?_eq_none (separator_not_mem_clock k mem_separators.2)
  rw [update, if_neg (separator_not_mem_clock k mem_separators.1), not_empty_clock, if_neg Bool.false_ne_true, hourMinute, hpart,
    Option.bind_none]

/-- A text is made of an ISO text, or of one with a blank, in the same way by both. -/
theorem of_iso :
    initState (PickerValue.iso d k utc).text = hourMinute 'T' (d.ymd ++ "T" ++ k.text ++ String.ofList (zoneText utc)) ∧
    update (PickerValue.iso d k utc).text = hourMinute 'T' (d.ymd ++ "T" ++ k.text ++ String.ofList (zoneText utc)) := by
  have hT : 'T' ∈ (d.ymd ++ "T" ++ k.text ++ String.ofList (zoneText utc)).toList := by simp
  have hempty : (d.ymd ++ "T" ++ k.text ++ String.ofList (zoneText utc)).isEmpty = false := by simp
  rw [PickerValue.text, initState, update, if_pos hT, if_pos hT, hempty]
  exact ⟨rfl, rfl⟩

theorem of_dateTime : initState (PickerValue.dateTime d k).text = hourMinute ' ' (d.ymd ++ " " ++ k.text) ∧
    update (PickerValue.dateTime d k).text = hourMinute ' ' (d.ymd ++ " " ++ k.text) := by
  have hT := mark_not_mem_dateTime d k
  have hblank : ' ' ∈ (d.ymd ++ " " ++ k.text).toList := by simp
  have hempty : (d.ymd ++ " " ++ k.text).isEmpty = false := by simp
  rw [PickerValue.text, initState, update, if_neg hT, if_neg hT, if_pos hblank, hempty]
  exact ⟨rfl, rfl⟩

theorem shows_of_read {made : Option String} (hv : denoted v = some (fields k.hour k.minute))
    (h : ∃ text, made = some text ∧ readTime text = some (fields k.hour k.minute)) :
    ∃ text, made = some text ∧ reading.Shows text v := by
  obtain ⟨text, hmade, hread⟩ := h
  refine ⟨text, hmade, hread.trans hv.symm, fun hnone => ?_⟩
  rw [show denoted v = none from hnone] at hv
  cases hv

theorem initState_shows_iff (v : PickerValue) :
    (∃ text, initState v.text = some text ∧ reading.Shows text v) ↔ Timed v := by
  cases v with
  | null => exact iff_of_true ⟨"", rfl, rfl, fun _ => rfl⟩ trivial
  | empty => exact iff_of_true ⟨"", rfl, rfl, fun _ => rfl⟩ trivial
  | date d =>
    refine iff_of_false (fun ⟨text, htext, _, hempty⟩ => ?_) id
    rw [PickerValue.text, initState_ymd, Option.some_inj] at htext
    have hisEmpty := not_empty_ymd (d := d)
    rw [htext, hempty rfl] at hisEmpty
    exact Bool.noConfusion hisEmpty
  | iso d k utc =>
    rw [of_iso.1]
    exact iff_of_true (shows_of_read rfl hourMinute_iso) trivial
  | dateTime d k =>
    rw [of_dateTime.1]
    exact iff_of_true (shows_of_read rfl hourMinute_dateTime) trivial
  | time k =>
    have hmade : ∃ text, initState (some k.text) = some text ∧ readTime text = some (fields k.hour k.minute) :=
      ⟨k.text, initState_clock, readTime_text k.hour_lt k.minute_lt _⟩
    exact iff_of_true (shows_of_read rfl hmade) trivial

theorem update_shows_iff (v : PickerValue) :
    (∃ text, update v.text = some text ∧ reading.Shows text v) ↔ TimedUpdate v := by
  have hthrows {v : PickerValue} (hnone : update v.text = none) :
      ¬ ∃ text, update v.text = some text ∧ reading.Shows text v := by
    rintro ⟨text, htext, -⟩
    rw [hnone] at htext
    cases htext
  cases v with
  | null => exact iff_of_true ⟨"", rfl, rfl, fun _ => rfl⟩ trivial
  | empty => exact iff_of_true ⟨"", rfl, rfl, fun _ => rfl⟩ trivial
  | date d => exact iff_of_false (hthrows update_ymd) id
  | iso d k utc =>
    rw [of_iso.2]
    exact iff_of_true (shows_of_read rfl hourMinute_iso) trivial
  | dateTime d k =>
    rw [of_dateTime.2]
    exact iff_of_true (shows_of_read rfl hourMinute_dateTime) trivial
  | time k => exact iff_of_false (hthrows update_clock) id

def limits : Limits reading where
  starts := Timed
  updates := TimedUpdate
  within _ _ := True
  starts_iff := initState_shows_iff
  updates_iff := update_shows_iff
  within_iff _ _ := Iff.rfl

end TimePickerTest

/-- Through every sequence of values passed on, taps, picks and updates the two pickers are right, and what the date picker is
    opened with is in range, exactly when the first value and the later ones are among those that a text is made of, the dates
    allow the day that is shown, or today, and a pick is passed back where the value does not stay. -/
theorem pickers_faithful_iff (value : PickerValue) :
    (∀ es, PickerField.Faithful DatePickerTest.reading value es ↔ DatePickerTest.Dated value ∧
      Guarded (PickerField.step DatePickerTest.picker) (PickerField.Guard DatePickerTest.limits)
        (PickerField.mounted DatePickerTest.picker value) es) ∧
    ∀ es, PickerField.Faithful TimePickerTest.reading value es ↔ TimePickerTest.Timed value ∧
      Guarded (PickerField.step TimePickerTest.picker) (PickerField.Guard TimePickerTest.limits)
        (PickerField.mounted TimePickerTest.picker value) es :=
  ⟨fun _ => PickerField.faithful_iff (l := DatePickerTest.limits),
    fun _ => PickerField.faithful_iff (l := TimePickerTest.limits)⟩

/-- The time picker is given nothing, half past ten is picked in it, and the form passes on what it got; and the date picker
    is given an empty text. -/
theorem pickers_not_faithful :
    let k : Clock := ⟨10, 30, 0, [], by decide, by decide, by decide, List.forall_mem_nil _⟩
    let t : TimeOfDay := ⟨10, 30, by decide, by decide⟩
    TimePickerTest.picker.emit t = k.text ∧
    ¬ PickerField.Faithful TimePickerTest.reading .null [.tap () (some (t, .time k)), .update] ∧
    ¬ PickerField.Faithful DatePickerTest.reading .empty [] := by
  refine ⟨by decide +kernel, fun h => ?_, fun h => ?_⟩
  · have hmounted : PickerField.mounted TimePickerTest.picker .null = ⟨.null, "", 0, false⟩ := rfl
    have hguarded := ((PickerField.faithful_iff (l := TimePickerTest.limits)).mp h).2
    rw [hmounted] at hguarded
    have hguard := (hguarded _ rfl).1
    simp [PickerField.Guard, PickerValue.text, TimePickerTest.limits, TimePickerTest.TimedUpdate] at hguard
  · exact ((PickerField.faithful_iff (l := DatePickerTest.limits)).mp h).1

end NextApp
