import NextApp.Lib.Matcher
import NextApp.Lib.Calendar

/-! # Dates and times as texts

The texts of `DateTime` and `DateFormat` of Dart. Local time is taken at no offset from UTC. -/

namespace DateText

/-- `toString().padLeft(width, '0')` -/
def padLeft (width n : Nat) : List Char := List.leftpad width '0' (Nat.toDigits 10 n)

/-- A date whose year has four digits. -/
structure Date where
  year : Nat
  month : Nat
  day : Nat
  year_range : 1000 ≤ year ∧ year < 10000
  month_range : 1 ≤ month ∧ month ≤ 12
  day_range : 1 ≤ day ∧ (day : Int) ≤ Calendar.daysInMonth year month
deriving DecidableEq

structure TimeOfDay where
  hour : Nat
  minute : Nat
  hour_range : hour < 24
  minute_range : minute < 60
deriving DecidableEq

def Date.dayNumber (d : Date) : Int := Calendar.dayNumber d.year d.month d.day

/-- `yyyy-MM-dd` -/
def Date.ymd (d : Date) : String :=
  String.ofList (padLeft 4 d.year ++ '-' :: (padLeft 2 d.month ++ '-' :: padLeft 2 d.day))

/-- `toIso8601String` at midnight. -/
def Date.iso (d : Date) : String := d.ymd ++ "T00:00:00.000"

/-- `HH:mm:00` -/
def TimeOfDay.text (t : TimeOfDay) : String :=
  String.ofList (padLeft 2 t.hour ++ ':' :: (padLeft 2 t.minute ++ [':', '0', '0']))

/-- A time of day with the digits of a fraction of a second. -/
structure Clock where
  hour : Nat
  minute : Nat
  second : Nat
  fraction : List Char
  hour_range : hour < 24
  minute_range : minute < 60
  second_range : second < 60
  fraction_digits : ∀ c ∈ fraction, c.isDigit
deriving DecidableEq

/-- `HH:mm:ss`, with the fraction after a point where there is one. -/
def Clock.text (t : Clock) : String :=
  String.ofList (padLeft 2 t.hour ++ ':' :: (padLeft 2 t.minute ++ ':' :: (padLeft 2 t.second ++
    if t.fraction = [] then [] else '.' :: t.fraction)))

/-- The offset that stands after a time of day in UTC. -/
def zoneText (utc : Bool) : List Char := if utc then ['Z'] else []

/-- The time of a `DateTime` in microseconds, from the first of March of the year 0. -/
structure DateTime where
  micros : Int
  isUtc : Bool
deriving DecidableEq

def micros (days hours minutes seconds micros : Int) : Int :=
  (((days * 24 + hours) * 60 + minutes) * 60 + seconds) * 1000000 + micros

/-! ### Reading -/

def number (least most : Nat) : Matcher Int := do
  let ds ← Matcher.digits least most
  pure (Nat.ofDigitChars 10 ds 0 : Nat)

def colon : Matcher (Option Char) := Matcher.optional (Matcher.char (· == ':'))

/-- The first six digits of a fraction of a second. -/
def fraction (ds : List Char) : Int := Nat.ofDigitChars 10 ((ds ++ List.replicate 6 '0').take 6) 0

def second : Matcher (Int × Int) := do
  let _ ← colon
  let seconds ← number 2 2
  let part ← Matcher.optional do
    let _ ← Matcher.char fun c => c == '.' || c == ','
    Matcher.digits1
  pure (seconds, part.elim 0 fraction)

def minute : Matcher (Int × Int × Int) := do
  let _ ← colon
  let minutes ← number 2 2
  let rest ← Matcher.optional second
  pure (minutes, rest.getD (0, 0))

/-- The offset from UTC in minutes. -/
def zone : Matcher Int := do
  let _ ← Matcher.optional (Matcher.char (· == ' '))
  Matcher.orElse
    (do
      let _ ← Matcher.char fun c => c == 'z' || c == 'Z'
      pure 0)
    (do
      let sign ← Matcher.char fun c => c == '-' || c == '+'
      let hours ← number 2 2
      let minutes ← Matcher.optional do
        let _ ← colon
        number 2 2
      pure ((if sign == '-' then -1 else 1) * (60 * hours + minutes.getD 0)))

/-- Hours, minutes, seconds and microseconds, with the offset of a time that is not local. -/
def time : Matcher ((Int × Int × Int × Int) × Option Int) := do
  let _ ← Matcher.char fun c => c == ' ' || c == 'T'
  let hours ← number 2 2
  let rest ← Matcher.optional minute
  let offset ← Matcher.optional zone
  pure ((hours, rest.getD (0, 0, 0)), offset)

def stamp (days : Int) : Option ((Int × Int × Int × Int) × Option Int) → DateTime
  | none => ⟨micros days 0 0 0 0, false⟩
  | some ((h, m, s, f), none) => ⟨micros days h m s f, false⟩
  | some ((h, m, s, f), some offset) => ⟨micros days h (m - offset) s f, true⟩

def dateTime : Matcher DateTime := do
  let sign ← Matcher.optional (Matcher.char fun c => c == '+' || c == '-')
  let year ← number 4 6
  let _ ← Matcher.optional (Matcher.char (· == '-'))
  let month ← number 2 2
  let _ ← Matcher.optional (Matcher.char (· == '-'))
  let day ← number 2 2
  let clock ← Matcher.optional time
  let days := Calendar.dayNumber (if sign == some '-' then -year else year) month day
  pure (stamp days clock)

/-- `DateTime.parse` throws where there is none: for a text of another form and for a time that is more than 100,000,000
    days from 1970. -/
def parse (text : String) : Option DateTime :=
  (dateTime.full text.toList).filter fun t =>
    (t.micros - micros (Calendar.dayNumber 1970 1 1) 0 0 0 0).natAbs ≤ 8640000000000000000

/-! ### Writing -/

/-- `DateFormat('yyy-MM-dd')` -/
def formatDate (t : DateTime) : String :=
  let (year, month, day) := Calendar.civil (t.micros / 86400000000)
  String.ofList (padLeft 3 year.natAbs ++ '-' :: (padLeft 2 month.natAbs ++ '-' :: padLeft 2 day.natAbs))

/-- The days of a `Duration`, cut off towards 0. -/
def daysBetween (s t : DateTime) : Int := (t.micros - s.micros).tdiv 86400000000

variable {d : Date} {t : TimeOfDay} {n width least most : Nat} {rest : List Char} {c : Char} {p : Char → Bool}

/-! ### Numbers of a fixed width -/

theorem isDigit_padLeft (hc : c ∈ padLeft width n) : c.isDigit := by
  rcases List.mem_append.mp hc with hc | hc
  · rw [List.eq_of_mem_replicate hc]
    rfl
  · exact Nat.isDigit_of_mem_toDigits (by decide) (by decide) hc

theorem length_padLeft (hw : 0 < width) (hn : n < 10 ^ width) : (padLeft width n).length = width := by
  rw [padLeft, List.length_leftpad]
  exact max_eq_left ((Nat.length_toDigits_le_iff (by decide) hw).mpr hn)

theorem ofDigitChars_padLeft : Nat.ofDigitChars 10 (padLeft width n) 0 = n := by
  rw [padLeft, List.leftpad, Nat.ofDigitChars_append, Nat.ofDigitChars_replicate_zero, Nat.mul_zero,
    Nat.ofDigitChars_ten_toDigits]

theorem padLeft_succ (hn : 10 ^ width ≤ n) (hw : 0 < width) : padLeft width n = padLeft (width + 1) n := by
  have hlen : width < (Nat.toDigits 10 n).length := by
    by_contra h
    exact absurd ((Nat.length_toDigits_le_iff (by decide) hw).mp (not_lt.mp h)) (not_lt.mpr hn)
  rw [padLeft, padLeft, List.leftpad, List.leftpad, Nat.sub_eq_zero_of_le hlen.le, Nat.sub_eq_zero_of_le hlen]

theorem number_padLeft (hw : 0 < width) (hn : n < 10 ^ width) :
    number width width (padLeft width n ++ rest) = [((n : Int), rest)] := by
  simp [number, Matcher.digits_self (fun c hc => isDigit_padLeft hc) (length_padLeft hw hn), ofDigitChars_padLeft]

theorem number_padLeft_stop (hw : 0 < width) (hn : n < 10 ^ width) (hmost : width ≤ most) (hc : c.isDigit = false) :
    number width most (padLeft width n ++ c :: rest) = [((n : Int), c :: rest)] := by
  have hstop : (c :: rest).takeWhile Char.isDigit = [] := List.takeWhile_cons_of_neg (ne_true_of_eq_false hc)
  simp [number, Matcher.digits_of_stop (fun c hc => isDigit_padLeft hc) (length_padLeft hw hn) hmost hstop,
    ofDigitChars_padLeft]

theorem padLeft_ne_nil : padLeft width n ≠ [] := by
  intro h
  exact Nat.toDigits_ne_nil (List.append_eq_nil_iff.mp h).2

theorem char_padLeft (hp : ∀ c, p c → ¬ c.isDigit) : Matcher.char p (padLeft width n ++ rest) = [] := by
  have hne : padLeft width n ≠ [] := padLeft_ne_nil
  obtain ⟨c, cs, hcs⟩ := List.exists_cons_of_ne_nil hne
  have hc : ¬ p c := fun hpc => hp c hpc (isDigit_padLeft (hcs ▸ List.mem_cons_self))
  rw [hcs, List.cons_append, Matcher.char_cons, if_neg hc]

/-- A sign that may stand before a number does not. -/
theorem optional_char_padLeft (hp : ∀ c, p c → ¬ c.isDigit) :
    Matcher.optional (Matcher.char p) (padLeft width n ++ rest) = [(none, padLeft width n ++ rest)] := by
  rw [Matcher.optional_apply, char_padLeft hp]
  rfl

theorem not_isDigit_sign : ∀ c, (c == '+' || c == '-') = true → ¬ c.isDigit := by
  intro c hc
  rcases Bool.or_eq_true_iff.mp hc with hc | hc <;> rw [beq_iff_eq.mp hc] <;> decide

theorem number_stop (hl : 0 < least) (hc : c.isDigit = false) : number least most (c :: rest) = [] := by
  have hstop : (c :: rest).takeWhile Char.isDigit = [] := List.takeWhile_cons_of_neg (ne_true_of_eq_false hc)
  simp [number, Matcher.digits_of_short (by rw [hstop]; exact hl)]

/-! ### The texts of a date -/

theorem Date.year_lt (d : Date) : d.year < 10 ^ 4 := d.year_range.2

theorem Date.month_lt (d : Date) : d.month < 10 ^ 2 := lt_of_le_of_lt d.month_range.2 (by decide)

theorem Date.day_lt (d : Date) : d.day < 10 ^ 2 := by
  have hlast : Calendar.daysInMonth d.year d.month ≤ 31 := by
    unfold Calendar.daysInMonth
    split_ifs <;> decide
  have := d.day_range.2
  omega

theorem isDigit_dash : '-'.isDigit = false := rfl

theorem optional_dash (cs : List Char) :
    Matcher.optional (Matcher.char (· == '-')) ('-' :: cs) = [(some '-', cs), (none, '-' :: cs)] := rfl

theorem dateTime_ymd (rest : List Char) :
    dateTime (d.ymd.toList ++ rest) = (Matcher.optional time rest).map fun x => (stamp d.dayNumber x.1, x.2) := by
  simp only [dateTime, Matcher.bind_apply, Date.ymd, String.toList_ofList, List.append_assoc, List.cons_append,
    optional_char_padLeft not_isDigit_sign,
    number_padLeft_stop (by decide) d.year_lt (show 4 ≤ 6 by decide) isDigit_dash, List.flatMap_cons, List.flatMap_nil,
    List.append_nil, optional_dash, number_padLeft (by decide) d.month_lt, number_padLeft (by decide) d.day_lt,
    number_stop (show 0 < 2 by decide) isDigit_dash, Matcher.pure_apply, List.map_eq_flatMap]
  rfl

/-- The time of `stamp` is on the day. -/
def OnDay (days : Int) (s : DateTime) : Prop := micros days 0 0 0 0 ≤ s.micros ∧ s.micros < micros (days + 1) 0 0 0 0

theorem Date.dayNumber_range (d : Date) : 0 ≤ d.dayNumber ∧ d.dayNumber < 4000000 := by
  have hyear := d.year_range
  have hmonth := d.month_range
  have hday := d.day_range.1
  have hlast := d.day_lt
  simp only [Date.dayNumber, Calendar.dayNumber]
  omega

theorem parse_ymd_append {clock : Option ((Int × Int × Int × Int) × Option Int)}
    (h : (Matcher.optional time rest).head? = some (clock, [])) (hday : OnDay d.dayNumber (stamp d.dayNumber clock)) :
    parse (d.ymd ++ String.ofList rest) = some (stamp d.dayNumber clock) := by
  obtain ⟨l, hl⟩ := List.head?_eq_some_iff.mp h
  have hfull : dateTime.full (d.ymd ++ String.ofList rest).toList = some (stamp d.dayNumber clock) := by
    rw [Matcher.full, String.toList_append, String.toList_ofList, dateTime_ymd, hl]
    rfl
  have hepoch : Calendar.dayNumber 1970 1 1 = 719468 := by decide
  have hrange := d.dayNumber_range
  rw [parse, hfull]
  refine Option.filter_some_pos (decide_eq_true ?_)
  simp only [OnDay, micros, hepoch] at hday ⊢
  omega

theorem parse_ymd : parse d.ymd = some ⟨micros d.dayNumber 0 0 0 0, false⟩ := by
  have hday : OnDay d.dayNumber (stamp d.dayNumber none) := by
    simp [OnDay, stamp, micros]
  have hnil : d.ymd ++ String.ofList [] = d.ymd := by simp
  rw [← hnil, parse_ymd_append rfl hday, stamp]

theorem parse_iso : parse d.iso = some ⟨micros d.dayNumber 0 0 0 0, false⟩ := by
  have hday : OnDay d.dayNumber (stamp d.dayNumber (some ((0, 0, 0, 0), none))) := by
    simp [OnDay, stamp, micros]
  exact parse_ymd_append rfl hday

theorem optional_colon (cs : List Char) : colon (':' :: cs) = [(some ':', cs), (none, ':' :: cs)] := rfl

theorem isDigit_colon : ':'.isDigit = false := rfl

theorem time_text (t : TimeOfDay) :
    (Matcher.optional time ('T' :: t.text.toList)).head? =
      some (some (((t.hour : Int), (t.minute : Int), 0, 0), none), []) := by
  have hhour : t.hour < 10 ^ 2 := lt_trans t.hour_range (by decide)
  have hminute : t.minute < 10 ^ 2 := lt_trans t.minute_range (by decide)
  have hsecond : second [':', '0', '0'] = [((0, 0), [])] := rfl
  have hzone : zone [] = [] := rfl
  simp [time, minute, TimeOfDay.text, number_padLeft (by decide) hhour, number_padLeft (by decide) hminute, optional_colon,
    number_stop (show 0 < 2 by decide) isDigit_colon, hsecond, hzone]

theorem parse_clock (t : TimeOfDay) :
    parse (d.ymd ++ "T" ++ t.text) = some ⟨micros d.dayNumber t.hour t.minute 0 0, false⟩ := by
  have hhour := t.hour_range
  have hminute := t.minute_range
  have hday : OnDay d.dayNumber (stamp d.dayNumber (some ((t.hour, t.minute, 0, 0), none))) := by
    simp only [OnDay, stamp, micros]
    omega
  have htext : d.ymd ++ "T" ++ t.text = d.ymd ++ String.ofList ('T' :: t.text.toList) := by
    simp [String.append_assoc]
  rw [htext, parse_ymd_append (time_text t) hday, stamp]

/-- Midnight is on its day. -/
theorem day_midnight (d : Date) : micros d.dayNumber 0 0 0 0 / 86400000000 = d.dayNumber := by
  rw [micros]
  omega

theorem formatDate_midnight : formatDate ⟨micros d.dayNumber 0 0 0 0, false⟩ = d.ymd := by
  have hmonth := d.month_range
  have hcivil : Calendar.civil d.dayNumber = ((d.year : Int), (d.month : Int), (d.day : Int)) :=
    Calendar.civil_dayNumber (by omega) (by omega) (by exact_mod_cast d.day_range.1) d.day_range.2
  simp only [formatDate, day_midnight, hcivil, Int.natAbs_natCast, Date.ymd, padLeft_succ d.year_range.1 (show 0 < 3 by decide)]

theorem daysBetween_midnight (d d' : Date) :
    daysBetween ⟨micros d.dayNumber 0 0 0 0, false⟩ ⟨micros d'.dayNumber 0 0 0 0, false⟩ = d'.dayNumber - d.dayNumber := by
  have hdays : micros d'.dayNumber 0 0 0 0 - micros d.dayNumber 0 0 0 0 = (d'.dayNumber - d.dayNumber) * 86400000000 := by
    simp only [micros]
    omega
  rw [daysBetween, hdays]
  exact Int.mul_tdiv_cancel _ (by decide)

/-! ### The text of a time of day -/

theorem takeWhile_stop (h : ∀ c ∈ rest.head?, c.isDigit = false) : rest.takeWhile Char.isDigit = [] := by
  cases rest with
  | nil => rfl
  | cons c cs => exact List.takeWhile_cons_of_neg (ne_true_of_eq_false (h c rfl))

theorem ofDigitChars_lt {ds : List Char} (hds : ∀ c ∈ ds, c.isDigit) (v : Nat) :
    Nat.ofDigitChars 10 ds v < 10 ^ ds.length * (v + 1) := by
  induction ds generalizing v with
  | nil => simp
  | cons c ds ih =>
    have hc : c.isDigit := hds c List.mem_cons_self
    have hdigit : c.toNat - '0'.toNat ≤ 9 := by
      simp only [Char.isDigit, Bool.and_eq_true, decide_eq_true_eq, UInt32.le_iff_toNat_le] at hc
      have h9 : c.toNat ≤ 57 := hc.2
      have h0 : '0'.toNat = 48 := rfl
      omega
    have hlt := ih (fun c hc => hds c (List.mem_cons_of_mem _ hc)) (10 * v + (c.toNat - '0'.toNat))
    rw [Nat.ofDigitChars_cons, List.length_cons, Nat.pow_succ, Nat.mul_assoc]
    exact hlt.trans_le (Nat.mul_le_mul_left _ (by omega))

theorem fraction_range {ds : List Char} (hds : ∀ c ∈ ds, c.isDigit) : 0 ≤ fraction ds ∧ fraction ds < 1000000 := by
  have hdigits : ∀ c ∈ (ds ++ List.replicate 6 '0').take 6, c.isDigit := by
    intro c hc
    rcases List.mem_append.mp (List.mem_of_mem_take hc) with hc | hc
    · exact hds c hc
    · rw [List.eq_of_mem_replicate hc]
      rfl
  have hlen : ((ds ++ List.replicate 6 '0').take 6).length = 6 := by
    simp
  have hlt := ofDigitChars_lt hdigits 0
  rw [hlen] at hlt
  simp only [fraction]
  omega

theorem number_head (hw : 0 < width) (hn : n < 10 ^ width) :
    (number width width (padLeft width n ++ rest)).head? = some ((n : Int), rest) := by
  rw [number_padLeft hw hn]
  rfl

theorem colon_head (cs : List Char) : (colon (':' :: cs)).head? = some (some ':', cs) := rfl

variable {k : Clock}

theorem Clock.hour_lt (k : Clock) : k.hour < 10 ^ 2 := lt_trans k.hour_range (by decide)

theorem Clock.minute_lt (k : Clock) : k.minute < 10 ^ 2 := lt_trans k.minute_range (by decide)

theorem Clock.second_lt (k : Clock) : k.second < 10 ^ 2 := lt_trans k.second_range (by decide)

/-- The microseconds of the fraction. -/
def Clock.part (k : Clock) : Int := if k.fraction = [] then 0 else DateText.fraction k.fraction

/-- What is read of a time of day. -/
def Clock.fields (k : Clock) (utc : Bool) : (Int × Int × Int × Int) × Option Int :=
  ((k.hour, k.minute, k.second, k.part), if utc then some 0 else none)

theorem Clock.part_range (k : Clock) : 0 ≤ k.part ∧ k.part < 1000000 := by
  unfold Clock.part
  split
  · decide
  · exact fraction_range k.fraction_digits

/-- The seconds with their fraction, where no further digit follows. -/
theorem second_head (hrest : ∀ c ∈ rest.head?, c.isDigit = false) (hpoint : ∀ c ∈ rest.head?, c ≠ '.' ∧ c ≠ ',') :
    (second (':' :: (padLeft 2 k.second ++ ((if k.fraction = [] then [] else '.' :: k.fraction) ++ rest)))).head? =
      some (((k.second : Int), k.part), rest) := by
  by_cases hfraction : k.fraction = []
  · have hnone : (Matcher.char (fun c => c == '.' || c == ',') >>= fun _ => Matcher.digits1) rest = [] := by
      cases rest with
      | nil => rfl
      | cons c cs =>
        have hc := hpoint c rfl
        simp [hc.1, hc.2]
    rw [if_pos hfraction, List.nil_append, Clock.part, if_pos hfraction]
    exact Matcher.head_bind (colon_head _) (Matcher.head_bind (number_head (by decide) k.second_lt)
      (Matcher.head_bind (Matcher.head_optional_none hnone) rfl))
  · rw [if_neg hfraction, List.cons_append, Clock.part, if_neg hfraction]
    have hpart : ((Matcher.char (fun c => c == '.' || c == ',') >>= fun _ => Matcher.digits1)
        ('.' :: (k.fraction ++ rest))).head? = some (k.fraction, rest) :=
      Matcher.head_bind rfl (Matcher.head_digits1 k.fraction_digits hfraction (takeWhile_stop hrest))
    exact Matcher.head_bind (colon_head _) (Matcher.head_bind (number_head (by decide) k.second_lt)
      (Matcher.head_bind (Matcher.head_optional hpart) rfl))

theorem time_clock (k : Clock) (utc : Bool) (hc : (c == ' ' || c == 'T') = true) :
    (time (c :: (k.text.toList ++ zoneText utc))).head? = some (k.fields utc, []) := by
  have hrest : ∀ c ∈ (zoneText utc).head?, c.isDigit = false := by cases utc <;> simp [zoneText]
  have hpoint : ∀ c ∈ (zoneText utc).head?, c ≠ '.' ∧ c ≠ ',' := by cases utc <;> simp [zoneText]
  have hsecond := second_head (k := k) hrest hpoint
  have hzone : (Matcher.optional zone (zoneText utc)).head? = some (if utc then some 0 else none, []) := by
    cases utc <;> rfl
  have htext : k.text.toList ++ zoneText utc = padLeft 2 k.hour ++ (':' :: (padLeft 2 k.minute ++
      (':' :: (padLeft 2 k.second ++ ((if k.fraction = [] then [] else '.' :: k.fraction) ++ zoneText utc))))) := by
    simp [Clock.text]
  have hminute : (minute (':' :: (padLeft 2 k.minute ++ (':' :: (padLeft 2 k.second ++
      ((if k.fraction = [] then [] else '.' :: k.fraction) ++ zoneText utc)))))).head? =
        some (((k.minute : Int), (k.second : Int), k.part), zoneText utc) :=
    Matcher.head_bind (colon_head _) (Matcher.head_bind (number_head (by decide) k.minute_lt)
      (Matcher.head_bind (Matcher.head_optional hsecond) rfl))
  have hchar : ∀ cs, (Matcher.char (fun c => c == ' ' || c == 'T') (c :: cs)).head? = some (c, cs) := by
    intro cs
    rw [Matcher.char_cons, if_pos hc]
    rfl
  rw [htext]
  exact Matcher.head_bind (hchar _) (Matcher.head_bind (number_head (by decide) k.hour_lt)
    (Matcher.head_bind (Matcher.head_optional hminute) (Matcher.head_bind hzone rfl)))

theorem onDay_clock (k : Clock) (utc : Bool) (days : Int) :
    OnDay days (stamp days (some (k.fields utc))) := by
  have hhour := k.hour_range
  have hmin := k.minute_range
  have hsec := k.second_range
  have hpart := k.part_range
  cases utc <;> simp only [Clock.fields, OnDay, stamp, micros, if_true, if_false, Bool.false_eq_true] <;> omega

/-- A date with a time of day is read as a time on that day. -/
theorem parse_day (d : Date) (k : Clock) (utc : Bool) :
    ∃ t, parse (d.ymd ++ "T" ++ k.text ++ String.ofList (zoneText utc)) = some t ∧ t.micros / 86400000000 = d.dayNumber := by
  have hday := onDay_clock k utc d.dayNumber
  refine ⟨stamp d.dayNumber (some (k.fields utc)), ?_, ?_⟩
  · have htext : d.ymd ++ "T" ++ k.text ++ String.ofList (zoneText utc) =
        d.ymd ++ String.ofList ('T' :: (k.text.toList ++ zoneText utc)) := by
      simp [String.append_assoc, String.ofList_append]
    rw [htext]
    exact parse_ymd_append (Matcher.head_optional (time_clock k utc rfl)) hday
  · simp only [OnDay, micros] at hday
    omega

theorem civil_dayNumber (d : Date) : Calendar.civil d.dayNumber = ((d.year : Int), (d.month : Int), (d.day : Int)) := by
  have hmonth := d.month_range
  exact Calendar.civil_dayNumber (by omega) (by omega) (by exact_mod_cast d.day_range.1) d.day_range.2

/-! ### The text of a time -/

namespace DateTime

/-- A time that is at most 100,000,000 days from 1970. -/
def InRange (t : DateTime) : Prop :=
  (t.micros - DateText.micros (Calendar.dayNumber 1970 1 1) 0 0 0 0).natAbs ≤ 8640000000000000000

instance (t : DateTime) : Decidable t.InRange := inferInstanceAs (Decidable (_ ≤ _))

def clock (t : DateTime) : Clock where
  hour := (t.micros / 3600000000 % 24).toNat
  minute := (t.micros / 60000000 % 60).toNat
  second := (t.micros / 1000000 % 60).toNat
  fraction := padLeft 3 (t.micros / 1000 % 1000).toNat ++
    if t.micros % 1000 = 0 then [] else padLeft 3 (t.micros % 1000).toNat
  hour_range := by omega
  minute_range := by omega
  second_range := by omega
  fraction_digits c hc := by
    rcases List.mem_append.mp hc with hc | hc
    · exact isDigit_padLeft hc
    · split at hc
      · cases hc
      · exact isDigit_padLeft hc

def yearText (year : Int) : List Char := (if year < 0 then ['-'] else []) ++ padLeft 4 year.natAbs

def toString (t : DateTime) : String :=
  let (year, month, day) := Calendar.civil (t.micros / 86400000000)
  String.ofList (yearText year ++ '-' :: (padLeft 2 month.toNat ++ '-' :: (padLeft 2 day.toNat ++
    ' ' :: (t.clock.text.toList ++ zoneText t.isUtc))))

variable {t : DateTime}

theorem inRange_of_parse {text : String} (h : parse text = some t) : t.InRange :=
  of_decide_eq_true (Option.filter_eq_some_iff.mp h).2

theorem sign_head (year : Int) (rest : List Char) :
    (Matcher.optional (Matcher.char fun c => c == '+' || c == '-') (yearText year ++ rest)).head? =
      some (if year < 0 then some '-' else none, padLeft 4 year.natAbs ++ rest) := by
  by_cases hneg : year < 0
  · rw [yearText, if_pos hneg, if_pos hneg]
    exact Matcher.head_optional rfl
  · rw [yearText, if_neg hneg, if_neg hneg, List.nil_append]
    exact Matcher.head_optional_none (char_padLeft not_isDigit_sign)

theorem year_head {year : Nat} (h : year < 10 ^ 6) (rest : List Char) :
    (number 4 6 (padLeft 4 year ++ '-' :: rest)).head? = some ((year : Int), '-' :: rest) := by
  have hlen : (padLeft 4 year).length = max 4 (Nat.toDigits 10 year).length := List.length_leftpad
  have hsix : (Nat.toDigits 10 year).length ≤ 6 := (Nat.length_toDigits_le_iff (by decide) (by decide)).mpr h
  have hstop : ('-' :: rest).takeWhile Char.isDigit = [] := List.takeWhile_cons_of_neg (by decide)
  have hdigits : (Matcher.digits 4 6 (padLeft 4 year ++ '-' :: rest)).head? = some (padLeft 4 year, '-' :: rest) :=
    Matcher.head_digits (fun c hc => isDigit_padLeft hc) (by omega) (by omega) hstop
  refine Matcher.head_bind hdigits ?_
  rw [ofDigitChars_padLeft]
  rfl

theorem fraction_padLeft {ms us : Nat} (hms : ms < 10 ^ 3) (hus : us < 10 ^ 3) :
    fraction (padLeft 3 ms ++ if us = 0 then [] else padLeft 3 us) = 1000 * ms + us := by
  have hms' : (padLeft 3 ms).length = 3 := length_padLeft (by decide) hms
  have hus' : (padLeft 3 us).length = 3 := length_padLeft (by decide) hus
  split
  · next hzero =>
    have htake : (padLeft 3 ms ++ [] ++ List.replicate 6 '0').take 6 = padLeft 3 ms ++ List.replicate 3 '0' := by
      rw [List.append_nil, List.take_append, List.take_of_length_le (by omega), hms']
      rfl
    rw [fraction, htake, Nat.ofDigitChars_append, ofDigitChars_padLeft, hzero]
    simp [Nat.ofDigitChars]
    omega
  · have htake : (padLeft 3 ms ++ padLeft 3 us ++ List.replicate 6 '0').take 6 = padLeft 3 ms ++ padLeft 3 us := by
      rw [List.take_append_of_le_length (by simp [hms', hus']), List.take_of_length_le (by simp [hms', hus'])]
    rw [fraction, htake, Nat.ofDigitChars_append, ofDigitChars_padLeft, Nat.ofDigitChars_eq_ofDigitChars_zero, hus',
      ofDigitChars_padLeft]
    simp

theorem clock_part (t : DateTime) : t.clock.part = t.micros % 1000000 := by
  have hne : t.clock.fraction ≠ [] := fun hnil => padLeft_ne_nil (List.append_eq_nil_iff.mp hnil).1
  have hzero : t.micros % 1000 = 0 ↔ (t.micros % 1000).toNat = 0 := by omega
  rw [Clock.part, if_neg hne]
  simp only [clock, hzero]
  rw [fraction_padLeft (by omega) (by omega)]
  omega

theorem stamp_clock (t : DateTime) : stamp (t.micros / 86400000000) (some (t.clock.fields t.isUtc)) = t := by
  have hsum : DateText.micros (t.micros / 86400000000) t.clock.hour t.clock.minute t.clock.second t.clock.part = t.micros := by
    rw [clock_part]
    simp only [DateText.micros, clock]
    omega
  obtain ⟨at_, utc⟩ := t
  cases utc <;> simp [stamp, Clock.fields, hsum]

theorem dash_head (cs : List Char) : (Matcher.optional (Matcher.char (· == '-')) ('-' :: cs)).head? = some (some '-', cs) := rfl

theorem parse_toString (h : t.InRange) : parse t.toString = some t := by
  obtain ⟨days, hdays⟩ : ∃ days, days = t.micros / 86400000000 := ⟨_, rfl⟩
  obtain ⟨hnumber, hmonth, hmonth', hday, hday', hyear, hyear'⟩ := Calendar.dayNumber_civil days
  generalize hcivil : Calendar.civil days = date at *
  obtain ⟨year, month, day⟩ := date
  dsimp only at hnumber hmonth hmonth' hday hday' hyear hyear'
  have habs : year.natAbs < 10 ^ 6 := by
    have hepoch : Calendar.dayNumber 1970 1 1 = 719468 := by decide
    simp only [InRange, DateText.micros, hepoch] at h
    omega
  have hyearOf : (if (if year < 0 then some '-' else none) == some '-' then -(year.natAbs : Int) else year.natAbs) = year := by
    by_cases hneg : year < 0
    · rw [if_pos hneg, if_pos (by decide)]
      omega
    · rw [if_neg hneg, if_neg (by decide)]
      omega
  have htext : t.toString.toList = yearText year ++ ('-' :: (padLeft 2 month.toNat ++ '-' :: (padLeft 2 day.toNat ++
      ' ' :: (t.clock.text.toList ++ zoneText t.isUtc)))) := by
    simp only [toString, ← hdays, hcivil, String.toList_ofList]
  have hstamp : stamp (Calendar.dayNumber year month.toNat day.toNat) (some (t.clock.fields t.isUtc)) = t := by
    rw [Int.toNat_of_nonneg (by omega), Int.toNat_of_nonneg (by omega), hnumber, hdays]
    exact stamp_clock t
  have hclock := Matcher.head_optional (time_clock t.clock t.isUtc (c := ' ') rfl)
  have hread : (dateTime t.toString.toList).head? = some (t, []) := by
    rw [htext]
    refine Matcher.head_bind (sign_head year _) (Matcher.head_bind (year_head habs _) (Matcher.head_bind (dash_head _)
      (Matcher.head_bind (number_head (by decide) (by omega)) (Matcher.head_bind (dash_head _)
      (Matcher.head_bind (number_head (by decide) (by omega)) (Matcher.head_bind hclock ?_))))))
    simp only [Matcher.pure_apply, List.head?_cons, hyearOf, hstamp]
  rw [parse, Matcher.full_of_head hread]
  exact Option.filter_some_pos (decide_eq_true h)

end DateTime

end DateText
