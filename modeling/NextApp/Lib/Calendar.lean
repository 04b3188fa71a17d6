import Mathlib.Tactic.IntervalCases
import Mathlib.Tactic.Common

/-! # The Gregorian calendar

Dates as day numbers. A year of the calculation begins in March, so that the day that is added in a leap year is its
last. -/

namespace Calendar

/-- The days since the first of March of the year 0. A month over 12, or a day over the end of its month, counts on. -/
def dayNumber (year month day : Int) : Int :=
  let t := 12 * year + month - 3
  let y := t / 12
  365 * y + y / 4 - y / 100 + y / 400 + (153 * (t % 12) + 2) / 5 + day - 1

/-- The year, the month and the day of a day number. -/
def civil (n : Int) : Int × Int × Int :=
  let doe := n % 146097
  let yoe := (doe - doe / 1460 + doe / 36524 - doe / 146096) / 365
  let doy := doe - (365 * yoe + yoe / 4 - yoe / 100)
  let m := (5 * doy + 2) / 153
  let t := 12 * (400 * (n / 146097) + yoe) + m + 2
  (t / 12, t % 12 + 1, doy - (153 * m + 2) / 5 + 1)

def daysInMonth (year month : Int) : Int :=
  if month = 2 then if year % 4 = 0 ∧ (year % 100 ≠ 0 ∨ year % 400 = 0) then 29 else 28
  else if month = 4 ∨ month = 6 ∨ month = 9 ∨ month = 11 then 30 else 31

variable {y m d n doy : Int}

/-- The year of the cycle of 400 years from the day of the cycle. -/
theorem yearOfCycle (hy : 0 ≤ y) (hy' : y < 400) (hd : 0 ≤ doy) (hd' : doy ≤ 365)
    (hleap : doy = 365 → (y + 1) % 4 = 0 ∧ ((y + 1) % 100 ≠ 0 ∨ (y + 1) % 400 = 0))
    (hn : n = 365 * y + y / 4 - y / 100 + doy) : (n - n / 1460 + n / 36524 - n / 146096) / 365 = y := by
  obtain ⟨c, hc⟩ : ∃ c, c = y / 100 := ⟨_, rfl⟩
  obtain ⟨q, hq⟩ : ∃ q, q = y % 100 / 4 := ⟨_, rfl⟩
  obtain ⟨r, hr⟩ : ∃ r, r = y % 4 := ⟨_, rfl⟩
  obtain ⟨rest, hrest⟩ : ∃ rest, rest = 1461 * q + 365 * r + doy := ⟨_, rfl⟩
  have hyear : y = 100 * c + 4 * q + r := by omega
  have hday : n = 36524 * c + rest := by omega
  have hlast : (0 ≤ rest ∧ rest < 36524) ∨ (c = 3 ∧ rest = 36524) := by
    by_cases hlast : doy = 365
    · have := hleap hlast
      omega
    · omega
  have hcentury : n / 36524 - n / 146096 = c := by
    have hc3 : 0 ≤ c ∧ c ≤ 3 := by omega
    rcases hlast with hlast | ⟨rfl, rfl⟩
    · rw [Int.ediv_eq_zero_of_lt (by omega) (by omega : n < 146096)]
      omega
    · omega
  have hfour : n / 1460 = 25 * c + q + (24 * c + q + 365 * r + doy) / 1460 := by omega
  have hover : (24 * c + q + 365 * r + doy) / 1460 ≤ 1 := by omega
  omega

/-- The day of the year from March on, of a day that the month has. -/
theorem dayOfYear (hm : 1 ≤ m) (hm' : m ≤ 12) (hd : 1 ≤ d) (hd' : d ≤ daysInMonth y m)
    (hdoy : doy = (153 * ((m + 9) % 12) + 2) / 5 + d - 1) :
    0 ≤ doy ∧ doy ≤ 365 ∧ (doy = 365 → m = 2 ∧ y % 4 = 0 ∧ (y % 100 ≠ 0 ∨ y % 400 = 0)) ∧
      (5 * doy + 2) / 153 = (m + 9) % 12 := by
  unfold daysInMonth at hd'
  interval_cases m <;> simp only [Int.reduceEq, if_true, if_false, or_self, or_true, or_false] at hd' <;> omega

theorem civil_dayNumber (hm : 1 ≤ m) (hm' : m ≤ 12) (hd : 1 ≤ d) (hd' : d ≤ daysInMonth y m) :
    civil (dayNumber y m d) = (y, m, d) := by
  obtain ⟨doy, hdoy⟩ : ∃ doy, doy = (153 * ((m + 9) % 12) + 2) / 5 + d - 1 := ⟨_, rfl⟩
  obtain ⟨hlow, hhigh, hleap, hmonth⟩ := dayOfYear hm hm' hd hd' hdoy
  obtain ⟨march, hmarch⟩ : ∃ march, march = (12 * y + m - 3) / 12 := ⟨_, rfl⟩
  have hlast : doy = 365 → (march % 400 + 1) % 4 = 0 ∧ ((march % 400 + 1) % 100 ≠ 0 ∨ (march % 400 + 1) % 400 = 0) := by
    intro h
    obtain ⟨rfl, h4, h100⟩ := hleap h
    have hy : y = march + 1 := by omega
    omega
  obtain ⟨doe, hdoe⟩ : ∃ doe, doe = 365 * (march % 400) + march % 400 / 4 - march % 400 / 100 + doy := ⟨_, rfl⟩
  have hyoe := yearOfCycle (Int.emod_nonneg march (by decide)) (Int.emod_lt_of_pos march (by decide)) hlow hhigh hlast hdoe
  have hmod : (12 * y + m - 3) % 12 = (m + 9) % 12 := by omega
  have hdivs : march / 4 = 100 * (march / 400) + march % 400 / 4 ∧
      march / 100 = 4 * (march / 400) + march % 400 / 100 := by
    clear hyoe hdoe hdoy hlast hmonth hmarch hmod hleap hd'
    omega
  have hday : dayNumber y m d = 146097 * (march / 400) + doe := by
    simp only [dayNumber, ← hmarch, hmod]
    omega
  have hcycle : dayNumber y m d % 146097 = doe ∧ dayNumber y m d / 146097 = march / 400 := by
    have : 0 ≤ doe ∧ doe < 146097 := by omega
    omega
  have hback : doe - (365 * (march % 400) + march % 400 / 4 - march % 400 / 100) = doy := by omega
  have hmarches : 400 * (march / 400) + march % 400 = march := Int.mul_ediv_add_emod march 400
  simp only [civil, hcycle.1, hcycle.2, hyoe, hback, hmonth, hmarches, Prod.mk.injEq]
  omega

/-! ### The date of a day number -/

/-- The day of a cycle is a day of one of its years. -/
theorem exists_dayOfYear (hn : 0 ≤ n) (hn' : n < 146097) :
    ∃ y doy, 0 ≤ y ∧ y < 400 ∧ 0 ≤ doy ∧ doy ≤ 365 ∧
      (doy = 365 → (y + 1) % 4 = 0 ∧ ((y + 1) % 100 ≠ 0 ∨ (y + 1) % 400 = 0)) ∧
      n = 365 * y + y / 4 - y / 100 + doy := by
  -- a century has 36524 days, the last one 36525; four years have 1461, the last one of them 366
  obtain ⟨c, rest, hc, hc', hrest, hlast⟩ : ∃ c rest, 0 ≤ c ∧ c ≤ 3 ∧ n = 36524 * c + rest ∧
      (0 ≤ rest ∧ rest < 36524 ∨ c = 3 ∧ rest = 36524) := by
    by_cases hlast : n = 146096
    · exact ⟨3, 36524, by omega⟩
    · exact ⟨n / 36524, n % 36524, by omega⟩
  obtain ⟨q, rest', hq, hq', hrest'⟩ : ∃ q rest', rest = 1461 * q + rest' ∧ 0 ≤ rest' ∧ rest' < 1461 :=
    ⟨rest / 1461, rest % 1461, by omega⟩
  obtain ⟨r, doy, hr, hr', hdoy, hdoy', hleap⟩ : ∃ r doy, 0 ≤ r ∧ r ≤ 3 ∧ 0 ≤ doy ∧ rest' = 365 * r + doy ∧
      (doy < 365 ∨ r = 3 ∧ doy = 365) := by
    by_cases hlast : rest' = 1460
    · exact ⟨3, 365, by omega⟩
    · exact ⟨rest' / 365, rest' % 365, by omega⟩
  have hyear : 4 * q + r < 100 := by omega
  have hfour : (100 * c + 4 * q + r) / 4 = 25 * c + q ∧ (100 * c + 4 * q + r) / 100 = c := by omega
  refine ⟨100 * c + 4 * q + r, doy, by omega, by omega, hdoy, by omega, fun hlast => ?_, by omega⟩
  omega

/-- The number of a date is the day that it comes from; the month and the day are those of a calendar. -/
theorem dayNumber_civil (n : Int) : dayNumber (civil n).1 (civil n).2.1 (civil n).2.2 = n ∧
    1 ≤ (civil n).2.1 ∧ (civil n).2.1 ≤ 12 ∧ 1 ≤ (civil n).2.2 ∧ (civil n).2.2 ≤ 31 ∧
    400 * (n / 146097) ≤ (civil n).1 ∧ (civil n).1 ≤ 400 * (n / 146097) + 400 := by
  obtain ⟨doe, hdoe⟩ : ∃ doe, doe = n % 146097 := ⟨_, rfl⟩
  obtain ⟨y, doy, hy, hy', hlow, hhigh, hleap, hday⟩ :=
    exists_dayOfYear (Int.emod_nonneg n (by decide)) (Int.emod_lt_of_pos n (by decide))
  rw [← hdoe] at hday
  have hyoe := yearOfCycle hy hy' hlow hhigh hleap hday
  obtain ⟨m, hm⟩ : ∃ m, m = (5 * doy + 2) / 153 := ⟨_, rfl⟩
  have hback : doe - (365 * y + y / 4 - y / 100) = doy := by omega
  have hmonth : 0 ≤ m ∧ m ≤ 11 := by omega
  have hcivil : civil n = ((12 * (400 * (n / 146097) + y) + m + 2) / 12, (12 * (400 * (n / 146097) + y) + m + 2) % 12 + 1,
      doy - (153 * m + 2) / 5 + 1) := by
    simp only [civil, ← hdoe, hyoe, hback, ← hm]
  obtain ⟨march, hmarch⟩ : ∃ march, march = 400 * (n / 146097) + y := ⟨_, rfl⟩
  have hmonths : (12 * ((12 * march + m + 2) / 12) + ((12 * march + m + 2) % 12 + 1) - 3) = 12 * march + m := by omega
  have hdivs : (12 * march + m) / 12 = march ∧ (12 * march + m) % 12 = m := by omega
  have hcycle : march / 4 = 100 * (n / 146097) + y / 4 ∧ march / 100 = 4 * (n / 146097) + y / 100 ∧
      march / 400 = n / 146097 := by omega
  have hnumber : 146097 * (n / 146097) + doe = n := by omega
  rw [hcivil, ← hmarch]
  simp only [dayNumber, hmonths, hdivs, hcycle]
  refine ⟨?_, ?_⟩
  · clear hyoe hcivil hmonths hdivs hcycle
    omega
  · clear hyoe hcivil hcycle hdoe hday
    omega

end Calendar
