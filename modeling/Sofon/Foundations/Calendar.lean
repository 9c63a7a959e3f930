import Mathlib.Data.Int.Notation
import Mathlib.Tactic.IntervalCases

/-!
# The calendar

Days are numbered from the first of January 1970, and a date is a year, a month and a day of
the Gregorian calendar, before its introduction as well as after.

Years are counted from March here, so that a leap day is the last day of its year and the
lengths of the months before it do not depend on the year.  A day is then found in its period
of 400 years, there in its century, there in its period of four years, and there in its year;
only the last century of the first and the last year of the last are a day longer.
-/

namespace Calendar

/-- A date. -/
structure Date where
  year : ℤ
  month : ℤ
  day : ℤ
  deriving DecidableEq

/-- Is it a leap year? -/
def isLeap (year : ℤ) : Bool := year % 4 = 0 && (year % 100 ≠ 0 || year % 400 = 0)

/-- The length of a month. -/
def daysIn (year month : ℤ) : ℤ :=
  if month = 2 then if isLeap year then 29 else 28
  else if month = 4 ∨ month = 6 ∨ month = 9 ∨ month = 11 then 30
  else 31

/-- The month and the day of a day of the year that starts in March. -/
def monthDay (doy : ℤ) : ℤ × ℤ :=
  let m := (5 * doy + 2) / 153
  (if m < 10 then m + 3 else m - 9, doy - (153 * m + 2) / 5 + 1)

/-- A day within 400 years, as the number of its year and the day in this year. -/
def yearDay (doe : ℤ) : ℤ × ℤ :=
  let century := min (doe / 36524) 3
  let doc := doe - century * 36524
  let period := doc / 1461
  let dop := doc - period * 1461
  let year := min (dop / 365) 3
  (century * 100 + period * 4 + year, dop - year * 365)

/-- The date of a day. -/
def ofDays (z : ℤ) : Date :=
  let days := z + 719468
  let (yoe, doy) := yearDay (days % 146097)
  let (month, day) := monthDay doy
  let year := days / 146097 * 400 + yoe
  ⟨if month ≤ 2 then year + 1 else year, month, day⟩

/-- The day of a date. -/
def Date.toDays (d : Date) : ℤ :=
  let year := if d.month ≤ 2 then d.year - 1 else d.year
  let m := (d.month + 9) % 12
  365 * year + year / 4 - year / 100 + year / 400 + (153 * m + 2) / 5 + d.day - 719469

/-- What `monthDay` gives: a month, and a day that this month has, in a leap year if the day
of the year is the last. -/
theorem monthDay_spec {doy : ℤ} (h₀ : 0 ≤ doy) (h₁ : doy ≤ 365) :
    1 ≤ (monthDay doy).1 ∧ (monthDay doy).1 ≤ 12 ∧ 1 ≤ (monthDay doy).2 ∧
      (153 * (((monthDay doy).1 + 9) % 12) + 2) / 5 + (monthDay doy).2 - 1 = doy ∧
      ((monthDay doy).1 = 2 → (monthDay doy).2 ≤ 28 ∨ (monthDay doy).2 = 29 ∧ doy = 365) ∧
      ((monthDay doy).1 ≠ 2 → ∀ year, (monthDay doy).2 ≤ daysIn year (monthDay doy).1) := by
  unfold monthDay daysIn
  simp only
  generalize hm : (5 * doy + 2) / 153 = m
  have hm₀ : 0 ≤ m := by omega
  have hm₁ : m ≤ 11 := by omega
  interval_cases m <;> simp <;> omega

/-- What `yearDay` gives: a year of 400, and a day of it, which is the last one of a leap
year only if the next year is one. -/
theorem yearDay_spec {doe : ℤ} (h₀ : 0 ≤ doe) (h₁ : doe < 146097) :
    0 ≤ (yearDay doe).1 ∧ (yearDay doe).1 < 400 ∧ 0 ≤ (yearDay doe).2 ∧ (yearDay doe).2 ≤ 365 ∧
      365 * (yearDay doe).1 + (yearDay doe).1 / 4 - (yearDay doe).1 / 100 + (yearDay doe).2 = doe ∧
      ((yearDay doe).2 = 365 → ((yearDay doe).1 + 1) % 4 = 0 ∧
        (((yearDay doe).1 + 1) % 100 ≠ 0 ∨ (yearDay doe).1 + 1 = 400)) := by
  unfold yearDay
  simp only
  generalize hc : min (doe / 36524) 3 = century
  have hc' : 0 ≤ century ∧ century ≤ 3 ∧ century * 36524 ≤ doe ∧
      (century < 3 → doe < (century + 1) * 36524) := by omega
  generalize hd : doe - century * 36524 = doc
  have hd' : 0 ≤ doc ∧ doc ≤ 36524 ∧ (century < 3 → doc < 36524) := by omega
  generalize hp : doc / 1461 = period
  have hp' : 0 ≤ period ∧ period ≤ 24 := by omega
  generalize hq : doc - period * 1461 = dop
  have hq' : 0 ≤ dop ∧ dop < 1461 := by omega
  generalize hy : min (dop / 365) 3 = year
  have hy' : 0 ≤ year ∧ year ≤ 3 ∧ year * 365 ≤ dop ∧ (year < 3 → dop < (year + 1) * 365) := by
    omega
  have h4 : (century * 100 + period * 4 + year) / 4 = century * 25 + period := by omega
  have h100 : (century * 100 + period * 4 + year) / 100 = century := by omega
  rw [h4, h100]
  refine ⟨by omega, by omega, by omega, by omega, by omega, fun hlast => ?_⟩
  omega

/-- **A day has a date that exists.**  The month is one of twelve, and its day is no later than the
last one of that month in that year. -/
theorem ofDays_valid (z : ℤ) : 1 ≤ (ofDays z).month ∧ (ofDays z).month ≤ 12 ∧
    1 ≤ (ofDays z).day ∧ (ofDays z).day ≤ daysIn (ofDays z).year (ofDays z).month := by
  have hdoe₀ : 0 ≤ (z + 719468) % 146097 := by omega
  have hdoe₁ : (z + 719468) % 146097 < 146097 := by omega
  obtain ⟨-, -, hdoy₀, hdoy₁, -, hleap⟩ := yearDay_spec hdoe₀ hdoe₁
  obtain ⟨hm₁, hm₂, hd₁, -, hfeb, hother⟩ := monthDay_spec hdoy₀ hdoy₁
  unfold ofDays
  simp only
  generalize yearDay ((z + 719468) % 146097) = y at *
  generalize monthDay y.2 = md at *
  refine ⟨hm₁, hm₂, hd₁, ?_⟩
  by_cases hmonth : md.1 = 2
  · rw [if_pos (by omega)]
    unfold daysIn
    rw [if_pos hmonth]
    rcases hfeb hmonth with hd | ⟨hd, hlast⟩
    · split <;> omega
    · -- the 29th is the last day of a year before a leap year
      obtain ⟨h4, h100⟩ := hleap hlast
      rw [if_pos, hd]
      unfold isLeap
      simp only [ne_eq, Bool.and_eq_true, decide_eq_true_eq, Bool.or_eq_true, decide_not,
        Bool.not_eq_true', decide_eq_false_iff_not]
      omega
  · exact hother hmonth _

/-- **The day of its date** is the day. -/
theorem toDays_ofDays (z : ℤ) : (ofDays z).toDays = z := by
  have hdoe₀ : 0 ≤ (z + 719468) % 146097 := by omega
  have hdoe₁ : (z + 719468) % 146097 < 146097 := by omega
  obtain ⟨hy₀, hy₁, hdoy₀, hdoy₁, hdoe, -⟩ := yearDay_spec hdoe₀ hdoe₁
  obtain ⟨hm₁, hm₂, -, hdoy, -⟩ := monthDay_spec hdoy₀ hdoy₁
  unfold ofDays Date.toDays
  simp only
  generalize hdoe' : (z + 719468) % 146097 = doe at *
  generalize yearDay doe = y at *
  generalize monthDay y.2 = md at *
  have hyear : (if md.1 ≤ 2 then
      (if md.1 ≤ 2 then (z + 719468) / 146097 * 400 + y.1 + 1
        else (z + 719468) / 146097 * 400 + y.1) - 1
      else if md.1 ≤ 2 then (z + 719468) / 146097 * 400 + y.1 + 1
        else (z + 719468) / 146097 * 400 + y.1) = (z + 719468) / 146097 * 400 + y.1 := by
    split <;> omega
  rw [hyear]
  generalize hera : (z + 719468) / 146097 = era at *
  have h4 : (era * 400 + y.1) / 4 = era * 100 + y.1 / 4 := by omega
  have h100 : (era * 400 + y.1) / 100 = era * 4 + y.1 / 100 := by omega
  have h400 : (era * 400 + y.1) / 400 = era := by omega
  rw [h4, h100, h400]
  omega

end Calendar
