/-!
# BacktestDesk.Calendar.Date

Dates of the proleptic Gregorian calendar in the years -262143 to 262142, and the numbering of days
from 1970-01-01. `isDate_civil`: every day number in the range is the number of a date.
-/

namespace BacktestDesk
namespace Calendar

def minYear : Int := -262143

def maxYear : Int := 262142

def isLeap (year : Int) : Bool :=
  year % 4 = 0 && (year % 100 ≠ 0 || year % 400 = 0)

def monthLengths (leap : Bool) : List Nat :=
  [31, if leap then 29 else 28, 31, 30, 31, 30, 31, 31, 30, 31, 30, 31]

def daysInMonth (year : Int) (month : Nat) : Nat :=
  (monthLengths (isLeap year)).getD (month - 1) 0

/-- Whether year, month and day name a date of the calendar. -/
def isDate (year : Int) (month day : Nat) : Bool :=
  minYear ≤ year && year ≤ maxYear && 1 ≤ month && month ≤ 12 && 1 ≤ day &&
    day ≤ daysInMonth year month

theorem isDate_iff {year : Int} {month day : Nat} :
    isDate year month day = true ↔
      minYear ≤ year ∧ year ≤ maxYear ∧ 1 ≤ month ∧ month ≤ 12 ∧ 1 ≤ day ∧
        day ≤ daysInMonth year month := by
  simp [isDate, and_assoc]

/-- A date that exists. -/
structure Date where
  year : Int
  month : Nat
  day : Nat
  valid : isDate year month day = true
  deriving DecidableEq

def Date.of? (year : Int) (month day : Nat) : Option Date :=
  if h : isDate year month day = true then some ⟨year, month, day, h⟩ else none

/-! ## Day numbers -/

/-- The days of months together. -/
def daysOf (lengths : List Nat) : Nat :=
  lengths.foldr (· + ·) 0

/-- The days between 0001-01-01 and the first day of a year. -/
def daysBeforeYear (year : Int) : Int :=
  365 * (year - 1) + (year - 1) / 4 - (year - 1) / 100 + (year - 1) / 400

/-- The days between 0001-01-01 and 1970-01-01. -/
def epoch : Int := 719162

def Date.dayNumber (d : Date) : Int :=
  daysBeforeYear d.year + daysOf ((monthLengths (isLeap d.year)).take (d.month - 1)) + (d.day - 1)
    - epoch

def Date.le (a b : Date) : Bool :=
  a.dayNumber ≤ b.dayNumber

/-- The year of a day counted from 0001-01-01: an estimate by the mean length of a year, which is
never more than one year off. -/
def yearOf (n : Int) : Int :=
  let y := n * 400 / 146097 + 1
  if n < daysBeforeYear y then y - 1
  else if daysBeforeYear (y + 1) ≤ n then y + 1
  else y

/-- Month and day of a day counted from the first of its year, with `month` the number of the
first month in the list. -/
def monthAndDay (month : Nat) : List Nat → Nat → Nat × Nat
  | [], n => (month, n + 1)
  | length :: rest, n =>
    if n < length then (month, n + 1) else monthAndDay (month + 1) rest (n - length)

/-- Year, month and day of a day number. -/
def civil (number : Int) : Int × Nat × Nat :=
  let n := number + epoch
  let year := yearOf n
  (year, monthAndDay 1 (monthLengths (isLeap year)) (n - daysBeforeYear year).toNat)

def firstDay : Int := daysBeforeYear minYear - epoch

def lastDay : Int := daysBeforeYear (maxYear + 1) - epoch - 1

theorem yearOf_spec (n : Int) :
    daysBeforeYear (yearOf n) ≤ n ∧ n < daysBeforeYear (yearOf n + 1) := by
  simp only [yearOf]
  split
  · rename_i h
    simp only [daysBeforeYear] at h ⊢
    omega
  · split
    · rename_i h
      simp only [daysBeforeYear] at h ⊢
      omega
    · omega

theorem daysBeforeYear_mono {a b : Int} (h : a ≤ b) : daysBeforeYear a ≤ daysBeforeYear b := by
  simp only [daysBeforeYear]
  omega

theorem daysBeforeYear_succ (year : Int) :
    daysBeforeYear (year + 1) = daysBeforeYear year + daysOf (monthLengths (isLeap year)) := by
  by_cases h : isLeap year = true
  · simp only [h, monthLengths, if_true, daysOf, List.foldr_cons, List.foldr_nil]
    simp only [isLeap, Bool.and_eq_true, Bool.or_eq_true, decide_eq_true_eq] at h
    simp only [daysBeforeYear]
    omega
  · simp only [h, monthLengths, daysOf, List.foldr_cons, List.foldr_nil]
    simp only [isLeap, Bool.and_eq_true, Bool.or_eq_true, decide_eq_true_eq] at h
    simp only [daysBeforeYear]
    grind

theorem monthAndDay_spec (lengths : List Nat) (n month : Nat) (h : n < daysOf lengths) :
    ∃ i, (monthAndDay month lengths n).1 = month + i ∧ i < lengths.length ∧
      1 ≤ (monthAndDay month lengths n).2 ∧
      (monthAndDay month lengths n).2 ≤ lengths.getD i 0 := by
  induction lengths generalizing month n with
  | nil => simp [daysOf] at h
  | cons length rest ih =>
    simp only [monthAndDay]
    split
    · exact ⟨0, rfl, by simp, by omega, by simpa using by omega⟩
    · rename_i hge
      obtain ⟨i, h1, h2, h3, h4⟩ := ih (n - length) (month + 1)
        (by simp only [daysOf, List.foldr_cons] at h ⊢; omega)
      exact ⟨i + 1, by omega, by simpa using h2, h3, by simpa using h4⟩

theorem isDate_civil {number : Int} (h : firstDay ≤ number ∧ number ≤ lastDay) :
    isDate (civil number).1 (civil number).2.1 (civil number).2.2 = true := by
  obtain ⟨hlo, hhi⟩ := yearOf_spec (number + epoch)
  have hsucc := daysBeforeYear_succ (yearOf (number + epoch))
  have hmin : minYear ≤ yearOf (number + epoch) := by
    refine Decidable.byContradiction fun hlt => ?_
    have := daysBeforeYear_mono (a := yearOf (number + epoch) + 1) (b := minYear) (by omega)
    simp only [firstDay] at h
    omega
  have hmax : yearOf (number + epoch) ≤ maxYear := by
    refine Decidable.byContradiction fun hlt => ?_
    have := daysBeforeYear_mono (a := maxYear + 1) (b := yearOf (number + epoch)) (by omega)
    simp only [lastDay] at h
    omega
  obtain ⟨i, h1, h2, h3, h4⟩ := monthAndDay_spec
    (monthLengths (isLeap (yearOf (number + epoch))))
    (number + epoch - daysBeforeYear (yearOf (number + epoch))).toNat 1 (by omega)
  have hlen : (monthLengths (isLeap (yearOf (number + epoch)))).length = 12 := rfl
  have hmonth : (civil number).2.1 = 1 + i := h1
  refine isDate_iff.2 ⟨hmin, hmax, by omega, by omega, h3, ?_⟩
  rw [hmonth, daysInMonth, Nat.add_sub_cancel_left]
  exact h4

/-- The date with a day number. -/
def Date.ofDayNumber (number : Int) (h : firstDay ≤ number ∧ number ≤ lastDay) : Date :=
  ⟨(civil number).1, (civil number).2.1, (civil number).2.2, isDate_civil h⟩

end Calendar
end BacktestDesk
