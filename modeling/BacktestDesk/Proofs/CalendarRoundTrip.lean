import BacktestDesk.Calendar.Instant
import Mathlib.Data.Prod.Lex

/-!
# BacktestDesk.Proofs.CalendarRoundTrip

Dates and their day numbers. `Date.ofDayNumber` and `Date.dayNumber` undo each other, so a date has
a number of its own, and an instant at a second of a date falls on that date.

* `yearOf_eq`, `monthAndDay_eq`: the estimate finds the year, the walk along the months the rest.
* `Date.ofDayNumber_dayNumber`, `Date.dayNumber_ofDayNumber`: the date with the number of a date,
  and the number of the date with a number.
* `Date.le_iff`: dates are compared by year, month and day.
* `Instant.ofLocal?_onDay`: the instant of a second of a day in universal time.
* `Instant.seconds_eq`: an instant told by its date and the second of its day.
-/

namespace BacktestDesk
namespace Calendar

/-! ## Years -/

theorem yearOf_eq {n year : Int} (hlo : daysBeforeYear year ≤ n)
    (hhi : n < daysBeforeYear (year + 1)) : yearOf n = year := by
  -- Both years hold day `n`, and a later year begins behind an earlier one.
  obtain ⟨hlo', hhi'⟩ := yearOf_spec n
  refine Int.le_antisymm ?_ ?_
  · refine Int.not_lt.mp fun hlt => ?_
    have hmono := daysBeforeYear_mono (a := year + 1) (b := yearOf n) (by omega)
    omega
  · refine Int.not_lt.mp fun hlt => ?_
    have hmono := daysBeforeYear_mono (a := yearOf n + 1) (b := year) (by omega)
    omega

/-! ## Months -/

theorem daysOf_take_add_le {lengths : List Nat} {i day : Nat} (hday : day ≤ lengths.getD i 0) :
    daysOf (lengths.take i) + day ≤ daysOf lengths := by
  induction lengths generalizing i with
  | nil => simpa [daysOf] using hday
  | cons length rest ih =>
    cases i with
    | zero =>
      rw [List.getD_cons_zero] at hday
      simp only [List.take_zero, daysOf, List.foldr_nil, List.foldr_cons]
      omega
    | succ i =>
      rw [List.getD_cons_succ] at hday
      have hrest := ih hday
      simp only [List.take_succ_cons, daysOf, List.foldr_cons] at hrest ⊢
      omega

/-- A day of a month is found behind the days of the months before it. -/
theorem monthAndDay_eq {lengths : List Nat} {i day : Nat} (month : Nat) (hpos : 1 ≤ day)
    (hday : day ≤ lengths.getD i 0) :
    monthAndDay month lengths (daysOf (lengths.take i) + (day - 1)) = (month + i, day) := by
  -- The walk leaves one month behind with each step; `i` are still to go.
  induction lengths generalizing i month with
  | nil =>
    rw [List.getD_nil] at hday
    omega
  | cons length rest ih =>
    cases i with
    | zero =>
      rw [List.getD_cons_zero] at hday
      have hlt : day - 1 < length := by omega
      have hsucc : day - 1 + 1 = day := by omega
      simp only [List.take_zero, daysOf, List.foldr_nil, Nat.zero_add, monthAndDay, hlt, if_true,
        hsucc, Nat.add_zero]
    | succ i =>
      rw [List.getD_cons_succ] at hday
      have hge : ¬ length + daysOf (rest.take i) + (day - 1) < length := by omega
      have hsub : length + daysOf (rest.take i) + (day - 1) - length =
          daysOf (rest.take i) + (day - 1) := by omega
      have hmonth : month + 1 + i = month + (i + 1) := by omega
      have hsum : daysOf ((length :: rest).take (i + 1)) = length + daysOf (rest.take i) := rfl
      rw [hsum, monthAndDay, if_neg hge, hsub, ih (month + 1) hday, hmonth]

/-- The walk along the months loses no day. -/
theorem monthAndDay_place {lengths : List Nat} {n : Nat} (month : Nat) (h : n < daysOf lengths) :
    ∃ i, (monthAndDay month lengths n).1 = month + i ∧
      daysOf (lengths.take i) + ((monthAndDay month lengths n).2 - 1) = n := by
  induction lengths generalizing month n with
  | nil => cases h
  | cons length rest ih =>
    rw [monthAndDay]
    split
    · exact ⟨0, rfl, by rw [List.take_zero, Nat.add_sub_cancel]; exact Nat.zero_add n⟩
    · rename_i hge
      have hrest : n - length < daysOf rest := by
        simp only [daysOf, List.foldr_cons] at h ⊢
        omega
      obtain ⟨i, hmonth, hplace⟩ := ih (month + 1) hrest
      have hsum : daysOf ((length :: rest).take (i + 1)) = length + daysOf (rest.take i) := rfl
      exact ⟨i + 1, by omega, by omega⟩

/-! ## Dates -/

namespace Date

/-- The place of a date in its year, counted from zero. -/
def dayOfYear (d : Date) : Nat :=
  daysOf ((monthLengths (isLeap d.year)).take (d.month - 1)) + (d.day - 1)

theorem dayNumber_eq (d : Date) : d.dayNumber = daysBeforeYear d.year + d.dayOfYear - epoch := by
  obtain ⟨-, -, -, -, hday, -⟩ := isDate_iff.1 d.valid
  rw [dayNumber, dayOfYear]
  omega

theorem dayOfYear_lt (d : Date) :
    daysBeforeYear d.year + d.dayOfYear < daysBeforeYear (d.year + 1) := by
  obtain ⟨-, -, -, -, hpos, hday⟩ := isDate_iff.1 d.valid
  have hle := daysOf_take_add_le hday
  rw [daysBeforeYear_succ, dayOfYear]
  omega

theorem dayNumber_mem (d : Date) : firstDay ≤ d.dayNumber ∧ d.dayNumber ≤ lastDay := by
  obtain ⟨hmin, hmax, -, -, -, -⟩ := isDate_iff.1 d.valid
  have hlt := d.dayOfYear_lt
  have hfirst := daysBeforeYear_mono hmin
  have hlast := daysBeforeYear_mono (a := d.year + 1) (b := maxYear + 1) (by omega)
  rw [d.dayNumber_eq, firstDay, lastDay]
  omega

theorem civil_dayNumber (d : Date) : civil d.dayNumber = (d.year, d.month, d.day) := by
  obtain ⟨-, -, hmonth, -, hpos, hday⟩ := isDate_iff.1 d.valid
  have hnumber : d.dayNumber + epoch = daysBeforeYear d.year + d.dayOfYear := by
    rw [d.dayNumber_eq]
    omega
  have hyear : yearOf (d.dayNumber + epoch) = d.year :=
    yearOf_eq (by omega) (hnumber ▸ d.dayOfYear_lt)
  have hplace : (d.dayNumber + epoch - daysBeforeYear d.year).toNat = d.dayOfYear := by omega
  have hfirst : 1 + (d.month - 1) = d.month := by omega
  simp only [civil, hyear, hplace]
  rw [dayOfYear, monthAndDay_eq 1 hpos hday, hfirst]

theorem ofDayNumber_dayNumber (d : Date) (h : firstDay ≤ d.dayNumber ∧ d.dayNumber ≤ lastDay) :
    ofDayNumber d.dayNumber h = d := by
  have hcivil := d.civil_dayNumber
  cases d
  simp only [ofDayNumber, hcivil]

theorem dayNumber_ofDayNumber {number : Int} (h : firstDay ≤ number ∧ number ≤ lastDay) :
    (ofDayNumber number h).dayNumber = number := by
  obtain ⟨hlo, hhi⟩ := yearOf_spec (number + epoch)
  rw [daysBeforeYear_succ] at hhi
  have hplace : (number + epoch - daysBeforeYear (yearOf (number + epoch))).toNat <
      daysOf (monthLengths (isLeap (yearOf (number + epoch)))) := by omega
  obtain ⟨i, hmonth, hday⟩ := monthAndDay_place 1 hplace
  rw [dayNumber_eq, dayOfYear]
  simp only [ofDayNumber, civil, hmonth, Nat.add_sub_cancel_left, hday]
  omega

end Date

/-! ## The order of dates -/

theorem daysOf_take_lt {lengths : List Nat} {i j day : Nat} (hday : day ≤ lengths.getD i 0)
    (hij : i < j) : daysOf (lengths.take i) + day ≤ daysOf (lengths.take j) := by
  have hin : day ≤ (lengths.take j).getD i 0 := by
    rwa [List.getD_eq_getElem?_getD, List.getElem?_take_of_lt hij, ← List.getD_eq_getElem?_getD]
  have hle := daysOf_take_add_le hin
  rwa [List.take_take, Nat.min_eq_left (Nat.le_of_lt hij)] at hle

namespace Date

/-- Year, month and day, the year first. -/
def key (d : Date) : Int ×ₗ Nat ×ₗ Nat :=
  toLex (d.year, toLex (d.month, d.day))

theorem key_injective : Function.Injective key := by
  intro a b h
  cases a
  cases b
  cases h
  rfl

theorem dayNumber_strictMono {a b : Date} (h : a.key < b.key) : a.dayNumber < b.dayNumber := by
  obtain ⟨-, -, hmonth, -, hpos, hday⟩ := isDate_iff.1 a.valid
  obtain ⟨-, -, -, -, hpos', -⟩ := isDate_iff.1 b.valid
  have hlt := a.dayOfYear_lt
  rw [a.dayNumber_eq, b.dayNumber_eq]
  simp only [key, Prod.Lex.toLex_lt_toLex] at h
  rcases h with hyear | ⟨hyear, hmonths | ⟨hmonths, hdays⟩⟩
  · have hmono := daysBeforeYear_mono (a := a.year + 1) (b := b.year) (by omega)
    omega
  · have htake := daysOf_take_lt (j := b.month - 1) hday (by omega)
    simp only [dayOfYear, hyear] at htake ⊢
    omega
  · simp only [dayOfYear, hyear, hmonths]
    omega

theorem le_iff {a b : Date} : a.le b = true ↔ a.key ≤ b.key := by
  rw [le, decide_eq_true_eq]
  rcases lt_trichotomy a.key b.key with h | h | h
  · exact iff_of_true (Int.le_of_lt (dayNumber_strictMono h)) h.le
  · rw [key_injective h]
    exact iff_of_true (Int.le_refl _) (le_refl _)
  · exact iff_of_false (Int.not_le.mpr (dayNumber_strictMono h)) (not_le.mpr h)

end Date

/-! ## Instants of a day -/

namespace Instant

theorem date_eq {t : Instant} {d : Date} (h : t.dayNumber = d.dayNumber) : t.date = d := by
  simp only [date, h, Date.ofDayNumber_dayNumber]

theorem dayNumber_date (t : Instant) : t.date.dayNumber = t.dayNumber :=
  Date.dayNumber_ofDayNumber t.dayNumber_mem

theorem secondOfDay_lt (t : Instant) : t.secondOfDay < 86400 := by
  simp only [secondOfDay, secondsPerDay]
  omega

theorem seconds_eq (t : Instant) :
    t.seconds = t.date.dayNumber * secondsPerDay + t.secondOfDay := by
  rw [t.dayNumber_date]
  simp only [dayNumber, secondOfDay, secondsPerDay]
  omega

/-- Every second of every date is an instant, and it falls on that date. -/
theorem ofLocal?_onDay (d : Date) {second : Nat} (h : second < 86400) :
    ∃ t, ofLocal? d second 0 0 = some t ∧ t.date = d ∧ t.secondOfDay = second ∧ t.nanos = 0 := by
  obtain ⟨hfirst, hlast⟩ := d.dayNumber_mem
  have hvalid : isInstant (d.dayNumber * secondsPerDay + second - 0) 0 = true := by
    rw [isInstant_iff]
    simp only [firstSecond, lastSecond, secondsPerDay, nanosPerSecond]
    omega
  refine ⟨⟨_, 0, hvalid⟩, dif_pos hvalid, date_eq ?_, ?_, rfl⟩
  · simp only [dayNumber, secondsPerDay]
    omega
  · simp only [secondOfDay, secondsPerDay]
    omega

end Instant
end Calendar
end BacktestDesk
