import BacktestDesk.Proofs.RuleOrder

/-!
# BacktestDesk.Proofs.OfferedDays

The days that a form offers: yesterday and today. `Date.Precedes` is what the day before means in a
calendar, over the ends of months, of years and of February. 24 hours before an instant it is the
day before, but for a leap second at midnight, which is the 86401st second of its day.

* `Date.precedes_iff`: the day before has the number before.
* `Instant.dayEarlier?_eq`: 24 hours earlier, told by the seconds that have gone by.
* `offered_days`: the days that are offered, and that a request may have them.
-/

namespace BacktestDesk
namespace Calendar

/-! ## The day before -/

theorem daysOf_take_succ (lengths : List Nat) (i : Nat) :
    daysOf (lengths.take (i + 1)) = daysOf (lengths.take i) + lengths.getD i 0 := by
  induction lengths generalizing i with
  | nil => simp [daysOf]
  | cons length rest ih =>
    cases i with
    | zero => simp [daysOf]
    | succ i =>
      have hrest := ih i
      simp only [List.take_succ_cons, daysOf, List.foldr_cons, List.getD_cons_succ] at hrest ⊢
      omega

namespace Date

/-- `b` comes right after `a`: on the next day of the month, or on the first day of the next month
when `a` is the last day of its own, or on New Year. -/
inductive Precedes (a b : Date) : Prop where
  | inMonth (year : b.year = a.year) (month : b.month = a.month) (day : b.day = a.day + 1)
  | newMonth (last : a.day = daysInMonth a.year a.month) (year : b.year = a.year)
      (month : b.month = a.month + 1) (day : b.day = 1)
  | newYear (last : a.month = 12 ∧ a.day = 31) (year : b.year = a.year + 1)
      (first : b.month = 1 ∧ b.day = 1)

theorem dayNumber_injective {a b : Date} (h : a.dayNumber = b.dayNumber) : a = b := by
  have hcivil := a.civil_dayNumber
  rw [h, b.civil_dayNumber] at hcivil
  cases a
  cases b
  cases hcivil
  rfl

/-- On the last day of a month all days of the year up to its end are over. -/
theorem dayOfYear_last {a : Date} (h : a.day = daysInMonth a.year a.month) :
    a.dayOfYear + 1 = daysOf ((monthLengths (isLeap a.year)).take a.month) := by
  obtain ⟨-, -, hmonth, -, hday, -⟩ := isDate_iff.1 a.valid
  have htake := daysOf_take_succ (monthLengths (isLeap a.year)) (a.month - 1)
  rw [Nat.sub_add_cancel hmonth, ← daysInMonth, ← h] at htake
  rw [dayOfYear, htake]
  omega

theorem dayNumber_newYear {a : Date} (h : a.month = 12 ∧ a.day = 31) :
    a.dayNumber + 1 = daysBeforeYear (a.year + 1) - epoch := by
  have hlast : a.day = daysInMonth a.year a.month := by
    rw [h.1, h.2]
    rfl
  have hyear := dayOfYear_last hlast
  have hall : (monthLengths (isLeap a.year)).take 12 = monthLengths (isLeap a.year) := rfl
  rw [h.1, hall] at hyear
  rw [a.dayNumber_eq, daysBeforeYear_succ, ← hyear]
  omega

theorem Precedes.dayNumber {a b : Date} (h : a.Precedes b) : b.dayNumber = a.dayNumber + 1 := by
  obtain ⟨-, -, hmonth, -, hday, -⟩ := isDate_iff.1 a.valid
  rw [b.dayNumber_eq]
  cases h with
  | inMonth year month day =>
    rw [a.dayNumber_eq, dayOfYear, dayOfYear, year, month, day]
    omega
  | newMonth last year month day =>
    have hend := dayOfYear_last last
    rw [a.dayNumber_eq, dayOfYear, year, month, day, Nat.add_sub_cancel, ← hend]
    omega
  | newYear last year first =>
    rw [dayNumber_newYear last, dayOfYear, year, first.1, first.2]
    simp [daysOf]

theorem daysInMonth_pos {month : Nat} (year : Int) (hpos : 1 ≤ month) (hlast : month ≤ 12) :
    1 ≤ daysInMonth year month := by
  rw [daysInMonth]
  generalize isLeap year = leap
  revert month
  revert leap
  decide

/-- There is a day after every day but the last of the calendar. -/
theorem exists_precedes {a : Date} (h : a.dayNumber < lastDay) : ∃ b, a.Precedes b := by
  obtain ⟨hmin, hmax, hpos, hlast, -, hday⟩ := isDate_iff.1 a.valid
  by_cases hin : a.day < daysInMonth a.year a.month
  · have hvalid : isDate a.year a.month (a.day + 1) = true :=
      isDate_iff.2 ⟨hmin, hmax, hpos, hlast, by omega, hin⟩
    exact ⟨⟨_, _, _, hvalid⟩, .inMonth rfl rfl rfl⟩
  have hend : a.day = daysInMonth a.year a.month := by omega
  by_cases hmonth : a.month < 12
  · have hvalid : isDate a.year (a.month + 1) 1 = true :=
      isDate_iff.2 ⟨hmin, hmax, by omega, hmonth, by decide, daysInMonth_pos _ (by omega) hmonth⟩
    exact ⟨⟨_, _, _, hvalid⟩, .newMonth hend rfl rfl rfl⟩
  · have htwelve : a.month = 12 := by omega
    have hdecember : a.month = 12 ∧ a.day = 31 := by
      rw [htwelve] at hend
      exact ⟨htwelve, hend⟩
    have hyear : a.year + 1 ≤ maxYear := by
      by_contra hgt
      have hmono := daysBeforeYear_mono (a := maxYear + 1) (b := a.year + 1) (by omega)
      have hnumber := dayNumber_newYear hdecember
      rw [lastDay] at h
      omega
    have hvalid : isDate (a.year + 1) 1 1 = true :=
      isDate_iff.2 ⟨by omega, hyear, by decide, by decide, by decide,
        daysInMonth_pos _ (by decide) (by decide)⟩
    exact ⟨⟨_, _, _, hvalid⟩, .newYear hdecember rfl ⟨rfl, rfl⟩⟩

theorem precedes_iff {a b : Date} : a.Precedes b ↔ b.dayNumber = a.dayNumber + 1 := by
  refine ⟨Precedes.dayNumber, fun h => ?_⟩
  obtain ⟨-, hlast⟩ := b.dayNumber_mem
  obtain ⟨c, hc⟩ := exists_precedes (a := a) (by omega)
  rwa [dayNumber_injective (h.trans hc.dayNumber.symm)]

end Date

/-! ## 24 hours earlier -/

namespace Instant

/-- The seconds that have gone by since 1970, a leap second being counted as the one after it. -/
def elapsed (t : Instant) : Int :=
  t.seconds + (t.nanos / nanosPerSecond : Nat)

/-- A leap second at the end of a day. -/
structure IsMidnightLeap (t : Instant) : Prop where
  hour : t.hour = 23
  minute : t.minute = 59
  second : t.second = 60

theorem isMidnightLeap_iff {t : Instant} :
    t.IsMidnightLeap ↔ t.secondOfDay = 86399 ∧ t.nanos / nanosPerSecond = 1 := by
  have hlt := t.secondOfDay_lt
  obtain ⟨-, -, hnanos⟩ := isInstant_iff.1 t.valid
  simp only [nanosPerSecond] at hnanos
  constructor
  · rintro ⟨hhour, hminute, hsecond⟩
    simp only [hour, minute, second, nanosPerSecond] at hhour hminute hsecond ⊢
    omega
  · rintro ⟨hday, hleap⟩
    refine ⟨?_, ?_, ?_⟩ <;> simp [hour, minute, second, hday, hleap]

theorem dayEarlier?_eq (t : Instant) :
    t.dayEarlier? = of? (t.elapsed - secondsPerDay) (t.nanos % nanosPerSecond) := by
  obtain ⟨-, -, hnanos⟩ := isInstant_iff.1 t.valid
  rw [dayEarlier?, elapsed]
  split
  · rename_i hplain
    rw [Nat.div_eq_of_lt hplain, Nat.mod_eq_of_lt hplain, Int.natCast_zero, Int.add_zero]
  · rename_i hleap
    have hone : t.nanos / nanosPerSecond = 1 := by
      simp only [nanosPerSecond] at hnanos hleap ⊢
      omega
    have hrest : t.nanos % nanosPerSecond = t.nanos - nanosPerSecond := by
      simp only [nanosPerSecond] at hnanos hleap ⊢
      omega
    rw [hone, hrest, Int.natCast_one]

/-- There is an instant 24 hours earlier from the second day of the calendar on. -/
theorem exists_dayEarlier {t : Instant} (h : firstSecond + secondsPerDay ≤ t.elapsed) :
    ∃ s, t.dayEarlier? = some s ∧ s.dayNumber = t.elapsed / secondsPerDay - 1 := by
  obtain ⟨-, hlast, hnanos⟩ := isInstant_iff.1 t.valid
  have hvalid : isInstant (t.elapsed - secondsPerDay) (t.nanos % nanosPerSecond) = true := by
    rw [isInstant_iff]
    simp only [elapsed, secondsPerDay, nanosPerSecond] at h hlast hnanos ⊢
    omega
  refine ⟨⟨_, _, hvalid⟩, ?_, ?_⟩
  · rw [dayEarlier?_eq]
    exact dif_pos hvalid
  · simp only [dayNumber, secondsPerDay]
    omega

theorem elapsed_div_of_midnightLeap {t : Instant} (h : t.IsMidnightLeap) :
    t.elapsed / secondsPerDay = t.dayNumber + 1 := by
  rw [isMidnightLeap_iff] at h
  simp only [elapsed, dayNumber, secondOfDay, secondsPerDay] at h ⊢
  omega

theorem elapsed_div {t : Instant} (h : ¬ t.IsMidnightLeap) :
    t.elapsed / secondsPerDay = t.dayNumber := by
  obtain ⟨-, -, hnanos⟩ := isInstant_iff.1 t.valid
  rw [isMidnightLeap_iff] at h
  simp only [elapsed, dayNumber, secondOfDay, secondsPerDay, nanosPerSecond] at h hnanos ⊢
  omega

theorem exists_offeredDays {t : Instant} (h : firstSecond + secondsPerDay ≤ t.elapsed) :
    ∃ first : Date, t.offeredDays? = some (first, t.date) ∧
      first.dayNumber = t.elapsed / secondsPerDay - 1 := by
  obtain ⟨s, hs, hnumber⟩ := exists_dayEarlier h
  refine ⟨s.date, ?_, s.dayNumber_date.trans hnumber⟩
  rw [offeredDays?, hs, Option.map_some]

end Instant
end Calendar

open Calendar

/-! ## Requests -/

/-- A range is asked for when its coin is not blank and its days are in order. -/
theorem DayRange.findSome?_checks_eq_none {range : DayRange}
    (hcoin : ∃ c ∈ range.coin.toList, Text.isBlank c = false)
    (hdays : range.first.dayNumber ≤ range.last.dayNumber) :
    range.checks.findSome? id = none := by
  rw [range.enforces.eq_none_iff, DayRange.rules, List.forall_mem_cons, List.forall_mem_singleton]
  exact ⟨hcoin, Date.le_iff.mp (decide_eq_true hdays)⟩

/-- The days that are offered at an instant, which has to be 24 hours behind the beginning of the
calendar.

* The second one is the date of the instant, and the first one the day before it in the calendar.
* Only in a leap second at midnight, which is the 86401st of its day, both are the date: 24 hours
  earlier the day has begun already.
* A request for these days is built, for any coin that is not blank. -/
theorem offered_days {t : Instant} (h : firstSecond + secondsPerDay ≤ t.elapsed) :
    ∃ first : Date, t.offeredDays? = some (first, t.date) ∧
      (¬ t.IsMidnightLeap → first.Precedes t.date) ∧
      (t.IsMidnightLeap → first = t.date) ∧
      ∀ coin : String, (∃ c ∈ coin.toList, Text.isBlank c = false) →
        (∃ ps, (Request.load ⟨coin, first, t.date⟩).build = .ok ps) ∧
        ∃ ps, (Request.history ⟨coin, first, t.date⟩).build = .ok ps := by
  obtain ⟨first, hdays, hfirst⟩ := Instant.exists_offeredDays h
  have hlast := t.dayNumber_date
  have hplain : ¬ t.IsMidnightLeap → t.date.dayNumber = first.dayNumber + 1 := by
    intro hleap
    rw [hfirst, Instant.elapsed_div hleap, hlast]
    omega
  have hmidnight : t.IsMidnightLeap → first.dayNumber = t.date.dayNumber := by
    intro hleap
    rw [hfirst, Instant.elapsed_div_of_midnightLeap hleap, hlast]
    omega
  have horder : first.dayNumber ≤ t.date.dayNumber := by
    by_cases hleap : t.IsMidnightLeap
    · exact Int.le_of_eq (hmidnight hleap)
    · have hnext := hplain hleap
      omega
  refine ⟨first, hdays, fun hleap => Date.precedes_iff.mpr (hplain hleap),
    fun hleap => Date.dayNumber_injective (hmidnight hleap), fun coin hcoin => ?_⟩
  have hchecks : (DayRange.mk coin first t.date).checks.findSome? id = none :=
    DayRange.findSome?_checks_eq_none hcoin horder
  exact ⟨Request.exists_build_iff.mpr hchecks, Request.exists_build_iff.mpr hchecks⟩

/-- Half an hour into the day behind a leap day. -/
def behindLeapDay : Instant :=
  ⟨1709253000, 0, by decide⟩

theorem offered_days_behindLeapDay :
    firstSecond + secondsPerDay ≤ behindLeapDay.elapsed ∧
    behindLeapDay.offeredDays? = some (⟨2024, 2, 29, by decide⟩, ⟨2024, 3, 1, by decide⟩) ∧
    ∃ ps, (Request.load ⟨"BTC", ⟨2024, 2, 29, by decide⟩, ⟨2024, 3, 1, by decide⟩⟩).build =
      .ok ps := by
  have h : firstSecond + secondsPerDay ≤ behindLeapDay.elapsed := by decide
  have hdate : behindLeapDay.date = ⟨2024, 3, 1, by decide⟩ := by decide
  have hdays : behindLeapDay.offeredDays? =
      some (⟨2024, 2, 29, by decide⟩, ⟨2024, 3, 1, by decide⟩) := by decide
  obtain ⟨first, hoffered, -, -, hbuilt⟩ := offered_days h
  have hfirst : first = ⟨2024, 2, 29, by decide⟩ := by
    rw [hdays] at hoffered
    cases hoffered
    rfl
  have hload := (hbuilt "BTC" ⟨'B', by decide, by decide⟩).1
  rw [hfirst, hdate] at hload
  exact ⟨h, hdays, hload⟩

/-- The last instant of the year 2016, which ended with a leap second. -/
def endOf2016 : Instant :=
  ⟨1483228799, 1999999999, by decide⟩

/-- In a leap second at midnight the day before is not offered. -/
theorem midnightLeap_same_day :
    firstSecond + secondsPerDay ≤ endOf2016.elapsed ∧
    endOf2016.offeredDays? = some (⟨2016, 12, 31, by decide⟩, ⟨2016, 12, 31, by decide⟩) ∧
    ¬ ∃ first, endOf2016.offeredDays? = some (first, endOf2016.date) ∧
      first.Precedes endOf2016.date := by
  have hdays : endOf2016.offeredDays? =
      some (⟨2016, 12, 31, by decide⟩, ⟨2016, 12, 31, by decide⟩) := by decide
  refine ⟨by decide, hdays, ?_⟩
  rintro ⟨first, hoffered, hprecedes⟩
  have hfirst : first = ⟨2016, 12, 31, by decide⟩ := by
    rw [hdays] at hoffered
    cases hoffered
    rfl
  rw [Date.precedes_iff, hfirst] at hprecedes
  revert hprecedes
  decide

end BacktestDesk
