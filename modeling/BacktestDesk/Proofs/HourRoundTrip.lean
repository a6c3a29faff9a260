import BacktestDesk.Proofs.DayTextRoundTrip
import BacktestDesk.Scenario.Wire

/-!
# BacktestDesk.Proofs.HourRoundTrip

Instants in the form of the backend, which tells the day and the hour and drops the rest.

* `Instant.ofLocal?_hour`: date and hour of an instant lead to the first instant of its hour.
* `hours_read_back`: an hour that is written is read as the instant at which it begins, over the
  whole calendar.
-/

namespace BacktestDesk
namespace Calendar

theorem Instant.isInstant_hourStart (t : Instant) :
    isInstant (t.seconds - t.seconds % 3600) 0 = true := by
  obtain ⟨hfirst, hlast, -⟩ := isInstant_iff.1 t.valid
  rw [isInstant_iff]
  simp only [firstSecond, lastSecond, secondsPerDay, nanosPerSecond] at hfirst hlast ⊢
  omega

/-- The first instant of the hour that an instant falls in. -/
def Instant.hourStart (t : Instant) : Instant where
  seconds := t.seconds - t.seconds % 3600
  nanos := 0
  valid := t.isInstant_hourStart

theorem Date.isInstant_midnight (d : Date) :
    isInstant (d.dayNumber * secondsPerDay) 0 = true := by
  obtain ⟨hfirst, hlast⟩ := d.dayNumber_mem
  rw [isInstant_iff]
  simp only [firstSecond, lastSecond, secondsPerDay, nanosPerSecond]
  omega

/-- The first instant of a date. -/
def Date.midnight (d : Date) : Instant where
  seconds := d.dayNumber * secondsPerDay
  nanos := 0
  valid := d.isInstant_midnight

namespace Instant

/-- An instant is the first one of an hour of a date. -/
structure Begins (t : Instant) (d : Date) (hour : Nat) : Prop where
  date : t.date = d
  hour : t.hour = hour
  minute : t.minute = 0
  second : t.second = 0
  nanos : t.nanos = 0

theorem begins_of_secondOfDay {t : Instant} {d : Date} {hour : Nat} (hdate : t.date = d)
    (hsecond : t.secondOfDay = hour * 3600) (hnanos : t.nanos = 0) : t.Begins d hour where
  date := hdate
  hour := by rw [Instant.hour, hsecond, Nat.mul_div_cancel _ (by decide)]
  minute := by
    rw [minute, hsecond]
    omega
  second := by
    rw [second, hsecond, hnanos, Nat.zero_div]
    omega
  nanos := hnanos

theorem hour_lt (t : Instant) : t.hour < 24 := by
  have hsecond := t.secondOfDay_lt
  rw [hour]
  omega

theorem ofLocal?_hour (t : Instant) : ofLocal? t.date (t.hour * 3600) 0 0 = some t.hourStart := by
  have hseconds := t.seconds_eq
  have hstart : t.date.dayNumber * secondsPerDay + (t.hour * 3600 : Nat) - 0 =
      t.hourStart.seconds := by
    simp only [hourStart, hour, secondsPerDay] at hseconds ⊢
    omega
  rw [ofLocal?, hstart]
  exact dif_pos t.hourStart.valid

theorem begins_hourStart (t : Instant) : t.hourStart.Begins t.date t.hour := by
  refine begins_of_secondOfDay (date_eq (Eq.trans ?_ t.dayNumber_date.symm)) ?_ rfl
  · simp only [dayNumber, hourStart, secondsPerDay]
    omega
  · simp only [secondOfDay, hour, hourStart, secondsPerDay]
    omega

end Instant

theorem Date.begins_midnight (d : Date) : d.midnight.Begins d 0 := by
  refine Instant.begins_of_secondOfDay (Instant.date_eq ?_) ?_ rfl
  · simp only [Instant.dayNumber, midnight, secondsPerDay]
    omega
  · simp only [Instant.secondOfDay, midnight, secondsPerDay]
    omega

theorem Date.hourStart_midnight (d : Date) : d.midnight.hourStart = d.midnight := by
  simp only [Instant.hourStart, midnight, secondsPerDay, Instant.mk.injEq, and_true]
  omega

end Calendar

open Calendar

theorem hourOfWire_wireHour (t : Instant) : hourOfWire (wireHour t) = .ok t.hourStart := by
  have hread : ofWire? (wireHour t) = some t.hourStart :=
    (ofWire?_hour t.date t.hour_lt).trans t.ofLocal?_hour
  rw [hourOfWire, hread]

theorem wireHour_midnight (d : Date) : wireHour d.midnight = wireDay d := by
  rw [wireHour, d.begins_midnight.date, d.begins_midnight.hour, wireDay]

/-- What goes to the backend is read back over the whole calendar. An instant is read as the first
one of its hour, with the same date. A day is written as its first instant is, and read as that. -/
theorem hours_read_back :
    (∀ t : Instant, hourOfWire (wireHour t) = .ok t.hourStart ∧
      t.hourStart.Begins t.date t.hour) ∧
    ∀ d : Date, wireDay d = wireHour d.midnight ∧ hourOfWire (wireDay d) = .ok d.midnight ∧
      d.midnight.Begins d 0 := by
  refine ⟨fun t => ⟨hourOfWire_wireHour t, t.begins_hourStart⟩, fun d => ?_⟩
  refine ⟨(wireHour_midnight d).symm, ?_, d.begins_midnight⟩
  rw [← wireHour_midnight, hourOfWire_wireHour, d.hourStart_midnight]

/-- A leap second before the year 0. -/
example : wireHour ⟨-62167219201, 1500000000, by decide⟩ = "-0001_12_31T23" := by decide

end BacktestDesk
