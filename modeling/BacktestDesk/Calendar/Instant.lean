import BacktestDesk.Calendar.Date

/-!
# BacktestDesk.Calendar.Instant

Instants of universal time: a second since 1970-01-01T00:00:00Z and nanoseconds inside it. During a
leap second the nanoseconds run on past `10 ^ 9`, in the last second of a minute.
-/

namespace BacktestDesk
namespace Calendar

def secondsPerDay : Int := 86400

def nanosPerSecond : Nat := 1000000000

def firstSecond : Int := firstDay * secondsPerDay

def lastSecond : Int := lastDay * secondsPerDay + (secondsPerDay - 1)

def isInstant (seconds : Int) (nanos : Nat) : Bool :=
  firstSecond ≤ seconds && seconds ≤ lastSecond &&
    (nanos < nanosPerSecond || (nanos < 2 * nanosPerSecond && seconds % 60 = 59))

theorem isInstant_iff {seconds : Int} {nanos : Nat} :
    isInstant seconds nanos = true ↔
      firstSecond ≤ seconds ∧ seconds ≤ lastSecond ∧
        (nanos < nanosPerSecond ∨ (nanos < 2 * nanosPerSecond ∧ seconds % 60 = 59)) := by
  simp [isInstant, and_assoc]

structure Instant where
  seconds : Int
  nanos : Nat
  valid : isInstant seconds nanos = true
  deriving DecidableEq

namespace Instant

def of? (seconds : Int) (nanos : Nat) : Option Instant :=
  if h : isInstant seconds nanos = true then some ⟨seconds, nanos, h⟩ else none

def dayNumber (t : Instant) : Int :=
  t.seconds / secondsPerDay

theorem dayNumber_mem (t : Instant) : firstDay ≤ t.dayNumber ∧ t.dayNumber ≤ lastDay := by
  obtain ⟨h1, h2, _⟩ := isInstant_iff.1 t.valid
  simp only [firstSecond, lastSecond, secondsPerDay] at h1 h2
  simp only [dayNumber, secondsPerDay]
  omega

/-- The date in universal time. -/
def date (t : Instant) : Date :=
  Date.ofDayNumber t.dayNumber t.dayNumber_mem

def secondOfDay (t : Instant) : Nat :=
  (t.seconds % secondsPerDay).toNat

def hour (t : Instant) : Nat :=
  t.secondOfDay / 3600

def minute (t : Instant) : Nat :=
  t.secondOfDay / 60 % 60

/-- The second of the minute; a leap second is number 60. -/
def second (t : Instant) : Nat :=
  t.secondOfDay % 60 + t.nanos / nanosPerSecond

/-- The instant at which a clock ahead of universal time by `offset` seconds shows a date and a
second of the day. -/
def ofLocal? (d : Date) (secondOfDay nanos : Nat) (offset : Int) : Option Instant :=
  of? (d.dayNumber * secondsPerDay + secondOfDay - offset) nanos

/-- 24 hours earlier. A leap second counts as the second after it. -/
def dayEarlier? (t : Instant) : Option Instant :=
  if t.nanos < nanosPerSecond then of? (t.seconds - secondsPerDay) t.nanos
  else of? (t.seconds + 1 - secondsPerDay) (t.nanos - nanosPerSecond)

/-- The days that a form offers at an instant: the date 24 hours earlier, and the date. -/
def offeredDays? (t : Instant) : Option (Date × Date) :=
  t.dayEarlier?.map fun s => (s.date, t.date)

end Instant

/-! ## Text -/

/-- Digits with zeros in front, at least `width` of them. -/
def padded (width n : Nat) : List Char :=
  let ds := Nat.toDigits 10 n
  List.replicate (width - ds.length) '0' ++ ds

/-- The years 0 to 9999 have four digits, all others a sign and at least four. -/
def yearChars (year : Int) : List Char :=
  if 0 ≤ year ∧ year ≤ 9999 then padded 4 year.toNat
  else (if year < 0 then '-' else '+') :: padded 4 year.natAbs

def Date.chars (separator : Char) (d : Date) : List Char :=
  yearChars d.year ++ separator :: padded 2 d.month ++ separator :: padded 2 d.day

/-- The usual form of a date, as in `2024-03-07`. -/
def Date.text (d : Date) : String :=
  String.ofList (d.chars '-')

/-- The fewest of no, three, six or nine digits that give the nanoseconds exactly. -/
def fractionChars (nanos : Nat) : List Char :=
  if nanos = 0 then []
  else if nanos % 1000000 = 0 then '.' :: padded 3 (nanos / 1000000)
  else if nanos % 1000 = 0 then '.' :: padded 6 (nanos / 1000)
  else '.' :: padded 9 nanos

def Instant.chars (t : Instant) : List Char :=
  t.date.chars '-' ++ 'T' :: padded 2 t.hour ++ ':' :: padded 2 t.minute ++ ':' ::
    padded 2 t.second ++ fractionChars (t.nanos % nanosPerSecond) ++ ['Z']

/-- The usual form of an instant, as in `2024-03-07T12:30:00Z`. -/
def Instant.text (t : Instant) : String :=
  String.ofList t.chars

end Calendar
end BacktestDesk
