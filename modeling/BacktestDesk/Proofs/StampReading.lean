import BacktestDesk.Calendar.Timestamp
import BacktestDesk.Proofs.DigitRows
import BacktestDesk.Proofs.Utf8RoundTrip

/-!
# BacktestDesk.Proofs.StampReading

Timestamps with fixed places, read as the instants that they stand for. A clock that is ahead of
universal time by the offset shows, at that instant, the date and the time of day that are written;
the offset may carry it over the end of a day, a month or a year. The digits of a fraction that are
too many are cut off.

* `nanos_row`: a fraction of any length, in whole nanoseconds.
* `Written.instant`, `Written.shownAt_instant`: the instant that a timestamp stands for.
* `strict_chars`: the whole text.
-/

namespace BacktestDesk
namespace Calendar

/-! ## Fractions of a second -/

/-- The fraction of a second that is written with some digits, cut to whole nanoseconds. -/
def nanosOfRow (ds : List Char) : Nat :=
  Numeral.ofDigits ds * nanosPerSecond / 10 ^ ds.length

theorem nanosOfRow_eq {ds : List Char} (h : ∀ c ∈ ds, c.isDigit) :
    Numeral.ofDigits (ds.take 9) * 10 ^ (9 - (ds.take 9).length) = nanosOfRow ds := by
  have hnano : nanosPerSecond = 10 ^ 9 := rfl
  rw [nanosOfRow, Numeral.ofDigits_take h, List.length_take, hnano]
  by_cases hlong : ds.length ≤ 9
  · have hcut : ds.length - 9 = 0 := by omega
    have hpow : 10 ^ 9 = 10 ^ (9 - ds.length) * 10 ^ ds.length := by
      rw [← Nat.pow_add, Nat.sub_add_cancel hlong]
    rw [hcut, Nat.pow_zero, Nat.div_one, Nat.min_eq_right hlong, hpow, ← Nat.mul_assoc,
      Nat.mul_div_cancel _ (Nat.pow_pos (by decide))]
  · have hpow : 10 ^ ds.length = 10 ^ (ds.length - 9) * 10 ^ 9 := by
      rw [← Nat.pow_add, Nat.sub_add_cancel (by omega)]
    rw [Nat.min_eq_left (by omega), Nat.sub_self, Nat.pow_zero, Nat.mul_one, hpow,
      Nat.mul_div_mul_right _ _ (by decide)]

theorem nanosOfRow_lt {ds : List Char} (h : ∀ c ∈ ds, c.isDigit) :
    nanosOfRow ds < nanosPerSecond := by
  rw [nanosOfRow, Nat.div_lt_iff_lt_mul (Nat.pow_pos (by decide)), Nat.mul_comm]
  exact Nat.mul_lt_mul_of_pos_left (Numeral.ofDigits_lt h) (by decide)

/-- All digits are taken, and as many of them count as there are nanoseconds. -/
theorem nanos_row {ds : List Char} (hne : ds ≠ []) (h : ∀ c ∈ ds, c.isDigit) {stop : Char}
    (hstop : stop.isDigit = false) (rest : List Char) :
    nanos (ds ++ stop :: rest) = .ok (nanosOfRow ds, stop :: rest) := by
  have htake := takeWhile_digits h hstop rest
  have hisEmpty : ds.isEmpty = false := List.isEmpty_eq_false_iff.mpr hne
  simp only [nanos, htake, hisEmpty, Bool.false_eq_true, if_false, Nat.pow_eq, nanosOfRow_eq h,
    List.drop_left]

namespace Timestamp

/-! ## Fixed places -/

theorem digits_row {ds : List Char} (h : ∀ c ∈ ds, c.isDigit) (n : Nat) (rest : List Char) :
    digits ds.length n (ds ++ rest) = .ok (Nat.ofDigitChars 10 ds n, rest) := by
  induction ds generalizing n with
  | nil => rfl
  | cons c ds ih =>
    obtain ⟨hc, hds⟩ := List.forall_mem_cons.mp h
    have hdigit : Numeral.digit? c = some (c.toNat - '0'.toNat) := if_pos hc
    simp only [List.length_cons, List.cons_append, digits, hdigit, ih hds,
      Nat.ofDigitChars_cons]

theorem digits_padded {width n : Nat} (hwidth : 0 < width) (h : n < 10 ^ width)
    (rest : List Char) : digits width 0 (padded width n ++ rest) = .ok (n, rest) := by
  have hdigits : ∀ c ∈ padded width n, c.isDigit := fun c => isDigit_of_mem_padded
  have hrow := digits_row hdigits 0 rest
  have hvalue : Nat.ofDigitChars 10 (padded width n) 0 = n := ofDigits_padded width n
  rwa [length_padded hwidth h, hvalue] at hrow

theorem exactly_cons (c : Char) (cs : List Char) : exactly c (c :: cs) = .ok cs :=
  if_pos rfl

theorem triple_padded {width a b c : Nat} (hwidth : 0 < width) (ha : a < 10 ^ width)
    (hb : b < 10 ^ 2) (hc : c < 10 ^ 2) (separator : Char) (rest : List Char) :
    triple width separator
        (padded width a ++ separator :: (padded 2 b ++ separator :: (padded 2 c ++ rest))) =
      .ok ((a, b, c), rest) := by
  have htwo : 0 < 2 := by decide
  simp only [triple, digits_padded hwidth ha, digits_padded htwo hb, digits_padded htwo hc,
    exactly_cons]

/-! ## Offsets -/

/-- The sign of an offset. A minus is written as a hyphen or as the minus sign proper. -/
inductive ZoneSign where
  | plus
  | hyphen
  | minus
  deriving DecidableEq

namespace ZoneSign

def char : ZoneSign → Char
  | plus => '+'
  | hyphen => '-'
  | minus => '−'

def isMinus (s : ZoneSign) : Bool :=
  s != plus

theorem offsetSign_char (s : ZoneSign) (rest : List Char) :
    offsetSign (s.char :: rest) = .ok (s.isMinus, rest) := by
  cases s <;> rfl

end ZoneSign

/-- An offset from universal time as it is written: none, as a capital or a small letter, or a sign
with hours and minutes. -/
inductive Zone where
  | universal (small : Bool)
  | shifted (sign : ZoneSign) (hours : Fin 24) (minutes : Fin 60)
  deriving DecidableEq

namespace Zone

def chars : Zone → List Char
  | universal small => [if small then 'z' else 'Z']
  | shifted sign hours minutes => sign.char :: (padded 2 hours ++ ':' :: padded 2 minutes)

/-- The seconds by which a clock with this offset is ahead. -/
def seconds : Zone → Int
  | universal _ => 0
  | shifted sign hours minutes =>
    let size : Int := hours * 3600 + minutes * 60
    if sign.isMinus then -size else size

theorem natAbs_seconds_lt (z : Zone) : z.seconds.natAbs < 86400 := by
  cases z with
  | universal small => cases small <;> decide
  | shifted sign hours minutes =>
    simp only [seconds]
    split <;> omega

theorem seconds_mod (z : Zone) : z.seconds % 60 = 0 := by
  cases z with
  | universal small => rfl
  | shifted sign hours minutes =>
    simp only [seconds]
    split <;> omega

/-- Digits and the point of a fraction end in front of an offset. -/
theorem exists_cons (z : Zone) : ∃ c cs, z.chars = c :: cs ∧ c.isDigit = false ∧ c ≠ '.' := by
  cases z with
  | universal small => cases small <;> exact ⟨_, _, rfl, by decide, by decide⟩
  | shifted sign hours minutes => cases sign <;> exact ⟨_, _, rfl, by decide, by decide⟩

end Zone

theorem digit?_digitChar {n : Nat} (h : n < 10) : Numeral.digit? n.digitChar = some n := by
  have hall : ∀ d : Fin 10, Numeral.digit? (Nat.digitChar d) = some d.val := by decide
  exact hall ⟨n, h⟩

theorem padded_two {n : Nat} (h : n < 100) :
    padded 2 n = [(n / 10).digitChar, (n % 10).digitChar] := by
  have hall : ∀ d : Fin 100, padded 2 d = [(d.val / 10).digitChar, (d.val % 10).digitChar] := by
    decide
  exact hall ⟨n, h⟩

theorem twoDigits_padded {greatest n : Nat} (h : n < 100) (hfirst : n / 10 ≤ greatest)
    (rest : List Char) : twoDigits greatest (padded 2 n ++ rest) = .ok (n, rest) := by
  have htens : n / 10 < 10 := by omega
  have hones : n % 10 < 10 := by omega
  have hsum : 10 * (n / 10) + n % 10 = n := by omega
  rw [padded_two h]
  simp only [List.cons_append, List.nil_append, twoDigits, digit?_digitChar htens,
    digit?_digitChar hones, hfirst, if_true, hsum]

theorem offset_chars (z : Zone) : offset (expect ':') z.chars = .ok (z.seconds, []) := by
  cases z with
  | universal small => cases small <;> rfl
  | shifted sign hours minutes =>
    have hhours : twoDigits 9 (padded 2 hours ++ ':' :: padded 2 minutes) =
        .ok (hours.val, ':' :: padded 2 minutes) :=
      twoDigits_padded (by omega) (by omega) _
    have hminutes : twoDigits 5 (padded 2 minutes ++ []) = .ok (minutes.val, []) :=
      twoDigits_padded (by omega) (by omega) _
    rw [List.append_nil] at hminutes
    have hsign := sign.offsetSign_char (padded 2 hours ++ ':' :: padded 2 minutes)
    simp only [Zone.chars, Zone.seconds]
    rw [offset]
    · simp only [hsign, hhours, expect_cons, hminutes]
    · cases sign <;> simp [ZoneSign.char]
    · cases sign <;> simp [ZoneSign.char]

/-! ## Whole timestamps -/

/-- A timestamp as it is written: a date of four digits, the character behind it, a time of day with
the digits of its fraction, which may be none, and an offset. -/
structure Written where
  date : Date
  mark : Char
  hour : Fin 24
  minute : Fin 60
  second : Fin 61
  fraction : List Char
  zone : Zone
  year_mem : 0 ≤ date.year ∧ date.year ≤ 9999
  isDateEnd_mark : isDateEnd mark = true
  fraction_isDigit : ∀ c ∈ fraction, c.isDigit

namespace Written

/-- The point of a fraction stands in front of its digits only. -/
def pointChars : List Char → List Char
  | [] => []
  | ds => '.' :: ds

def chars (w : Written) : List Char :=
  w.date.chars '-' ++ w.mark :: (padded 2 w.hour ++ ':' :: (padded 2 w.minute ++ ':' ::
    (padded 2 w.second ++ (pointChars w.fraction ++ w.zone.chars))))

def text (w : Written) : String :=
  String.ofList w.chars

/-- The second of the day. Second 60 goes on where second 59 is over. -/
def secondOfDay (w : Written) : Nat :=
  w.hour * 3600 + w.minute * 60 + min w.second.val 59

def seconds (w : Written) : Int :=
  w.date.dayNumber * secondsPerDay + w.secondOfDay - w.zone.seconds

def nanos (w : Written) : Nat :=
  (if w.second.val = 60 then nanosPerSecond else 0) + nanosOfRow w.fraction

theorem dayNumber_mem (w : Written) :
    firstDay + 1 ≤ w.date.dayNumber ∧ w.date.dayNumber ≤ lastDay - 1 := by
  obtain ⟨hlo, hhi⟩ := w.year_mem
  have hlt := w.date.dayOfYear_lt
  have hfirst := daysBeforeYear_mono hlo
  have hlast := daysBeforeYear_mono (a := w.date.year + 1) (b := 10000) (by omega)
  have hmin : firstDay + 1 ≤ daysBeforeYear 0 - epoch := by decide
  have hmax : daysBeforeYear 10000 - epoch ≤ lastDay - 1 := by decide
  rw [w.date.dayNumber_eq]
  omega

theorem isInstant (w : Written) : Calendar.isInstant w.seconds w.nanos = true := by
  obtain ⟨hfirst, hlast⟩ := w.dayNumber_mem
  have hzone := w.zone.natAbs_seconds_lt
  have hminutes := w.zone.seconds_mod
  have hrow := nanosOfRow_lt w.fraction_isDigit
  rw [isInstant_iff]
  simp only [seconds, secondOfDay, nanos, firstSecond, lastSecond, secondsPerDay,
    nanosPerSecond] at hrow ⊢
  refine ⟨by omega, by omega, ?_⟩
  by_cases hleap : w.second.val = 60
  · rw [if_pos hleap]
    right
    omega
  · rw [if_neg hleap]
    left
    omega

/-- The instant that a timestamp stands for: what is written, less the offset. -/
def instant (w : Written) : Instant where
  seconds := w.seconds
  nanos := w.nanos
  valid := w.isInstant

/-- At an instant a clock with the offset of a timestamp shows what is written. -/
structure ShownAt (w : Written) (t : Instant) : Prop where
  date : civil ((t.seconds + w.zone.seconds) / secondsPerDay) =
    (w.date.year, w.date.month, w.date.day)
  time : (t.seconds + w.zone.seconds) % secondsPerDay = w.secondOfDay
  nanos : t.nanos = w.nanos

theorem secondOfDay_lt (w : Written) : w.secondOfDay < 86400 := by
  simp only [secondOfDay]
  omega

theorem shownAt_instant (w : Written) : w.ShownAt w.instant := by
  have hsecond := w.secondOfDay_lt
  have hlocal : w.instant.seconds + w.zone.seconds =
      w.date.dayNumber * secondsPerDay + w.secondOfDay := by
    simp only [instant, seconds]
    omega
  refine ⟨?_, ?_, rfl⟩
  · have hday : (w.instant.seconds + w.zone.seconds) / secondsPerDay = w.date.dayNumber := by
      rw [hlocal]
      simp only [secondsPerDay]
      omega
    rw [hday, w.date.civil_dayNumber]
  · rw [hlocal]
    simp only [secondsPerDay]
    omega

/-! ## Reading -/

theorem fraction_chars (w : Written) :
    Timestamp.fraction (pointChars w.fraction ++ w.zone.chars) =
      .ok (nanosOfRow w.fraction, w.zone.chars) := by
  obtain ⟨c, cs, hzone, hdigit, hpoint⟩ := w.zone.exists_cons
  rw [hzone]
  cases hf : w.fraction with
  | nil =>
    have hzero : nanosOfRow [] = 0 := rfl
    rw [pointChars, List.nil_append, Timestamp.fraction, hzero]
    exact fun rest h => hpoint (List.cons.inj h).1
  | cons d ds =>
    have hds : ∀ x ∈ d :: ds, x.isDigit := fun x hx => w.fraction_isDigit x (hf ▸ hx)
    exact nanos_row (List.cons_ne_nil d ds) hds hdigit cs

/-- What the parts of a timestamp are read as. -/
def clock (w : Written) : Clock :=
  ⟨w.date, w.hour, w.minute, w.second, nanosOfRow w.fraction⟩

theorem inRange_clock (w : Written) : w.clock.inRange = true := by
  have hhour : w.clock.hour < 24 := w.hour.isLt
  have hminute : w.clock.minute < 60 := w.minute.isLt
  have hsecond : w.clock.second ≤ 60 := Nat.le_of_lt_succ w.second.isLt
  simp only [Clock.inRange, hhour, hminute, hsecond, decide_true, Bool.and_self]

theorem date_chars (w : Written) :
    w.date.chars '-' = padded 4 w.date.year.toNat ++ '-' :: (padded 2 w.date.month ++ '-' ::
      padded 2 w.date.day) := by
  rw [Date.chars, yearChars, if_pos w.year_mem, List.append_assoc, List.cons_append]

theorem fixedDate_chars (w : Written) (rest : List Char) :
    fixedDate (w.date.chars '-' ++ rest) = .ok (w.date, rest) := by
  obtain ⟨hlo, hhi⟩ := w.year_mem
  have hmonth := w.date.month_le
  have hday := w.date.day_le
  have hyear4 : w.date.year.toNat < 10 ^ 4 := by omega
  have hmonth2 : w.date.month < 10 ^ 2 := by omega
  have hday2 : w.date.day < 10 ^ 2 := by omega
  have hparts := triple_padded (by decide) hyear4 hmonth2 hday2 '-' rest
  have hyear : ((w.date.year.toNat : Nat) : Int) = w.date.year := Int.toNat_of_nonneg hlo
  have hdate : Date.of? w.date.year w.date.month w.date.day = some w.date := dif_pos w.date.valid
  rw [w.date_chars]
  simp only [List.append_assoc, List.cons_append, fixedDate, hparts, hyear, hdate]

theorem fixedClock_chars (w : Written) : fixedClock w.chars = .ok (w.clock, w.zone.chars) := by
  have hend : ∀ cs, dateEnd (w.mark :: cs) = .ok cs := fun cs => if_pos w.isDateEnd_mark
  have hhour2 : w.hour.val < 10 ^ 2 := by omega
  have hminute2 : w.minute.val < 10 ^ 2 := by omega
  have hsecond2 : w.second.val < 10 ^ 2 := by omega
  have htime := triple_padded (by decide) hhour2 hminute2 hsecond2 ':'
    (pointChars w.fraction ++ w.zone.chars)
  have hrange := w.inRange_clock
  simp only [clock] at hrange
  simp only [chars, fixedClock, w.fixedDate_chars, hend, htime, w.fraction_chars, hrange, if_true,
    clock]

theorem length_chars (w : Written) : fixedLength ≤ w.chars.length := by
  obtain ⟨hlo, hhi⟩ := w.year_mem
  have hmonth := w.date.month_le
  have hday := w.date.day_le
  have htwo : ∀ {n : Nat}, n < 10 ^ 2 → (padded 2 n).length = 2 := length_padded (by decide)
  have hyear : (padded 4 w.date.year.toNat).length = 4 := length_padded (by decide) (by omega)
  have hmonth2 := htwo (n := w.date.month) (by omega)
  have hday2 := htwo (n := w.date.day) (by omega)
  have hhour2 := htwo (n := w.hour) (by omega)
  have hminute2 := htwo (n := w.minute) (by omega)
  have hsecond2 := htwo (n := w.second) (by omega)
  simp only [chars, w.date_chars, List.length_append, List.length_cons, hyear, hmonth2, hday2,
    hhour2, hminute2, hsecond2, fixedLength]
  omega

theorem instant_clock (w : Written) : w.clock.instant w.zone.seconds = .ok w.instant := by
  have hhour : w.clock.hour = w.hour.val := rfl
  have hminute : w.clock.minute = w.minute.val := rfl
  have hshown : w.clock.second = w.second.val := rfl
  have hrow : w.clock.nanos = nanosOfRow w.fraction := rfl
  have hsecond : w.clock.secondOfDay = w.secondOfDay := by
    rw [Clock.secondOfDay, secondOfDay, hhour, hminute]
    by_cases hleap : w.clock.second = 60
    · rw [if_pos hleap, ← hshown, hleap]
      rfl
    · rw [if_neg hleap]
      omega
  have hnanos : w.clock.nanosOfSecond = w.nanos := by
    rw [Clock.nanosOfSecond, nanos, hrow]
    by_cases hleap : w.clock.second = 60
    · rw [if_pos hleap, if_pos (hshown ▸ hleap)]
    · rw [if_neg hleap, if_neg (hshown ▸ hleap), Nat.zero_add]
  have hlocal : Instant.ofLocal? w.clock.date w.secondOfDay w.nanos w.zone.seconds =
      some w.instant := dif_pos w.isInstant
  have hzone : w.zone.seconds.natAbs < secondsPerDay.toNat := w.zone.natAbs_seconds_lt
  simp only [Clock.instant, if_pos hzone, hsecond, hnanos, hlocal]

end Written

theorem strict_chars (w : Written) : strictChars w.chars = .ok w.instant := by
  have hbytes : w.chars.length ≤ Text.Utf8.byteCount w.chars :=
    Text.Form.length_le_flatMap Text.Utf8.length_utf8EncodeChar_pos w.chars
  have hlong : ¬ Text.Utf8.byteCount w.chars < fixedLength :=
    Nat.not_lt.mpr (Nat.le_trans w.length_chars hbytes)
  have hfinished : finished [] = .ok () := rfl
  simp only [strictChars, if_neg hlong, w.fixedClock_chars, offset_chars, hfinished,
    w.instant_clock]

theorem strict_text (w : Written) : strict w.text = .ok w.instant := by
  rw [strict, Written.text, String.toList_ofList, strict_chars]

end Timestamp
end Calendar
end BacktestDesk
