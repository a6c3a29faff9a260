import BacktestDesk.Calendar.Timestamp
import BacktestDesk.Proofs.DayTextRoundTrip

/-!
# BacktestDesk.Proofs.InstantRoundTrip

The text of an instant is read as that instant by the loose reader, over the whole calendar and with
every nanosecond. A leap second, which is kept as nanoseconds past `10 ^ 9`, is written as second 60
and read back from it.

* `fraction_append`: the fewest digits that give the nanoseconds are enough.
* `Clock.instant_ofInstant`: what a clock in universal time shows leads to the instant.
* `lenient_text`: the whole text.
-/

namespace BacktestDesk
namespace Calendar

/-! ## Fractions of a second -/

theorem nanos_append {width n : Nat} (hpos : 0 < width) (hwidth : width ≤ 9) (h : n < 10 ^ width)
    {stop : Char} (hstop : stop.isDigit = false) (rest : List Char) :
    nanos (padded width n ++ stop :: rest) = .ok (n * 10 ^ (9 - width), stop :: rest) := by
  have hdigits : ∀ c ∈ padded width n, c.isDigit := fun c => isDigit_of_mem_padded
  have htake := takeWhile_digits hdigits hstop rest
  have hisEmpty : (padded width n).isEmpty = false :=
    List.isEmpty_eq_false_iff.mpr (padded_ne_nil width n)
  have hlength : (padded width n).length = width := length_padded hpos h
  have hkept : (padded width n).take 9 = padded width n :=
    List.take_of_length_le (by omega)
  have hdrop : (padded width n ++ stop :: rest).drop width = stop :: rest :=
    List.drop_left' hlength
  simp only [nanos, htake, hisEmpty, Bool.false_eq_true, if_false, hkept, ofDigits_padded, hlength,
    hdrop, Nat.pow_eq]

namespace Timestamp

theorem fraction_append {n : Nat} (h : n < nanosPerSecond) (rest : List Char) :
    fraction (fractionChars n ++ 'Z' :: rest) = .ok (n, 'Z' :: rest) := by
  have hdigits : ∀ {width m : Nat}, 0 < width → width ≤ 9 → m < 10 ^ width →
      fraction ('.' :: padded width m ++ 'Z' :: rest) = .ok (m * 10 ^ (9 - width), 'Z' :: rest) :=
    fun hpos hwidth hm => nanos_append hpos hwidth hm (by decide) rest
  rw [nanosPerSecond] at h
  rw [fractionChars]
  split
  · rename_i hzero
    rw [hzero]
    rfl
  split
  · rename_i hmilli
    rw [hdigits (by decide) (by decide) (by omega)]
    have hn : n / 1000000 * 10 ^ (9 - 3) = n := by omega
    rw [hn]
  split
  · rename_i hmicro
    rw [hdigits (by decide) (by decide) (by omega)]
    have hn : n / 1000 * 10 ^ (9 - 6) = n := by omega
    rw [hn]
  · rw [hdigits (by decide) (by decide) (by omega), Nat.sub_self, Nat.pow_zero, Nat.mul_one]

/-! ## Times of a day -/

theorem skipBlanks_cons {c : Char} (h : Text.isBlank c = false) (cs : List Char) :
    Text.skipBlanks (c :: cs) = c :: cs :=
  gap_cons h true cs

theorem looseTime_append {hour minute second : Nat} (hhour : hour ≤ 23) (hminute : minute ≤ 59)
    (hsecond : second ≤ 60) (rest : List Char) :
    looseTime (padded 2 hour ++ ':' :: (padded 2 minute ++ ':' :: (padded 2 second ++ rest))) =
      .ok ((hour, minute, second), rest) := by
  have hcolon : Text.isBlank ':' = false := by decide
  have htwo : 0 < 2 := by decide
  have hhour2 : hour < 10 ^ 2 := by omega
  have hminute2 : minute < 10 ^ 2 := by omega
  have hsecond2 : second < 10 ^ 2 := by omega
  simp only [looseTime, bounded_append htwo hhour2 (Nat.zero_le _) hhour,
    bounded_append htwo hminute2 (Nat.zero_le _) hminute,
    bounded_append htwo hsecond2 (Nat.zero_le _) hsecond, skipBlanks_cons hcolon, expect_cons]

end Timestamp

namespace Instant

theorem hour_le (t : Instant) : t.hour ≤ 23 := by
  have hsecond := t.secondOfDay_lt
  rw [hour]
  omega

theorem minute_le (t : Instant) : t.minute ≤ 59 := by
  rw [minute]
  omega

/-- The second that is shown, and what its fraction counts: of a plain second all nanoseconds, of a
leap second, which the last second of a minute runs into, those past `10 ^ 9`. -/
theorem second_cases (t : Instant) :
    (t.second = t.secondOfDay % 60 ∧ t.nanos % nanosPerSecond = t.nanos) ∨
      (t.second = 60 ∧ t.secondOfDay % 60 = 59 ∧
        nanosPerSecond + t.nanos % nanosPerSecond = t.nanos) := by
  obtain ⟨-, -, hnanos⟩ := isInstant_iff.1 t.valid
  simp only [second, secondOfDay, secondsPerDay, nanosPerSecond] at hnanos ⊢
  omega

theorem second_le (t : Instant) : t.second ≤ 60 := by
  rcases t.second_cases with ⟨hsecond, -⟩ | ⟨hsecond, -, -⟩
  · omega
  · exact Nat.le_of_eq hsecond

end Instant

namespace Timestamp

/-- What a clock in universal time shows at an instant. -/
def Clock.ofInstant (t : Instant) : Clock :=
  ⟨t.date, t.hour, t.minute, t.second, t.nanos % nanosPerSecond⟩

namespace Clock

theorem secondOfDay_ofInstant (t : Instant) : (ofInstant t).secondOfDay = t.secondOfDay := by
  have hhour : (ofInstant t).hour = t.secondOfDay / 3600 := rfl
  have hminute : (ofInstant t).minute = t.secondOfDay / 60 % 60 := rfl
  have hshown : (ofInstant t).second = t.second := rfl
  rw [secondOfDay, hhour, hminute]
  rcases t.second_cases with ⟨hsecond, -⟩ | ⟨hsecond, hlast, -⟩
  · rw [if_neg (by omega), hshown]
    omega
  · rw [if_pos (hshown.trans hsecond)]
    omega

theorem nanosOfSecond_ofInstant (t : Instant) : (ofInstant t).nanosOfSecond = t.nanos := by
  have hshown : (ofInstant t).second = t.second := rfl
  rw [nanosOfSecond]
  rcases t.second_cases with ⟨hsecond, hnanos⟩ | ⟨hsecond, -, hnanos⟩
  · rw [if_neg (by omega)]
    exact hnanos
  · rw [if_pos (hshown.trans hsecond)]
    exact hnanos

/-- What a clock shows in universal time leads back to the instant. -/
theorem instant_ofInstant (t : Instant) : (ofInstant t).instant 0 = .ok t := by
  have hdate : (ofInstant t).date = t.date := rfl
  have hseconds : t.date.dayNumber * secondsPerDay + t.secondOfDay - 0 = t.seconds := by
    rw [t.seconds_eq, Int.sub_zero]
  have hlocal : Instant.ofLocal? t.date t.secondOfDay t.nanos 0 = some t := by
    rw [Instant.ofLocal?, hseconds]
    exact dif_pos t.valid
  simp only [instant, hdate, secondOfDay_ofInstant, nanosOfSecond_ofInstant, hlocal]
  rfl

end Clock

/-! ## The whole text -/

theorem lenient_text (t : Instant) : lenient t.text = .ok t := by
  have hblank : Text.isBlank '-' = false := by decide
  have hdigit : '-'.isDigit = false := by decide
  have hparts := dayParts_append hblank hdigit true t.date
  have htime := looseTime_append t.hour_le t.minute_le t.second_le
  have hfraction := fraction_append (Nat.mod_lt t.nanos (by decide : 0 < nanosPerSecond)) []
  have hdate : Date.of? t.date.year t.date.month t.date.day = some t.date := dif_pos t.date.valid
  have hclock := Clock.instant_ofInstant t
  simp only [Clock.ofInstant] at hclock
  have hend : ∀ cs, looseDateEnd ('T' :: cs) = .ok cs := fun _ => rfl
  have hutc : looseOffset (Text.skipBlanks ['Z']) = .ok (0, []) := rfl
  have hfinished : finished (Text.skipBlanks []) = .ok () := rfl
  rw [lenient, Instant.text, String.toList_ofList, Instant.chars]
  simp only [List.append_assoc, List.cons_append]
  simp only [lenientChars, hparts, hend, htime, hfraction, hutc, hfinished, hdate, hclock]

end Timestamp
end Calendar
end BacktestDesk
