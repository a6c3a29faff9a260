import BacktestDesk.Calendar.DayText
import BacktestDesk.Proofs.CalendarRoundTrip
import BacktestDesk.Proofs.FormRoundTrip
import Mathlib.Algebra.Group.Nat.Defs
import Mathlib.Data.List.TakeWhile

/-!
# BacktestDesk.Proofs.DayTextRoundTrip

The text of a date is read as that date, and that of an hour as the instant at which it begins. The
years outside 0 to 9999 have a sign and any number of digits, all others four digits, so that the
two forms are read apart.

* `year_append`, `bounded_append`: the numbers of a date, one by one.
* `dayParts_append`, `dayOfChars_chars`: the whole date.
* `ofWire?_hour`: an hour in the form of the backend.
-/

namespace BacktestDesk
namespace Calendar

/-! ## Digits -/

theorem isBlank_of_isDigit {c : Char} (h : c.isDigit) : Text.isBlank c = false := by
  have hlo : 48 ≤ c.toNat := (Char.isDigit_iff_toNat.mp h).1
  have hhi : c.toNat ≤ 57 := (Char.isDigit_iff_toNat.mp h).2
  simp only [Text.isBlank, Text.inRanges, Text.blankRanges, List.any_cons, List.any_nil,
    Bool.or_false, Bool.or_eq_false_iff, Bool.and_eq_false_iff, decide_eq_false_iff_not]
  omega

theorem isDigit_of_mem_padded {width n : Nat} {c : Char} (h : c ∈ padded width n) : c.isDigit := by
  simp only [padded, List.mem_append] at h
  rcases h with h | h
  · rw [List.eq_of_mem_replicate h]
    rfl
  · exact Nat.isDigit_of_mem_toDigits (by decide) (by decide) h

theorem notMem_padded {c : Char} (hdigit : c.isDigit = false) (width n : Nat) :
    c ∉ padded width n := by
  intro hc
  exact Bool.false_ne_true (hdigit.symm.trans (isDigit_of_mem_padded hc))

theorem ofDigits_zeros (k : Nat) (ds : List Char) :
    Numeral.ofDigits (List.replicate k '0' ++ ds) = Numeral.ofDigits ds := by
  induction k with
  | zero => rfl
  | succ k ih =>
    rw [List.replicate_succ, List.cons_append]
    exact ih

theorem ofDigits_padded (width n : Nat) : Numeral.ofDigits (padded width n) = n := by
  rw [padded, ofDigits_zeros]
  exact Nat.ofDigitChars_ten_toDigits

theorem padded_ne_nil (width n : Nat) : padded width n ≠ [] :=
  List.append_ne_nil_of_right_ne_nil _ Nat.toDigits_ne_nil

theorem length_padded {width n : Nat} (hwidth : 0 < width) (h : n < 10 ^ width) :
    (padded width n).length = width := by
  have hle : (Nat.toDigits 10 n).length ≤ width :=
    (Nat.length_toDigits_le_iff (by decide) hwidth).mpr h
  simp only [padded, List.length_append, List.length_replicate]
  omega

theorem takeWhile_digits {ds : List Char} (hds : ∀ c ∈ ds, c.isDigit) {stop : Char}
    (hstop : stop.isDigit = false) (rest : List Char) :
    (ds ++ stop :: rest).takeWhile Char.isDigit = ds := by
  rw [List.takeWhile_append_of_pos hds, List.takeWhile_cons_of_neg, List.append_nil]
  rw [hstop]
  exact Bool.false_ne_true

/-! ## Numbers -/

section

variable {ds : List Char} (hne : ds ≠ []) (hds : ∀ c ∈ ds, c.isDigit)

include hne hds

theorem skipBlanks_digits (rest : List Char) : Text.skipBlanks (ds ++ rest) = ds ++ rest := by
  cases ds with
  | nil => exact absurd rfl hne
  | cons c cs =>
    rw [List.cons_append, Text.skipBlanks, List.dropWhile_cons_of_neg]
    rw [isBlank_of_isDigit (hds c List.mem_cons_self)]
    exact Bool.false_ne_true

/-- As many digits as are asked for are taken, whatever stands behind them. -/
theorem number_append (rest : List Char) :
    number ds.length (ds ++ rest) = .ok (Numeral.ofDigits ds, rest) := by
  have htake : ((ds ++ rest).take ds.length).takeWhile Char.isDigit = ds := by
    rw [List.take_left, List.takeWhile_eq_self_iff]
    exact hds
  have hisEmpty : ds.isEmpty = false := List.isEmpty_eq_false_iff.mpr hne
  simp only [number, skipBlanks_digits hne hds, htake, hisEmpty, Bool.false_eq_true, if_false,
    List.drop_left]

/-- All digits are taken up to the first character that is none. -/
theorem signedDigits_append {stop : Char} (hstop : stop.isDigit = false) (rest : List Char) :
    year.signedDigits (ds ++ stop :: rest) = .ok (Numeral.ofDigits ds, stop :: rest) := by
  have htake := takeWhile_digits hds hstop rest
  have hisEmpty : ds.isEmpty = false := List.isEmpty_eq_false_iff.mpr hne
  simp only [year.signedDigits, htake, hisEmpty, Bool.false_eq_true, if_false, List.drop_left]

end

theorem number_padded {width n : Nat} (hwidth : 0 < width) (h : n < 10 ^ width)
    (rest : List Char) : number width (padded width n ++ rest) = .ok (n, rest) := by
  have hnumber := number_append (padded_ne_nil width n) (fun c => isDigit_of_mem_padded) rest
  rwa [length_padded hwidth h, ofDigits_padded] at hnumber

theorem bounded_append {width least greatest n : Nat} (hwidth : 0 < width) (h : n < 10 ^ width)
    (hlo : least ≤ n) (hhi : n ≤ greatest) (rest : List Char) :
    bounded width least greatest (padded width n ++ rest) = .ok (n, rest) := by
  simp only [bounded, number_padded hwidth h, hlo, hhi, and_self, if_true]

/-! ## Years -/

/-- A year without a sign is not taken for one with a sign. -/
theorem year_digits {ds : List Char} (hne : ds ≠ []) (hds : ∀ c ∈ ds, c.isDigit)
    (rest : List Char) :
    year (ds ++ rest) =
      match number 4 (ds ++ rest) with
      | .error e => .error e
      | .ok (n, rest) => .ok (n, rest) := by
  rw [year, skipBlanks_digits hne hds]
  split
  · rename_i cs hcs
    cases ds with
    | nil => exact absurd rfl hne
    | cons c ds =>
      cases hcs
      exact absurd (hds '-' List.mem_cons_self) (by decide)
  · rename_i cs hcs
    cases ds with
    | nil => exact absurd rfl hne
    | cons c ds =>
      cases hcs
      exact absurd (hds '+' List.mem_cons_self) (by decide)
  · rfl

theorem year_append {y : Int} (hmin : minYear ≤ y) (hmax : y ≤ maxYear) {stop : Char}
    (hstop : stop.isDigit = false) (rest : List Char) :
    year (yearChars y ++ stop :: rest) = .ok (y, stop :: rest) := by
  have hdigits : ∀ c ∈ padded 4 y.natAbs, c.isDigit := fun c => isDigit_of_mem_padded
  have hsigned := signedDigits_append (padded_ne_nil 4 y.natAbs) hdigits hstop rest
  rw [ofDigits_padded] at hsigned
  simp only [minYear] at hmin
  simp only [maxYear] at hmax
  -- The sign decides how many digits are taken: four without one, and all with one.
  rw [yearChars]
  split
  · rename_i hplain
    have hsame : ((y.toNat : Nat) : Int) = y := Int.toNat_of_nonneg hplain.1
    rw [year_digits (padded_ne_nil 4 y.toNat) (fun c => isDigit_of_mem_padded),
      number_padded (by decide) (by omega)]
    simp only [hsame]
  split
  · rename_i hnegative
    have hbound : y.natAbs ≤ 0x80000000 := by omega
    have hsame : -((y.natAbs : Nat) : Int) = y := by omega
    have hskip : Text.skipBlanks ('-' :: padded 4 y.natAbs ++ stop :: rest) =
        '-' :: (padded 4 y.natAbs ++ stop :: rest) := rfl
    simp only [year, hskip, hsigned, hbound, if_true, hsame]
  · have hbound : y.natAbs < 0x80000000 := by omega
    have hsame : ((y.natAbs : Nat) : Int) = y := by omega
    have hskip : Text.skipBlanks ('+' :: padded 4 y.natAbs ++ stop :: rest) =
        '+' :: (padded 4 y.natAbs ++ stop :: rest) := rfl
    simp only [year, hskip, hsigned, hbound, if_true, hsame]

/-! ## Dates -/

theorem daysInMonth_le (y : Int) (month : Nat) : daysInMonth y month ≤ 31 := by
  have hall : ∀ leap : Bool, ∀ length ∈ monthLengths leap, length ≤ 31 := by decide
  rw [daysInMonth, List.getD_eq_getElem?_getD]
  cases h : (monthLengths (isLeap y))[month - 1]? with
  | none => exact Nat.zero_le 31
  | some length => exact hall _ _ (List.mem_of_getElem? h)

theorem Date.month_le (d : Date) : d.month ≤ 12 :=
  (isDate_iff.1 d.valid).2.2.2.1

theorem Date.day_le (d : Date) : d.day ≤ 31 := by
  obtain ⟨-, -, -, -, -, hday⟩ := isDate_iff.1 d.valid
  exact Nat.le_trans hday (daysInMonth_le d.year d.month)

theorem expect_cons (c : Char) (cs : List Char) : expect c (c :: cs) = .ok cs :=
  if_pos rfl

theorem gap_cons {c : Char} (h : Text.isBlank c = false) (loose : Bool) (cs : List Char) :
    gap loose (c :: cs) = c :: cs := by
  cases loose with
  | false => rfl
  | true =>
    rw [gap, if_pos rfl, Text.skipBlanks, List.dropWhile_cons_of_neg]
    rw [h]
    exact Bool.false_ne_true

section

variable {separator : Char} (hblank : Text.isBlank separator = false)
  (hdigit : separator.isDigit = false)

include hblank hdigit

theorem dayParts_append (loose : Bool) (d : Date) (rest : List Char) :
    dayParts separator loose (d.chars separator ++ rest) =
      .ok ((d.year, d.month, d.day), rest) := by
  obtain ⟨hmin, hmax, hmonth, hmonth', hday, -⟩ := isDate_iff.1 d.valid
  have hday31 := d.day_le
  have htwo : 0 < 2 := by decide
  have hmonth2 : d.month < 10 ^ 2 := by omega
  have hday2 : d.day < 10 ^ 2 := by omega
  rw [Date.chars, List.append_assoc, List.cons_append, List.append_assoc, List.cons_append]
  simp only [dayParts, year_append hmin hmax hdigit, gap_cons hblank, expect_cons,
    bounded_append htwo hmonth2 hmonth hmonth', bounded_append htwo hday2 hday hday31]

theorem dayOfChars_chars (loose : Bool) (d : Date) :
    dayOfChars separator loose (d.chars separator) = .ok d := by
  have hparts := dayParts_append hblank hdigit loose d []
  have hnone : gap loose [] = [] := by cases loose <;> rfl
  have hdate : Date.of? d.year d.month d.day = some d := dif_pos d.valid
  rw [List.append_nil] at hparts
  simp only [dayOfChars, hparts, hnone, finished, hdate]

end

/-! ## Hours -/

theorem hourOfChars?_padded {hour : Nat} (h : hour < 24) :
    hourOfChars? (padded 2 hour) = some hour := by
  have hall : ∀ n : Fin 24, hourOfChars? (padded 2 n) = some n.val := by decide
  exact hall ⟨hour, h⟩

theorem notMem_yearChars {c : Char} (hdigit : c.isDigit = false) (hminus : c ≠ '-')
    (hplus : c ≠ '+') (y : Int) : c ∉ yearChars y := by
  rw [yearChars]
  split
  · exact notMem_padded hdigit _ _
  · rw [List.mem_cons, not_or]
    refine ⟨?_, notMem_padded hdigit _ _⟩
    split
    · exact hminus
    · exact hplus

theorem notMem_chars {c separator : Char} (hdigit : c.isDigit = false) (hminus : c ≠ '-')
    (hplus : c ≠ '+') (hseparator : c ≠ separator) (d : Date) : c ∉ d.chars separator := by
  simp only [Date.chars, List.mem_append, List.mem_cons, not_or]
  exact ⟨⟨notMem_yearChars hdigit hminus hplus d.year, hseparator, notMem_padded hdigit _ _⟩,
    hseparator, notMem_padded hdigit _ _⟩

/-- An hour in the form of the backend is read as the instant at which it begins. -/
theorem ofWire?_hour (d : Date) {hour : Nat} (h : hour < 24) :
    ofWire? (String.ofList (hourChars d hour)) = Instant.ofLocal? d (hour * 3600) 0 0 := by
  have hT : 'T' ∉ d.chars '_' :=
    notMem_chars (by decide) (by decide) (by decide) (by decide) d
  have hdate : dayOfChars '_' false (d.chars '_') = .ok d :=
    dayOfChars_chars (by decide) (by decide) false d
  rw [ofWire?, String.toList_ofList, ofWireChars?, hourChars, Text.dropWhile_append_cons _ hT,
    Text.takeWhile_append_cons _ hT]
  simp only [hourOfChars?_padded h, hdate]

theorem ofWire?_wireDay (d : Date) :
    ∃ t, ofWire? (wireDay d) = some t ∧ t.date = d ∧ t.secondOfDay = 0 ∧ t.nanos = 0 := by
  have hmidnight : 0 * 3600 < 86400 := by decide
  obtain ⟨t, ht, hdate, hsecond, hnanos⟩ := Instant.ofLocal?_onDay d hmidnight
  exact ⟨t, (ofWire?_hour d (by decide)).trans ht, hdate, hsecond, hnanos⟩

/-- Every day has a text of its own. -/
theorem wireDay_injective {d e : Date} (h : wireDay d = wireDay e) : d = e := by
  obtain ⟨t, ht, hd, -⟩ := ofWire?_wireDay d
  obtain ⟨u, hu, he, -⟩ := ofWire?_wireDay e
  rw [h, hu] at ht
  cases ht
  exact hd.symm.trans he

end Calendar
end BacktestDesk
