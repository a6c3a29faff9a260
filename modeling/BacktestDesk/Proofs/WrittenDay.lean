import BacktestDesk.Proofs.DigitRows
import BacktestDesk.Proofs.WrittenNumeral

/-!
# BacktestDesk.Proofs.WrittenDay

All texts that are read as a date, not only those that a date is written as. Blanks may stand in
front of each number, the numbers need not fill their width, and the year may have a sign.

* `Figure.of_number`, `Figure.of_bounded`, `Figure.of_year`: what a number was read from.
* `Figure.number_chars`, `Figure.bounded_chars`, `Figure.year_chars`: that it is read from there.
* `dayOfChars_ok_iff`: the texts of a date are its `WrittenDay`s.
-/

namespace BacktestDesk
namespace Calendar

/-! ## Numbers -/

/-- Digits, at least one, with blanks and a sign in front, both of which may be missing. -/
structure Figure where
  gap : List Char
  sign : Numeral.Sign
  digits : List Char
  gap_isBlank : ∀ c ∈ gap, Text.isBlank c
  digits_ne_nil : digits ≠ []
  isDigit : ∀ c ∈ digits, c.isDigit

namespace Figure

def chars (f : Figure) : List Char :=
  f.gap ++ (f.sign.chars ++ f.digits)

/-- The number without its sign. -/
def size (f : Figure) : Nat :=
  Numeral.ofDigits f.digits

def value (f : Figure) : Int :=
  if f.sign.isMinus then -f.size else f.size

theorem chars_bare {f : Figure} (h : f.sign = .bare) : f.chars = f.gap ++ f.digits := by
  rw [chars, h, Numeral.Sign.chars, List.nil_append]

theorem value_bare {f : Figure} (h : f.sign = .bare) : f.value = f.size := by
  rw [value, h]
  rfl

theorem value_plus {f : Figure} (h : f.sign = .plus) : f.value = f.size := by
  rw [value, h]
  rfl

theorem value_minus {f : Figure} (h : f.sign = .minus) : f.value = -f.size := by
  rw [value, h]
  rfl

theorem mem_chars {f : Figure} {c : Char} (h : c ∈ f.chars) :
    Text.isBlank c ∨ c.isDigit ∨ c = '+' ∨ c = '-' := by
  simp only [chars, List.mem_append] at h
  rcases h with h | h | h
  · exact .inl (f.gap_isBlank c h)
  · cases hsign : f.sign with
    | bare => simp [hsign, Numeral.Sign.chars] at h
    | plus => simp_all [Numeral.Sign.chars]
    | minus => simp_all [Numeral.Sign.chars]
  · exact .inr (.inl (f.isDigit c h))

theorem notMem_chars {c : Char} (hblank : Text.isBlank c = false) (hdigit : c.isDigit = false)
    (hplus : c ≠ '+') (hminus : c ≠ '-') (f : Figure) : c ∉ f.chars := by
  intro hc
  rcases mem_chars hc with h | h | h | h
  · exact Bool.false_ne_true (hblank.symm.trans h)
  · exact Bool.false_ne_true (hdigit.symm.trans h)
  · exact hplus h
  · exact hminus h

/-! ### From what was read to the text -/

theorem exists_gap (cs : List Char) :
    ∃ gap, (∀ c ∈ gap, Text.isBlank c) ∧ gap ++ Text.skipBlanks cs = cs :=
  ⟨cs.takeWhile Text.isBlank, fun _ => List.mem_takeWhile_imp, List.takeWhile_append_dropWhile⟩

theorem of_number {width n : Nat} {cs rest : List Char} (h : number width cs = .ok (n, rest)) :
    ∃ f : Figure, f.sign = .bare ∧ f.digits.length ≤ width ∧ f.chars ++ rest = cs ∧ f.size = n := by
  obtain ⟨gap, hgap, hcs⟩ := exists_gap cs
  simp only [number] at h
  split at h
  · cases h
  · rename_i hne
    obtain ⟨rfl, rfl⟩ := Prod.mk.inj (Except.ok.inj h)
    generalize hds : ((Text.skipBlanks cs).take width).takeWhile Char.isDigit = ds at hne ⊢
    have hdigits : ∀ c ∈ ds, c.isDigit := fun c hc => List.mem_takeWhile_imp (hds ▸ hc)
    have htake : ds <+: (Text.skipBlanks cs).take width := hds ▸ List.takeWhile_prefix _
    have hprefix := htake.trans (List.take_prefix width _)
    refine ⟨⟨gap, .bare, ds, hgap, by simpa using hne, hdigits⟩, rfl, ?_, ?_, rfl⟩
    · exact Nat.le_trans htake.length_le (List.length_take_le ..)
    · rw [chars_bare rfl, List.append_assoc, List.prefix_iff_eq_append.mp hprefix, hcs]

theorem of_bounded {width least greatest n : Nat} {cs rest : List Char}
    (h : bounded width least greatest cs = .ok (n, rest)) :
    ∃ f : Figure, f.sign = .bare ∧ f.digits.length ≤ width ∧ f.chars ++ rest = cs ∧
      f.size = n := by
  rw [bounded] at h
  split at h
  · cases h
  · rename_i hnumber
    split at h
    · cases h
      exact of_number hnumber
    · cases h

/-- The digits behind a sign and the blanks in front of it. -/
theorem of_signedDigits {gap cs rest : List Char} (hgap : ∀ c ∈ gap, Text.isBlank c) {n : Nat}
    (sign : Numeral.Sign) (h : year.signedDigits cs = .ok (n, rest)) :
    ∃ f : Figure, f.sign = sign ∧ f.chars ++ rest = gap ++ (sign.chars ++ cs) ∧ f.size = n := by
  simp only [year.signedDigits] at h
  split at h
  · cases h
  · rename_i hne
    obtain ⟨rfl, rfl⟩ := Prod.mk.inj (Except.ok.inj h)
    have hcs := List.prefix_iff_eq_append.mp (List.takeWhile_prefix (l := cs) Char.isDigit)
    refine ⟨⟨gap, sign, cs.takeWhile Char.isDigit, hgap, by simpa using hne, fun _ =>
      List.mem_takeWhile_imp⟩, rfl, ?_, rfl⟩
    rw [chars, List.append_assoc, List.append_assoc, hcs]

theorem of_year {cs rest : List Char} {y : Int} (h : year cs = .ok (y, rest)) :
    ∃ f : Figure, (f.sign = .bare → f.digits.length ≤ 4) ∧ f.chars ++ rest = cs ∧
      f.value = y := by
  obtain ⟨gap, hgap, hcs⟩ := exists_gap cs
  -- One case for each sign, as the reader has them.
  rw [year] at h
  split at h
  · rename_i hskip
    split at h
    · cases h
    · rename_i hdigits
      obtain ⟨f, hsign, hchars, rfl⟩ := of_signedDigits hgap .minus hdigits
      split at h
      · cases h
        refine ⟨f, fun hbare => ?_, ?_, ?_⟩
        · cases hsign.symm.trans hbare
        · rw [hchars, ← hcs, hskip]
          rfl
        · exact value_minus hsign
      · cases h
  · rename_i hskip
    split at h
    · cases h
    · rename_i hdigits
      obtain ⟨f, hsign, hchars, rfl⟩ := of_signedDigits hgap .plus hdigits
      split at h
      · cases h
        refine ⟨f, fun hbare => ?_, ?_, ?_⟩
        · cases hsign.symm.trans hbare
        · rw [hchars, ← hcs, hskip]
          rfl
        · exact value_plus hsign
      · cases h
  · split at h
    · cases h
    · rename_i hnumber
      cases h
      obtain ⟨f, hbare, hlength, hchars, rfl⟩ := of_number hnumber
      have hgaps : ∀ c ∈ gap ++ f.gap, Text.isBlank c :=
        List.forall_mem_append.mpr ⟨hgap, f.gap_isBlank⟩
      refine ⟨⟨gap ++ f.gap, .bare, f.digits, hgaps, f.digits_ne_nil, f.isDigit⟩,
        fun _ => hlength, ?_, rfl⟩
      rw [← hcs, ← hchars, chars_bare hbare, chars_bare rfl]
      simp only [List.append_assoc]

/-! ### From the text to what is read -/

variable {rest : List Char} (hrest : ∀ c, rest.head? = some c → c.isDigit = false)

theorem skipBlanks_chars (f : Figure) (rest : List Char) :
    Text.skipBlanks (f.chars ++ rest) = f.sign.chars ++ (f.digits ++ rest) := by
  rw [chars, List.append_assoc, Text.skipBlanks, List.dropWhile_append_of_pos f.gap_isBlank,
    List.append_assoc]
  cases f.sign with
  | bare => exact skipBlanks_digits f.digits_ne_nil f.isDigit rest
  | plus => rfl
  | minus => rfl

include hrest

theorem number_digits {width : Nat} {f : Figure} (hlength : f.digits.length ≤ width) :
    number width (f.digits ++ rest) = .ok (f.size, rest) := by
  -- The digits end before the width does, if not with it.
  have htake : ((f.digits ++ rest).take width).takeWhile Char.isDigit = f.digits := by
    rw [List.take_append, List.take_of_length_le hlength]
    refine (Numeral.Written.takeWhile_all f.isDigit fun c hc => hrest c ?_).1
    cases hzero : width - f.digits.length with
    | zero => simp [hzero] at hc
    | succ k => simpa [hzero, List.head?_take] using hc
  have hne : f.digits.isEmpty = false := List.isEmpty_eq_false_iff.mpr f.digits_ne_nil
  simp only [number, skipBlanks_digits f.digits_ne_nil f.isDigit, htake, hne, Bool.false_eq_true,
    if_false, List.drop_left, size]

theorem number_chars {width : Nat} {f : Figure} (hbare : f.sign = .bare)
    (hlength : f.digits.length ≤ width) :
    number width (f.chars ++ rest) = .ok (f.size, rest) := by
  have hskip := f.skipBlanks_chars rest
  rw [hbare, Numeral.Sign.chars, List.nil_append] at hskip
  rw [← number_digits hrest hlength]
  simp only [number, hskip, skipBlanks_digits f.digits_ne_nil f.isDigit]

theorem bounded_chars {width least greatest : Nat} {f : Figure} (hbare : f.sign = .bare)
    (hlength : f.digits.length ≤ width) (hlo : least ≤ f.size) (hhi : f.size ≤ greatest) :
    bounded width least greatest (f.chars ++ rest) = .ok (f.size, rest) := by
  simp only [bounded, number_chars hrest hbare hlength, hlo, hhi, and_self, if_true]

theorem signedDigits_digits (f : Figure) :
    year.signedDigits (f.digits ++ rest) = .ok (f.size, rest) := by
  obtain ⟨htake, -⟩ := Numeral.Written.takeWhile_all f.isDigit hrest
  have hne : f.digits.isEmpty = false := List.isEmpty_eq_false_iff.mpr f.digits_ne_nil
  simp only [year.signedDigits, htake, hne, Bool.false_eq_true, if_false, List.drop_left, size]

theorem year_chars {f : Figure} (hlength : f.sign = .bare → f.digits.length ≤ 4)
    (hmin : minYear ≤ f.value) (hmax : f.value ≤ maxYear) :
    year (f.chars ++ rest) = .ok (f.value, rest) := by
  simp only [minYear] at hmin
  simp only [maxYear] at hmax
  have hskip := f.skipBlanks_chars rest
  have hsigned := f.signedDigits_digits hrest
  cases hsign : f.sign with
  | bare =>
    rw [hsign, Numeral.Sign.chars, List.nil_append] at hskip
    have hsame : year (f.chars ++ rest) = year (f.digits ++ rest) := by
      simp only [year, hskip, skipBlanks_digits f.digits_ne_nil f.isDigit]
    rw [hsame, year_digits f.digits_ne_nil f.isDigit, number_digits hrest (hlength hsign),
      value_bare hsign]
  | plus =>
    rw [hsign] at hskip
    have hvalue := value_plus hsign
    have hbound : f.size < 0x80000000 := by omega
    simp only [year, hskip, Numeral.Sign.chars, List.cons_append, List.nil_append, hsigned, hbound,
      if_true, hvalue]
  | minus =>
    rw [hsign] at hskip
    have hvalue := value_minus hsign
    have hbound : f.size ≤ 0x80000000 := by omega
    simp only [year, hskip, Numeral.Sign.chars, List.cons_append, List.nil_append, hsigned, hbound,
      if_true, hvalue]

end Figure

/-! ## Dates -/

/-- A date as it may be written, with a figure each for year, month and day. -/
structure WrittenDay where
  year : Figure
  month : Figure
  day : Figure
  date : Date
  year_length : year.sign = .bare → year.digits.length ≤ 4
  month_bare : month.sign = .bare
  month_length : month.digits.length ≤ 2
  day_bare : day.sign = .bare
  day_length : day.digits.length ≤ 2
  year_eq : year.value = date.year
  month_eq : month.size = date.month
  day_eq : day.size = date.day

namespace WrittenDay

def chars (separator : Char) (w : WrittenDay) : List Char :=
  w.year.chars ++ separator :: (w.month.chars ++ separator :: w.day.chars)

theorem notMem_chars {c separator : Char} (hblank : Text.isBlank c = false)
    (hdigit : c.isDigit = false) (hplus : c ≠ '+') (hminus : c ≠ '-') (hseparator : c ≠ separator)
    (w : WrittenDay) : c ∉ w.chars separator := by
  have hfigure := Figure.notMem_chars hblank hdigit hplus hminus
  simp only [chars, List.mem_append, List.mem_cons, not_or]
  exact ⟨hfigure _, hseparator, hfigure _, hseparator, hfigure _⟩

theorem of_expect {c : Char} {cs rest : List Char} (h : expect c cs = .ok rest) :
    c :: rest = cs := by
  cases cs with
  | nil => cases h
  | cons d cs =>
    rw [expect] at h
    split at h
    · rename_i hd
      cases h
      rw [hd]
    · cases h

theorem of_finished {cs : List Char} (h : finished cs = .ok ()) : cs = [] := by
  cases cs with
  | nil => rfl
  | cons c cs => cases h

theorem of_dayParts {separator : Char} {cs rest : List Char} {y : Int} {m d : Nat}
    (h : dayParts separator false cs = .ok ((y, m, d), rest)) :
    ∃ year month day : Figure,
      year.chars ++ separator :: (month.chars ++ separator :: (day.chars ++ rest)) = cs ∧
      (year.sign = .bare → year.digits.length ≤ 4) ∧ year.value = y ∧
      month.sign = .bare ∧ month.digits.length ≤ 2 ∧ month.size = m ∧
      day.sign = .bare ∧ day.digits.length ≤ 2 ∧ day.size = d := by
  simp only [dayParts, gap, Bool.false_eq_true, if_false] at h
  split at h
  · cases h
  rename_i hyear
  split at h
  · cases h
  rename_i hfirst
  split at h
  · cases h
  rename_i hmonth
  split at h
  · cases h
  rename_i hsecond
  split at h
  · cases h
  rename_i hday
  cases h
  obtain ⟨year, hyear4, rfl, hvalue⟩ := Figure.of_year hyear
  obtain ⟨month, hmonthBare, hmonth2, hmonthText, hmonthSize⟩ := Figure.of_bounded hmonth
  obtain ⟨day, hdayBare, hday2, hdayText, hdaySize⟩ := Figure.of_bounded hday
  refine ⟨year, month, day, ?_, hyear4, hvalue, hmonthBare, hmonth2, hmonthSize, hdayBare, hday2,
    hdaySize⟩
  rw [hdayText, of_expect hsecond, hmonthText, of_expect hfirst]

theorem of_dayOfChars {separator : Char} {cs : List Char} {d : Date}
    (h : dayOfChars separator false cs = .ok d) :
    ∃ w : WrittenDay, w.chars separator = cs ∧ w.date = d := by
  rw [dayOfChars] at h
  split at h
  · cases h
  rename_i rest hparts
  split at h
  · cases h
  rename_i hfinished
  split at h
  · rename_i date hdate
    cases h
    obtain ⟨year, month, day, hchars, hyear, hyearEq, hmonthBare, hmonth, rfl, hdayBare, hday,
      rfl⟩ := of_dayParts hparts
    rw [Date.of?] at hdate
    split at hdate
    · cases hdate
      refine ⟨⟨year, month, day, _, hyear, hmonthBare, hmonth, hdayBare, hday, hyearEq, rfl, rfl⟩,
        ?_, rfl⟩
      have hrest : rest = [] := of_finished hfinished
      rw [← hchars, hrest, List.append_nil, chars]
    · cases hdate
  · cases h

theorem dayOfChars_chars {separator : Char} (hdigit : separator.isDigit = false)
    (w : WrittenDay) : dayOfChars separator false (w.chars separator) = .ok w.date := by
  obtain ⟨hmin, hmax, hmonth, hmonth', hday, -⟩ := isDate_iff.1 w.date.valid
  have hday31 := w.date.day_le
  rw [← w.year_eq] at hmin hmax
  rw [← w.month_eq] at hmonth hmonth'
  rw [← w.day_eq] at hday hday31
  have hstop : ∀ cs c, (separator :: cs).head? = some c → c.isDigit = false := by
    rintro cs c ⟨⟩
    exact hdigit
  have hend : ∀ c : Char, [].head? = some c → c.isDigit = false := nofun
  have hyear := fun cs => Figure.year_chars (hstop cs) w.year_length hmin hmax
  have hmonths := fun cs => Figure.bounded_chars (hstop cs) w.month_bare w.month_length hmonth
    hmonth'
  have hdays := Figure.bounded_chars hend w.day_bare w.day_length hday hday31
  rw [List.append_nil] at hdays
  have hdate : Date.of? w.year.value w.month.size w.day.size = some w.date := by
    rw [w.year_eq, w.month_eq, w.day_eq]
    exact dif_pos w.date.valid
  simp only [dayOfChars, dayParts, gap, Bool.false_eq_true, if_false, chars, hyear, expect_cons,
    hmonths, hdays, finished, hdate]

end WrittenDay

/-- A text is read as a date if and only if it is one of the forms of the date. -/
theorem dayOfChars_ok_iff {separator : Char} (hdigit : separator.isDigit = false)
    {cs : List Char} {d : Date} :
    dayOfChars separator false cs = .ok d ↔
      ∃ w : WrittenDay, w.chars separator = cs ∧ w.date = d := by
  refine ⟨WrittenDay.of_dayOfChars, ?_⟩
  rintro ⟨w, rfl, rfl⟩
  exact w.dayOfChars_chars hdigit

end Calendar
end BacktestDesk
