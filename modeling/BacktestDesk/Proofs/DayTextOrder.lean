import BacktestDesk.Proofs.DigitRows
import BacktestDesk.Proofs.RequestWire

/-!
# BacktestDesk.Proofs.DayTextOrder

The days that a request sends, as texts. In the years 0 to 9999 a day has the form `2024_03_07T00`,
whose places are fixed, so that the texts are in the order of the days. The years outside have a
sign in front, and a text of such a day neither has that form nor keeps that order.

* `inFixedForm_wireDay_iff`, `inSignedForm_wireDay_iff`: the form of a day.
* `wireDay_le_iff`: the order of the texts.
* `Request.sent_days_form`: the days of a request that keeps its rules.
-/

namespace BacktestDesk
namespace Calendar

/-! ## Forms -/

/-- A year as it stands, two digits each for month and day, and the first hour. -/
def HasYear (year : List Char) (s : String) : Prop :=
  ∃ month day : List Char,
    s.toList = year ++ '_' :: (month ++ '_' :: (day ++ ['T', '0', '0'])) ∧
    month.length = 2 ∧ day.length = 2 ∧ ∀ c ∈ month ++ day, c.isDigit

/-- The form `2024_03_07T00`. -/
def InFixedForm (s : String) : Prop :=
  ∃ year : List Char, HasYear year s ∧ year.length = 4 ∧ ∀ c ∈ year, c.isDigit

/-- The same with a sign in front and at least four digits for the year. -/
def InSignedForm (s : String) : Prop :=
  ∃ sign, ∃ year : List Char, HasYear (sign :: year) s ∧ (sign = '-' ∨ sign = '+') ∧
    4 ≤ year.length ∧ ∀ c ∈ year, c.isDigit

theorem InFixedForm.length_eq {s : String} (h : InFixedForm s) : s.length = 13 := by
  obtain ⟨year, ⟨month, day, hs, hmonth, hday, -⟩, hyear, -⟩ := h
  rw [← String.length_toList, hs]
  simp [hmonth, hday, hyear]

/-- The first character tells the forms apart. -/
theorem InFixedForm.not_signed {s : String} (h : InFixedForm s) : ¬ InSignedForm s := by
  rintro ⟨sign, year', ⟨_, _, hs', -⟩, hsign, -⟩
  obtain ⟨year, ⟨_, _, hs, -⟩, hlength, hdigits⟩ := h
  obtain ⟨c, cs, rfl⟩ := List.exists_cons_of_length_eq_add_one hlength
  rw [hs'] at hs
  obtain rfl := (List.cons.inj hs).1
  have hdigit := hdigits sign List.mem_cons_self
  rcases hsign with rfl | rfl <;> cases hdigit

theorem hasYear_wireDay (d : Date) : HasYear (yearChars d.year) (wireDay d) := by
  have hmonth := d.month_le
  have hday := d.day_le
  refine ⟨padded 2 d.month, padded 2 d.day, ?_, length_padded (by decide) (by omega),
    length_padded (by decide) (by omega), ?_⟩
  · have hhour : padded 2 0 = ['0', '0'] := rfl
    rw [wireDay, String.toList_ofList, hourChars, hhour, Date.chars]
    simp
  · rw [List.forall_mem_append]
    exact ⟨fun c => isDigit_of_mem_padded, fun c => isDigit_of_mem_padded⟩

theorem inFixedForm_wireDay {d : Date} (h : 0 ≤ d.year ∧ d.year ≤ 9999) :
    InFixedForm (wireDay d) := by
  have hday := hasYear_wireDay d
  rw [yearChars, if_pos h] at hday
  exact ⟨_, hday, length_padded (by decide) (by omega), fun c => isDigit_of_mem_padded⟩

theorem inSignedForm_wireDay {d : Date} (h : ¬ (0 ≤ d.year ∧ d.year ≤ 9999)) :
    InSignedForm (wireDay d) := by
  have hday := hasYear_wireDay d
  rw [yearChars, if_neg h] at hday
  refine ⟨_, _, hday, ?_, le_length_padded 4 _, fun c => isDigit_of_mem_padded⟩
  split
  · exact .inl rfl
  · exact .inr rfl

theorem inFixedForm_wireDay_iff {d : Date} :
    InFixedForm (wireDay d) ↔ 0 ≤ d.year ∧ d.year ≤ 9999 := by
  refine ⟨fun hfixed => ?_, inFixedForm_wireDay⟩
  by_contra hyear
  exact hfixed.not_signed (inSignedForm_wireDay hyear)

theorem inSignedForm_wireDay_iff {d : Date} :
    InSignedForm (wireDay d) ↔ ¬ (0 ≤ d.year ∧ d.year ≤ 9999) := by
  refine ⟨fun hsigned hyear => ?_, inSignedForm_wireDay⟩
  exact (inFixedForm_wireDay hyear).not_signed hsigned

/-! ## Order -/

/-- Texts are compared part by part where the parts have one length. -/
theorem append_lt_append_iff {as bs : List Char} (h : as.length = bs.length) (xs ys : List Char) :
    as ++ xs < bs ++ ys ↔ as < bs ∨ as = bs ∧ xs < ys := by
  induction as generalizing bs with
  | nil =>
    obtain rfl := List.eq_nil_of_length_eq_zero h.symm
    simp
  | cons a as ih =>
    obtain ⟨b, bs, rfl⟩ := List.exists_cons_of_length_eq_add_one h.symm
    rw [List.cons_append, List.cons_append, List.cons_lt_cons_iff, List.cons_lt_cons_iff,
      ih (Nat.succ.inj h), List.cons.injEq]
    tauto

theorem padded_lt_padded_iff {width m n : Nat} (hwidth : 0 < width) (hm : m < 10 ^ width)
    (hn : n < 10 ^ width) : padded width m < padded width n ↔ m < n := by
  have hlength : (padded width m).length = (padded width n).length := by
    rw [length_padded hwidth hm, length_padded hwidth hn]
  rw [Numeral.lt_iff_ofDigits_lt (fun c => isDigit_of_mem_padded) (fun c => isDigit_of_mem_padded)
    hlength, ofDigits_padded, ofDigits_padded]

theorem padded_inj {width m n : Nat} : padded width m = padded width n ↔ m = n := by
  refine ⟨fun h => ?_, fun h => by rw [h]⟩
  rw [← ofDigits_padded width m, h, ofDigits_padded]

/-- A part of fixed width in front of the rest. -/
theorem padded_append_lt_iff {width m n : Nat} (hwidth : 0 < width) (hm : m < 10 ^ width)
    (hn : n < 10 ^ width) (separator : Char) (xs ys : List Char) :
    padded width m ++ separator :: xs < padded width n ++ separator :: ys ↔
      m < n ∨ m = n ∧ xs < ys := by
  have hlength : (padded width m).length = (padded width n).length := by
    rw [length_padded hwidth hm, length_padded hwidth hn]
  rw [append_lt_append_iff hlength, padded_lt_padded_iff hwidth hm hn, padded_inj,
    List.cons_lt_cons_iff]
  simp

theorem wireDay_lt_iff {d e : Date} (hd : 0 ≤ d.year ∧ d.year ≤ 9999)
    (he : 0 ≤ e.year ∧ e.year ≤ 9999) : wireDay d < wireDay e ↔ d.key < e.key := by
  have hmonth := d.month_le
  have hmonth' := e.month_le
  have hday := d.day_le
  have hday' := e.day_le
  have hyear : d.year.toNat < e.year.toNat ↔ d.year < e.year := by omega
  have hsame : d.year.toNat = e.year.toNat ↔ d.year = e.year := by omega
  simp only [String.lt_iff, wireDay, String.toList_ofList, hourChars, Date.chars,
    yearChars, if_pos hd, if_pos he, List.append_assoc, List.cons_append]
  rw [padded_append_lt_iff (by decide) (by omega) (by omega),
    padded_append_lt_iff (by decide) (by omega) (by omega),
    padded_append_lt_iff (by decide) (by omega) (by omega), hyear, hsame]
  have hhour : ¬ padded 2 0 < padded 2 0 := List.lt_irrefl _
  simp only [hhour, and_false, or_false, Date.key, Prod.Lex.toLex_lt_toLex]

theorem wireDay_le_iff {d e : Date} (hd : 0 ≤ d.year ∧ d.year ≤ 9999)
    (he : 0 ≤ e.year ∧ e.year ≤ 9999) : wireDay d ≤ wireDay e ↔ d.key ≤ e.key := by
  rw [← String.not_lt, wireDay_lt_iff he hd, not_lt]

end Calendar

open Calendar

/-! ## The days of a request -/

namespace Request

/-- The other parameters do not get in the way. -/
theorem sentUnder_days {r : Request} {range : DayRange} (h : r.range? = some range) :
    r.parameters.sentUnder "from" = [wireDay range.first] ∧
      r.parameters.sentUnder "to" = [wireDay range.last] := by
  simp only [Parameters.sentUnder_eq, pairs_parameters, wirePairs, rangePairs, h, Option.elim_some]
  cases r with
  | run b => simp [named, figures, Backtest.figures, DayRange.wirePairs]
  | train t => simp [named, figures, Training.figures, DayRange.wirePairs, List.filter_map,
      Function.comp_def]
  | load range => simp [named, figures, DayRange.wirePairs]
  | history range => simp [named, figures, DayRange.wirePairs]
  | models => cases h

theorem range_in_order {r : Request} {ps : Parameters} (h : r.build = .ok ps) {range : DayRange}
    (hrange : r.range? = some range) : range.first.key ≤ range.last.key := by
  obtain ⟨hchecks, -⟩ := build_ok_iff.mp h
  have horder := hchecks _ (range_checks hrange _ (List.mem_cons_of_mem _ List.mem_cons_self))
  rw [check] at horder
  split at horder
  · rename_i hle
    exact Date.le_iff.mp hle
  · cases horder

/-- The days that a request with a range sends, if it keeps its rules. One value is read as its
first day and one as its last. In the years 0 to 9999, and in no others, a day is sent as four
digits, two and two with underscores between them, and `T00`, 13 characters in all; outside of these
years there is a sign in front of the year. Where both days have the fixed form, their texts are in
the order of the days. -/
theorem sent_days_form {r : Request} {ps : Parameters} {range : DayRange} (h : r.build = .ok ps)
    (hrange : r.range? = some range) :
    ps.sentUnder "from" = [wireDay range.first] ∧ ps.sentUnder "to" = [wireDay range.last] ∧
    (∀ d ∈ [range.first, range.last],
      (InFixedForm (wireDay d) ↔ 0 ≤ d.year ∧ d.year ≤ 9999) ∧
      (InFixedForm (wireDay d) → (wireDay d).length = 13) ∧
      (InSignedForm (wireDay d) ↔ ¬ (0 ≤ d.year ∧ d.year ≤ 9999))) ∧
    range.first.key ≤ range.last.key ∧
    (InFixedForm (wireDay range.first) → InFixedForm (wireDay range.last) →
      wireDay range.first ≤ wireDay range.last ∧
      (wireDay range.first = wireDay range.last ↔ range.first = range.last)) := by
  have horder := range_in_order h hrange
  obtain ⟨-, rfl⟩ := build_ok_iff.mp h
  obtain ⟨hfrom, hto⟩ := sentUnder_days hrange
  refine ⟨hfrom, hto, fun d _ => ?_, horder, fun hfirst hlast => ⟨?_, ?_⟩⟩
  · exact ⟨inFixedForm_wireDay_iff, InFixedForm.length_eq, inSignedForm_wireDay_iff⟩
  · rw [inFixedForm_wireDay_iff] at hfirst hlast
    exact (wireDay_le_iff hfirst hlast).mpr horder
  · exact ⟨wireDay_injective, fun heq => by rw [heq]⟩

/-- From the last day of one year to the first of the next. -/
def turnOfYear : DayRange :=
  ⟨"ETH", ⟨2027, 12, 31, by decide⟩, ⟨2028, 1, 1, by decide⟩⟩

theorem sent_days_form_turnOfYear :
    (load turnOfYear).build = .ok (load turnOfYear).parameters ∧
    (load turnOfYear).range? = some turnOfYear ∧
    (load turnOfYear).parameters.sentUnder "from" = ["2027_12_31T00"] ∧
    (load turnOfYear).parameters.sentUnder "to" = ["2028_01_01T00"] ∧
    InFixedForm "2027_12_31T00" ∧ InFixedForm "2028_01_01T00" ∧
    "2027_12_31T00" ≤ "2028_01_01T00" := by
  have h : (load turnOfYear).build = .ok (load turnOfYear).parameters := by decide +kernel
  have hrange : (load turnOfYear).range? = some turnOfYear := rfl
  have hfirst : wireDay turnOfYear.first = "2027_12_31T00" := by decide
  have hlast : wireDay turnOfYear.last = "2028_01_01T00" := by decide
  obtain ⟨hfrom, hto, hforms, -, horder⟩ := sent_days_form h hrange
  obtain ⟨hfixed, -⟩ := hforms turnOfYear.first (by simp)
  obtain ⟨hfixed', -⟩ := hforms turnOfYear.last (by simp)
  have hfixed := hfixed.mpr (by decide)
  have hfixed' := hfixed'.mpr (by decide)
  obtain ⟨hle, -⟩ := horder hfixed hfixed'
  rw [hfirst] at hfrom hfixed hle
  rw [hlast] at hto hfixed' hle
  exact ⟨h, hrange, hfrom, hto, hfixed, hfixed', hle⟩

/-- From the last day of the year 9999 to the first of the next. -/
def turnOfMillennia : DayRange :=
  ⟨"BTC", ⟨9999, 12, 31, by decide⟩, ⟨10000, 1, 1, by decide⟩⟩

/-- A request with a day behind the year 9999 is accepted. The day is sent with a sign and a digit
more, and its text comes before that of the day before it. -/
theorem far_day_signed :
    (load turnOfMillennia).build = .ok (load turnOfMillennia).parameters ∧
    (load turnOfMillennia).parameters.sentUnder "from" = ["9999_12_31T00"] ∧
    (load turnOfMillennia).parameters.sentUnder "to" = ["+10000_01_01T00"] ∧
    ¬ InFixedForm "+10000_01_01T00" ∧ "+10000_01_01T00".length ≠ 13 ∧
    "+10000_01_01T00" < "9999_12_31T00" := by
  have hrange : (load turnOfMillennia).range? = some turnOfMillennia := rfl
  have hfirst : wireDay turnOfMillennia.first = "9999_12_31T00" := by decide
  have hlast : wireDay turnOfMillennia.last = "+10000_01_01T00" := by decide
  obtain ⟨hfrom, hto⟩ := sentUnder_days hrange
  rw [hfirst] at hfrom
  rw [hlast] at hto
  refine ⟨by decide +kernel, hfrom, hto, ?_, by decide, by decide⟩
  rw [← hlast, inFixedForm_wireDay_iff]
  decide

end Request
end BacktestDesk
