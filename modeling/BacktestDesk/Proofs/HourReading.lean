import BacktestDesk.Proofs.HourRoundTrip
import BacktestDesk.Proofs.WrittenDay

/-!
# BacktestDesk.Proofs.HourReading

All texts that are read as an hour of the backend, and among them those that an hour is written as.
Every hour has one plain form, which is the text it is written as. Where the digits of the day are
too few or have blanks, zeros or a sign too many in front, the text is read all the same.

* `ofWire?_eq_some_iff`: the texts of an hour are its `WrittenHour`s.
* `WrittenHour.chars_eq_hourChars_iff`: the plain forms are what hours are written as.
* `hours_read`: reading, writing again, and the texts for which that is a round trip.
-/

namespace BacktestDesk
namespace Calendar

/-! ## Hours of a day -/

theorem Instant.Begins.unique {t u : Instant} {d : Date} {hour : Nat} (ht : t.Begins d hour)
    (hu : u.Begins d hour) : t = u := by
  have hseconds := t.seconds_eq
  have hseconds' := u.seconds_eq
  have hhour := ht.hour.trans hu.hour.symm
  have hminute := ht.minute.trans hu.minute.symm
  have hsecond := ht.second.trans hu.second.symm
  rw [ht.date] at hseconds
  rw [hu.date] at hseconds'
  simp only [Instant.hour, Instant.minute, Instant.second, ht.nanos, hu.nanos]
    at hhour hminute hsecond
  have hnanos := ht.nanos.trans hu.nanos.symm
  have hsame : t.seconds = u.seconds := by omega
  cases t
  cases u
  cases hsame
  cases hnanos
  rfl

/-- Every hour of every date has a first instant. -/
theorem Instant.exists_begins (d : Date) {hour : Nat} (h : hour < 24) :
    ∃ t, ofLocal? d (hour * 3600) 0 0 = some t ∧ t.Begins d hour := by
  have hday : hour * 3600 < 86400 := by omega
  obtain ⟨t, ht, hdate, hsecond, hnanos⟩ := ofLocal?_onDay d hday
  exact ⟨t, ht, begins_of_secondOfDay hdate hsecond hnanos⟩

theorem Instant.ofLocal?_eq_some_iff {d : Date} {hour : Nat} (h : hour < 24) {t : Instant} :
    ofLocal? d (hour * 3600) 0 0 = some t ↔ t.Begins d hour := by
  obtain ⟨u, hu, hbegins⟩ := exists_begins d h
  rw [hu, Option.some.injEq]
  exact ⟨fun heq => heq ▸ hbegins, fun ht => hbegins.unique ht⟩

theorem hourOfChars?_eq_some_iff {cs : List Char} {hour : Nat} :
    hourOfChars? cs = some hour ↔ hour < 24 ∧ cs = padded 2 hour := by
  refine ⟨fun h => ?_, ?_⟩
  · rw [hourOfChars?.eq_def] at h
    split at h
    · rename_i a b
      split at h
      · rename_i x y ha hb
        split at h
        · rename_i hlt
          cases h
          simp only [Numeral.digit?, Option.ite_none_right_eq_some, Option.some.injEq] at ha hb
          obtain ⟨ha, rfl⟩ := ha
          obtain ⟨hb, rfl⟩ := hb
          have hdigits : ∀ c ∈ [a, b], c.isDigit := by simp [ha, hb]
          have hvalue : Numeral.ofDigits [a, b] =
              10 * (a.toNat - '0'.toNat) + (b.toNat - '0'.toNat) := by simp [Numeral.ofDigits]
          rw [← hvalue] at hlt ⊢
          exact ⟨hlt, (padded_ofDigits (List.cons_ne_nil a [b]) hdigits).symm⟩
        · cases h
      · cases h
    · cases h
  · rintro ⟨h, rfl⟩
    exact hourOfChars?_padded h

/-- An hour as it may be written: a form of a day and two digits. -/
structure WrittenHour where
  day : WrittenDay
  hour : Fin 24

namespace WrittenHour

def chars (w : WrittenHour) : List Char :=
  w.day.chars '_' ++ 'T' :: padded 2 w.hour

def text (w : WrittenHour) : String :=
  String.ofList w.chars

theorem notMem_day (w : WrittenHour) : 'T' ∉ w.day.chars '_' :=
  w.day.notMem_chars (by decide) (by decide) (by decide) (by decide) (by decide)

theorem ofWireChars?_chars (w : WrittenHour) :
    ofWireChars? w.chars = Instant.ofLocal? w.day.date (w.hour * 3600) 0 0 := by
  have hday : dayOfChars '_' false (w.day.chars '_') = .ok w.day.date :=
    (dayOfChars_ok_iff (by decide)).mpr ⟨w.day, rfl, rfl⟩
  rw [ofWireChars?, chars, Text.dropWhile_append_cons _ w.notMem_day,
    Text.takeWhile_append_cons _ w.notMem_day]
  simp only [hourOfChars?_padded w.hour.isLt, hday]

end WrittenHour

/-- A text is read as an hour if and only if it is one of the forms of the hour. -/
theorem ofWireChars?_eq_some_iff {cs : List Char} {t : Instant} :
    ofWireChars? cs = some t ↔
      ∃ w : WrittenHour, w.chars = cs ∧ t.Begins w.day.date w.hour := by
  constructor
  · intro h
    have hcs : cs.takeWhile (· != 'T') ++ cs.dropWhile (· != 'T') = cs :=
      List.takeWhile_append_dropWhile
    rw [ofWireChars?] at h
    split at h
    · cases h
    · rename_i c hour hdrop
      split at h
      · rename_i n d hhour hday
        obtain ⟨hlt, rfl⟩ := hourOfChars?_eq_some_iff.mp hhour
        obtain ⟨w, hw, rfl⟩ := (dayOfChars_ok_iff (by decide)).mp hday
        have hT : c = 'T' := by
          have hhead := List.head?_dropWhile_not (· != 'T') cs
          simpa [hdrop] using hhead
        refine ⟨⟨w, n, hlt⟩, ?_, (Instant.ofLocal?_eq_some_iff hlt).mp h⟩
        rw [hdrop, hT] at hcs
        rw [WrittenHour.chars, hw]
        exact hcs
      · cases h
  · rintro ⟨w, rfl, hbegins⟩
    rw [w.ofWireChars?_chars]
    exact (Instant.ofLocal?_eq_some_iff w.hour.isLt).mpr hbegins

theorem ofWire?_eq_some_iff {s : String} {t : Instant} :
    ofWire? s = some t ↔ ∃ w : WrittenHour, w.text = s ∧ t.Begins w.day.date w.hour := by
  have htext : ∀ w : WrittenHour, w.text = s ↔ w.chars = s.toList := by
    intro w
    rw [WrittenHour.text, ← String.toList_inj, String.toList_ofList]
  simp only [ofWire?, ofWireChars?_eq_some_iff, htext]

/-! ## Plain forms -/

theorem append_cons_inj {stop : Char} {xs ys : List Char} (hx : stop ∉ xs) (hy : stop ∉ ys)
    (as bs : List Char) : xs ++ stop :: as = ys ++ stop :: bs ↔ xs = ys ∧ as = bs := by
  constructor
  · intro h
    have htake := congrArg (List.takeWhile (· != stop)) h
    have hdrop := congrArg (List.dropWhile (· != stop)) h
    rw [Text.takeWhile_append_cons _ hx, Text.takeWhile_append_cons _ hy] at htake
    rw [Text.dropWhile_append_cons _ hx, Text.dropWhile_append_cons _ hy] at hdrop
    exact ⟨htake, List.tail_eq_of_cons_eq hdrop⟩
  · rintro ⟨rfl, rfl⟩
    rfl

namespace Figure

/-- As many digits as a width asks for, or more of them without a zero in front. -/
def FillsOut (width : Nat) (f : Figure) : Prop :=
  f.digits.length = width ∨ width < f.digits.length ∧ f.digits.head? ≠ some '0'

/-- No blanks, no zero too many, and a sign where four digits are not enough. -/
@[mk_iff]
structure IsPlainYear (f : Figure) : Prop where
  gap : f.gap = []
  digits : f.FillsOut 4
  sign : f.sign = .bare ↔ 0 ≤ f.value ∧ f.value ≤ 9999

/-- Two digits without blanks. -/
@[mk_iff]
structure IsPlainPart (f : Figure) : Prop where
  gap : f.gap = []
  digits : f.digits.length = 2

theorem chars_eq_iff {cs : List Char} (hcs : ∀ c, cs.head? = some c → Text.isBlank c = false)
    (f : Figure) : f.chars = cs ↔ f.gap = [] ∧ f.sign.chars ++ f.digits = cs := by
  rw [chars]
  cases hgap : f.gap with
  | nil => simp
  | cons c gap =>
    have hblank := f.gap_isBlank c (hgap ▸ List.mem_cons_self)
    refine iff_of_false ?_ fun h => List.cons_ne_nil c gap h.1
    rintro rfl
    exact Bool.false_ne_true ((hcs c rfl).symm.trans hblank)

theorem isBlank_of_head?_padded {width n : Nat} {c : Char} (h : (padded width n).head? = some c) :
    Text.isBlank c = false :=
  isBlank_of_isDigit (isDigit_of_mem_padded (List.mem_of_mem_head? h))

theorem isBlank_of_head?_yearChars {y : Int} {c : Char} (h : (yearChars y).head? = some c) :
    Text.isBlank c = false := by
  rw [yearChars] at h
  split at h
  · exact isBlank_of_head?_padded h
  · obtain rfl := Option.some.inj h
    split <;> rfl

theorem digits_ne_cons (f : Figure) {c : Char} (hdigit : c.isDigit = false) (cs : List Char) :
    f.digits ≠ c :: cs := by
  intro h
  exact Bool.false_ne_true (hdigit.symm.trans (f.isDigit c (h ▸ List.mem_cons_self)))

theorem cons_ne_padded {c : Char} (hdigit : c.isDigit = false) (cs : List Char) (width n : Nat) :
    c :: cs ≠ padded width n := by
  intro h
  exact notMem_padded hdigit width n (h ▸ List.mem_cons_self)

theorem digits_eq_padded_iff {width : Nat} (hwidth : 0 < width) (f : Figure) :
    f.digits = padded width f.size ↔ f.FillsOut width := by
  rw [eq_comm]
  exact padded_ofDigits_iff hwidth f.isDigit

/-- A year has one plain form, and is written as that. -/
theorem chars_eq_yearChars_iff (f : Figure) : f.chars = yearChars f.value ↔ f.IsPlainYear := by
  have hfills : f.digits = padded 4 f.size ↔ f.FillsOut 4 := f.digits_eq_padded_iff (by decide)
  rw [isPlainYear_iff, f.chars_eq_iff fun c => isBlank_of_head?_yearChars, yearChars]
  refine and_congr_right fun _ => ?_
  by_cases hyear : 0 ≤ f.value ∧ f.value ≤ 9999
  · rw [if_pos hyear]
    cases hsign : f.sign with
    | bare =>
      have hsize : f.value.toNat = f.size := by rw [value_bare hsign]; rfl
      simp [Numeral.Sign.chars, hsize, hfills, hyear]
    | plus => simp [Numeral.Sign.chars, hyear, cons_ne_padded]
    | minus => simp [Numeral.Sign.chars, hyear, cons_ne_padded]
  · rw [if_neg hyear]
    cases hsign : f.sign with
    | bare =>
      have hdigit : (if f.value < 0 then '-' else '+').isDigit = false := by split <;> rfl
      simp [Numeral.Sign.chars, hyear, f.digits_ne_cons hdigit]
    | plus =>
      have hvalue := value_plus hsign
      have hpos : ¬ f.value < 0 := by omega
      have hsize : f.value.natAbs = f.size := by omega
      simp [Numeral.Sign.chars, hyear, hpos, hsize, hfills]
    | minus =>
      have hvalue := value_minus hsign
      have hneg : f.value < 0 := by omega
      have hsize : f.value.natAbs = f.size := by omega
      simp [Numeral.Sign.chars, hyear, hneg, hsize, hfills]

theorem chars_eq_padded_iff {f : Figure} (hbare : f.sign = .bare) (hlength : f.digits.length ≤ 2) :
    f.chars = padded 2 f.size ↔ f.IsPlainPart := by
  rw [isPlainPart_iff, f.chars_eq_iff fun c => isBlank_of_head?_padded, hbare, Numeral.Sign.chars,
    List.nil_append, f.digits_eq_padded_iff (by decide), FillsOut]
  refine and_congr_right fun _ => ?_
  omega

end Figure

namespace WrittenHour

/-- A plain year and plain parts of two digits. -/
@[mk_iff]
structure IsPlain (w : WrittenHour) : Prop where
  year : w.day.year.IsPlainYear
  month : w.day.month.IsPlainPart
  day : w.day.day.IsPlainPart

/-- The plain form of an hour is what it is written as. -/
theorem chars_eq_hourChars_iff (w : WrittenHour) :
    w.chars = hourChars w.day.date w.hour ↔ w.IsPlain := by
  have hfigure := Figure.notMem_chars (c := '_') (by decide) (by decide) (by decide) (by decide)
  have hyear : '_' ∉ yearChars w.day.date.year :=
    notMem_yearChars (by decide) (by decide) (by decide) _
  have hmonth : '_' ∉ padded 2 w.day.date.month := notMem_padded (by decide) _ _
  rw [chars, hourChars, List.append_left_inj, WrittenDay.chars, Date.chars, List.append_assoc,
    List.cons_append, append_cons_inj (hfigure _) hyear, append_cons_inj (hfigure _) hmonth,
    isPlain_iff, ← w.day.year.chars_eq_yearChars_iff,
    ← Figure.chars_eq_padded_iff w.day.month_bare w.day.month_length,
    ← Figure.chars_eq_padded_iff w.day.day_bare w.day.day_length, w.day.year_eq, w.day.month_eq,
    w.day.day_eq]

end WrittenHour

end Calendar

open Calendar

/-! ## Round trips -/

theorem hourOfWire_ok_iff {s : String} {t : Instant} :
    hourOfWire s = .ok t ↔ ∃ w : WrittenHour, w.text = s ∧ t.Begins w.day.date w.hour := by
  rw [← ofWire?_eq_some_iff, hourOfWire]
  cases ofWire? s with
  | none => simp
  | some u => simp

/-- Every form of an hour is read as the first instant of the hour. -/
theorem hourOfWire_text (w : WrittenHour) :
    ∃ t, hourOfWire w.text = .ok t ∧ t.Begins w.day.date w.hour := by
  obtain ⟨t, -, hbegins⟩ := Instant.exists_begins w.day.date w.hour.isLt
  exact ⟨t, hourOfWire_ok_iff.mpr ⟨w, rfl, hbegins⟩, hbegins⟩

theorem wireHour_eq_iff {w : WrittenHour} {t : Instant} (h : t.Begins w.day.date w.hour) :
    wireHour t = w.text ↔ w.IsPlain := by
  rw [wireHour, h.date, h.hour, WrittenHour.text, String.ofList_inj, eq_comm,
    w.chars_eq_hourChars_iff]

theorem wireHour_hourStart (t : Instant) : wireHour t.hourStart = wireHour t := by
  rw [wireHour, t.begins_hourStart.date, t.begins_hourStart.hour, wireHour]

/-- The hours that are written are those of the plain forms. -/
theorem exists_wireHour_iff {s : String} :
    (∃ t, wireHour t = s) ↔ ∃ w : WrittenHour, w.text = s ∧ w.IsPlain := by
  constructor
  · rintro ⟨t, rfl⟩
    obtain ⟨w, hw, hbegins⟩ := hourOfWire_ok_iff.mp (hourOfWire_wireHour t)
    refine ⟨w, hw, (wireHour_eq_iff hbegins).mp ?_⟩
    rw [hw, wireHour_hourStart]
  · rintro ⟨w, rfl, hplain⟩
    obtain ⟨t, -, hbegins⟩ := hourOfWire_text w
    exact ⟨t, (wireHour_eq_iff hbegins).mpr hplain⟩

theorem hourOfWire_wireHour_of_ok {s : String} {t : Instant} (h : hourOfWire s = .ok t) :
    hourOfWire (wireHour t) = .ok t := by
  obtain ⟨w, -, hbegins⟩ := hourOfWire_ok_iff.mp h
  have hstart := t.begins_hourStart
  rw [hbegins.date, hbegins.hour] at hstart
  rw [hourOfWire_wireHour, hstart.unique hbegins]

/-- What is read as an hour of the backend, for every text. It is read if and only if it is a form
of a day and of an hour, as the first instant of that hour. Written again, the hour is read as the
same. The text comes back if and only if it is plain, and the plain forms are all texts that hours
are written as. -/
theorem hours_read (s : String) :
    ((∃ t, hourOfWire s = .ok t) ↔ ∃ w : WrittenHour, w.text = s) ∧
    (∀ t, hourOfWire s = .ok t ↔ ∃ w : WrittenHour, w.text = s ∧ t.Begins w.day.date w.hour) ∧
    (∀ t, hourOfWire s = .ok t → hourOfWire (wireHour t) = .ok t ∧
      ∀ w : WrittenHour, w.text = s → (wireHour t = s ↔ w.IsPlain)) ∧
    ((∃ t, wireHour t = s) ↔ ∃ w : WrittenHour, w.text = s ∧ w.IsPlain) := by
  refine ⟨⟨?_, ?_⟩, fun t => hourOfWire_ok_iff, fun t h => ⟨hourOfWire_wireHour_of_ok h, ?_⟩,
    exists_wireHour_iff⟩
  · rintro ⟨t, h⟩
    obtain ⟨w, hw, -⟩ := hourOfWire_ok_iff.mp h
    exact ⟨w, hw⟩
  · rintro ⟨w, rfl⟩
    obtain ⟨t, ht, -⟩ := hourOfWire_text w
    exact ⟨t, ht⟩
  · rintro w rfl
    obtain ⟨u, hu, hbegins⟩ := hourOfWire_text w
    obtain rfl := Except.ok.inj (hu.symm.trans h)
    exact wireHour_eq_iff hbegins

/-- The fourth hour of the year 2024. -/
def fourthHour : Instant :=
  ⟨1704078000, 0, by decide⟩

theorem hours_read_looseHour :
    hourOfWire " +2024_1_01T03" = .ok fourthHour ∧
    (∃ w : WrittenHour, w.text = " +2024_1_01T03" ∧ fourthHour.Begins w.day.date w.hour ∧
      ¬ w.IsPlain) ∧
    wireHour fourthHour = "2024_01_01T03" ∧
    hourOfWire (wireHour fourthHour) = .ok fourthHour := by
  have hread : hourOfWire " +2024_1_01T03" = .ok fourthHour := by rfl
  have hwritten : wireHour fourthHour = "2024_01_01T03" := by decide
  obtain ⟨-, hforms, hround, -⟩ := hours_read " +2024_1_01T03"
  obtain ⟨w, hw, hbegins⟩ := (hforms fourthHour).mp hread
  obtain ⟨hagain, hplain⟩ := hround fourthHour hread
  refine ⟨hread, ⟨w, hw, hbegins, ?_⟩, hwritten, hagain⟩
  rw [← hplain w hw, hwritten]
  decide

/-- A day with one digit each for month and day is read, and as the same hour as with two. No hour
is written so. -/
theorem unpadded_day_read :
    hourOfWire "2024_1_1T03" = .ok fourthHour ∧ hourOfWire "2024_01_01T03" = .ok fourthHour ∧
    wireHour fourthHour = "2024_01_01T03" ∧ ∀ t, wireHour t ≠ "2024_1_1T03" := by
  have hread : hourOfWire "2024_1_1T03" = .ok fourthHour := by rfl
  have hwritten : wireHour fourthHour = "2024_01_01T03" := by decide
  refine ⟨hread, by rfl, hwritten, fun t ht => ?_⟩
  have hstart := hourOfWire_wireHour t
  rw [ht, hread] at hstart
  have hsame := wireHour_hourStart t
  rw [← Except.ok.inj hstart, hwritten, ht] at hsame
  revert hsame
  decide

end BacktestDesk
