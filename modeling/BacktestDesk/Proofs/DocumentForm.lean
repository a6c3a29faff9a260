import BacktestDesk.Json.Reader
import BacktestDesk.Proofs.DigitRows
import BacktestDesk.Proofs.ShortestDecimal
import BacktestDesk.Proofs.WrittenNumeral

/-!
# BacktestDesk.Proofs.DocumentForm

Numbers as a document writes them: a sign that is a minus, digits before the point without a zero in
front, and digits behind it if there is a point. Every finite double is written so.

* `Double.Decimal.denotes_layout`: the digits of a decimal and the place of its point.
* `Double.exists_written`: the written form of a double, which stands for a decimal near it.
* `Numeral.Written.number_chars`: such a form is read off the front of a text, part by part.
-/

namespace BacktestDesk

open Numeral

/-! ## Digits without zeros at their end -/

namespace Double

theorem eq_append_zeros (ds : List Char) :
    ∃ k, ds = (ds.reverse.dropWhile (· == '0')).reverse ++ zeros k := by
  have hsplit : ds.reverse = ds.reverse.takeWhile (· == '0') ++ ds.reverse.dropWhile (· == '0') :=
    List.takeWhile_append_dropWhile.symm
  have hzeros : ∀ c ∈ (ds.reverse.takeWhile (· == '0')).reverse, c = '0' := by
    intro c hc
    have hzero := List.mem_takeWhile_imp (List.mem_reverse.mp hc)
    exact beq_iff_eq.mp hzero
  refine ⟨(ds.reverse.takeWhile (· == '0')).length, ?_⟩
  have hrow := List.eq_replicate_of_mem hzeros
  rw [List.length_reverse] at hrow
  rw [zeros, ← hrow, ← List.reverse_append, ← hsplit, List.reverse_reverse]

theorem ofDigits_append_zeros (ds : List Char) (k : Nat) :
    ofDigits (ds ++ zeros k) = ofDigits ds * 10 ^ k := by
  have hzeros : ofDigits (zeros k) = 0 := by
    rw [← List.append_nil (zeros k), zeros, Calendar.ofDigits_zeros]
    rfl
  rw [ofDigits_append, hzeros, zeros, List.length_replicate, Nat.add_zero]

theorem ofDigits_toDigits (n : Nat) : ofDigits (Nat.toDigits 10 n) = n :=
  Nat.ofDigitChars_ten_toDigits

theorem head?_toDigits {n : Nat} (h : n ≠ 0) : (Nat.toDigits 10 n).head? ≠ some '0' := by
  intro hhead
  obtain ⟨ds, hds⟩ := List.head?_eq_some_iff.mp hhead
  have hdigits : ∀ c ∈ ds, c.isDigit := fun c hc =>
    Nat.isDigit_of_mem_toDigits (by decide) (by decide) (hds ▸ List.mem_cons_of_mem _ hc)
  have hvalue : n = ofDigits ds := by
    have hzero : '0'.toNat - 48 = 0 := rfl
    rw [← ofDigits_toDigits n, hds, ofDigits_cons, hzero, Nat.zero_mul, Nat.zero_add]
  have hlt := ofDigits_lt hdigits
  have hle := pow_digitCount_le h
  rw [digitCount, hds, List.length_cons, Nat.add_sub_cancel] at hle
  omega

/-- The digits of a decimal: at least one, no zero in front, and the decimal as their value. -/
structure Digits.Denotes (d : Digits) (value : ℚ) : Prop where
  isDigit : ∀ c ∈ d.digits, c.isDigit
  ne_nil : d.digits ≠ []
  head : d.digits.head? ≠ some '0'
  value : (ofDigits d.digits : ℚ) * 10 ^ (d.point - d.digits.length) = value

theorem Decimal.denotes_layout {d : Decimal} (h : d.coefficient ≠ 0) :
    d.layout.Denotes (d.coefficient * 10 ^ d.exponent) := by
  obtain ⟨k, hk⟩ := eq_append_zeros (Nat.toDigits 10 d.coefficient)
  have hvalue := ofDigits_toDigits d.coefficient
  have hhead := head?_toDigits h
  have hdigits : ∀ c ∈ Nat.toDigits 10 d.coefficient, c.isDigit := fun c hc =>
    Nat.isDigit_of_mem_toDigits (by decide) (by decide) hc
  simp only [Decimal.layout]
  generalize ((Nat.toDigits 10 d.coefficient).reverse.dropWhile (· == '0')).reverse = ds at hk ⊢
  generalize Nat.toDigits 10 d.coefficient = all at *
  subst hk
  rw [ofDigits_append_zeros] at hvalue
  have hne : ds ≠ [] := by
    rintro rfl
    exact h (by rw [← hvalue]; exact Nat.zero_mul _)
  refine ⟨fun c hc => hdigits c (List.mem_append_left _ hc), hne, ?_, ?_⟩
  · rwa [List.head?_append_of_ne_nil _ hne] at hhead
  · have hpoint : d.exponent + (ds ++ zeros k).length - ds.length = k + d.exponent := by
      rw [List.length_append, zeros, List.length_replicate, Nat.cast_add]
      ring
    have hten : (10 : ℚ) ≠ 0 := by norm_num
    rw [hpoint, zpow_add₀ hten, ← mul_assoc, zpow_natCast, ← hvalue, Nat.cast_mul, Nat.cast_pow,
      Nat.cast_ofNat]

end Double

/-! ## Numbers in a document -/

namespace Numeral.Written

/-- The sign is a minus or none, there is no zero in front of other digits, and a point has digits
behind it. -/
structure InDocument (w : Written) : Prop where
  sign : w.sign ≠ .plus
  whole_ne_nil : w.whole ≠ []
  head : w.whole = ['0'] ∨ w.whole.head? ≠ some '0'
  fraction : w.fraction ≠ some []

/-- A text that a number ends in front of. -/
def Stops (rest : List Char) : Prop :=
  ∀ c, rest.head? = some c → c.isDigit = false ∧ c ≠ '.' ∧ c ≠ 'e' ∧ c ≠ 'E'

open Json.Reader

theorem someDigits_append {ds rest : List Char} (h : ∀ c ∈ ds, c.isDigit) (hne : ds ≠ [])
    (hrest : ∀ c, rest.head? = some c → c.isDigit = false) :
    someDigits (ds ++ rest) = some (ds, rest) := by
  obtain ⟨htake, hdrop⟩ := takeWhile_all h hrest
  rw [someDigits, htake, hdrop, List.isEmpty_eq_false_iff.mpr hne]
  rfl

theorem integerDigits_append {ds rest : List Char} (h : ∀ c ∈ ds, c.isDigit) (hne : ds ≠ [])
    (hhead : ds = ['0'] ∨ ds.head? ≠ some '0')
    (hrest : ∀ c, rest.head? = some c → c.isDigit = false) :
    integerDigits (ds ++ rest) = some (ds, rest) := by
  rcases hhead with rfl | hhead
  · rfl
  · obtain ⟨d, ds, rfl⟩ := List.exists_cons_of_ne_nil hne
    have hd : d ≠ '0' := fun hzero => hhead (congrArg some hzero)
    obtain ⟨hdigit, hds⟩ := List.forall_mem_cons.mp h
    obtain ⟨htake, hdrop⟩ := takeWhile_all hds hrest
    rw [List.cons_append, integerDigits, if_neg hd, if_pos hdigit, htake, hdrop]

theorem exponentPart_stops {rest : List Char} (h : Stops rest) :
    exponentPart rest = some (none, rest) := by
  cases rest with
  | nil => rfl
  | cons c rest =>
    obtain ⟨-, -, he, hE⟩ := h c rfl
    rw [exponentPart, if_neg (not_or.mpr ⟨he, hE⟩)]

theorem exponentPart_append (w : Written) {rest : List Char} (h : Stops rest) :
    exponentPart (w.exponentChars ++ rest) = some (w.exponent.map Exponent.value, rest) := by
  rw [exponentChars]
  cases w.exponent with
  | none => exact exponentPart_stops h
  | some e =>
    have hdigits : someDigits (e.digits ++ rest) = some (e.digits, rest) :=
      someDigits_append e.isDigit e.digits_ne_nil fun c hc => (h c hc).1
    have hsign : Numeral.sign (e.sign.chars ++ (e.digits ++ rest)) =
        (e.sign.isMinus, e.digits ++ rest) :=
      sign_chars _ (head?_of_digits e.isDigit e.digits_ne_nil (by decide))
        (head?_of_digits e.isDigit e.digits_ne_nil (by decide))
    simp only [Option.elim_some, Exponent.chars, List.cons_append, List.append_assoc,
      exponentPart, if_pos e.mark_eq, hsign, hdigits, Option.map_some, Exponent.value]

theorem head?_exponentChars_append (w : Written) {rest : List Char} (h : Stops rest) {c : Char}
    (hc : (w.exponentChars ++ rest).head? = some c) : c.isDigit = false ∧ c ≠ '.' := by
  rw [List.head?_append] at hc
  cases hfirst : w.exponentChars.head? with
  | none =>
    rw [hfirst, Option.none_or] at hc
    exact ⟨(h c hc).1, (h c hc).2.1⟩
  | some d =>
    rw [hfirst, Option.some_or] at hc
    cases hc
    rcases w.head?_exponentChars hfirst with rfl | rfl <;> exact ⟨rfl, by decide⟩

theorem fractionDigits_append {w : Written} (hw : w.fraction ≠ some []) {rest : List Char}
    (h : Stops rest) :
    fractionDigits (pointChars w.fraction ++ (w.exponentChars ++ rest)) =
      some (w.fraction.getD [], w.exponentChars ++ rest) := by
  cases hf : w.fraction with
  | none =>
    rw [pointChars, List.nil_append, fractionDigits.eq_def]
    split
    · rename_i cs hcs
      exact absurd rfl (w.head?_exponentChars_append h (congrArg List.head? hcs)).2
    · rfl
  | some ds =>
    have hds : ∀ c ∈ ds, c.isDigit := fun c hc => w.fraction_isDigit c (by rw [hf]; exact hc)
    have hne : ds ≠ [] := fun hnil => hw (by rw [hf, hnil])
    exact someDigits_append hds hne fun c hc => (w.head?_exponentChars_append h hc).1

/-- The part of a number behind its sign. -/
def unsigned (negative : Bool) (cs : List Char) : Read Json :=
  match integerDigits cs with
  | none => none
  | some (whole, cs) =>
    match fractionDigits cs with
    | none => none
    | some (fraction, cs) =>
      match exponentPart cs with
      | none => none
      | some (exponent, cs) => (numberValue negative whole fraction exponent).map (·, cs)

theorem number_minus (cs : List Char) : number ('-' :: cs) = unsigned true cs := rfl

theorem number_of_head {cs : List Char} (h : cs.head? ≠ some '-') :
    number cs = unsigned false cs := by
  rw [number.eq_def]
  split
  rename_i hsign
  split at hsign
  · exact absurd rfl h
  · cases hsign
    rfl

/-- A number is read part by part, up to the text that it ends in front of. -/
theorem number_chars {w : Written} (hw : w.InDocument) {rest : List Char} (h : Stops rest) :
    number (w.chars ++ rest) =
      (numberValue w.sign.isMinus w.whole (w.fraction.getD [])
        (w.exponent.map Exponent.value)).map (·, rest) := by
  have hwhole : integerDigits (w.whole ++ (pointChars w.fraction ++ (w.exponentChars ++ rest))) =
      some (w.whole, pointChars w.fraction ++ (w.exponentChars ++ rest)) := by
    refine integerDigits_append w.whole_isDigit hw.whole_ne_nil hw.head fun c hc => ?_
    cases hf : w.fraction with
    | none =>
      rw [hf] at hc
      exact (w.head?_exponentChars_append h hc).1
    | some ds =>
      rw [hf] at hc
      cases hc
      rfl
  have hunsigned : ∀ negative, unsigned negative (w.body ++ rest) =
      (numberValue negative w.whole (w.fraction.getD []) (w.exponent.map Exponent.value)).map
        (·, rest) := by
    intro negative
    simp only [unsigned, body, List.append_assoc, hwhole, fractionDigits_append hw.fraction h,
      w.exponentPart_append h]
  rw [chars, List.append_assoc]
  cases hsign : w.sign with
  | plus => exact absurd hsign hw.sign
  | minus => exact (number_minus _).trans (hunsigned true)
  | bare =>
    have hminus : (w.body ++ rest).head? ≠ some '-' := by
      rw [body, List.append_assoc]
      exact head?_of_digits w.whole_isDigit hw.whole_ne_nil (by decide)
    exact (number_of_head hminus).trans (hunsigned false)

end Numeral.Written

/-! ## Doubles in a document -/

namespace Double

open Numeral.Written

def signOf (negative : Bool) : Sign :=
  if negative then .minus else .bare

theorem chars_signOf (negative : Bool) : (signOf negative).chars = signText negative := by
  cases negative <;> rfl

theorem isMinus_signOf (negative : Bool) : (signOf negative).isMinus = negative := by
  cases negative <;> rfl

/-- How a document writes a number other than a whole one: with few digits before the point, and
with a point or an exponent. -/
structure WrittenAs (text : List Char) (negative : Bool) (value : ℚ) (w : Written) : Prop where
  chars : text = w.chars
  inDocument : w.InDocument
  sign : w.sign = signOf negative
  magnitude : w.magnitude = value
  whole : w.whole.length ≤ 16
  notWhole : w.fraction ≠ none ∨ w.exponent ≠ none
  mark : ∀ e ∈ w.exponent, e.mark = 'e'

theorem isDigit_zeros (k : Nat) : ∀ c ∈ zeros k, c.isDigit := by
  intro c hc
  rw [List.eq_of_mem_replicate hc]
  rfl

theorem isDigit_none : ∀ c ∈ (none : Option (List Char)).getD [], c.isDigit :=
  List.forall_mem_nil _

theorem exists_writtenAs (whole : List Char) (fraction : Option (List Char))
    (exponent : Option Exponent) (hwhole : ∀ c ∈ whole, c.isDigit)
    (hfraction : ∀ c ∈ fraction.getD [], c.isDigit) (hne : whole ≠ [])
    (hhead : whole = ['0'] ∨ whole.head? ≠ some '0') (hsome : fraction ≠ some [])
    (hlength : whole.length ≤ 16) (hnotWhole : fraction ≠ none ∨ exponent ≠ none)
    (hmark : ∀ e ∈ exponent, e.mark = 'e') (negative : Bool) {text : List Char}
    (htext : text = whole ++ (pointChars fraction ++ exponent.elim [] Exponent.chars)) {value : ℚ}
    (hvalue : (ofDigits (whole ++ fraction.getD []) : ℚ) *
      10 ^ (exponent.elim 0 Exponent.value - (fraction.getD []).length) = value) :
    ∃ w, WrittenAs (signText negative ++ text) negative value w := by
  refine ⟨⟨signOf negative, whole, fraction, exponent, hwhole, hfraction,
    List.append_ne_nil_of_left_ne_nil hne _⟩, ?_⟩
  exact {
    chars := by rw [htext, ← chars_signOf]; rfl
    inDocument := ⟨by cases negative <;> exact Sign.noConfusion, hne, hhead, hsome⟩
    sign := rfl
    magnitude := hvalue
    whole := hlength
    notWhole := hnotWhole
    mark := hmark }

theorem isDigit_toDigits (e : Int) : ∀ c ∈ Nat.toDigits 10 e.natAbs, c.isDigit := fun _ =>
  Nat.isDigit_of_mem_toDigits (by decide) (by decide)

theorem small_mark : 'e' = 'e' ∨ 'e' = 'E' :=
  .inl rfl

/-- An exponent that shows its sign. -/
def exponentOf (e : Int) : Exponent where
  mark := 'e'
  sign := if e < 0 then .minus else .plus
  digits := Nat.toDigits 10 e.natAbs
  mark_eq := small_mark
  digits_ne_nil := Nat.toDigits_ne_nil
  isDigit := isDigit_toDigits e

theorem chars_exponentOf (e : Int) :
    (exponentOf e).chars = 'e' :: (if e < 0 then '-' else '+') :: Nat.toDigits 10 e.natAbs := by
  simp only [exponentOf, Exponent.chars]
  split <;> rfl

theorem value_exponentOf (e : Int) : (exponentOf e).value = e := by
  simp only [exponentOf, Exponent.value, ofDigits_toDigits]
  by_cases h : e < 0
  · rw [if_pos h, if_pos (by decide)]
    omega
  · rw [if_neg h, if_neg (by decide)]
    omega

section

variable {d : Digits} {value : ℚ} (hd : d.Denotes value) (negative : Bool)

include hd

/-- The point is in front of the digits. -/
theorem exists_writtenAs_below_one (h : d.point ≤ 0) :
    ∃ w, WrittenAs
      (signText negative ++ '0' :: '.' :: (zeros (-d.point).toNat ++ d.digits))
      negative value w := by
  obtain ⟨hdigits, hne, -, hvalue⟩ := hd
  have hrow : ofDigits (['0'] ++ (zeros (-d.point).toNat ++ d.digits)) = ofDigits d.digits := by
    rw [List.singleton_append, zeros, ← List.cons_append, ← List.replicate_succ,
      Calendar.ofDigits_zeros]
  have hpower : (0 : Int) - (zeros (-d.point).toNat ++ d.digits).length =
      d.point - d.digits.length := by
    rw [List.length_append, zeros, List.length_replicate]
    omega
  refine exists_writtenAs ['0'] (some (zeros (-d.point).toNat ++ d.digits)) none (isDigit_zeros 1)
    (List.forall_mem_append.mpr ⟨isDigit_zeros _, hdigits⟩) (List.cons_ne_nil _ _) (.inl rfl) ?_
    (by decide) (.inl (Option.some_ne_none _)) (by simp) negative ?_ ?_
  · simp [hne]
  · simp [pointChars]
  · rw [Option.getD_some, hrow, Option.elim_none, hpower, hvalue]

/-- The point is behind the digits, and a zero behind the point. -/
theorem exists_writtenAs_whole (h : d.point ≤ 16) (hpoint : 0 < d.point)
    (hlength : d.digits.length ≤ d.point.toNat) :
    ∃ w, WrittenAs
      (signText negative ++ (d.digits ++ zeros (d.point.toNat - d.digits.length) ++ ['.', '0']))
      negative value w := by
  obtain ⟨hdigits, hne, hhead, hvalue⟩ := hd
  have hrow : ofDigits (d.digits ++ zeros (d.point.toNat - d.digits.length) ++ ['0']) =
      ofDigits d.digits * 10 ^ (d.point.toNat - d.digits.length) * 10 := by
    have hzero : ['0'] = zeros 1 := rfl
    rw [hzero, ofDigits_append_zeros, ofDigits_append_zeros, Nat.pow_one]
  have hpower : d.point - d.digits.length = (d.point.toNat - d.digits.length : Nat) := by
    omega
  refine exists_writtenAs (d.digits ++ zeros (d.point.toNat - d.digits.length)) (some ['0']) none
    (List.forall_mem_append.mpr ⟨hdigits, isDigit_zeros _⟩) (isDigit_zeros 1)
    (List.append_ne_nil_of_left_ne_nil hne _) (.inr ?_) (by decide) ?_
    (.inl (Option.some_ne_none _)) (by simp) negative ?_ ?_
  · rwa [List.head?_append_of_ne_nil _ hne]
  · rw [List.length_append, zeros, List.length_replicate]
    omega
  · simp [pointChars]
  · rw [hpower, zpow_natCast] at hvalue
    rw [Option.getD_some, hrow, Option.elim_none, ← hvalue, Nat.cast_mul, Nat.cast_mul,
      Nat.cast_pow, Nat.cast_ofNat]
    exact mul_inv_cancel_right₀ (by norm_num) _

/-- The point is between the digits. -/
theorem exists_writtenAs_between (h : d.point ≤ 16) (hpoint : 0 < d.point)
    (hlength : d.point.toNat < d.digits.length) :
    ∃ w, WrittenAs
      (signText negative ++ (d.digits.take d.point.toNat ++ '.' :: d.digits.drop d.point.toNat))
      negative value w := by
  obtain ⟨hdigits, hne, hhead, hvalue⟩ := hd
  have hpower : (0 : Int) - (d.digits.drop d.point.toNat).length = d.point - d.digits.length := by
    rw [List.length_drop]
    omega
  refine exists_writtenAs (d.digits.take d.point.toNat) (some (d.digits.drop d.point.toNat)) none
    (fun c hc => hdigits c (List.mem_of_mem_take hc))
    (fun c hc => hdigits c (List.mem_of_mem_drop hc)) ?_ (.inr ?_) ?_ ?_
    (.inl (Option.some_ne_none _)) (by simp) negative ?_ ?_
  · rw [ne_eq, List.take_eq_nil_iff, not_or]
    exact ⟨by omega, hne⟩
  · rwa [List.head?_take, if_neg (by omega)]
  · rw [ne_eq, Option.some.injEq, List.drop_eq_nil_iff]
    omega
  · rw [List.length_take]
    omega
  · simp [pointChars]
  · rw [Option.getD_some, List.take_append_drop, Option.elim_none, hpower, hvalue]

theorem exists_writtenAs_positional (h : d.point ≤ 16) :
    ∃ w, WrittenAs (signText negative ++ d.positional ['.', '0']) negative value w := by
  rw [Digits.positional]
  split
  · rename_i hpoint
    exact exists_writtenAs_below_one hd negative hpoint
  · rename_i hpoint
    have hpoint := not_le.mp hpoint
    split
    · rename_i hlength
      exact exists_writtenAs_whole hd negative h hpoint hlength
    · rename_i hlength
      exact exists_writtenAs_between hd negative h hpoint (not_le.mp hlength)

/-- One digit before the point, and an exponent. -/
theorem exists_writtenAs_scientific :
    ∃ w, WrittenAs (signText negative ++ d.scientific) negative value w := by
  obtain ⟨hdigits, hne, hhead, hvalue⟩ := hd
  obtain ⟨c, ds, hds⟩ := List.exists_cons_of_ne_nil hne
  rw [hds] at hdigits hhead hvalue
  obtain ⟨hc, hrest⟩ := List.forall_mem_cons.mp hdigits
  rw [Digits.scientific, hds]
  cases ds with
  | nil =>
    refine exists_writtenAs [c] none (some (exponentOf (d.point - 1)))
      (List.forall_mem_singleton.mpr hc) isDigit_none (List.cons_ne_nil _ _)
      (.inr hhead) (Option.some_ne_none _).symm (Nat.le_add_left 1 15)
      (.inr (Option.some_ne_none _)) (by simp [exponentOf]) negative ?_ ?_
    · rw [Option.elim_some, chars_exponentOf]
      rfl
    · rw [Option.elim_some, value_exponentOf, Option.getD_none, List.append_nil]
      exact (congrArg (fun e : Int => (ofDigits [c] : ℚ) * 10 ^ e) (sub_zero _)).trans hvalue
  | cons c' ds =>
    refine exists_writtenAs [c] (some (c' :: ds)) (some (exponentOf (d.point - 1)))
      (List.forall_mem_singleton.mpr hc) hrest (List.cons_ne_nil _ _) (.inr hhead) (by simp)
      (Nat.le_add_left 1 15) (.inr (Option.some_ne_none _)) (by simp [exponentOf])
      negative ?_ ?_
    · rw [Option.elim_some, chars_exponentOf]
      rfl
    · have hpower : d.point - 1 - (c' :: ds).length = d.point - (c :: c' :: ds).length := by
        simp only [List.length_cons]
        omega
      rw [Option.elim_some, value_exponentOf, Option.getD_some, hpower]
      exact hvalue

end

/-- Every finite double is written as a number of a document, to whose value it is the nearest. -/
theorem exists_written {negative : Bool} {code : Fin (infinity + 1)} (h : code.val < infinity) :
    ∃ value w, WrittenAs (documentChars (.signed negative code)) negative value w ∧
      IsNearest (value * unitsOfOne) code := by
  rw [documentChars, if_neg (Nat.ne_of_lt h)]
  by_cases hzero : code.val = 0
  · have hwritten : ∃ w, WrittenAs (signText negative ++ ['0', '.', '0']) negative 0 w := by
      refine exists_writtenAs ['0'] (some ['0']) none (isDigit_zeros 1) (isDigit_zeros 1)
        (List.cons_ne_nil _ _) (.inl rfl) (by decide) (by decide) (.inl (Option.some_ne_none _))
        (by simp) negative rfl ?_
      have hrow : ofDigits (['0'] ++ ['0']) = 0 := rfl
      rw [Option.getD_some, hrow, Nat.cast_zero, zero_mul]
    obtain ⟨w, hw⟩ := hwritten
    rw [if_pos hzero, hzero]
    exact ⟨0, w, hw, isNearest_zero (by norm_num) (by norm_num)⟩
  · have hdenotes := Decimal.denotes_layout (coefficient_shortest_ne_zero .toEven hzero)
    have hnearest := isNearest_shortest .toEven code
    rw [if_neg hzero]
    simp only
    split
    · rename_i hpoint
      obtain ⟨w, hw⟩ := exists_writtenAs_positional hdenotes negative hpoint.2
      exact ⟨_, w, hw, hnearest⟩
    · obtain ⟨w, hw⟩ := exists_writtenAs_scientific hdenotes negative
      exact ⟨_, w, hw, hnearest⟩

end Double
end BacktestDesk
