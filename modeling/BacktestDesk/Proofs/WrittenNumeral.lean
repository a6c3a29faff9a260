import BacktestDesk.Decimal.Numeral
import BacktestDesk.Proofs.DecimalRounding

/-!
# BacktestDesk.Proofs.WrittenNumeral

Real numbers as they are written: a sign, digits with or without a point, at least one digit in all,
and an exponent. Every written form is read, and as the double nearest to the number it stands for.

* `Numeral.Written.decimal?_body`: coefficient and power of ten are found as they were written.
* `Numeral.Written.realChars_chars`: the whole text is read.
* `Numeral.Written.isRounded_double`: the double that is read is the nearest one.
-/

namespace BacktestDesk
namespace Numeral

/-- The sign in front of a number, which may be missing. -/
inductive Sign where
  | bare
  | plus
  | minus
  deriving DecidableEq

namespace Sign

def chars : Sign → List Char
  | bare => []
  | plus => ['+']
  | minus => ['-']

def isMinus (s : Sign) : Bool :=
  s = minus

end Sign

/-- The power of ten behind a number. -/
structure Exponent where
  mark : Char
  sign : Sign
  digits : List Char
  mark_eq : mark = 'e' ∨ mark = 'E'
  digits_ne_nil : digits ≠ []
  isDigit : ∀ c ∈ digits, c.isDigit

namespace Exponent

def chars (e : Exponent) : List Char :=
  e.mark :: (e.sign.chars ++ e.digits)

def value (e : Exponent) : Int :=
  if e.sign.isMinus then -(ofDigits e.digits : Int) else ofDigits e.digits

end Exponent

/-- A number as it is written; the digits behind a point may be missing, or those before it. -/
structure Written where
  sign : Sign
  whole : List Char
  fraction : Option (List Char)
  exponent : Option Exponent
  whole_isDigit : ∀ c ∈ whole, c.isDigit
  fraction_isDigit : ∀ c ∈ fraction.getD [], c.isDigit
  digits_ne_nil : whole ++ fraction.getD [] ≠ []

namespace Written

/-- The part behind the point, together with it. -/
def pointChars : Option (List Char) → List Char
  | none => []
  | some ds => '.' :: ds

def exponentChars (w : Written) : List Char :=
  w.exponent.elim [] Exponent.chars

/-- The text behind the sign. -/
def body (w : Written) : List Char :=
  w.whole ++ (pointChars w.fraction ++ w.exponentChars)

def chars (w : Written) : List Char :=
  w.sign.chars ++ w.body

/-- All digits, as a whole number. -/
def coefficient (w : Written) : Nat :=
  ofDigits (w.whole ++ w.fraction.getD [])

/-- The power of ten that the coefficient is multiplied with. -/
def power (w : Written) : Int :=
  w.exponent.elim 0 Exponent.value - (w.fraction.getD []).length

/-- The number without its sign. -/
def magnitude (w : Written) : ℚ :=
  w.coefficient * 10 ^ w.power

def double (w : Written) : Double :=
  .ofDecimal w.sign.isMinus w.coefficient w.power

/-- The number in front of the exponent. -/
def mantissa (w : Written) : Written :=
  { w with exponent := none }

theorem isRounded_double (w : Written) : w.double.IsRounded w.sign.isMinus w.magnitude :=
  Double.isRounded_ofDecimal _ _ _

/-! ## Reading -/

theorem ne_of_isDigit {c x : Char} (h : c.isDigit) (hx : x.isDigit = false) : c ≠ x := by
  rintro rfl
  rw [h] at hx
  cases hx

theorem sign_chars (s : Sign) {cs : List Char} (hminus : cs.head? ≠ some '-')
    (hplus : cs.head? ≠ some '+') : Numeral.sign (s.chars ++ cs) = (s.isMinus, cs) := by
  cases s with
  | plus => rfl
  | minus => rfl
  | bare =>
    rw [Sign.chars, List.nil_append, Numeral.sign.eq_def]
    split
    · exact absurd rfl hminus
    · exact absurd rfl hplus
    · rfl

theorem head?_of_digits {ds cs : List Char} (h : ∀ c ∈ ds, c.isDigit) (hne : ds ≠ []) {x : Char}
    (hx : x.isDigit = false) : (ds ++ cs).head? ≠ some x := by
  obtain ⟨d, ds, rfl⟩ := List.exists_cons_of_ne_nil hne
  rw [List.cons_append, List.head?_cons, ne_eq, Option.some.injEq]
  exact ne_of_isDigit (h d List.mem_cons_self) hx

theorem takeWhile_all {ds : List Char} (h : ∀ c ∈ ds, c.isDigit) {rest : List Char}
    (hrest : ∀ c, rest.head? = some c → c.isDigit = false) :
    (ds ++ rest).takeWhile Char.isDigit = ds ∧ (ds ++ rest).dropWhile Char.isDigit = rest := by
  rw [List.takeWhile_append_of_pos h, List.dropWhile_append_of_pos h]
  cases rest with
  | nil => exact ⟨List.append_nil ds, rfl⟩
  | cons c rest =>
    have hc := hrest c rfl
    rw [List.takeWhile_cons_of_neg (by rw [hc]; exact Bool.false_ne_true),
      List.dropWhile_cons_of_neg (by rw [hc]; exact Bool.false_ne_true)]
    exact ⟨List.append_nil ds, rfl⟩

theorem exponent?_chars (e : Exponent) : exponent? e.chars = some e.value := by
  have hsign : Numeral.sign (e.sign.chars ++ e.digits) = (e.sign.isMinus, e.digits) := by
    refine sign_chars _ ?_ ?_
    all_goals
      rw [← List.append_nil e.digits]
      exact head?_of_digits e.isDigit e.digits_ne_nil (by decide)
  have hdigits : e.digits.all Char.isDigit = true := List.all_eq_true.mpr e.isDigit
  have hne : e.digits.isEmpty = false := List.isEmpty_eq_false_iff.mpr e.digits_ne_nil
  simp only [Exponent.chars, exponent?, if_pos e.mark_eq, hsign, hdigits, hne, Bool.not_true,
    Bool.or_false, Bool.false_eq_true, if_false, Exponent.value]

theorem exponent?_exponentChars (w : Written) :
    exponent? w.exponentChars = some (w.exponent.elim 0 Exponent.value) := by
  rw [exponentChars]
  cases w.exponent with
  | none => rfl
  | some e => exact exponent?_chars e

theorem head?_exponentChars (w : Written) {c : Char} (h : w.exponentChars.head? = some c) :
    c = 'e' ∨ c = 'E' := by
  rw [exponentChars] at h
  cases he : w.exponent with
  | none =>
    rw [he] at h
    cases h
  | some e =>
    rw [he] at h
    cases h
    exact e.mark_eq

theorem isDigit_of_head?_exponentChars (w : Written) {c : Char}
    (h : w.exponentChars.head? = some c) : c.isDigit = false := by
  rcases w.head?_exponentChars h with rfl | rfl <;> rfl

theorem fraction_pointChars (w : Written) :
    Numeral.fraction (pointChars w.fraction ++ w.exponentChars) =
      (w.fraction.getD [], w.exponentChars) := by
  cases hf : w.fraction with
  | none =>
    rw [pointChars, List.nil_append, Numeral.fraction.eq_def]
    split
    · rename_i cs hcs
      rcases w.head?_exponentChars (c := '.') (by rw [hcs]; rfl) with h | h <;> cases h
    · rfl
  | some ds =>
    have hds : ∀ c ∈ ds, c.isDigit := fun c hc => w.fraction_isDigit c (by rw [hf]; exact hc)
    obtain ⟨htake, hdrop⟩ := takeWhile_all hds fun c => w.isDigit_of_head?_exponentChars
    rw [pointChars, List.cons_append, Numeral.fraction, htake, hdrop, Option.getD_some]

/-- Coefficient and power are found as they were written. -/
theorem decimal?_body (w : Written) : decimal? w.body = some (w.coefficient, w.power) := by
  have hhead : ∀ c, (pointChars w.fraction ++ w.exponentChars).head? = some c →
      c.isDigit = false := by
    cases w.fraction with
    | none => exact fun c => w.isDigit_of_head?_exponentChars
    | some ds =>
      rintro c ⟨⟩
      rfl
  obtain ⟨htake, hdrop⟩ := takeWhile_all w.whole_isDigit hhead
  have hsome : (w.whole.isEmpty && (w.fraction.getD []).isEmpty) = false := by
    rw [← Bool.not_eq_true, Bool.and_eq_true, List.isEmpty_iff, List.isEmpty_iff,
      ← List.append_eq_nil_iff]
    exact w.digits_ne_nil
  simp only [decimal?, body, htake, hdrop, w.fraction_pointChars, hsome, Bool.false_eq_true,
    if_false, w.exponent?_exponentChars, Option.map_some]
  rfl

theorem head?_body (w : Written) {x : Char} (hdigit : x.isDigit = false) (hpoint : x ≠ '.') :
    w.body.head? ≠ some x := by
  rw [body]
  by_cases hwhole : w.whole = []
  · have hdigits := w.digits_ne_nil
    rw [hwhole, List.nil_append] at hdigits ⊢
    cases hf : w.fraction with
    | none =>
      rw [hf] at hdigits
      exact absurd rfl hdigits
    | some ds =>
      rw [pointChars, List.cons_append, List.head?_cons, ne_eq, Option.some.injEq]
      exact hpoint.symm
  · exact head?_of_digits w.whole_isDigit hwhole hdigit

theorem chars_ne_nil (w : Written) : w.chars ≠ [] := by
  intro h
  have hdigits := w.digits_ne_nil
  obtain ⟨-, hbody⟩ := List.append_eq_nil_iff.mp h
  obtain ⟨hwhole, hrest⟩ := List.append_eq_nil_iff.mp hbody
  obtain ⟨hpoint, -⟩ := List.append_eq_nil_iff.mp hrest
  rw [hwhole, List.nil_append] at hdigits
  cases hf : w.fraction with
  | none =>
    rw [hf] at hdigits
    exact hdigits rfl
  | some ds =>
    rw [hf] at hpoint
    cases hpoint

/-- Every written form is read, as the double of its coefficient and power. -/
theorem realChars_chars (w : Written) : realChars w.chars = .ok w.double := by
  have hne : w.chars.isEmpty = false := List.isEmpty_eq_false_iff.mpr w.chars_ne_nil
  have hsign : Numeral.sign w.chars = (w.sign.isMinus, w.body) :=
    sign_chars w.sign (w.head?_body (by decide) (by decide)) (w.head?_body (by decide) (by decide))
  simp only [realChars, hne, Bool.false_eq_true, if_false, hsign, w.decimal?_body]
  rfl

end Written
end Numeral
end BacktestDesk
