import BacktestDesk.Json.Reader
import BacktestDesk.Proofs.DecimalRounding

/-!
# BacktestDesk.Proofs.DocumentNumber

What documents make of digits and an exponent. Every step rounds, so that the outcome is between
numbers that are known, and is the nearest one where the steps before the last are exact.

* `Double.IsNearest.le_of_le`, `Double.IsNearest.ge_of_le`: rounding keeps the order.
* `Json.Reader.real?_isFinite`: a number that is taken is finite.
-/

namespace BacktestDesk
namespace Double

/-! ## Order -/

section

variable {target : ℚ} {code other : Nat} (h : IsNearest target code)

include h

theorem IsNearest.le_of_le (hle : target ≤ units other) : code ≤ other := by
  by_contra hlt
  have hunits := units_lt_units (not_le.mp hlt)
  have hnear := h.nearest other
  rw [abs_above hle, abs_above (by linarith)] at hnear
  linarith

theorem IsNearest.ge_of_le (hle : (units other : ℚ) ≤ target) : other ≤ code := by
  by_contra hlt
  have hunits := units_lt_units (not_le.mp hlt)
  have hnear := h.nearest other
  rw [abs_below hle, abs_below (by linarith)] at hnear
  linarith

end

/-- A magnitude is the nearest one to itself. -/
theorem isNearest_units (code : Nat) : IsNearest (units code) code := by
  have hnext := (units_lt_units (Nat.lt_succ_self code)).le
  refine isNearest_below le_rfl hnext ?_ fun h => ?_
  · rw [sub_self]
    exact sub_nonneg.mpr hnext
  · rw [sub_self, eq_comm, sub_eq_zero] at h
    exact absurd h (units_lt_units (Nat.lt_succ_self code)).ne'

/-! ## Whole numbers -/

theorem cast_unitsOfOne : ((Nat.pow 2 1074 : Nat) : ℚ) = unitsOfOne := by
  have hpow : ∀ k, ((Nat.pow 2 k : Nat) : ℚ) = 2 ^ k := fun k => by
    rw [cast_natPow, Nat.cast_ofNat]
  exact hpow 1074

theorem isFinite_ofCode {negative : Bool} {code : Nat} (h : code < infinity) :
    (ofCode negative code).isFinite = true :=
  decide_eq_true (Nat.lt_of_le_of_lt (Nat.min_le_left _ _) h)

/-- The position of the magnitude nearest to a decimal, unless both are past the last one. -/
theorem isNearest_codeOfDecimal {c : Nat} {e : Int} (h : codeOfDecimal c e < infinity) :
    IsNearest (unitsOfDecimal c e) (codeOfDecimal c e) := by
  obtain ⟨code, hnearest, hcode⟩ := exists_isNearest c e
  have hsame : codeOfDecimal c e = code := by omega
  rwa [hsame]

theorem codeOfDecimal_lt {n : Nat} (h : n < 2 ^ 64) : codeOfDecimal n 0 < infinity := by
  obtain ⟨code, hnearest, hcode⟩ := exists_isNearest n 0
  have hunits : units (1087 * binade) = 2 ^ 64 * Nat.pow 2 1074 := by decide +kernel
  have hle : unitsOfDecimal n 0 ≤ units (1087 * binade) := by
    rw [unitsOfDecimal, zpow_zero, mul_one, hunits, Nat.cast_mul, cast_unitsOfOne]
    exact mul_le_mul_of_nonneg_right (Nat.cast_le.mpr h.le) unitsOfOne_pos.le
  have hcap := hnearest.le_of_le hle
  have hfinite : 1087 * binade < infinity := by decide
  omega

theorem ofInt_isFinite {z : Int} (h : z.natAbs < 2 ^ 64) :
    (ofInt z).isFinite = true :=
  isFinite_ofCode (codeOfDecimal_lt h)

/-! ## Powers of ten -/

/-- The position of one. -/
def codeOfOne : Nat := 1023 * binade

theorem units_codeOfOne : (units codeOfOne : ℚ) = unitsOfOne := by
  have hunits : units codeOfOne = 2 ^ 1074 := by decide +kernel
  rw [hunits, Nat.cast_pow, unitsOfOne, Nat.cast_ofNat]

theorem codeOfOne_le_powerOfTen (n : Nat) : codeOfOne ≤ powerOfTen n := by
  obtain ⟨code, hnearest, hcode⟩ := exists_isNearest 1 n
  have hone : (units codeOfOne : ℚ) ≤ unitsOfDecimal 1 n := by
    rw [units_codeOfOne, unitsOfDecimal, Nat.cast_one, one_mul, zpow_natCast]
    exact le_mul_of_one_le_left unitsOfOne_pos.le (one_le_pow₀ (by norm_num))
  have hle := hnearest.ge_of_le hone
  have hfinite : codeOfOne ≤ infinity := by decide
  rw [powerOfTen]
  omega

theorem unitsOfOne_le_powerOfTen (n : Nat) : unitsOfOne ≤ (units (powerOfTen n) : ℚ) := by
  rw [← units_codeOfOne]
  exact units_le_units (codeOfOne_le_powerOfTen n)

/-! ## Quotients and products -/

theorem isNearest_divCode (a : Nat) {b : Nat} (hb : 0 < units b) :
    IsNearest (units a * unitsOfOne / units b) (divCode a b) := by
  have h := isNearest_nearestCode (units a * Nat.pow 2 1074) hb
  rwa [Nat.cast_mul, cast_unitsOfOne] at h

theorem isNearest_mulCode (a b : Nat) :
    IsNearest (units a * units b / unitsOfOne) (mulCode a b) := by
  have hpos : 0 < Nat.pow 2 1074 := Nat.cast_pos.mp (cast_unitsOfOne ▸ unitsOfOne_pos)
  have h := isNearest_nearestCode (units a * units b) hpos
  rwa [Nat.cast_mul, cast_unitsOfOne] at h

theorem units_powerOfTen_pos (n : Nat) : 0 < units (powerOfTen n) :=
  Nat.cast_pos.mp (unitsOfOne_pos.trans_le (unitsOfOne_le_powerOfTen n))

/-- A quotient by a power of ten is no greater than what is divided. -/
theorem divCode_powerOfTen_le (code n : Nat) : divCode code (powerOfTen n) ≤ code := by
  refine (isNearest_divCode code (units_powerOfTen_pos n)).le_of_le ?_
  rw [div_le_iff₀ (Nat.cast_pos.mpr (units_powerOfTen_pos n))]
  exact mul_le_mul_of_nonneg_left (unitsOfOne_le_powerOfTen n) (Nat.cast_nonneg _)

theorem lowered_le (code steps : Nat) : lowered code steps ≤ code := by
  induction steps generalizing code with
  | zero => exact Nat.le_refl code
  | succ steps ih =>
    rw [lowered]
    split
    · exact Nat.zero_le code
    · exact (ih _).trans (divCode_powerOfTen_le code greatestPower)

theorem scaledCode?_lt {significand code : Nat} {exponent : Int}
    (hsignificand : codeOfDecimal significand 0 < infinity)
    (h : scaledCode? significand exponent = some code) : code < infinity := by
  simp only [scaledCode?] at h
  split at h
  · split at h
    · cases h
      decide
    · split at h
      · split at h
        · rename_i hfinite
          rwa [← Option.some.inj h]
        · cases h
      · cases h
  · cases h
    exact ((divCode_powerOfTen_le _ _).trans (lowered_le _ _)).trans_lt hsignificand

end Double

namespace Json.Reader

theorem gather_le {n : Nat} (h : n ≤ maxSignificand) (ds : List Char) :
    (gather n ds).1 ≤ maxSignificand := by
  induction ds generalizing n with
  | nil => exact h
  | cons c cs ih =>
    simp only [gather]
    split
    · rename_i hroom
      exact ih hroom
    · exact h

theorem real?_isFinite {negative : Bool} {whole fraction : List Char} {exponent : Int} {x : Double}
    (h : real? negative whole fraction exponent = some x) : x.isFinite := by
  simp only [real?, Double.scaled?] at h
  obtain ⟨code, hcode, rfl⟩ := Option.map_eq_some_iff.mp h
  have hroom : (gather (gather 0 whole).1 fraction).1 ≤ maxSignificand :=
    gather_le (gather_le (Nat.zero_le _) whole) fraction
  have hsmall : (gather (gather 0 whole).1 fraction).1 < 2 ^ 64 := by
    rw [maxSignificand] at hroom
    omega
  exact Double.isFinite_ofCode (Double.scaledCode?_lt (Double.codeOfDecimal_lt hsmall) hcode)

end Json.Reader
end BacktestDesk
