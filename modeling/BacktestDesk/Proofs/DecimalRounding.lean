import BacktestDesk.Decimal.Rounding
import BacktestDesk.Proofs.DoubleValue
import Mathlib.Algebra.Order.Field.Power
import Mathlib.Tactic.FieldSimp
import Mathlib.Tactic.Linarith
import Mathlib.Tactic.Ring

/-!
# BacktestDesk.Proofs.DecimalRounding

A decimal is rounded once, to the nearest magnitude. Positions past the last finite one take part,
so that a decimal is infinite from half a step above the greatest number on.

* `Double.IsNearest.unique`: no two positions are nearest, since of two neighbours one is even.
* `Double.isNearest_nearestCode`: the quotient by a power of two, rounded, is at the nearest one.
* `Double.isRounded_ofDecimal`: what is made of a decimal is the double nearest to it.
-/

namespace BacktestDesk
namespace Double

/-- The position of the magnitude nearest to a number of units; of two that are equally near, the
even one. -/
structure IsNearest (target : ℚ) (code : Nat) : Prop where
  nearest : ∀ other, |(units code : ℚ) - target| ≤ |(units other : ℚ) - target|
  even : ∀ other, other ≠ code → |(units other : ℚ) - target| = |(units code : ℚ) - target| →
    code % 2 = 0

/-- `x` has the magnitude nearest to a number, and the sign. -/
def IsRounded (x : Double) (negative : Bool) (magnitude : ℚ) : Prop :=
  ∃ code, IsNearest (magnitude * unitsOfOne) code ∧ x = ofCode negative code

/-! ## One nearest position -/

theorem units_lt_units {a b : Nat} (h : a < b) : (units a : ℚ) < units b :=
  Nat.cast_lt.mpr (units_strictMono h)

theorem units_le_units {a b : Nat} (h : a ≤ b) : (units a : ℚ) ≤ units b :=
  Nat.cast_le.mpr (units_strictMono.monotone h)

/-- Two nearest positions are both even, and a position between them would be nearer. -/
theorem IsNearest.not_lt {target : ℚ} {a b : Nat} (ha : IsNearest target a)
    (hb : IsNearest target b) : ¬ a < b := by
  intro hlt
  have hsame : |(units b : ℚ) - target| = |(units a : ℚ) - target| :=
    le_antisymm (hb.nearest a) (ha.nearest b)
  have haeven : a % 2 = 0 := ha.even b hlt.ne' hsame
  have hbeven : b % 2 = 0 := hb.even a hlt.ne hsame.symm
  have hleft := units_lt_units (Nat.lt_succ_self a)
  have hright : (units (a + 1) : ℚ) < units b := units_lt_units (by omega)
  have hmiddle : target = ((units a : ℚ) + units b) / 2 := by
    rcases abs_eq_abs.mp hsame with h | h <;> linarith
  have hnearer : |(units (a + 1) : ℚ) - target| < |(units a : ℚ) - target| := by
    rw [abs_of_neg (by linarith : (units a : ℚ) - target < 0), abs_lt]
    constructor <;> linarith
  exact absurd (ha.nearest (a + 1)) (not_le.mpr hnearer)

theorem IsNearest.unique {target : ℚ} {a b : Nat} (ha : IsNearest target a)
    (hb : IsNearest target b) : a = b := by
  have hab := ha.not_lt hb
  have hba := hb.not_lt ha
  omega

theorem IsRounded.unique {x y : Double} {negative : Bool} {magnitude : ℚ}
    (hx : x.IsRounded negative magnitude) (hy : y.IsRounded negative magnitude) : x = y := by
  obtain ⟨a, ha, rfl⟩ := hx
  obtain ⟨b, hb, rfl⟩ := hy
  rw [ha.unique hb]

/-! ## Between two positions -/

section

variable {target : ℚ} {code : Nat}

theorem abs_below (h : (units code : ℚ) ≤ target) :
    |(units code : ℚ) - target| = target - units code := by
  rw [abs_of_nonpos (by linarith), neg_sub]

theorem abs_above (h : target ≤ units code) :
    |(units code : ℚ) - target| = units code - target :=
  abs_of_nonneg (by linarith)

theorem isNearest_below (hlow : (units code : ℚ) ≤ target) (hhigh : target ≤ units (code + 1))
    (hnear : target - units code ≤ units (code + 1) - target)
    (htie : target - units code = units (code + 1) - target → code % 2 = 0) :
    IsNearest target code where
  nearest other := by
    rw [abs_below hlow]
    rcases Nat.lt_or_ge code other with h | h
    · have hother := units_le_units (Nat.succ_le_of_lt h)
      rw [abs_above (hhigh.trans hother)]
      linarith
    · have hother := units_le_units h
      rw [abs_below (hother.trans hlow)]
      linarith
  even other hne hsame := by
    rw [abs_below hlow] at hsame
    rcases Nat.lt_or_gt_of_ne hne with h | h
    · have hother := units_lt_units h
      rw [abs_below (hother.le.trans hlow)] at hsame
      linarith
    · have hother := units_le_units (Nat.succ_le_of_lt h)
      rw [abs_above (hhigh.trans hother)] at hsame
      exact htie (by linarith)

theorem isNearest_above (hlow : (units code : ℚ) ≤ target) (hhigh : target ≤ units (code + 1))
    (hnear : units (code + 1) - target ≤ target - units code)
    (htie : target - units code = units (code + 1) - target → code % 2 = 1) :
    IsNearest target (code + 1) where
  nearest other := by
    rw [abs_above hhigh]
    rcases Nat.lt_or_ge code other with h | h
    · have hother := units_le_units (Nat.succ_le_of_lt h)
      rw [abs_above (hhigh.trans hother)]
      linarith
    · have hother := units_le_units h
      rw [abs_below (hother.trans hlow)]
      linarith
  even other hne hsame := by
    rw [abs_above hhigh] at hsame
    rcases Nat.lt_or_gt_of_ne hne with h | h
    · have hother := units_le_units (Nat.le_of_lt_succ h)
      rw [abs_below (hother.trans hlow)] at hsame
      have hodd := htie (by linarith)
      omega
    · have hother := units_lt_units h
      rw [abs_above (hhigh.trans hother.le)] at hsame
      linarith

end

/-! ## Quotients -/

theorem binade_eq : binade = 2 ^ 52 := rfl

/-- With `shift` bits dropped, a position stands for what is left times the step. -/
theorem units_shift {shift left : Nat} (hleast : shift = 0 ∨ binade ≤ left)
    (hgreatest : left ≤ 2 * binade) : units (shift * binade + left) = left * 2 ^ shift := by
  have hpos := binade_pos
  rcases Nat.lt_or_ge left binade with hlt | hge
  · obtain rfl : shift = 0 := by omega
    have hplace := units_place 0 hlt
    rw [if_pos rfl, Nat.mul_zero] at hplace
    rw [Nat.zero_mul, hplace, Nat.pow_zero, Nat.mul_one]
  rcases Nat.lt_or_ge left (2 * binade) with hlt | hge'
  · have hcode : shift * binade + left = binade * (shift + 1) + (left - binade) := by
      rw [Nat.mul_comm, Nat.mul_add_one]
      omega
    rw [hcode, units_place _ (by omega), if_neg (Nat.succ_ne_zero shift), Nat.add_sub_cancel,
      Nat.add_sub_cancel' hge]
  · obtain rfl : left = 2 * binade := by omega
    have hcode : shift * binade + 2 * binade = binade * (shift + 2) + 0 := by
      rw [Nat.mul_comm, Nat.mul_add, Nat.mul_comm 2, Nat.add_zero]
    rw [hcode, units_place _ hpos, if_neg (Nat.succ_ne_zero _), Nat.add_zero,
      Nat.add_sub_assoc (by decide), Nat.pow_succ', Nat.mul_comm 2 binade, Nat.mul_assoc]

/-- Dropping all bits but 53 leaves 53 bits, unless there were fewer. -/
theorem quotient_bounds (n : Nat) :
    let shift := n.log2 + 1 - 53
    (shift = 0 ∨ binade ≤ n / 2 ^ shift) ∧ n / 2 ^ shift < 2 * binade := by
  intro shift
  have hcap : n < 2 ^ shift * (2 * binade) := by
    rw [binade_eq, ← Nat.pow_succ', ← Nat.pow_add]
    exact Nat.lt_of_lt_of_le Nat.lt_log2_self (Nat.pow_le_pow_right (by decide) (by omega))
  refine ⟨?_, Nat.div_lt_of_lt_mul hcap⟩
  by_cases hshift : shift = 0
  · exact .inl hshift
  · have hn : n ≠ 0 := by
      rintro rfl
      exact hshift (by decide)
    have hlog : n.log2 = 52 + shift := by omega
    refine .inr ((Nat.le_div_iff_mul_le (Nat.two_pow_pos shift)).mpr ?_)
    rw [binade_eq, ← Nat.pow_add, ← hlog]
    exact Nat.log2_self_le hn

section

variable {n d step q r : Nat} (hd : 0 < d) (hsplit : d * step * q + r = n)
include hd hsplit

/-- What is left of a quotient over its steps, in parts of the divisor. -/
theorem sub_steps_below : (n : ℚ) / d - ((q * step : Nat) : ℚ) = r / d := by
  have hpos : (0 : ℚ) < d := Nat.cast_pos.mpr hd
  rw [← hsplit]
  push_cast
  field_simp
  ring

/-- What is missing of a quotient to its next step, in parts of the divisor. -/
theorem sub_steps_above (hrest : r ≤ d * step) :
    (((q + 1) * step : Nat) : ℚ) - n / d = ((d * step - r : Nat) : ℚ) / d := by
  have hpos : (0 : ℚ) < d := Nat.cast_pos.mpr hd
  rw [← hsplit, Nat.cast_sub hrest]
  push_cast
  field_simp
  ring

end

theorem isNearest_nearestCode (n : Nat) {d : Nat} (hd : 0 < d) :
    IsNearest ((n : ℚ) / d) (nearestCode n d) := by
  obtain ⟨hleast, hgreatest⟩ := quotient_bounds (n / d)
  simp only [nearestCode, divEven, Nat.pow_eq]
  generalize (n / d).log2 + 1 - 53 = shift at hleast hgreatest ⊢
  rw [Nat.div_div_eq_div_mul] at hleast hgreatest
  have hstep : 0 < d * 2 ^ shift := Nat.mul_pos hd (Nat.two_pow_pos shift)
  have hrest := Nat.mod_lt n hstep
  have hsplit := Nat.div_add_mod n (d * 2 ^ shift)
  generalize n / (d * 2 ^ shift) = q at hleast hgreatest hsplit ⊢
  generalize n % (d * 2 ^ shift) = r at hrest hsplit ⊢
  have hlow : units (shift * binade + q) = q * 2 ^ shift := units_shift hleast (by omega)
  have hhigh : units (shift * binade + q + 1) = (q + 1) * 2 ^ shift := by
    rw [Nat.add_assoc]
    exact units_shift (by omega) (by omega)
  have hparity : (shift * binade + q) % 2 = q % 2 := by
    have heven : shift * binade % 2 = 0 := by
      rw [binade_eq, Nat.pow_succ, ← Nat.mul_assoc]
      exact Nat.mul_mod_left _ 2
    omega
  have hbelow := sub_steps_below hd hsplit
  have habove := sub_steps_above hd hsplit hrest.le
  rw [← hlow] at hbelow
  rw [← hhigh] at habove
  have hpos : (0 : ℚ) < d := Nat.cast_pos.mpr hd
  have hbelow_nonneg : (0 : ℚ) ≤ r / d := by positivity
  have habove_nonneg : (0 : ℚ) ≤ ((d * 2 ^ shift - r : Nat) : ℚ) / d := by positivity
  split
  · rename_i hdown
    refine isNearest_below (by linarith) (by linarith) ?_ fun htie => ?_
    · rw [hbelow, habove, div_le_div_iff_of_pos_right hpos, Nat.cast_le]
      omega
    · rw [hbelow, habove, div_left_inj' hpos.ne', Nat.cast_inj] at htie
      omega
  · rename_i hup
    rw [← Nat.add_assoc]
    refine isNearest_above (by linarith) (by linarith) ?_ fun htie => ?_
    · rw [hbelow, habove, div_le_div_iff_of_pos_right hpos, Nat.cast_le]
      omega
    · rw [hbelow, habove, div_left_inj' hpos.ne', Nat.cast_inj] at htie
      omega

/-! ## Decimals -/

/-- The number of units in a decimal. -/
def unitsOfDecimal (coefficient : Nat) (exponent : Int) : ℚ :=
  coefficient * 10 ^ exponent * unitsOfOne

theorem digitCount_pos (n : Nat) : 0 < digitCount n :=
  Nat.length_toDigits_pos

theorem lt_pow_digitCount (n : Nat) : n < 10 ^ digitCount n :=
  (Nat.length_toDigits_le_iff (by decide) (digitCount_pos n)).mp (Nat.le_refl _)

theorem pow_digitCount_le {n : Nat} (h : n ≠ 0) : 10 ^ (digitCount n - 1) ≤ n := by
  by_cases hone : digitCount n = 1
  · rw [hone]
    exact Nat.pos_of_ne_zero h
  · have hpos := digitCount_pos n
    by_contra hlt
    have hshort : digitCount n ≤ digitCount n - 1 :=
      (Nat.length_toDigits_le_iff (by decide) (by omega)).mpr (not_le.mp hlt)
    omega

theorem cast_natPow (b k : Nat) : ((Nat.pow b k : Nat) : ℚ) = (b : ℚ) ^ k :=
  Nat.cast_pow b k

/-- A decimal is a quotient of whole numbers of units. -/
theorem isNearest_quotient (c : Nat) (e : Int) :
    IsNearest (unitsOfDecimal c e)
      (if 0 ≤ e then nearestCode (c * Nat.pow 10 e.toNat * Nat.pow 2 1074) 1
        else nearestCode (c * Nat.pow 2 1074) (Nat.pow 10 (-e).toNat)) := by
  split
  · rename_i he
    have hquotient : unitsOfDecimal c e =
        ((c * Nat.pow 10 e.toNat * Nat.pow 2 1074 : Nat) : ℚ) / (1 : Nat) := by
      rw [unitsOfDecimal, unitsOfOne]
      generalize (1074 : Nat) = scale
      rw [Nat.cast_one, div_one, Nat.cast_mul, Nat.cast_mul, cast_natPow, cast_natPow,
        Nat.cast_ofNat, Nat.cast_ofNat, ← zpow_natCast (10 : ℚ), Int.toNat_of_nonneg he]
    rw [hquotient]
    exact isNearest_nearestCode _ Nat.one_pos
  · rename_i he
    have hquotient : unitsOfDecimal c e =
        ((c * Nat.pow 2 1074 : Nat) : ℚ) / ((Nat.pow 10 (-e).toNat : Nat) : ℚ) := by
      rw [unitsOfDecimal, unitsOfOne]
      generalize (1074 : Nat) = scale
      rw [Nat.cast_mul, cast_natPow, cast_natPow, Nat.cast_ofNat, Nat.cast_ofNat,
        ← zpow_natCast (10 : ℚ), Int.toNat_of_nonneg (by omega), zpow_neg, div_inv_eq_mul,
        mul_right_comm]
    rw [hquotient]
    exact isNearest_nearestCode _ (Nat.pow_pos (by decide))

theorem isNearest_zero {target : ℚ} (hpos : 0 ≤ target) (hsmall : target ≤ 1 / 2) :
    IsNearest target 0 := by
  have hone : units (0 + 1) = 1 := by decide
  refine isNearest_below ?_ ?_ ?_ fun _ => rfl
  all_goals
    simp only [units_zero, hone, Nat.cast_zero, Nat.cast_one]
    linarith

theorem units_infinity : (units infinity : ℚ) = 2 ^ 1024 * unitsOfOne := by
  have hunits : units infinity = 2 ^ 1024 * 2 ^ 1074 := by decide +kernel
  rw [hunits, Nat.cast_mul, Nat.cast_pow, Nat.cast_pow, unitsOfOne, Nat.cast_ofNat]

/-- What is at the infinite magnitude or past it is not nearest to a finite one. -/
theorem IsNearest.infinity_le {target : ℚ} {code : Nat} (h : IsNearest target code)
    (htarget : (units infinity : ℚ) ≤ target) : infinity ≤ code := by
  by_contra hlt
  have hunits := units_lt_units (not_le.mp hlt)
  have hnear := h.nearest infinity
  rw [abs_below htarget, abs_below (hunits.le.trans htarget)] at hnear
  linarith

theorem two_pow_le : (2 : ℚ) ^ 1024 ≤ 10 ^ (310 : ℤ) ∧ 2 * unitsOfOne ≤ 10 ^ (331 : ℤ) := by
  have hnat : (2 : Nat) ^ 1024 ≤ 10 ^ 310 ∧ (2 : Nat) * 2 ^ 1074 ≤ 10 ^ 331 := by decide +kernel
  rw [unitsOfOne]
  exact_mod_cast hnat

/-- With 310 digits before the point a decimal is infinite. -/
theorem infinity_le_of_large {c : Nat} {e : Int} (hc : c ≠ 0) (h : 310 < e + digitCount c) :
    (units infinity : ℚ) ≤ unitsOfDecimal c e := by
  have hcoefficient : (10 : ℚ) ^ ((digitCount c : Int) - 1) ≤ c := by
    have hle := pow_digitCount_le hc
    have hpos := digitCount_pos c
    rw [← Nat.cast_le (α := ℚ), Nat.cast_pow, Nat.cast_ofNat, ← zpow_natCast,
      Nat.cast_sub hpos, Nat.cast_one] at hle
    exact hle
  rw [units_infinity, unitsOfDecimal]
  refine mul_le_mul_of_nonneg_right ?_ unitsOfOne_pos.le
  calc (2 : ℚ) ^ 1024
      ≤ 10 ^ (310 : ℤ) := two_pow_le.1
    _ ≤ 10 ^ ((digitCount c : Int) - 1 + e) := zpow_le_zpow_right₀ (by norm_num) (by omega)
    _ = 10 ^ ((digitCount c : Int) - 1) * 10 ^ e := zpow_add₀ (by norm_num) _ _
    _ ≤ c * 10 ^ e := mul_le_mul_of_nonneg_right hcoefficient (by positivity)

/-- Below `10 ^ -330` a decimal is less than half a unit. -/
theorem le_half_of_small {c : Nat} {e : Int} (h : e + digitCount c < -330) :
    unitsOfDecimal c e ≤ 1 / 2 := by
  have hcoefficient : (c : ℚ) ≤ 10 ^ (digitCount c : Int) := by
    have hlt := (lt_pow_digitCount c).le
    rwa [← Nat.cast_le (α := ℚ), Nat.cast_pow, Nat.cast_ofNat, ← zpow_natCast] at hlt
  have hdecimal : (c : ℚ) * 10 ^ e ≤ 10 ^ (-331 : ℤ) :=
    calc (c : ℚ) * 10 ^ e
        ≤ 10 ^ (digitCount c : Int) * 10 ^ e :=
          mul_le_mul_of_nonneg_right hcoefficient (by positivity)
      _ = 10 ^ ((digitCount c : Int) + e) := (zpow_add₀ (by norm_num) _ _).symm
      _ ≤ 10 ^ (-331 : ℤ) := zpow_le_zpow_right₀ (by norm_num) (by omega)
  calc unitsOfDecimal c e
      ≤ 10 ^ (-331 : ℤ) * unitsOfOne := mul_le_mul_of_nonneg_right hdecimal unitsOfOne_pos.le
    _ ≤ 1 / 2 := by
      rw [zpow_neg, inv_mul_le_iff₀ (by positivity)]
      linarith [two_pow_le.2]

/-- The shortcuts for decimals far outside the format agree with the quotient. -/
theorem exists_isNearest (c : Nat) (e : Int) :
    ∃ code, IsNearest (unitsOfDecimal c e) code ∧
      min (codeOfDecimal c e) infinity = min code infinity := by
  have hquotient := isNearest_quotient c e
  have hnonneg : 0 ≤ unitsOfDecimal c e :=
    mul_nonneg (by positivity) unitsOfOne_pos.le
  rw [codeOfDecimal]
  split
  · rename_i hc
    refine ⟨0, isNearest_zero hnonneg ?_, rfl⟩
    rw [unitsOfDecimal, hc, Nat.cast_zero, zero_mul, zero_mul]
    norm_num
  rename_i hc
  split
  · rename_i hlarge
    refine ⟨_, hquotient, ?_⟩
    rw [Nat.min_self, Nat.min_eq_right (hquotient.infinity_le (infinity_le_of_large hc hlarge))]
  split
  · rename_i hsmall
    exact ⟨0, isNearest_zero hnonneg (le_half_of_small hsmall), rfl⟩
  · exact ⟨_, hquotient, rfl⟩

/-- The double made of a decimal is the nearest one. -/
theorem isRounded_ofDecimal (negative : Bool) (c : Nat) (e : Int) :
    (ofDecimal negative c e).IsRounded negative (c * 10 ^ e) := by
  obtain ⟨code, hnearest, hcode⟩ := exists_isNearest c e
  refine ⟨code, hnearest, ?_⟩
  simp only [ofDecimal, ofCode, hcode]

end Double
end BacktestDesk
