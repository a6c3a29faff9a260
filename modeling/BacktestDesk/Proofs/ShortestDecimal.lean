import BacktestDesk.Decimal.Shortest
import BacktestDesk.Proofs.DocumentNumber

/-!
# BacktestDesk.Proofs.ShortestDecimal

The decimal that a magnitude is written as. It lies between the midpoints to the two neighbours, so
that the magnitude is the nearest one to it.

* `Double.isNearest_of_midpoints`: what lies between the midpoints.
* `Double.isNearest_shortest`: the decimal that is found, on whichever grid, and the exact one if
  there is none.
-/

namespace BacktestDesk
namespace Double

/-! ## Midpoints -/

/-- Between the midpoints to its neighbours a magnitude is the nearest one; on a midpoint it is if
its position is even. -/
theorem isNearest_of_midpoints {target : ℚ} {code : Nat}
    (hbelow : (units (code - 1) : ℚ) + units code ≤ 2 * target)
    (habove : 2 * target ≤ units code + units (code + 1))
    (heven : code % 2 = 0 ∨ ((units (code - 1) : ℚ) + units code < 2 * target ∧
      2 * target < units code + units (code + 1))) : IsNearest target code := by
  have hnext := units_lt_units (Nat.lt_succ_self code)
  rcases le_total (units code : ℚ) target with hlow | hhigh
  · refine isNearest_below hlow (by linarith) (by linarith) fun htie => ?_
    rcases heven with heven | hstrict
    · exact heven
    · linarith [hstrict.2]
  · cases code with
    | zero =>
      rw [Nat.zero_sub] at hbelow
      exact isNearest_below (by linarith) (by linarith) (by linarith) fun _ => rfl
    | succ c =>
      rw [Nat.add_sub_cancel] at hbelow heven
      have hprev := units_lt_units (Nat.lt_succ_self c)
      refine isNearest_above (by linarith) hhigh (by linarith) fun htie => ?_
      rcases heven with heven | hstrict
      · omega
      · linarith [hstrict.1]

theorem isNearest_of_readsBack {code candidate scale : Nat} (hscale : 0 < scale) {target : ℚ}
    (htarget : 2 * target * scale = candidate)
    (h : readsBack (code % 2 = 0) ((units (code - 1) + units code) * scale)
      ((units code + units (code + 1)) * scale) candidate = true) : IsNearest target code := by
  have hpos : (0 : ℚ) < scale := Nat.cast_pos.mpr hscale
  have hle : ∀ {n : Nat}, n * scale ≤ candidate ↔ (n : ℚ) ≤ 2 * target := by
    intro n
    rw [← Nat.cast_le (α := ℚ), Nat.cast_mul, ← htarget, mul_le_mul_iff_left₀ hpos]
  have hge : ∀ {n : Nat}, candidate ≤ n * scale ↔ 2 * target ≤ (n : ℚ) := by
    intro n
    rw [← Nat.cast_le (α := ℚ), Nat.cast_mul, ← htarget, mul_le_mul_iff_left₀ hpos]
  rw [readsBack] at h
  split at h
  · rename_i heven
    simp only [Bool.and_eq_true, decide_eq_true_eq, hle, hge, Nat.cast_add] at h
    exact isNearest_of_midpoints h.1 h.2 (.inl (of_decide_eq_true heven))
  · simp only [Bool.and_eq_true, decide_eq_true_eq, ← Nat.not_le, hle, hge, Nat.cast_add,
      not_le] at h
    exact isNearest_of_midpoints h.1.le h.2.le (.inr h)

/-! ## Grids -/

/-- Half units, of which the candidates on a grid are counted. -/
theorem cast_halfUnits : ((Nat.pow 2 1075 : Nat) : ℚ) = 2 * unitsOfOne := by
  have hpow : ∀ k m, k = m + 1 → ((Nat.pow 2 k : Nat) : ℚ) = 2 * 2 ^ m := by
    rintro k m rfl
    rw [cast_natPow, Nat.cast_ofNat, pow_succ']
  exact hpow 1075 1074 rfl

theorem zpow_mul_pow_neg (e : Int) : (10 : ℚ) ^ e * 10 ^ (-e).toNat = 10 ^ e.toNat := by
  rw [← zpow_natCast, ← zpow_natCast, ← zpow_add₀ (by norm_num)]
  congr 1
  omega

theorem readsBack_of_onGrid? {tie : Tie} {code q : Nat} {exponent : Int}
    (h : onGrid? tie code exponent = some q) :
    readsBack (code % 2 = 0)
      ((units (code - 1) + units code) * Nat.pow 10 (-exponent).toNat)
      ((units code + units (code + 1)) * Nat.pow 10 (-exponent).toNat)
      (q * (Nat.pow 2 1075 * Nat.pow 10 exponent.toNat)) = true := by
  simp only [onGrid?] at h
  generalize 2 * units code * Nat.pow 10 (-exponent).toNat /
    (Nat.pow 2 1075 * Nat.pow 10 exponent.toNat) = floor at h
  split at h
  · rename_i hboth
    obtain ⟨hlow, hhigh⟩ := Bool.and_eq_true_iff.mp hboth
    -- Both neighbours read back, so that it does not matter which of them is nearer.
    have hq : q = floor ∨ q = floor + 1 := by
      split at h
      · exact .inl (Option.some.inj h).symm
      split at h
      · exact .inr (Option.some.inj h).symm
      cases tie with
      | upward => exact .inr (Option.some.inj h).symm
      | toEven =>
        simp only at h
        split at h
        · exact .inl (Option.some.inj h).symm
        · exact .inr (Option.some.inj h).symm
    rcases hq with rfl | rfl
    · exact hlow
    · exact hhigh
  split at h
  · rename_i hlow
    cases h
    exact hlow
  split at h
  · rename_i hhigh
    cases h
    exact hhigh
  · cases h

theorem isNearest_onGrid? {tie : Tie} {code q : Nat} {exponent : Int}
    (h : onGrid? tie code exponent = some q) : IsNearest (unitsOfDecimal q exponent) code := by
  have hhalves := cast_halfUnits
  have hback := readsBack_of_onGrid? h
  generalize Nat.pow 2 1075 = halves at hhalves hback
  refine isNearest_of_readsBack (Nat.pow_pos (by decide)) ?_ hback
  have hscale : ((10 ^ (-exponent).toNat : Nat) : ℚ) = 10 ^ (-exponent).toNat := by
    rw [Nat.cast_pow, Nat.cast_ofNat]
  rw [Nat.cast_mul, Nat.cast_mul, hhalves, cast_natPow, Nat.cast_ofNat, hscale,
    ← zpow_mul_pow_neg exponent, unitsOfDecimal]
  ring

/-! ## The decimal that is found -/

theorem fives_mul_unitsOfOne : (5 : ℚ) ^ 1074 * (10 ^ (-1074 : ℤ) * unitsOfOne) = 1 := by
  have hpow : ∀ (k : Nat) (e : ℤ) (scale : ℚ), e = -k → scale = 2 ^ k →
      (5 : ℚ) ^ k * (10 ^ e * scale) = 1 := by
    rintro k _ _ rfl rfl
    have hten : (5 : ℚ) ^ k * 2 ^ k = 10 ^ k := by
      rw [← mul_pow]
      norm_num
    rw [zpow_neg, zpow_natCast, mul_left_comm, hten, inv_mul_cancel₀ (by positivity)]
  exact hpow 1074 (-1074) unitsOfOne rfl (by rw [unitsOfOne])

theorem unitsOfDecimal_exactly (code : Nat) :
    unitsOfDecimal (exactly code).coefficient (exactly code).exponent = units code := by
  have hpow : ∀ k, ((Nat.pow 5 k : Nat) : ℚ) = 5 ^ k := fun k => by
    rw [cast_natPow, Nat.cast_ofNat]
  have hfives : ((Nat.pow 5 1074 : Nat) : ℚ) = 5 ^ 1074 := hpow 1074
  rw [exactly, unitsOfDecimal, Nat.cast_mul]
  generalize Nat.pow 5 1074 = fives at hfives ⊢
  rw [hfives, mul_assoc, mul_assoc, fives_mul_unitsOfOne, mul_one]

theorem isNearest_searchGrids (tie : Tie) (code more : Nat) (exponent : Int) :
    IsNearest (unitsOfDecimal (searchGrids tie code more exponent).coefficient
      (searchGrids tie code more exponent).exponent) code := by
  induction more generalizing exponent with
  | zero =>
    rw [searchGrids, unitsOfDecimal_exactly]
    exact isNearest_units code
  | succ more ih =>
    rw [searchGrids]
    split
    · rename_i hq
      exact isNearest_onGrid? hq
    · exact ih (exponent - 1)

/-- A magnitude is the nearest one to the decimal that it is written as. -/
theorem isNearest_shortest (tie : Tie) (code : Nat) :
    IsNearest (unitsOfDecimal (shortest tie code).coefficient (shortest tie code).exponent) code :=
  isNearest_searchGrids tie code 17 _

theorem coefficient_shortest_ne_zero (tie : Tie) {code : Nat} (h : code ≠ 0) :
    (shortest tie code).coefficient ≠ 0 := by
  intro hzero
  have hnear := isNearest_shortest tie code
  rw [hzero, unitsOfDecimal, Nat.cast_zero, zero_mul, zero_mul] at hnear
  exact h (hnear.unique (isNearest_zero le_rfl (by norm_num)))

end Double
end BacktestDesk
