import BacktestDesk.Decimal.Double
import Mathlib.Algebra.Order.Field.Rat
import Mathlib.Order.Monotone.Basic
import Mathlib.Tactic.Positivity

/-!
# BacktestDesk.Proofs.DoubleValue

The rational number that a double stands for. Positions ascend with the values (`units_strictMono`),
so that the comparison of positions is the comparison of numbers.

* `Double.le_iff`: at most, for two finite doubles.
* `Double.between_iff`, `Double.nonNegative_iff`: what no number or infinite is between no bounds.
-/

namespace BacktestDesk
namespace Double

/-! ## Magnitudes -/

theorem binade_pos : 0 < binade := Nat.pow_pos (by decide)

theorem units_place (k : Nat) {offset : Nat} (h : offset < binade) :
    units (binade * k + offset) = if k = 0 then offset else (binade + offset) * 2 ^ (k - 1) := by
  have hdiv : (binade * k + offset) / binade = k := by
    rw [Nat.mul_add_div binade_pos, Nat.div_eq_of_lt h, Nat.add_zero]
  have hmod : (binade * k + offset) % binade = offset := by
    rw [Nat.mul_add_mod, Nat.mod_eq_of_lt h]
  rw [units, hdiv, hmod]
  split
  · rename_i hfirst
    rw [hfirst, Nat.mul_zero, Nat.zero_add]
  · rfl

/-- A step inside a binade adds one to the offset; the next binade starts at twice the units of the
first position of this one, which its last step does not reach. -/
theorem units_lt_succ (code : Nat) : units code < units (code + 1) := by
  obtain ⟨k, offset, hlt, rfl⟩ : ∃ k offset, offset < binade ∧ code = binade * k + offset :=
    ⟨_, _, Nat.mod_lt code binade_pos, (Nat.div_add_mod code binade).symm⟩
  rw [units_place k hlt]
  by_cases hlast : offset + 1 = binade
  · have hnext : binade * k + offset + 1 = binade * (k + 1) + 0 := by
      rw [Nat.mul_add_one]
      omega
    rw [hnext, units_place (k + 1) binade_pos, if_neg (Nat.succ_ne_zero k), Nat.add_sub_cancel,
      Nat.add_zero]
    cases k with
    | zero =>
      rw [if_pos rfl, Nat.pow_zero]
      omega
    | succ k =>
      rw [if_neg (Nat.succ_ne_zero k), Nat.add_sub_cancel]
      calc (binade + offset) * 2 ^ k
          < (binade * 2) * 2 ^ k := Nat.mul_lt_mul_of_pos_right (by omega) (Nat.two_pow_pos k)
        _ = binade * 2 ^ (k + 1) := by rw [Nat.pow_succ', Nat.mul_assoc]
  · rw [Nat.add_assoc, units_place k (by omega)]
    split
    · exact Nat.lt_succ_self offset
    · exact Nat.mul_lt_mul_of_pos_right (by omega) (Nat.two_pow_pos _)

theorem units_strictMono : StrictMono units :=
  strictMono_nat_of_lt_succ units_lt_succ

theorem units_zero : units 0 = 0 := by decide

/-- A magnitude with its sign. -/
def signedUnits (negative : Bool) (code : Nat) : Int :=
  if negative then -(units code : Int) else units code

theorem rank_le_rank_iff {n m : Bool} {c d : Nat} :
    rank n c ≤ rank m d ↔ signedUnits n c ≤ signedUnits m d := by
  have hle : ∀ {c d : Nat}, units c ≤ units d ↔ c ≤ d := units_strictMono.le_iff_le
  have hcd := @hle c d
  have hdc := @hle d c
  have hc := @hle c 0
  have hd := @hle d 0
  rw [units_zero] at hc hd
  cases n <;> cases m <;> simp only [rank, signedUnits, if_true, Bool.false_eq_true, if_false] <;>
    omega

/-! ## Values -/

/-- The number of units in one. -/
def unitsOfOne : ℚ := 2 ^ 1074

theorem unitsOfOne_pos : 0 < unitsOfOne := by
  rw [unitsOfOne]
  positivity

/-- The number that a finite double stands for; both zeros stand for the same. -/
def value? : Double → Option ℚ
  | nan => none
  | signed negative code =>
    if code.val < infinity then some (signedUnits negative code.val / unitsOfOne) else none

theorem value?_isSome {x : Double} : x.value?.isSome = x.isFinite := by
  cases x with
  | nan => rfl
  | signed negative code =>
    rw [value?, isFinite]
    split <;> simp [*]

theorem isFinite_of_value? {x : Double} {q : ℚ} (h : x.value? = some q) : x.isFinite := by
  rw [← value?_isSome, h]
  rfl

/-- Comparison of two finite doubles is that of the numbers. -/
theorem le_iff {x y : Double} {a b : ℚ} (hx : x.value? = some a) (hy : y.value? = some b) :
    x.le y = true ↔ a ≤ b := by
  cases x with
  | nan => cases hx
  | signed n c =>
    cases y with
    | nan => cases hy
    | signed m d =>
      simp only [value?, Option.ite_none_right_eq_some, Option.some.injEq] at hx hy
      obtain ⟨-, rfl⟩ := hx
      obtain ⟨-, rfl⟩ := hy
      rw [le, decide_eq_true_eq, rank_le_rank_iff, div_le_div_iff_of_pos_right unitsOfOne_pos,
        Int.cast_le]

/-- Between two finite bounds stands no double but a finite one. -/
theorem isFinite_of_between {x least greatest : Double} (hleast : least.isFinite)
    (hgreatest : greatest.isFinite) (hlo : least.le x) (hhi : x.le greatest) : x.isFinite := by
  cases x with
  | nan => cases greatest <;> cases hhi
  | signed n c =>
    cases least with
    | nan => cases hlo
    | signed l lc =>
      cases greatest with
      | nan => cases hhi
      | signed g gc =>
        simp only [isFinite, le, decide_eq_true_eq] at hleast hgreatest hlo hhi ⊢
        -- Both bounds stand between the two infinities, whatever their signs.
        cases n <;> cases l <;> cases g <;>
          simp only [rank, if_true, Bool.false_eq_true, if_false] at hlo hhi <;> omega

theorem between_iff {x least greatest : Double} {a b : ℚ} (hleast : least.value? = some a)
    (hgreatest : greatest.value? = some b) :
    (least.le x && x.le greatest) = true ↔ ∃ q, x.value? = some q ∧ a ≤ q ∧ q ≤ b := by
  rw [Bool.and_eq_true]
  constructor
  · rintro ⟨hlo, hhi⟩
    have hfinite : x.isFinite :=
      isFinite_of_between (isFinite_of_value? hleast) (isFinite_of_value? hgreatest) hlo hhi
    rw [← value?_isSome] at hfinite
    obtain ⟨q, hq⟩ := Option.isSome_iff_exists.mp hfinite
    exact ⟨q, hq, (le_iff hleast hq).mp hlo, (le_iff hq hgreatest).mp hhi⟩
  · rintro ⟨q, hq, hlo, hhi⟩
    exact ⟨(le_iff hleast hq).mpr hlo, (le_iff hq hgreatest).mpr hhi⟩

/-! ## Bounds -/

theorem value?_ofCode {code : Nat} {q : ℚ} (h : code < infinity)
    (hunits : (units code : ℚ) = q * unitsOfOne) : (ofCode false code).value? = some q := by
  have hmin : min code infinity = code := Nat.min_eq_left (Nat.le_of_lt h)
  simp only [ofCode, value?, hmin, if_pos h, signedUnits, Bool.false_eq_true, if_false,
    Int.cast_natCast, hunits, mul_div_cancel_right₀ _ unitsOfOne_pos.ne']

theorem value?_zero : zero.value? = some 0 :=
  value?_ofCode (by decide) (by rw [units_zero, Nat.cast_zero, zero_mul])

theorem value?_one : one.value? = some 1 := by
  have hunits : units (1023 * binade) = 2 ^ 1074 := by decide +kernel
  refine value?_ofCode (by decide +kernel) ?_
  rw [hunits, Nat.cast_pow, one_mul, unitsOfOne, Nat.cast_ofNat]

theorem nonNegative_iff {x : Double} :
    (x.isFinite && zero.le x) = true ↔ ∃ q, x.value? = some q ∧ 0 ≤ q := by
  rw [Bool.and_eq_true, ← value?_isSome, Option.isSome_iff_exists]
  constructor
  · rintro ⟨⟨q, hq⟩, hle⟩
    exact ⟨q, hq, (le_iff value?_zero hq).mp hle⟩
  · rintro ⟨q, hq, hle⟩
    exact ⟨⟨q, hq⟩, (le_iff value?_zero hq).mpr hle⟩

end Double
end BacktestDesk
