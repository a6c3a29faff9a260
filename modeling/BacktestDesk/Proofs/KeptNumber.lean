import BacktestDesk.Proofs.RereadNumber

/-!
# BacktestDesk.Proofs.KeptNumber

What is kept of a double when its text is read again. With few digits all is, since the significand
and the power of ten are then exact and only one step rounds. In general the sign is, and so are the
bounds zero, a half and one.

* `Double.units_codeOfDecimal`: decimals that are magnitudes.
* `Double.reread_of_isShort`: up to fifteen digits and no exponent.
* `Double.reread_between`, `Double.exists_value?_reread`: a number does not leave its bounds.
-/

namespace BacktestDesk

open Numeral

namespace Double

/-! ## Exact magnitudes -/

/-- With 53 bits in front of any number of zeros, a whole number is a magnitude. -/
theorem exists_units {n : Nat} (h : n < 2 ^ 53) (k : Nat) :
    ∃ code, (units code : ℚ) = n * 2 ^ k * unitsOfOne := by
  rcases Nat.eq_zero_or_pos n with rfl | hpos
  · exact ⟨0, by rw [units_zero, Nat.cast_zero, zero_mul, zero_mul]⟩
  have hlow : 2 ^ n.log2 ≤ n := Nat.log2_self_le hpos.ne'
  have hhigh : n < 2 ^ (n.log2 + 1) := Nat.lt_log2_self
  have hbits : n.log2 ≤ 52 := by
    rw [← Nat.lt_succ_iff, Nat.log2_lt hpos.ne']
    exact h
  have hscale : ∀ m, m ≤ 52 → (2 : Nat) ^ m * 2 ^ (52 - m) = binade := fun m hm => by
    rw [← Nat.pow_add, Nat.add_sub_cancel' hm, binade_eq]
  -- The bits are moved up until there are 53 of them.
  have hleast : binade ≤ n * 2 ^ (52 - n.log2) := by
    rw [← hscale _ hbits]
    exact Nat.mul_le_mul_right _ hlow
  have hgreatest : n * 2 ^ (52 - n.log2) ≤ 2 * binade := by
    rw [← hscale _ hbits, ← Nat.mul_assoc, ← Nat.pow_succ']
    exact Nat.mul_le_mul_right _ hhigh.le
  refine ⟨(1022 + n.log2 + k) * binade + n * 2 ^ (52 - n.log2), ?_⟩
  have hpower : 52 - n.log2 + (1022 + n.log2 + k) = k + 1074 := by omega
  rw [units_shift (.inr hleast) hgreatest, Nat.mul_assoc, ← Nat.pow_add, hpower, Nat.cast_mul,
    Nat.cast_pow, Nat.cast_ofNat, pow_add, ← mul_assoc]
  rfl

/-- A decimal that is a magnitude stands for it. -/
theorem units_codeOfDecimal {c : Nat} {e : Int} (hfinite : codeOfDecimal c e < infinity) {n k : Nat}
    (hn : n < 2 ^ 53) (h : (c : ℚ) * 10 ^ e = n * 2 ^ k) :
    (units (codeOfDecimal c e) : ℚ) = c * 10 ^ e * unitsOfOne := by
  obtain ⟨code, hcode⟩ := exists_units hn k
  have hnearest := isNearest_codeOfDecimal hfinite
  rw [unitsOfDecimal, h, ← hcode] at hnearest
  rw [hnearest.unique (isNearest_units code), hcode, h]

theorem units_whole {n : Nat} (h : n < 2 ^ 53) :
    (units (codeOfDecimal n 0) : ℚ) = n * unitsOfOne := by
  have hunits := @units_codeOfDecimal n 0 (codeOfDecimal_lt (h.trans (by decide))) n 0 h (by simp)
  rwa [zpow_zero, mul_one] at hunits

theorem five_pow_lt {k : Nat} (h : k ≤ 22) : 5 ^ k < 2 ^ 53 :=
  (Nat.pow_le_pow_right (by decide) h).trans_lt (by decide)

theorem ten_pow_eq (k : Nat) : (10 : ℚ) ^ k = (5 ^ k : Nat) * 2 ^ k := by
  rw [Nat.cast_pow, Nat.cast_ofNat, ← mul_pow]
  norm_num

theorem units_powerOfTen {k : Nat} (h : k ≤ 22) :
    (units (powerOfTen k) : ℚ) = 10 ^ k * unitsOfOne := by
  have hfinite : powerOfTen k < infinity :=
    (powerOfTen_mono (h.trans (by decide)) powerOfTen_greatest_lt).trans_lt powerOfTen_greatest_lt
  have hunits := @units_codeOfDecimal 1 k hfinite (5 ^ k) k (five_pow_lt h)
    (by rw [Nat.cast_one, one_mul, zpow_natCast, ten_pow_eq])
  rwa [Nat.cast_one, one_mul, zpow_natCast] at hunits

/-- Half a power of ten. -/
theorem units_half_powerOfTen {k : Nat} (h : k < 19) :
    (units (codeOfDecimal (5 * 10 ^ k) 0) : ℚ) = 5 * 10 ^ k * unitsOfOne := by
  have hfinite : codeOfDecimal (5 * 10 ^ k) 0 < infinity :=
    codeOfDecimal_lt ((Nat.mul_le_mul_left 5 (Nat.pow_le_pow_right (by decide)
      (Nat.le_of_lt_succ h))).trans_lt (by decide))
  have hunits := @units_codeOfDecimal (5 * 10 ^ k) 0 hfinite (5 ^ (k + 1)) k
    (five_pow_lt (h.trans (by decide))) (by
      rw [zpow_zero, mul_one, Nat.cast_mul, Nat.cast_pow, Nat.cast_ofNat, Nat.cast_ofNat,
        ten_pow_eq, pow_succ', Nat.cast_mul, Nat.cast_ofNat, mul_assoc])
  rw [zpow_zero, mul_one] at hunits
  rw [hunits]
  push_cast
  rfl

/-! ## Short numbers -/

/-- Up to fifteen digits, and no exponent. -/
def IsShort (x : Double) : Prop :=
  x.documentChars.countP Char.isDigit ≤ 15 ∧ 'e' ∉ x.documentChars

instance (x : Double) : Decidable x.IsShort :=
  inferInstanceAs (Decidable (_ ∧ _))

theorem scaledCode?_of_neg {n : Nat} {k : Nat} (hpos : 0 < k) (hk : k ≤ greatestPower) :
    scaledCode? n (-k) = some (divCode (codeOfDecimal n 0) (powerOfTen k)) := by
  have hneg : ¬ 0 ≤ -(k : Int) := by omega
  have hsteps : (k - 1) / greatestPower = 0 := Nat.div_eq_of_lt (by omega)
  simp only [scaledCode?, if_neg hneg, neg_neg, Int.toNat_natCast, hsteps, Nat.zero_mul,
    Nat.sub_zero, lowered]

/-- Of an exact quotient that was nearest to a magnitude, this is what is found. -/
theorem scaledCode?_of_isNearest {n k code : Nat} (hn : n < 2 ^ 53) (hpos : 0 < k) (hk : k ≤ 22)
    (h : IsNearest (n * 10 ^ (-k : Int) * unitsOfOne) code) : scaledCode? n (-k) = some code := by
  have hquotient := isNearest_divCode (codeOfDecimal n 0) (units_powerOfTen_pos k)
  have htarget : (units (codeOfDecimal n 0) : ℚ) * unitsOfOne / units (powerOfTen k) =
      n * 10 ^ (-k : Int) * unitsOfOne := by
    rw [units_whole hn, units_powerOfTen hk, mul_div_mul_right _ _ unitsOfOne_pos.ne', zpow_neg,
      zpow_natCast]
    ring
  rw [htarget] at hquotient
  rw [scaledCode?_of_neg hpos (hk.trans (by decide)), hquotient.unique h]

/-- With an exponent left out, all digits of a number are before and behind the point. -/
theorem WrittenAs.length_le {text : List Char} {negative : Bool} {value : ℚ} {w : Written}
    (hw : WrittenAs text negative value w) :
    w.whole.length + (w.fraction.getD []).length ≤ text.countP Char.isDigit := by
  have hwhole : w.whole.countP Char.isDigit = w.whole.length :=
    List.countP_eq_length.mpr w.whole_isDigit
  have hfraction : (w.fraction.getD []).length ≤
      (Written.pointChars w.fraction).countP Char.isDigit := by
    have hdigits := List.countP_eq_length.mpr w.fraction_isDigit
    cases hf : w.fraction with
    | none => exact Nat.zero_le _
    | some ds =>
      rw [hf, Option.getD_some] at hdigits
      rw [Option.getD_some, Written.pointChars, ← hdigits]
      exact (List.sublist_cons_self _ _).countP_le
  rw [hw.chars, Written.chars, Written.body, List.countP_append, List.countP_append,
    List.countP_append, hwhole]
  omega

theorem WrittenAs.exponent_eq_none {text : List Char} {negative : Bool} {value : ℚ} {w : Written}
    (hw : WrittenAs text negative value w) (h : 'e' ∉ text) : w.exponent = none := by
  cases he : w.exponent with
  | none => rfl
  | some e =>
    refine absurd ?_ h
    have hmark := hw.mark e he
    rw [hw.chars, Written.chars, Written.body, Written.exponentChars, he, Option.elim_some,
      Exponent.chars, hmark]
    simp

/-- Without an exponent there is a digit behind the point. -/
theorem WrittenAs.fraction_length_pos {text : List Char} {negative : Bool} {value : ℚ} {w : Written}
    (hw : WrittenAs text negative value w) (h : w.exponent = none) :
    0 < (w.fraction.getD []).length := by
  obtain ⟨ds, hds⟩ := Option.ne_none_iff_exists'.mp (hw.notWhole.resolve_right (absurd h))
  rw [hds, Option.getD_some]
  exact List.length_pos_iff.mpr fun hnil => hw.inDocument.fraction (by rw [hds, hnil])

theorem WrittenAs.ofDigits_lt {text : List Char} {negative : Bool} {value : ℚ} {w : Written}
    (hw : WrittenAs text negative value w) {k : Nat} (h : text.countP Char.isDigit ≤ k) :
    ofDigits (w.whole ++ w.fraction.getD []) < 10 ^ k := by
  have hrow : ∀ c ∈ w.whole ++ w.fraction.getD [], c.isDigit :=
    List.forall_mem_append.mpr ⟨w.whole_isDigit, w.fraction_isDigit⟩
  refine (Numeral.ofDigits_lt hrow).trans_le (Nat.pow_le_pow_right (by decide) ?_)
  rw [List.length_append]
  exact hw.length_le.trans h

theorem ofCode_val {negative : Bool} {code : Fin (infinity + 1)} :
    ofCode negative code.val = signed negative code := by
  rw [ofCode]
  congr
  exact Nat.min_eq_left (Nat.le_of_lt_succ code.isLt)

/-- What is not finite has no text that is a number. -/
theorem reread_of_not_finite {x : Double} (h : x.isFinite = false) : x.reread = x := by
  have htext : x.documentChars = "null".toList := by
    cases x with
    | nan => rfl
    | signed negative code =>
      have hcode : code.val = infinity :=
        Nat.le_antisymm (Nat.le_of_lt_succ code.isLt) (not_lt.mp (of_decide_eq_false h))
      rw [documentChars, if_pos hcode]
  have hnumber : Json.Reader.number "null".toList = none := by decide
  simp only [reread, reread?, htext, hnumber, Option.getD_none]

theorem reread_signed {negative : Bool} {code : Fin (infinity + 1)} (hfinite : code.val < infinity)
    (h : (signed negative code).IsShort) :
    (signed negative code).reread = signed negative code := by
  obtain ⟨hdigits, hexponent⟩ := h
  obtain ⟨value, w, hw, hnearest⟩ := @exists_written negative code hfinite
  have hnone := hw.exponent_eq_none hexponent
  have hfraction := hw.fraction_length_pos hnone
  have hlt := hw.ofDigits_lt hdigits
  have hlength := hw.length_le
  have hmax : 10 ^ 15 ≤ Json.Reader.maxSignificand := by decide
  have hsmall : 10 ^ 15 < 2 ^ 53 := by decide
  rw [← hw.magnitude, Written.magnitude, Written.coefficient, Written.power, hnone,
    Option.elim_none, zero_sub] at hnearest
  rw [reread, hw.reread?_eq rfl, Json.Reader.real?_of_le negative (hlt.le.trans hmax), hnone,
    Option.elim_none, zero_sub, scaled?,
    scaledCode?_of_isNearest (hlt.trans hsmall) hfraction (by omega) hnearest, Option.map_some,
    Option.getD_some, ofCode_val]

/-- A short number comes back as it was. -/
theorem reread_of_isShort {x : Double} (h : x.IsShort) : x.reread = x := by
  cases hfinite : x.isFinite with
  | false => exact reread_of_not_finite hfinite
  | true =>
    cases x with
    | nan => cases hfinite
    | signed negative code => exact reread_signed (of_decide_eq_true hfinite) h

/-! ## Bounds -/

/-- The position of a half. -/
def codeOfHalf : Nat := 1022 * binade

theorem units_codeOfHalf : (units codeOfHalf : ℚ) = 1 / 2 * unitsOfOne := by
  have hunits : units codeOfHalf = 2 ^ 1073 := by decide +kernel
  have htwice : unitsOfOne = 2 * 2 ^ 1073 := pow_succ' 2 1073
  rw [hunits, Nat.cast_pow, Nat.cast_ofNat, htwice, ← mul_assoc, one_div,
    inv_mul_cancel₀ two_ne_zero, one_mul]

theorem divCode_le_one {a b : Nat} (hb : 0 < units b) (h : a ≤ b) : divCode a b ≤ codeOfOne := by
  refine (isNearest_divCode a hb).le_of_le ?_
  rw [units_codeOfOne, div_le_iff₀ (Nat.cast_pos.mpr hb), mul_comm]
  exact mul_le_mul_of_nonneg_left (units_le_units h) unitsOfOne_pos.le

theorem lowered_le_one {code steps : Nat} (h : code ≤ powerOfTen greatestPower) (hpos : 0 < steps) :
    lowered code steps ≤ codeOfOne := by
  obtain ⟨steps, rfl⟩ := Nat.exists_eq_succ_of_ne_zero hpos.ne'
  rw [lowered]
  split
  · exact Nat.zero_le _
  · exact (lowered_le _ _).trans (divCode_le_one (units_powerOfTen_pos _) h)

/-- The only whole number up to one that is not zero. -/
theorem eq_one_of_le_one {n k : Nat} (hn : n ≠ 0) (h : (n : ℚ) * 10 ^ (k : Int) ≤ 1) :
    n = 1 ∧ k = 0 := by
  rw [zpow_natCast] at h
  have hle : n * 10 ^ k ≤ 1 := by exact_mod_cast h
  have hpos : 0 < n * 10 ^ k := Nat.mul_pos (Nat.pos_of_ne_zero hn) (Nat.pow_pos (by decide))
  have hone := Nat.le_antisymm hle hpos
  exact ⟨Nat.eq_one_of_mul_eq_one_right hone,
    (Nat.pow_eq_one.mp (Nat.eq_one_of_mul_eq_one_left hone)).resolve_left (by decide)⟩

theorem scaledCode?_one : scaledCode? 1 0 = some codeOfOne := by decide +kernel

theorem scaledCode?_zero (k : Nat) : scaledCode? 0 k = some 0 := by
  rw [scaledCode?, if_pos (Int.natCast_nonneg k)]
  rfl

theorem le_pow_of_le_one {n k : Nat} (h : (n : ℚ) * 10 ^ (-k : Int) ≤ 1) : (n : ℚ) ≤ 10 ^ k := by
  rwa [zpow_neg, zpow_natCast, ← div_eq_mul_inv, div_le_one (by positivity)] at h

/-- Half a power of ten is a whole number. -/
theorem half_pow_le {n k : Nat} (h : 1 / 2 ≤ (n : ℚ) * 10 ^ (-(k + 1 : Nat) : Int)) :
    5 * 10 ^ k ≤ n := by
  rw [zpow_neg, zpow_natCast, ← div_eq_mul_inv, le_div_iff₀ (by positivity), pow_succ'] at h
  have hle : (5 * 10 ^ k : ℚ) ≤ n := by linarith
  exact_mod_cast hle

theorem nat_or_neg (e : Int) : (∃ k : Nat, e = k) ∨ ∃ k : Nat, 0 < k ∧ e = -k := by
  rcases lt_or_ge e 0 with hneg | hge
  · exact .inr ⟨(-e).toNat, by omega, by omega⟩
  · exact .inl ⟨e.toNat, by omega⟩

/-- What a decimal gives is at most one if the decimal is. -/
theorem scaledCode?_le_one {n code : Nat} {e : Int} (hn : n ≤ Json.Reader.maxSignificand)
    (hvalue : (n : ℚ) * 10 ^ e ≤ 1) (h : scaledCode? n e = some code) : code ≤ codeOfOne := by
  rcases nat_or_neg e with ⟨k, rfl⟩ | ⟨k, hpos, rfl⟩
  · rcases eq_or_ne n 0 with rfl | hzero
    · rw [scaledCode?_zero] at h
      cases h
      exact Nat.zero_le _
    · obtain ⟨rfl, rfl⟩ := eq_one_of_le_one hzero hvalue
      exact (Option.some.inj (scaledCode?_one.symm.trans h)).ge
  rcases le_or_gt k greatestPower with hk | hk
  · -- The significand is at most the power of ten that it is divided by.
    have hfinite : powerOfTen k < infinity :=
      (powerOfTen_mono hk powerOfTen_greatest_lt).trans_lt powerOfTen_greatest_lt
    have hle : codeOfDecimal n 0 ≤ powerOfTen k := by
      refine codeOfDecimal_mono ?_ hfinite
      rw [unitsOfDecimal, unitsOfDecimal, zpow_zero, mul_one, Nat.cast_one, one_mul, zpow_natCast]
      exact mul_le_mul_of_nonneg_right (le_pow_of_le_one hvalue) unitsOfOne_pos.le
    rw [scaledCode?_of_neg hpos hk] at h
    cases h
    exact divCode_le_one (units_powerOfTen_pos k) hle
  · -- Any significand is divided by the greatest power of ten first.
    have hneg : ¬ 0 ≤ -(k : Int) := by omega
    have hsteps : 0 < (k - 1) / greatestPower := Nat.div_pos (by omega) (by decide)
    have hgreatest : codeOfDecimal n 0 ≤ powerOfTen greatestPower :=
      (codeOfDecimal_zero_mono hn le_rfl).trans (by decide +kernel)
    simp only [scaledCode?, if_neg hneg, neg_neg, Int.toNat_natCast, Option.some.injEq] at h
    rw [← h]
    exact (divCode_powerOfTen_le _ _).trans (lowered_le_one hgreatest hsteps)

/-- What a decimal gives is at least a half if the decimal is. The digits and the power of ten are
few enough for the half of the power to be exact. -/
theorem half_le_scaledCode? {n code : Nat} {e : Int} (hn : n ≤ Json.Reader.maxSignificand)
    (hhalf : 1 / 2 ≤ (n : ℚ) * 10 ^ e) (hvalue : (n : ℚ) * 10 ^ e ≤ 1)
    (h : scaledCode? n e = some code) : codeOfHalf ≤ code := by
  have hzero : n ≠ 0 := by
    rintro rfl
    rw [Nat.cast_zero, zero_mul] at hhalf
    norm_num at hhalf
  rcases nat_or_neg e with ⟨k, rfl⟩ | ⟨k, hpos, rfl⟩
  · obtain ⟨rfl, rfl⟩ := eq_one_of_le_one hzero hvalue
    rw [← Option.some.inj (scaledCode?_one.symm.trans h)]
    decide
  obtain ⟨k, rfl⟩ := Nat.exists_eq_succ_of_ne_zero hpos.ne'
  have hle : 5 * 10 ^ k ≤ n := half_pow_le hhalf
  have hk : k < 19 := by
    by_contra hlarge
    have hmax : Json.Reader.maxSignificand < 5 * 10 ^ 19 := by decide
    have hpow : 10 ^ 19 ≤ 10 ^ k := Nat.pow_le_pow_right (by decide) (not_lt.mp hlarge)
    omega
  have hcode : codeOfDecimal (5 * 10 ^ k) 0 ≤ codeOfDecimal n 0 := codeOfDecimal_zero_mono hle hn
  have hunits : (5 * 10 ^ k * unitsOfOne : ℚ) ≤ units (codeOfDecimal n 0) := by
    rw [← units_half_powerOfTen hk]
    exact units_le_units hcode
  rw [scaledCode?_of_neg hpos (by have : greatestPower = 308 := rfl; omega)] at h
  cases h
  refine (isNearest_divCode _ (units_powerOfTen_pos _)).ge_of_le ?_
  have hten : (0 : ℚ) < 10 ^ (k + 1) * unitsOfOne := mul_pos (by positivity) unitsOfOne_pos
  rw [units_codeOfHalf, units_powerOfTen (by omega), le_div_iff₀ hten]
  calc 1 / 2 * unitsOfOne * (10 ^ (k + 1) * unitsOfOne)
      = 5 * 10 ^ k * unitsOfOne * unitsOfOne := by ring
    _ ≤ units (codeOfDecimal n 0) * unitsOfOne :=
      mul_le_mul_of_nonneg_right hunits unitsOfOne_pos.le

/-- Digits that are left out at the end do not lead below a half. -/
theorem BeginningOf.half_le {value : ℚ} {n : Nat} {e : Int} (h : BeginningOf value n e)
    (hhalf : 1 / 2 ≤ value) (hvalue : (n : ℚ) * 10 ^ e ≤ 1) : 1 / 2 ≤ (n : ℚ) * 10 ^ e := by
  rcases h.above with heq | ⟨hfull, hlt⟩
  · rwa [heq]
  have hmax : Json.Reader.maxSignificand = 0xFFFFFFFFFFFFFFFF := rfl
  rcases nat_or_neg e with ⟨k, rfl⟩ | ⟨k, hpos, rfl⟩
  · obtain ⟨rfl, -⟩ := eq_one_of_le_one (by omega) hvalue
    omega
  obtain ⟨k, rfl⟩ := Nat.exists_eq_succ_of_ne_zero hpos.ne'
  have hten : (0 : ℚ) < 10 ^ (k + 1) := by positivity
  rw [zpow_neg, zpow_natCast, ← div_eq_mul_inv] at hlt ⊢
  have habove := (lt_div_iff₀ hten).mp (hhalf.trans_lt hlt)
  rw [pow_succ'] at habove
  have hle : 5 * 10 ^ k < n + 1 := by
    have hcast : (5 * 10 ^ k : ℚ) < n + 1 := by linarith
    exact_mod_cast hcast
  have hcast : (5 * 10 ^ k : ℚ) ≤ n := by exact_mod_cast Nat.le_of_lt_succ hle
  rw [le_div_iff₀ hten, pow_succ']
  linarith

/-! ## Numbers between bounds -/

/-- How the magnitude that comes back is found. -/
theorem exists_reread {negative : Bool} {code : Fin (infinity + 1)} (h : code.val < infinity) :
    ∃ value n e code', BeginningOf value n e ∧ IsNearest (value * unitsOfOne) code ∧
      scaledCode? n e = some code' ∧ code' < infinity ∧
      reread (signed negative code) = ofCode negative code' := by
  have hfinite : (signed negative code).isFinite := decide_eq_true h
  obtain ⟨value, w, hw, hnearest⟩ := @exists_written negative code h
  obtain ⟨n, e, hbeginning, hreal⟩ := hw.exists_scaled
  have hread := hw.reread?_eq rfl
  have hsome := reread?_isSome hfinite
  rw [hread, hreal, scaled?, Option.isSome_map] at hsome
  obtain ⟨code', hcode⟩ := Option.isSome_iff_exists.mp hsome
  have hlt : codeOfDecimal n 0 < infinity :=
    codeOfDecimal_lt (hbeginning.room.trans_lt (by decide))
  refine ⟨value, n, e, code', hbeginning, hnearest, hcode, scaledCode?_lt hlt hcode, ?_⟩
  rw [reread, hread, hreal, scaled?, hcode]
  rfl

theorem reread_one :
    ∀ negative, (ofCode negative codeOfOne).reread = ofCode negative codeOfOne := by
  decide +kernel

theorem reread_half :
    ∀ negative, (ofCode negative codeOfHalf).reread = ofCode negative codeOfHalf := by
  decide +kernel

/-- A magnitude up to one comes back as one up to one, and from a half on as one from a half on. -/
theorem reread_between (negative : Bool) {code : Fin (infinity + 1)} (h : code.val ≤ codeOfOne) :
    ∃ code' ≤ codeOfOne, reread (signed negative code) = ofCode negative code' ∧
      (codeOfHalf ≤ code.val → codeOfHalf ≤ code') := by
  -- The bounds themselves come back as they are; all else is apart from them.
  have hhalfOne : codeOfHalf ≤ codeOfOne := by decide
  rcases h.eq_or_lt with hone | hone
  · exact ⟨codeOfOne, le_rfl, by rw [← ofCode_val, hone, reread_one], fun _ => hhalfOne⟩
  rcases eq_or_ne code.val codeOfHalf with hhalf | hhalf
  · exact ⟨codeOfHalf, hhalfOne, by rw [← ofCode_val, hhalf, reread_half], fun _ => le_rfl⟩
  have hfinite : codeOfOne < infinity := by decide
  obtain ⟨value, n, e, code', hbeginning, hnearest, hcode, -, hreread⟩ :=
    @exists_reread negative code (hone.trans hfinite)
  have hvalue : value ≤ 1 := by
    by_contra hgreater
    have habove : codeOfOne ≤ code.val := hnearest.ge_of_le (by
      rw [units_codeOfOne]
      exact le_mul_of_one_le_left unitsOfOne_pos.le (not_le.mp hgreater).le)
    omega
  have hbelow := hbeginning.below.trans hvalue
  refine ⟨code', scaledCode?_le_one hbeginning.room hbelow hcode, hreread, fun hge => ?_⟩
  refine half_le_scaledCode? hbeginning.room (hbeginning.half_le ?_ hbelow) hbelow hcode
  by_contra hless
  have hunder : code.val ≤ codeOfHalf := hnearest.le_of_le (by
    rw [units_codeOfHalf]
    exact mul_le_mul_of_nonneg_right (not_le.mp hless).le unitsOfOne_pos.le)
  omega

theorem reread_negative_zero : (ofCode true 0).reread = ofCode true 0 := by
  decide +kernel

theorem value?_ofCode_eq {code : Nat} (h : code < infinity) :
    (ofCode false code).value? = some (units code / unitsOfOne) :=
  value?_ofCode h (div_mul_cancel₀ _ unitsOfOne_pos.ne').symm

theorem le_one_iff {code : Nat} : (units code : ℚ) / unitsOfOne ≤ 1 ↔ code ≤ codeOfOne := by
  rw [div_le_one unitsOfOne_pos, ← units_codeOfOne, Nat.cast_le, units_strictMono.le_iff_le]

theorem half_le_iff {code : Nat} : 1 / 2 ≤ (units code : ℚ) / unitsOfOne ↔ codeOfHalf ≤ code := by
  rw [le_div_iff₀ unitsOfOne_pos, ← units_codeOfHalf, Nat.cast_le, units_strictMono.le_iff_le]

/-- The only number with a minus that is not below zero. -/
theorem eq_zero_of_negative {code : Fin (infinity + 1)} {q : ℚ}
    (hq : (signed true code).value? = some q) (hzero : 0 ≤ q) :
    signed true code = ofCode true 0 := by
  simp only [value?, signedUnits, if_true, Option.ite_none_right_eq_some, Option.some.injEq] at hq
  obtain ⟨-, rfl⟩ := hq
  have hunits : units code.val ≤ units 0 := by
    rw [le_div_iff₀ unitsOfOne_pos, zero_mul, Int.cast_nonneg_iff] at hzero
    rw [units_zero]
    omega
  have hcode : code.val = 0 := Nat.le_zero.mp (units_strictMono.le_iff_le.mp hunits)
  rw [← ofCode_val, hcode]

/-- A number that is not below zero comes back as one, and stays between a half and one. -/
theorem exists_value?_reread {x : Double} {q : ℚ} (hq : x.value? = some q) (hzero : 0 ≤ q) :
    ∃ q', x.reread.value? = some q' ∧ 0 ≤ q' ∧
      (q ≤ 1 → q' ≤ 1 ∧ (1 / 2 ≤ q → 1 / 2 ≤ q')) := by
  cases x with
  | nan => cases hq
  | signed negative code =>
    have hfinite : code.val < infinity := of_decide_eq_true (isFinite_of_value? hq)
    cases negative with
    | true =>
      have heq := eq_zero_of_negative hq hzero
      refine ⟨q, ?_, hzero, fun hone => ⟨hone, id⟩⟩
      rwa [heq, reread_negative_zero, ← heq]
    | false =>
      rw [← ofCode_val, value?_ofCode_eq hfinite, Option.some.injEq] at hq
      subst hq
      rw [le_one_iff, half_le_iff]
      have hnonneg : ∀ code', (0 : ℚ) ≤ units code' / unitsOfOne := fun _ =>
        div_nonneg (Nat.cast_nonneg _) unitsOfOne_pos.le
      rcases le_or_gt code.val codeOfOne with hone | hone
      · obtain ⟨code', hle, hreread, hhalf⟩ := reread_between false hone
        have hlt : code' < infinity := hle.trans_lt (by decide)
        refine ⟨_, by rw [hreread]; exact value?_ofCode_eq hlt, hnonneg _, fun _ => ?_⟩
        rw [le_one_iff, half_le_iff]
        exact ⟨hle, hhalf⟩
      · obtain ⟨-, -, -, code', -, -, -, hlt, hreread⟩ := @exists_reread false code hfinite
        exact ⟨_, by rw [hreread]; exact value?_ofCode_eq hlt, hnonneg _,
          fun hle => absurd hle (not_le.mpr hone)⟩

end Double
end BacktestDesk
