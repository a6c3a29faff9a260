import BacktestDesk.Proofs.DocumentForm

/-!
# BacktestDesk.Proofs.RereadNumber

What a document gives for the text of a double. The digits are gathered and then scaled by a power
of ten, so that the double that comes back need not be the one that was written; but there always is
one.

* `Double.scaledCode?_isSome`: nothing that stays below the last magnitudes is refused.
* `Double.number_documentChars`: the text of a finite double is read, as `Double.reread`.
-/

namespace BacktestDesk

open Numeral

/-! ## Gathering -/

namespace Json.Reader

/-- Digits are taken from the front, until there is no room for another one. -/
theorem gather_eq (n : Nat) {ds : List Char} (hds : ∀ c ∈ ds, c.isDigit) :
    ∃ kept dropped, ds = kept ++ dropped ∧
      gather n ds = (n * 10 ^ kept.length + ofDigits kept, dropped) ∧
      (dropped = [] ∨ maxSignificand < 10 * (n * 10 ^ kept.length + ofDigits kept + 1)) := by
  induction ds generalizing n with
  | nil => exact ⟨[], [], rfl, by rw [gather]; simp [ofDigits], .inl rfl⟩
  | cons c ds ih =>
    obtain ⟨hc, hds⟩ := List.forall_mem_cons.mp hds
    have hzero : '0'.toNat = 48 := rfl
    simp only [gather]
    split
    · obtain ⟨kept, dropped, rfl, hgather, hroom⟩ := ih (10 * n + (c.toNat - '0'.toNat)) hds
      have hvalue : (10 * n + (c.toNat - '0'.toNat)) * 10 ^ kept.length + ofDigits kept =
          n * 10 ^ (c :: kept).length + ofDigits (c :: kept) := by
        rw [ofDigits_cons, List.length_cons, Nat.pow_succ', hzero]
        ring
      rw [hvalue] at hgather hroom
      exact ⟨c :: kept, dropped, rfl, hgather, hroom⟩
    · rename_i hfull
      refine ⟨[], c :: ds, rfl, by simp [ofDigits], .inr ?_⟩
      have hle : c.toNat ≤ 57 := (Char.isDigit_iff_toNat.mp hc).2
      have hnil : ofDigits [] = 0 := rfl
      rw [List.length_nil, Nat.pow_zero, hnil]
      omega

/-- All digits are taken, if there is room for them. -/
theorem gather_of_le {n : Nat} {ds : List Char}
    (h : n * 10 ^ ds.length + ofDigits ds ≤ maxSignificand) :
    gather n ds = (n * 10 ^ ds.length + ofDigits ds, []) := by
  induction ds generalizing n with
  | nil => rw [gather]; simp [ofDigits]
  | cons c ds ih =>
    have hvalue : n * 10 ^ (c :: ds).length + ofDigits (c :: ds) =
        (10 * n + (c.toNat - '0'.toNat)) * 10 ^ ds.length + ofDigits ds := by
      have hzero : '0'.toNat = 48 := rfl
      rw [ofDigits_cons, List.length_cons, Nat.pow_succ', hzero]
      ring
    rw [hvalue] at h ⊢
    have hroom : 10 * n + (c.toNat - '0'.toNat) ≤ maxSignificand :=
      (Nat.le_mul_of_pos_right _ (Nat.pow_pos (by decide))).trans
        ((Nat.le_add_right _ _).trans h)
    rw [gather, if_pos hroom, ih h]

/-- With few digits before the point, digits are dropped only behind it. -/
theorem real?_eq (negative : Bool) {whole : List Char} (hwhole : ofDigits whole ≤ maxSignificand)
    {fraction : List Char} (hfraction : ∀ c ∈ fraction, c.isDigit) (exponent : Int) :
    ∃ kept dropped, fraction = kept ++ dropped ∧ ofDigits (whole ++ kept) ≤ maxSignificand ∧
      (dropped = [] ∨ maxSignificand < 10 * (ofDigits (whole ++ kept) + 1)) ∧
      real? negative whole fraction exponent =
        Double.scaled? negative (ofDigits (whole ++ kept)) (exponent - kept.length) := by
  have hgather : gather 0 whole = (ofDigits whole, []) := by
    have h := @gather_of_le 0 whole (by rwa [Nat.zero_mul, Nat.zero_add])
    rwa [Nat.zero_mul, Nat.zero_add] at h
  have hroom := gather_le hwhole fraction
  obtain ⟨kept, dropped, rfl, hgathered, hfull⟩ := gather_eq (ofDigits whole) hfraction
  rw [hgathered, ← ofDigits_append] at hroom
  rw [← ofDigits_append] at hfull
  refine ⟨kept, dropped, rfl, hroom, hfull, ?_⟩
  simp only [real?, hgather, hgathered, ← ofDigits_append, List.length_append, List.length_nil]
  congr 1
  push_cast
  ring

theorem real?_of_le (negative : Bool) {whole fraction : List Char}
    (h : ofDigits (whole ++ fraction) ≤ maxSignificand) (exponent : Int) :
    real? negative whole fraction exponent =
      Double.scaled? negative (ofDigits (whole ++ fraction)) (exponent - fraction.length) := by
  have happend := ofDigits_append whole fraction
  have hwhole : ofDigits whole ≤ maxSignificand :=
    (Nat.le_mul_of_pos_right _ (Nat.pow_pos (by decide))).trans
      ((Nat.le_add_right _ _).trans (happend ▸ h))
  have hgather : gather 0 whole = (ofDigits whole, []) := by
    have hzero := @gather_of_le 0 whole (by rwa [Nat.zero_mul, Nat.zero_add])
    rwa [Nat.zero_mul, Nat.zero_add] at hzero
  have hfraction := gather_of_le (happend ▸ h)
  simp only [real?, hgather, hfraction, ← happend, List.length_nil]
  congr 1
  push_cast
  ring

end Json.Reader

/-! ## Scaling -/

namespace Double

theorem IsNearest.mono {target target' : ℚ} {a b : Nat} (ha : IsNearest target a)
    (hb : IsNearest target' b) (h : target ≤ target') : a ≤ b := by
  by_contra hlt
  have hunits := units_lt_units (not_le.mp hlt)
  rcases le_total target (units b) with hbelow | hbelow
  · exact hlt (ha.le_of_le hbelow)
  · rcases le_total (units a : ℚ) target' with habove | habove
    · exact hlt (hb.ge_of_le habove)
    · -- Both targets are between the two magnitudes, on the midpoint.
      have hnearA := ha.nearest b
      have hnearB := hb.nearest a
      rw [abs_below hbelow, abs_above (h.trans habove)] at hnearA
      rw [abs_below (hbelow.trans h), abs_above habove] at hnearB
      obtain rfl : target = target' := by linarith
      exact hlt (ha.unique hb).le

theorem codeOfDecimal_mono {c c' : Nat} {e e' : Int}
    (h : unitsOfDecimal c e ≤ unitsOfDecimal c' e') (hfinite : codeOfDecimal c' e' < infinity) :
    codeOfDecimal c e ≤ codeOfDecimal c' e' := by
  obtain ⟨code, hnearest, hcode⟩ := exists_isNearest c e
  have hle := hnearest.mono (isNearest_codeOfDecimal hfinite) h
  omega

theorem mulCode_mono {a a' b b' : Nat} (ha : a ≤ a') (hb : b ≤ b') :
    mulCode a b ≤ mulCode a' b' := by
  refine (isNearest_mulCode a b).mono (isNearest_mulCode a' b') ?_
  refine div_le_div_of_nonneg_right ?_ unitsOfOne_pos.le
  exact mul_le_mul (units_le_units ha) (units_le_units hb) (Nat.cast_nonneg _) (Nat.cast_nonneg _)

/-- The last magnitudes that are finite, the decimals of which are looked at one by one. -/
def lastCodes : Nat := 8

/-- The greatest significand at an exponent that stays below the last magnitudes. -/
def greatestSignificand (exponent : Nat) : Nat :=
  min Json.Reader.maxSignificand
    (units (infinity - lastCodes) / (Nat.pow 10 exponent * Nat.pow 2 1074))

theorem mulCode_greatest_lt : ∀ k : Fin 20,
    mulCode (codeOfDecimal (greatestSignificand (289 + k)) 0) (powerOfTen (289 + k)) <
      infinity := by
  decide +kernel

/-- With a small exponent no significand is too large. -/
theorem mulCode_maxSignificand_lt :
    mulCode (codeOfDecimal Json.Reader.maxSignificand 0) (powerOfTen 288) < infinity := by
  decide +kernel

theorem powerOfTen_greatest_lt : powerOfTen greatestPower < infinity := by
  decide +kernel

theorem codeOfDecimal_zero_mono {c c' : Nat} (h : c ≤ c') (hc' : c' ≤ Json.Reader.maxSignificand) :
    codeOfDecimal c 0 ≤ codeOfDecimal c' 0 := by
  refine codeOfDecimal_mono ?_ (codeOfDecimal_lt ?_)
  · rw [unitsOfDecimal, unitsOfDecimal, zpow_zero, mul_one, mul_one]
    exact mul_le_mul_of_nonneg_right (Nat.cast_le.mpr h) unitsOfOne_pos.le
  · rw [Json.Reader.maxSignificand] at hc'
    omega

theorem powerOfTen_mono {k k' : Nat} (h : k ≤ k') (hk' : powerOfTen k' < infinity) :
    powerOfTen k ≤ powerOfTen k' := by
  refine codeOfDecimal_mono ?_ hk'
  rw [unitsOfDecimal, unitsOfDecimal, Nat.cast_one, one_mul, one_mul, zpow_natCast, zpow_natCast]
  exact mul_le_mul_of_nonneg_right (pow_le_pow_right₀ (by norm_num) h) unitsOfOne_pos.le

theorem le_greatestSignificand {n exponent : Nat} (hn : n ≤ Json.Reader.maxSignificand)
    (h : unitsOfDecimal n exponent ≤ units (infinity - lastCodes)) :
    n ≤ greatestSignificand exponent := by
  have hone := cast_unitsOfOne
  have hpos : 0 < Nat.pow 2 1074 := Nat.cast_pos.mp (hone ▸ unitsOfOne_pos)
  rw [greatestSignificand]
  generalize Nat.pow 2 1074 = one at hone hpos ⊢
  generalize units (infinity - lastCodes) = cap at h ⊢
  have hstep : 0 < Nat.pow 10 exponent * one := Nat.mul_pos (Nat.pow_pos (by decide)) hpos
  refine Nat.le_min.mpr ⟨hn, (Nat.le_div_iff_mul_le hstep).mpr ?_⟩
  rw [unitsOfDecimal, zpow_natCast] at h
  rwa [← Nat.cast_le (α := ℚ), Nat.cast_mul, Nat.cast_mul, hone, cast_natPow, Nat.cast_ofNat,
    ← mul_assoc]

theorem le_greatestPower {n k : Nat} (hn : n ≠ 0)
    (h : unitsOfDecimal n k ≤ units (infinity - lastCodes)) : k ≤ greatestPower := by
  by_contra hk
  have hk : 309 ≤ k := not_le.mp hk
  have hpow : (2 : ℚ) ^ 1024 ≤ 10 ^ 309 := by
    have hnat : (2 : Nat) ^ 1024 ≤ 10 ^ 309 := by decide +kernel
    exact_mod_cast hnat
  have hlt : (units (infinity - lastCodes) : ℚ) < units infinity :=
    units_lt_units (Nat.sub_lt (by decide) (by decide))
  have hle : (units infinity : ℚ) ≤ unitsOfDecimal n k := by
    rw [units_infinity, unitsOfDecimal, zpow_natCast]
    refine mul_le_mul_of_nonneg_right ?_ unitsOfOne_pos.le
    calc (2 : ℚ) ^ 1024
        ≤ 10 ^ 309 := hpow
      _ ≤ 10 ^ k := pow_le_pow_right₀ (by norm_num) hk
      _ ≤ n * 10 ^ k := le_mul_of_one_le_left (by positivity)
        (Nat.one_le_cast.mpr (Nat.one_le_iff_ne_zero.mpr hn))
  linarith

/-- No decimal below the last magnitudes is refused. -/
theorem scaledCode?_isSome {n : Nat} {exponent : Int} (hn : n ≤ Json.Reader.maxSignificand)
    (h : unitsOfDecimal n exponent ≤ units (infinity - lastCodes)) :
    (scaledCode? n exponent).isSome := by
  simp only [scaledCode?]
  split
  swap
  · rfl
  rename_i hexponent
  split
  · rfl
  rename_i hcode
  obtain ⟨k, rfl⟩ := Int.eq_ofNat_of_zero_le hexponent
  have hzero : n ≠ 0 := by
    rintro rfl
    exact hcode rfl
  have hk : k ≤ greatestPower := le_greatestPower hzero h
  rw [if_pos (Int.ofNat_le.mpr hk), Int.toNat_natCast]
  have hproduct : mulCode (codeOfDecimal n 0) (powerOfTen k) < infinity := by
    rcases Nat.lt_or_ge k 289 with hsmall | hlarge
    · refine Nat.lt_of_le_of_lt (mulCode_mono (codeOfDecimal_zero_mono hn le_rfl)
        (powerOfTen_mono (Nat.le_of_lt_succ hsmall) ?_)) mulCode_maxSignificand_lt
      exact (powerOfTen_mono (by decide) powerOfTen_greatest_lt).trans_lt powerOfTen_greatest_lt
    · have htable := mulCode_greatest_lt ⟨k - 289, by rw [greatestPower] at hk; omega⟩
      rw [Nat.add_sub_cancel' hlarge] at htable
      refine Nat.lt_of_le_of_lt (mulCode_mono (codeOfDecimal_zero_mono
        (le_greatestSignificand hn h) (Nat.min_le_left _ _)) le_rfl) htable
  rw [if_pos hproduct]
  rfl

/-! ## Reading a double again -/

/-- The number that a document gives for the text of a number, if it takes it. -/
def reread? (x : Double) : Option Double :=
  match Json.Reader.number x.documentChars with
  | some (.float y, _) => some y
  | _ => none

/-- The number that comes back. -/
def reread (x : Double) : Double :=
  x.reread?.getD x

/-- A significand at an exponent is a value, or begins with the same digits and is full. -/
structure BeginningOf (value : ℚ) (n : Nat) (e : Int) : Prop where
  room : n ≤ Json.Reader.maxSignificand
  below : (n : ℚ) * 10 ^ e ≤ value
  above : (n : ℚ) * 10 ^ e = value ∨
    Json.Reader.maxSignificand < 10 * (n + 1) ∧ value < (n + 1) * 10 ^ e

open Written Json.Reader

section

variable {text : List Char} {negative : Bool} {value : ℚ} {w : Written}
  (hw : WrittenAs text negative value w)

include hw

theorem WrittenAs.number {rest : List Char} (h : Stops rest) :
    number (text ++ rest) = ((real? negative w.whole (w.fraction.getD [])
      (w.exponent.elim 0 Exponent.value)).map Json.float).map (·, rest) := by
  have hexponent : (w.exponent.map Exponent.value).getD 0 = w.exponent.elim 0 Exponent.value := by
    cases w.exponent <;> rfl
  have hnotWhole : ((w.fraction.getD []).isEmpty && (w.exponent.map Exponent.value).isNone) =
      false := by
    rcases hw.notWhole with h | h
    · obtain ⟨ds, hds⟩ := Option.ne_none_iff_exists'.mp h
      have hne : ds ≠ [] := fun hnil => hw.inDocument.fraction (by rw [hds, hnil])
      rw [hds, Option.getD_some, List.isEmpty_eq_false_iff.mpr hne, Bool.false_and]
    · obtain ⟨e, he⟩ := Option.ne_none_iff_exists'.mp h
      rw [he, Option.map_some, Option.isNone_some, Bool.and_false]
  rw [hw.chars, number_chars hw.inDocument h, hw.sign, isMinus_signOf]
  simp only [numberValue, hnotWhole, hexponent, Bool.false_and, Bool.false_eq_true, if_false]

theorem WrittenAs.whole_le : ofDigits w.whole ≤ maxSignificand := by
  have hlt := ofDigits_lt w.whole_isDigit
  have hpow := Nat.pow_le_pow_right (show 0 < 10 by decide) hw.whole
  have hmax : 10 ^ 16 ≤ maxSignificand := by decide
  omega

/-- What is scaled is what was written, or the beginning of its digits when there are too many. -/
theorem WrittenAs.exists_scaled :
    ∃ n e, BeginningOf value n e ∧
      real? negative w.whole (w.fraction.getD []) (w.exponent.elim 0 Exponent.value) =
        scaled? negative n e := by
  obtain ⟨kept, dropped, hfraction, hroom, hfull, hreal⟩ :=
    real?_eq negative hw.whole_le w.fraction_isDigit (w.exponent.elim 0 Exponent.value)
  refine ⟨_, _, ?_, hreal⟩
  have hten : (10 : ℚ) ≠ 0 := by norm_num
  have hrest : ∀ c ∈ dropped, c.isDigit := fun c hc =>
    w.fraction_isDigit c (hfraction ▸ List.mem_append_right kept hc)
  -- The step of the digits that were taken, in steps of the last digit.
  generalize hstep : w.exponent.elim 0 Exponent.value -
    (((kept ++ dropped).length : Nat) : Int) = last
  have hpower : (10 : ℚ) ^ (w.exponent.elim 0 Exponent.value - (kept.length : Int)) =
      10 ^ dropped.length * 10 ^ last := by
    rw [← hstep, ← zpow_natCast, ← zpow_add₀ hten, List.length_append, Nat.cast_add]
    congr 1
    ring
  have hvalue : value = (ofDigits (w.whole ++ kept) * 10 ^ dropped.length + ofDigits dropped : ℚ) *
      10 ^ last := by
    rw [← hw.magnitude, Written.magnitude, Written.coefficient, Written.power, hfraction, hstep,
      ← List.append_assoc, ofDigits_append (w.whole ++ kept)]
    push_cast
    rfl
  have hlast : (0 : ℚ) < 10 ^ last := by positivity
  have hlt : (ofDigits dropped : ℚ) < 10 ^ dropped.length := by
    exact_mod_cast ofDigits_lt hrest
  refine ⟨hroom, ?_, ?_⟩
  · rw [hvalue, hpower, ← mul_assoc]
    exact mul_le_mul_of_nonneg_right (le_add_of_nonneg_right (Nat.cast_nonneg _)) hlast.le
  · refine hfull.imp (fun hnil => ?_) fun hfull => ⟨hfull, ?_⟩
    · have hzero : ofDigits [] = 0 := rfl
      rw [hvalue, hpower, hnil, hzero, Nat.cast_zero, add_zero, mul_assoc]
    · rw [hvalue, hpower, ← mul_assoc, add_mul _ 1, one_mul]
      exact mul_lt_mul_of_pos_right (by linarith) hlast

theorem WrittenAs.reread?_eq {x : Double} (h : text = x.documentChars) :
    x.reread? = real? negative w.whole (w.fraction.getD [])
      (w.exponent.elim 0 Exponent.value) := by
  have hstops : Stops [] := fun c hc => by cases hc
  have hnumber := hw.number hstops
  rw [List.append_nil, h] at hnumber
  rw [reread?, hnumber]
  cases real? negative w.whole (w.fraction.getD []) (w.exponent.elim 0 Exponent.value) <;> rfl

end

theorem IsNearest.le_next {target : ℚ} {code : Nat} (h : IsNearest target code) :
    target ≤ units (code + 1) := by
  by_contra hlt
  have hlt := not_le.mp hlt
  have hnext := units_lt_units (Nat.lt_succ_self code)
  have hnear := h.nearest (code + 1)
  rw [abs_below (hnext.le.trans hlt.le), abs_below hlt.le] at hnear
  linarith

theorem reread?_last : ∀ (negative : Bool) (k : Fin lastCodes),
    (ofCode negative (infinity - lastCodes + k)).reread?.isSome := by
  decide +kernel

/-- The text of a finite double is taken. -/
theorem reread?_isSome {x : Double} (h : x.isFinite) : x.reread?.isSome := by
  cases x with
  | nan => cases h
  | signed negative code =>
    have hfinite : code.val < infinity := of_decide_eq_true h
    rcases Nat.lt_or_ge code.val (infinity - lastCodes) with hlt | hge
    · obtain ⟨value, w, hw, hnearest⟩ := @exists_written negative code hfinite
      obtain ⟨n, e, hbeginning, hreal⟩ := hw.exists_scaled
      rw [hw.reread?_eq rfl, hreal, scaled?, Option.isSome_map]
      have hbelow : (n : ℚ) * 10 ^ e * unitsOfOne ≤ value * unitsOfOne :=
        mul_le_mul_of_nonneg_right hbeginning.below unitsOfOne_pos.le
      exact scaledCode?_isSome hbeginning.room
        (hbelow.trans (hnearest.le_next.trans (units_le_units hlt)))
    · have hlast := reread?_last negative ⟨code.val - (infinity - lastCodes), by
        have hpos : lastCodes ≤ infinity := by decide
        omega⟩
      rw [Nat.add_sub_cancel' hge] at hlast
      have hcode : ofCode negative code.val = signed negative code := by
        rw [ofCode]
        congr
        exact Nat.min_eq_left hfinite.le
      rwa [hcode] at hlast

/-- The text of a finite double is read, up to the text that it ends in front of. -/
theorem number_documentChars {x : Double} (h : x.isFinite) {rest : List Char} (hrest : Stops rest) :
    number (x.documentChars ++ rest) = some (.float x.reread, rest) := by
  obtain ⟨y, hy⟩ := Option.isSome_iff_exists.mp (reread?_isSome h)
  have hreread : x.reread = y := by rw [reread, hy, Option.getD_some]
  cases x with
  | nan => cases h
  | signed negative code =>
    obtain ⟨value, w, hw, -⟩ := @exists_written negative code (of_decide_eq_true h)
    rw [hw.number hrest, ← hw.reread?_eq rfl, hy, hreread]
    rfl

end Double
end BacktestDesk
