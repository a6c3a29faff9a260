import BacktestDesk.Proofs.DayTextRoundTrip

/-!
# BacktestDesk.Proofs.DigitRows

Rows of decimal digits and the numbers that they denote. Rows of one length are in the order of
their numbers, so that a number has one row of each length that is enough for it.

* `Numeral.ofDigits_take`: digits taken off the end are a division.
* `Numeral.lt_iff_ofDigits_lt`: the order of rows.
* `Calendar.padded_ofDigits`: a row is the text of its number, padded to its length.
* `Calendar.padded_ofDigits_iff`: the rows that are the text of their number at a width.
-/

namespace BacktestDesk
namespace Numeral

theorem ofDigits_cons (c : Char) (ds : List Char) :
    ofDigits (c :: ds) = (c.toNat - 48) * 10 ^ ds.length + ofDigits ds := by
  have h : Nat.ofDigitChars 10 ds (c.toNat - 48) =
      10 ^ ds.length * (c.toNat - 48) + Nat.ofDigitChars 10 ds 0 :=
    Nat.ofDigitChars_eq_ofDigitChars_zero
  rw [Nat.mul_comm] at h
  simpa [ofDigits, Nat.ofDigitChars] using h

theorem ofDigits_append (ds es : List Char) :
    ofDigits (ds ++ es) = ofDigits ds * 10 ^ es.length + ofDigits es := by
  induction ds with
  | nil => simp [ofDigits]
  | cons c ds ih =>
    rw [List.cons_append, ofDigits_cons, ofDigits_cons, ih, List.length_append, Nat.pow_add,
      Nat.add_mul, Nat.mul_assoc, Nat.add_assoc]

theorem ofDigits_lt {ds : List Char} (h : ∀ c ∈ ds, c.isDigit) :
    ofDigits ds < 10 ^ ds.length := by
  induction ds with
  | nil => decide
  | cons c ds ih =>
    obtain ⟨hc, hds⟩ := List.forall_mem_cons.mp h
    have hlow := ih hds
    have hdigit : c.toNat - 48 ≤ 9 := by
      have hc9 := (Char.isDigit_iff_toNat.mp hc).2
      exact Nat.sub_le_of_le_add hc9
    have hhigh := Nat.mul_le_mul_right (10 ^ ds.length) hdigit
    rw [ofDigits_cons, List.length_cons, Nat.pow_succ]
    omega

/-- The digits at the end of a row are what a division leaves. -/
theorem ofDigits_take {ds : List Char} (h : ∀ c ∈ ds, c.isDigit) (k : Nat) :
    ofDigits (ds.take k) = ofDigits ds / 10 ^ (ds.length - k) := by
  have hdrop : ofDigits (ds.drop k) < 10 ^ (ds.length - k) := by
    rw [← List.length_drop]
    exact ofDigits_lt fun c hc => h c (List.mem_of_mem_drop hc)
  have hsplit := ofDigits_append (ds.take k) (ds.drop k)
  rw [List.take_append_drop, List.length_drop] at hsplit
  have hpos : 0 < 10 ^ (ds.length - k) := Nat.pow_pos (by decide)
  rw [hsplit, Nat.mul_comm, Nat.mul_add_div hpos, Nat.div_eq_of_lt hdrop, Nat.add_zero]

/-! ## The order of rows -/

theorem mul_add_lt_iff {a b x y n : Nat} (hx : x < n) (hy : y < n) :
    a * n + x < b * n + y ↔ a < b ∨ a = b ∧ x < y := by
  rcases Nat.lt_trichotomy a b with h | h | h
  · have hstep := Nat.mul_le_mul_right n (Nat.succ_le_of_lt h)
    rw [Nat.succ_mul] at hstep
    exact iff_of_true (by omega) (.inl h)
  · subst h
    simp
  · have hstep := Nat.mul_le_mul_right n (Nat.succ_le_of_lt h)
    rw [Nat.succ_mul] at hstep
    exact iff_of_false (by omega) (by omega)

theorem lt_iff_ofDigits_lt {ds es : List Char} (hds : ∀ c ∈ ds, c.isDigit)
    (hes : ∀ c ∈ es, c.isDigit) (hlength : ds.length = es.length) :
    ds < es ↔ ofDigits ds < ofDigits es := by
  induction ds generalizing es with
  | nil =>
    obtain rfl := List.eq_nil_of_length_eq_zero hlength.symm
    simp
  | cons c ds ih =>
    obtain ⟨e, es, rfl⟩ := List.exists_cons_of_length_eq_add_one hlength.symm
    obtain ⟨hc, hds⟩ := List.forall_mem_cons.mp hds
    obtain ⟨he, hes⟩ := List.forall_mem_cons.mp hes
    have hlength : ds.length = es.length := Nat.succ.inj hlength
    have hlow := ofDigits_lt hds
    have hlow' := ofDigits_lt hes
    rw [← hlength] at hlow'
    have hzero : 48 ≤ c.toNat := (Char.isDigit_iff_toNat.mp hc).1
    have hzero' : 48 ≤ e.toNat := (Char.isDigit_iff_toNat.mp he).1
    have hchar : c < e ↔ c.toNat - 48 < e.toNat - 48 := by
      have hlt : c < e ↔ c.toNat < e.toNat := UInt32.lt_iff_toNat_lt
      rw [hlt]
      omega
    have hsame : c = e ↔ c.toNat - 48 = e.toNat - 48 := by
      rw [← Char.toNat_inj]
      omega
    rw [List.cons_lt_cons_iff, ofDigits_cons, ofDigits_cons, ← hlength, mul_add_lt_iff hlow hlow',
      ih hds hes hlength, hchar, hsame]

theorem eq_of_ofDigits_eq {ds es : List Char} (hds : ∀ c ∈ ds, c.isDigit)
    (hes : ∀ c ∈ es, c.isDigit) (hlength : ds.length = es.length)
    (h : ofDigits ds = ofDigits es) : ds = es := by
  refine List.le_antisymm (List.not_lt.mp ?_) (List.not_lt.mp ?_)
  · rw [lt_iff_ofDigits_lt hes hds hlength.symm, h]
    exact Nat.lt_irrefl _
  · rw [lt_iff_ofDigits_lt hds hes hlength, h]
    exact Nat.lt_irrefl _

end Numeral

namespace Calendar

theorem padded_ofDigits {ds : List Char} (hne : ds ≠ []) (h : ∀ c ∈ ds, c.isDigit) :
    padded ds.length (Numeral.ofDigits ds) = ds := by
  have hlength := length_padded (List.length_pos_iff.mpr hne) (Numeral.ofDigits_lt h)
  exact Numeral.eq_of_ofDigits_eq (fun c => isDigit_of_mem_padded) h hlength (ofDigits_padded _ _)

theorem le_length_padded (width n : Nat) : width ≤ (padded width n).length := by
  simp only [padded, List.length_append, List.length_replicate]
  omega

theorem length_padded_le_iff {width n k : Nat} (hk : 0 < k) :
    (padded width n).length ≤ k ↔ width ≤ k ∧ n < 10 ^ k := by
  rw [← Nat.length_toDigits_le_iff (by decide) hk]
  simp only [padded, List.length_append, List.length_replicate]
  omega

/-- The rows that a number is written as: the one of the width, and a longer one without a zero in
front. -/
theorem padded_ofDigits_iff {width : Nat} (hwidth : 0 < width) {ds : List Char}
    (h : ∀ c ∈ ds, c.isDigit) :
    padded width (Numeral.ofDigits ds) = ds ↔
      ds.length = width ∨ width < ds.length ∧ ds.head? ≠ some '0' := by
  cases ds with
  | nil =>
    refine iff_of_false (padded_ne_nil _ _) ?_
    rw [List.length_nil]
    omega
  | cons c ds =>
    have hlt := Numeral.ofDigits_lt h
    have hvalue := Numeral.ofDigits_cons c ds
    obtain ⟨hc, hds⟩ := List.forall_mem_cons.mp h
    have hlow := Numeral.ofDigits_lt hds
    have hzero : c = '0' ↔ c.toNat - 48 = 0 := by
      have hdigit := (Char.isDigit_iff_toNat.mp hc).1
      rw [← Char.toNat_inj]
      have h48 : '0'.toNat = 48 := rfl
      omega
    rw [List.length_cons] at hlt ⊢
    rw [List.head?_cons, ne_eq, Option.some.injEq, hzero]
    constructor
    · intro heq
      have hle := le_length_padded width (Numeral.ofDigits (c :: ds))
      rw [heq, List.length_cons] at hle
      by_cases hlength : ds.length + 1 = width
      · exact .inl hlength
      · have hlonger : width < ds.length + 1 := by omega
        refine .inr ⟨hlonger, fun hfirst => ?_⟩
        -- Without the zero the digits still fill the width.
        rw [hfirst, Nat.zero_mul, Nat.zero_add] at hvalue
        have hpos : 0 < ds.length := by omega
        have hshort := (length_padded_le_iff hpos).mpr ⟨Nat.le_of_succ_le_succ hlonger,
          hvalue.trans_lt hlow⟩
        rw [heq, List.length_cons] at hshort
        omega
    · rintro (hlength | ⟨hlength, hfirst⟩)
      · rw [← hlength]
        exact padded_ofDigits (List.cons_ne_nil c ds) h
      · refine Numeral.eq_of_ofDigits_eq (fun c => isDigit_of_mem_padded) h
          (Nat.le_antisymm ?_ ?_) (ofDigits_padded _ _)
        · exact (length_padded_le_iff (by simp)).mpr ⟨Nat.le_of_lt hlength, hlt⟩
        · have hpos : 0 < ds.length := by omega
          have hhigh := Nat.mul_le_mul_right (10 ^ ds.length) (Nat.one_le_iff_ne_zero.mpr hfirst)
          rw [List.length_cons, Nat.succ_le_iff, ← Nat.not_le, length_padded_le_iff hpos]
          rintro ⟨-, hless⟩
          omega

end Calendar
end BacktestDesk
