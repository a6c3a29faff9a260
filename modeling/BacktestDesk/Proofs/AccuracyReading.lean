import BacktestDesk.Proofs.CatalogueOrder
import BacktestDesk.Proofs.WrittenNumeral

/-!
# BacktestDesk.Proofs.AccuracyReading

The accuracy of a model whose identifier has a written number for it. The number is read up to its
exponent, and a model has its place in the catalogue by what was read.

* `TrainedModel.leadingNumber?_chars`: of a written number the part before the exponent counts.
* `Catalogue.standing_of_split`: no better model comes behind, and none before is worse.
* `TrainedModel.accuracy_of_written`: the accuracy is the number, if it has no exponent.
-/

namespace BacktestDesk

open Numeral

namespace TrainedModel

/-! ## The longest beginning -/

theorem beginnings_concat (cs : List Char) (c : Char) :
    beginnings (cs ++ [c]) = (cs ++ [c]) :: beginnings cs := by
  have hall : (cs ++ [c]).take (cs.length + 1) = cs ++ [c] :=
    List.take_of_length_le (Nat.le_of_eq List.length_append)
  have hshorter : (List.range cs.length).map (fun k => (cs ++ [c]).take (k + 1)) =
      (List.range cs.length).map fun k => cs.take (k + 1) :=
    List.map_congr_left fun k hk => List.take_append_of_le_length (List.mem_range.mp hk)
  rw [beginnings, List.length_append, List.length_singleton, List.range_succ, List.map_append,
    List.map_singleton, hall, hshorter, List.reverse_append, List.reverse_singleton,
    List.singleton_append, beginnings]

/-- A text that is a number is its own longest beginning that is one. -/
theorem findSome?_beginnings {cs : List Char} {x : Double} (h : realChars cs = .ok x) :
    (beginnings cs).findSome? numberOf? = some x := by
  have hx : numberOf? cs = some x := by rw [numberOf?, h]
  rcases List.eq_nil_or_concat cs with rfl | ⟨init, c, rfl⟩
  · cases h
  · rw [List.concat_eq_append] at hx ⊢
    rw [beginnings_concat, List.findSome?_cons, hx]

/-! ## Written numbers -/

theorem isNumeric_of_isDigit {c : Char} (h : c.isDigit) : isNumeric c := by
  simp only [isNumeric, h, Bool.true_or]

theorem isNumeric_mantissa (w : Written) : ∀ c ∈ w.mantissa.chars, isNumeric c := by
  have hsign : ∀ c ∈ w.sign.chars, isNumeric c := by
    cases w.sign <;> simp [Sign.chars, isNumeric]
  have hpoint : ∀ c ∈ Written.pointChars w.fraction, isNumeric c := by
    cases hf : w.fraction with
    | none => exact fun c hc => absurd hc List.not_mem_nil
    | some ds =>
      rw [Written.pointChars, List.forall_mem_cons]
      refine ⟨by decide, fun c hc => isNumeric_of_isDigit (w.fraction_isDigit c ?_)⟩
      rw [hf]
      exact hc
  intro c hc
  simp only [Written.chars, Written.body, Written.exponentChars, Written.mantissa, Option.elim_none,
    List.append_nil, List.mem_append] at hc
  rcases hc with hc | hc | hc
  · exact hsign c hc
  · exact isNumeric_of_isDigit (w.whole_isDigit c hc)
  · exact hpoint c hc

theorem mantissa_eq {w : Written} (h : w.exponent = none) : w.mantissa = w := by
  cases w
  cases h
  rfl

theorem chars_eq (w : Written) : w.chars = w.mantissa.chars ++ w.exponentChars := by
  simp [Written.chars, Written.body, Written.exponentChars, Written.mantissa]

/-- The sign of an exponent is among the characters that are looked for, but not its mark. -/
theorem takeWhile_isNumeric (w : Written) : w.chars.takeWhile isNumeric = w.mantissa.chars := by
  rw [chars_eq, List.takeWhile_append_of_pos (isNumeric_mantissa w)]
  cases he : w.exponentChars with
  | nil => rw [List.takeWhile_nil, List.append_nil]
  | cons c cs =>
    have hc : isNumeric c = false := by
      rcases w.head?_exponentChars (c := c) (by rw [he]; rfl) with rfl | rfl <;> rfl
    rw [List.takeWhile_cons_of_neg (by rw [hc]; exact Bool.false_ne_true), List.append_nil]

theorem leadingNumber?_chars (w : Written) :
    leadingNumber? w.chars = (some w.mantissa.double).filter Double.isFinite := by
  rw [leadingNumber?, takeWhile_isNumeric, findSome?_beginnings w.mantissa.realChars_chars]

theorem accuracy_eq {id : String} {w : Written}
    (h : (Text.split '_' id.toList)[3]? = some w.chars) :
    (ofIdentifier id).accuracy = (some w.mantissa.double).filter Double.isFinite := by
  rw [ofIdentifier, h, Option.bind_some, leadingNumber?_chars]

theorem accuracy_eq_some_iff {id : String} {w : Written}
    (h : (Text.split '_' id.toList)[3]? = some w.chars) (x : Double) :
    (ofIdentifier id).accuracy = some x ↔
      x.isFinite = true ∧ x.IsRounded w.sign.isMinus w.mantissa.magnitude := by
  rw [accuracy_eq h, Option.filter_eq_some_iff, Option.some.injEq, and_comm]
  refine and_congr_right fun _ => ⟨?_, fun hx => ?_⟩
  · rintro rfl
    exact w.mantissa.isRounded_double
  · exact w.mantissa.isRounded_double.unique hx

end TrainedModel

/-! ## The place in the catalogue -/

theorem Catalogue.standing_of_split {ids : List String} {before after : List TrainedModel}
    {m : TrainedModel} (h : (ofIdentifiers ids).models = before ++ m :: after) :
    (∀ a ∈ before, m.standing ≤ a.standing) ∧ ∀ b ∈ after, b.standing ≤ m.standing := by
  have hsorted := pairwise_standing ids
  rw [h, List.pairwise_append, List.pairwise_cons] at hsorted
  obtain ⟨-, ⟨hafter, -⟩, hbefore⟩ := hsorted
  exact ⟨fun a ha => hbefore a ha m List.mem_cons_self, hafter⟩

namespace TrainedModel

/-- The accuracy of a model whose fourth part is a written number.

* It is the double nearest to the number in front of the exponent, if that is finite.
* A number without an exponent is read as the double nearest to itself.
* Wherever the model stands in a catalogue, no model before it has a smaller accuracy or none, and
  no model behind it a greater one. -/
theorem accuracy_of_written {id : String} {w : Written}
    (h : (Text.split '_' id.toList)[3]? = some w.chars) :
    (∀ x, (ofIdentifier id).accuracy = some x ↔
      x.isFinite = true ∧ x.IsRounded w.sign.isMinus w.mantissa.magnitude) ∧
    (w.exponent = none → w.double.isFinite = true →
      (ofIdentifier id).accuracy = some w.double ∧
        w.double.IsRounded w.sign.isMinus w.magnitude) ∧
    ∀ ids before after, (Catalogue.ofIdentifiers ids).models = before ++ ofIdentifier id :: after →
      ∀ x q, (ofIdentifier id).accuracy = some x → x.value? = some q →
        (∀ a ∈ before, (q : WithBot ℚ) ≤ a.standing) ∧ ∀ b ∈ after, b.standing ≤ q := by
  refine ⟨accuracy_eq_some_iff h, fun hexponent hfinite => ⟨?_, w.isRounded_double⟩,
    fun ids before after hmodels x q hx hq => ?_⟩
  · rw [accuracy_eq h, mantissa_eq hexponent, Option.filter_some, if_pos hfinite]
  · have hscore : (ofIdentifier id).score? = some q := by rw [score?, hx, Option.bind_some, hq]
    rw [← standing_of_some hscore]
    exact Catalogue.standing_of_split hmodels

/-- A number with a point and without an exponent. -/
def pointNumber : Written where
  sign := .bare
  whole := ['0']
  fraction := some ['7', '1']
  exponent := none
  whole_isDigit := List.all_eq_true.mp (by decide)
  fraction_isDigit := List.all_eq_true.mp (by decide)
  digits_ne_nil := by decide

theorem accuracy_of_written_pointNumber :
    (Text.split '_' "BTC_15_3_0.71".toList)[3]? = some pointNumber.chars ∧
    pointNumber.double.isFinite = true ∧
    (ofIdentifier "BTC_15_3_0.71").accuracy = some pointNumber.double ∧
    pointNumber.double.IsRounded false pointNumber.magnitude := by
  have h : (Text.split '_' "BTC_15_3_0.71".toList)[3]? = some pointNumber.chars := by decide
  have hfinite : pointNumber.double.isFinite = true := by decide +kernel
  exact ⟨h, hfinite, (accuracy_of_written h).2.1 rfl hfinite⟩

/-- A half, written with an exponent. -/
def halfByExponent : Written where
  sign := .bare
  whole := ['5']
  fraction := none
  exponent := some ⟨'e', .minus, ['1'], .inl rfl, by decide, List.all_eq_true.mp (by decide)⟩
  whole_isDigit := List.all_eq_true.mp (by decide)
  fraction_isDigit := List.all_eq_true.mp (by decide)
  digits_ne_nil := by decide

theorem mergeSort_swap {α : Type} {le : α → α → Bool} {a b : α} (h : le a b = false) :
    [a, b].mergeSort le = [b, a] := by
  simp [List.mergeSort, h]

/-- An exponent is not read: a model with the accuracy of a half has one of five instead, and comes
before a better one. -/
theorem exponent_not_read :
    (Text.split '_' "BTC_15_3_5e-1".toList)[3]? = some halfByExponent.chars ∧
    halfByExponent.double.isFinite = true ∧
    halfByExponent.double.IsRounded false halfByExponent.magnitude ∧
    (ofIdentifier "BTC_15_3_5e-1").accuracy ≠ some halfByExponent.double ∧
    (ofIdentifier "BTC_15_3_5e-1").accuracy = some (.ofInt 5) ∧
    (Catalogue.ofIdentifiers ["BTC_15_3_0.71", "BTC_15_3_5e-1"]).models.map title =
      ["BTC_15_3_5e-1", "BTC_15_3_0.71"] := by
  have hswap :
      mayPrecede (ofIdentifier "BTC_15_3_0.71") (ofIdentifier "BTC_15_3_5e-1") = false := by
    decide +kernel
  refine ⟨by decide, by decide +kernel, halfByExponent.isRounded_double, by decide +kernel,
    by decide +kernel, ?_⟩
  rw [Catalogue.ofIdentifiers, List.map_cons, List.map_singleton, mergeSort_swap hswap]
  rfl

end TrainedModel
end BacktestDesk
