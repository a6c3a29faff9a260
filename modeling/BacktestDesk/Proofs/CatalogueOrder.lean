import BacktestDesk.Catalogue
import BacktestDesk.Proofs.DoubleValue
import Mathlib.Order.WithBot

/-!
# BacktestDesk.Proofs.CatalogueOrder

The order of a catalogue. Accuracies are compared as doubles, which is an order only because no
accuracy that was read is infinite or no number at all.

* `TrainedModel.isRanked_ofIdentifier`: the invariant that reading an identifier establishes.
* `TrainedModel.IsRanked.mayPrecede_iff`: under it the comparison is that of the numbers.
* `filter_mergeSort`: a sorted list holds what the comparison does not tell apart in the old order.
-/

namespace BacktestDesk

/-! ## Sorting -/

section

variable {α : Type} {le le' : α → α → Bool} {xs : List α}

/-- Only the comparisons of elements of the list count. -/
theorem mergeSort_congr (h : ∀ a ∈ xs, ∀ b ∈ xs, le a b = le' a b) :
    xs.mergeSort le = xs.mergeSort le' := by
  have hmap := List.map_mergeSort (f := id) h
  rwa [List.map_id, List.map_id] at hmap

/-- What may stand in either order stays as it was: it is a sublist of the sorted list, and as many
elements are there. -/
theorem filter_mergeSort (trans : ∀ a b c, le a b = true → le b c = true → le a c = true)
    (total : ∀ a b, (le a b || le b a) = true) {p : α → Bool}
    (hp : ∀ a b, p a = true → p b = true → le a b = true) (xs : List α) :
    (xs.mergeSort le).filter p = xs.filter p := by
  have hpairwise : (xs.filter p).Pairwise fun a b => le a b = true :=
    List.pairwise_of_forall_mem_list fun a ha b hb =>
      hp a b (List.mem_filter.mp ha).2 (List.mem_filter.mp hb).2
  have hsublist : (xs.filter p).Sublist (xs.mergeSort le) :=
    List.sublist_mergeSort trans total hpairwise List.filter_sublist
  have hkept : (xs.filter p).Sublist ((xs.mergeSort le).filter p) := by
    have htwice := hsublist.filter p
    rwa [List.filter_filter, List.filter_congr fun x _ => Bool.and_self (p x)] at htwice
  exact (hkept.eq_of_length ((List.mergeSort_perm xs le).filter p).length_eq.symm).symm

end

namespace TrainedModel

/-! ## Accuracies -/

/-- The accuracy of a model as a number. -/
def score? (m : TrainedModel) : Option ℚ :=
  m.accuracy.bind Double.value?

/-- The place of a model among the accuracies; one without stands below all numbers. -/
def standing (m : TrainedModel) : WithBot ℚ :=
  m.score?

/-- No accuracy, or a finite one. -/
def IsRanked (m : TrainedModel) : Prop :=
  ∀ x, m.accuracy = some x → x.isFinite = true

theorem isRanked_ofIdentifier (id : String) : (ofIdentifier id).IsRanked := by
  intro x h
  obtain ⟨part, -, hread⟩ := Option.bind_eq_some_iff.mp h
  exact (Option.filter_eq_some_iff.mp hread).2

theorem standing_of_none {m : TrainedModel} (h : m.score? = none) : m.standing = ⊥ := h

theorem standing_of_some {m : TrainedModel} {q : ℚ} (h : m.score? = some q) :
    m.standing = (q : WithBot ℚ) := h

namespace IsRanked

variable {a b : TrainedModel}

theorem accuracy_cases (h : a.IsRanked) :
    (a.accuracy = none ∧ a.score? = none) ∨
      ∃ x q, a.accuracy = some x ∧ x.value? = some q ∧ a.score? = some q := by
  cases ha : a.accuracy with
  | none => exact .inl ⟨rfl, by rw [score?, ha]; rfl⟩
  | some x =>
    obtain ⟨q, hq⟩ := Option.isSome_iff_exists.mp (Double.value?_isSome.trans (h x ha))
    exact .inr ⟨x, q, rfl, hq, by rw [score?, ha]; exact hq⟩

theorem score?_eq_none_iff (h : a.IsRanked) : a.score? = none ↔ a.accuracy = none := by
  rcases h.accuracy_cases with ⟨ha, hs⟩ | ⟨x, q, ha, -, hs⟩ <;> simp [ha, hs]

/-- Finite accuracies compare: the rule for those that do not is never applied. -/
theorem mayPrecede_iff (ha : a.IsRanked) (hb : b.IsRanked) :
    mayPrecede a b = true ↔ b.standing ≤ a.standing := by
  rcases ha.accuracy_cases with ⟨hx, hp⟩ | ⟨x, p, hx, hxp, hp⟩ <;>
    rcases hb.accuracy_cases with ⟨hy, hq⟩ | ⟨y, q, hy, hyq, hq⟩ <;>
    simp only [mayPrecede, hx, hy]
  · rw [standing_of_none hp, standing_of_none hq]
    exact iff_of_true trivial le_rfl
  · rw [standing_of_none hp, standing_of_some hq]
    exact iff_of_false Bool.false_ne_true (WithBot.not_coe_le_bot q)
  · rw [standing_of_some hp, standing_of_none hq]
    exact iff_of_true trivial bot_le
  · rw [standing_of_some hp, standing_of_some hq, WithBot.coe_le_coe, Bool.or_eq_true,
      Bool.not_eq_true', ← Bool.not_eq_true, Double.le_iff hyq hxp, Double.le_iff hxp hyq, not_le]
    exact or_iff_left_of_imp le_of_lt

end IsRanked
end TrainedModel

/-! ## Catalogues -/

namespace Catalogue

theorem perm_models (ids : List String) :
    (ofIdentifiers ids).models.Perm (ids.map .ofIdentifier) :=
  List.mergeSort_perm _ _

theorem isRanked_of_mem {ids : List String} {m : TrainedModel}
    (h : m ∈ (ofIdentifiers ids).models) : m.IsRanked := by
  obtain ⟨id, -, rfl⟩ := List.mem_map.mp ((perm_models ids).mem_iff.mp h)
  exact TrainedModel.isRanked_ofIdentifier id

theorem models_eq (ids : List String) :
    (ofIdentifiers ids).models =
      (ids.map .ofIdentifier).mergeSort fun a b => decide (b.standing ≤ a.standing) := by
  refine mergeSort_congr fun a ha b hb => ?_
  obtain ⟨id, -, rfl⟩ := List.mem_map.mp ha
  obtain ⟨id', -, rfl⟩ := List.mem_map.mp hb
  rw [Bool.eq_iff_iff, decide_eq_true_eq]
  exact (TrainedModel.isRanked_ofIdentifier id).mayPrecede_iff
    (TrainedModel.isRanked_ofIdentifier id')

theorem standing_trans (a b c : TrainedModel) (hab : decide (b.standing ≤ a.standing) = true)
    (hbc : decide (c.standing ≤ b.standing) = true) : decide (c.standing ≤ a.standing) = true := by
  rw [decide_eq_true_eq] at hab hbc ⊢
  exact hbc.trans hab

theorem standing_total (a b : TrainedModel) :
    (decide (b.standing ≤ a.standing) || decide (a.standing ≤ b.standing)) = true := by
  rw [Bool.or_eq_true, decide_eq_true_eq, decide_eq_true_eq]
  exact le_total b.standing a.standing

theorem pairwise_standing (ids : List String) :
    (ofIdentifiers ids).models.Pairwise fun a b => b.standing ≤ a.standing := by
  have hsorted := List.pairwise_mergeSort standing_trans standing_total (ids.map .ofIdentifier)
  rw [← models_eq] at hsorted
  exact hsorted.imp of_decide_eq_true

/-- Models of one standing come in the order of their identifiers. -/
theorem filter_models {p : TrainedModel → Bool}
    (hp : ∀ a b, p a = true → p b = true → a.standing = b.standing) (ids : List String) :
    (ofIdentifiers ids).models.filter p = (ids.map .ofIdentifier).filter p := by
  rw [models_eq]
  exact filter_mergeSort standing_trans standing_total
    (fun a b ha hb => decide_eq_true (hp b a hb ha).le) _

/-- A catalogue loses nothing, and lists the best models first. For every list of identifiers:

* the catalogue holds one model for each identifier, which is its title;
* every accuracy in it is finite;
* no model with an accuracy comes behind one without;
* no accuracy is greater than one before it;
* models with equal accuracies, and those without, stand in the order of their identifiers. -/
theorem best_first_and_stable (ids : List String) :
    let parsed : List TrainedModel := ids.map .ofIdentifier
    let models : List TrainedModel := (ofIdentifiers ids).models
    models.Perm parsed ∧ parsed.map TrainedModel.title = ids ∧
    (∀ m ∈ models, ∀ x, m.accuracy = some x → x.isFinite = true) ∧
    (models.Pairwise fun a b => a.accuracy = none → b.accuracy = none) ∧
    (models.Pairwise fun a b => ∀ p q, a.score? = some p → b.score? = some q → q ≤ p) ∧
    ∀ score : Option ℚ,
      (models.filter fun m => m.score? = score) = parsed.filter fun m => m.score? = score := by
  intro parsed models
  have hranked : ∀ m ∈ models, m.IsRanked := fun m hm => isRanked_of_mem hm
  have hsorted : models.Pairwise fun a b => b.standing ≤ a.standing := pairwise_standing ids
  refine ⟨perm_models ids, ?_, hranked, ?_, ?_, fun score => filter_models ?_ ids⟩
  · rw [List.map_map]
    exact List.map_id ids
  · refine hsorted.imp_of_mem fun {a b} ha hb hle hnone => ?_
    rw [← (hranked a ha).score?_eq_none_iff] at hnone
    rw [← (hranked b hb).score?_eq_none_iff]
    rw [TrainedModel.standing_of_none hnone] at hle
    exact le_bot_iff.mp hle
  · refine hsorted.imp fun {a b} hle p q hp hq => ?_
    rwa [TrainedModel.standing_of_some hp, TrainedModel.standing_of_some hq,
      WithBot.coe_le_coe] at hle
  · intro a b ha hb
    exact (of_decide_eq_true ha).trans (of_decide_eq_true hb).symm

end Catalogue
end BacktestDesk
