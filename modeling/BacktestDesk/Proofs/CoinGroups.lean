import BacktestDesk.Proofs.CatalogueOrder
import BacktestDesk.Proofs.RecordReading

/-!
# BacktestDesk.Proofs.CoinGroups

The catalogue by coins. Its models are put one by one at the end of the group of their coin, and
`IsGrouped` says what the groups are of the models so far: for each coin among them, the models of
this coin in their order.

* `IsGrouped.addToGroup`, `isGrouped_groups`: one more model, and all of them.
* `IsGrouped.getD_get?`: looking a coin up gives what filtering the models by it gives.
-/

namespace BacktestDesk

/-! ## Lookup -/

namespace TextMap

variable {α : Type} {m : TextMap α} {key : String} {value : α}

/-- A key stands for one entry. -/
theorem eq_of_key_eq {e e' : String × α} (he : e ∈ m.entries) (he' : e' ∈ m.entries)
    (h : e.1 = e'.1) : e = e' :=
  List.inj_on_of_nodup_map m.keys_nodup he he' h

theorem get?_eq_some_iff : m.get? key = some value ↔ (key, value) ∈ m.entries :=
  value_eq_some_iff m.keys_nodup

theorem mem_insert_iff {e : String × α} :
    e ∈ (m.insert key value).entries ↔ e = (key, value) ∨ (e ∈ m.entries ∧ e.1 ≠ key) := by
  constructor
  · intro h
    by_cases hkey : e.1 = key
    · exact .inl (eq_of_key_eq h mem_insertKey_self hkey)
    · exact .inr ⟨(mem_insertKey h).resolve_left fun heq => hkey (congrArg Prod.fst heq), hkey⟩
  · rintro (rfl | ⟨he, hkey⟩)
    · exact mem_insertKey_self
    · exact mem_insertKey_of_ne he hkey

end TextMap

namespace Catalogue

/-! ## Groups -/

/-- The models of a coin, in their order. -/
def ofCoin (coin : String) (models : List TrainedModel) : List TrainedModel :=
  models.filter fun m => m.coin == coin

/-- The groups of the models: for each coin among them, the models of this coin. -/
def IsGrouped (groups : TextMap (List TrainedModel)) (models : List TrainedModel) : Prop :=
  ∀ coin group, (coin, group) ∈ groups.entries ↔ group = ofCoin coin models ∧ group ≠ []

theorem mem_ofCoin {coin : String} {models : List TrainedModel} {m : TrainedModel} :
    m ∈ ofCoin coin models ↔ m ∈ models ∧ m.coin = coin := by
  rw [ofCoin, List.mem_filter, beq_iff_eq]

theorem ofCoin_concat (coin : String) (models : List TrainedModel) (m : TrainedModel) :
    ofCoin coin (models ++ [m]) = ofCoin coin models ++ if m.coin = coin then [m] else [] := by
  rw [ofCoin, List.filter_append, List.filter_singleton]
  simp [ofCoin]

theorem isGrouped_empty : IsGrouped .empty [] := by
  intro coin group
  refine iff_of_false List.not_mem_nil ?_
  rintro ⟨rfl, hne⟩
  exact hne rfl

namespace IsGrouped

variable {groups : TextMap (List TrainedModel)} {models : List TrainedModel}

theorem getD_get? (h : IsGrouped groups models) (coin : String) :
    (groups.get? coin).getD [] = ofCoin coin models := by
  cases hget : groups.get? coin with
  | some group => exact ((h coin group).mp (TextMap.get?_eq_some_iff.mp hget)).1
  | none =>
    -- A coin that some model has is found.
    by_contra hne
    have hentry := (h coin (ofCoin coin models)).mpr ⟨rfl, fun hnil => hne hnil.symm⟩
    rw [← TextMap.get?_eq_some_iff, hget] at hentry
    cases hentry

theorem mem_entries_of_mem (h : IsGrouped groups models) {m : TrainedModel} (hm : m ∈ models) :
    (m.coin, ofCoin m.coin models) ∈ groups.entries :=
  (h _ _).mpr ⟨rfl, List.ne_nil_of_mem (mem_ofCoin.mpr ⟨hm, rfl⟩)⟩

theorem mem_keys_iff (h : IsGrouped groups models) (coin : String) :
    coin ∈ groups.keys ↔ ∃ m ∈ models, m.coin = coin := by
  constructor
  · intro hkey
    obtain ⟨⟨coin, group⟩, hentry, rfl⟩ := List.mem_map.mp hkey
    obtain ⟨rfl, hne⟩ := (h coin group).mp hentry
    obtain ⟨m, hm⟩ := List.exists_mem_of_ne_nil _ hne
    exact ⟨m, mem_ofCoin.mp hm⟩
  · rintro ⟨m, hm, rfl⟩
    exact List.mem_map_of_mem (h.mem_entries_of_mem hm)

/-- A model is in the group of its coin and in no other. -/
theorem unique_of_mem (h : IsGrouped groups models) {m : TrainedModel} {coin : String}
    {group : List TrainedModel} (hentry : (coin, group) ∈ groups.entries) (hm : m ∈ group) :
    coin = m.coin ∧ group = ofCoin m.coin models := by
  obtain ⟨rfl, -⟩ := (h coin group).mp hentry
  obtain ⟨-, rfl⟩ := mem_ofCoin.mp hm
  exact ⟨rfl, rfl⟩

/-- The group of the coin of the model grows at its end, and no other group changes. -/
theorem addToGroup (h : IsGrouped groups models) (m : TrainedModel) :
    IsGrouped (addToGroup groups m) (models ++ [m]) := by
  intro coin group
  rw [Catalogue.addToGroup, TextMap.mem_insert_iff, h.getD_get?, ofCoin_concat, Prod.mk.injEq,
    h coin group]
  by_cases hcoin : m.coin = coin
  · subst hcoin
    rw [if_pos rfl]
    constructor
    · rintro (⟨-, rfl⟩ | ⟨-, hother⟩)
      · exact ⟨rfl, List.append_ne_nil_of_right_ne_nil _ (List.cons_ne_nil m [])⟩
      · exact absurd rfl hother
    · rintro ⟨hgroup, -⟩
      exact .inl ⟨rfl, hgroup⟩
  · rw [if_neg hcoin, List.append_nil]
    constructor
    · rintro (⟨hsame, -⟩ | ⟨hgroup, -⟩)
      · exact absurd hsame.symm hcoin
      · exact hgroup
    · intro hgroup
      exact .inr ⟨hgroup, fun hsame => hcoin hsame.symm⟩

theorem foldl (h : IsGrouped groups models) (more : List TrainedModel) :
    IsGrouped (more.foldl Catalogue.addToGroup groups) (models ++ more) := by
  induction more generalizing groups models with
  | nil => rwa [List.append_nil]
  | cons m more ih =>
    have hstep := ih (h.addToGroup m)
    rwa [List.append_assoc] at hstep

end IsGrouped

theorem isGrouped_groups (c : Catalogue) : IsGrouped c.groups c.models :=
  isGrouped_empty.foldl c.models

/-- Equal models of a coin stand in the order of their identifiers. -/
theorem filter_ofCoin (ids : List String) (coin : String) (score : Option ℚ) :
    ((ofCoin coin (ofIdentifiers ids).models).filter fun m => m.score? = score) =
      (ids.map .ofIdentifier).filter fun m => m.score? = score ∧ m.coin = coin := by
  have hboth : ∀ m : TrainedModel, (decide (m.score? = score) && m.coin == coin) =
      decide (m.score? = score ∧ m.coin = coin) := fun m => (Bool.decide_and _ _).symm
  rw [ofCoin, List.filter_filter, List.filter_congr fun m _ => hboth m]
  exact filter_models
    (fun a b ha hb => (of_decide_eq_true ha).1.trans (of_decide_eq_true hb).1.symm) ids

/-! ## Partition -/

/-- The groups of a catalogue partition it. For every list of identifiers, the groups of its
catalogue are as follows:

* they stand in ascending order of their coins, which are those of the models;
* no group is empty, and each holds the models of its coin in the order of the catalogue, hence
  the best first and equal ones in the order of their identifiers;
* every model is in the group of its coin, as often as in the catalogue, and in no other;
* the models of any coin, picked from the catalogue, are its group, or none if it has no group. -/
theorem groups_partition (ids : List String) :
    let c : Catalogue := ofIdentifiers ids
    c.groups.keys.Pairwise (· < ·) ∧
    (∀ coin, coin ∈ c.groups.keys ↔ ∃ m ∈ c.models, m.coin = coin) ∧
    (∀ coin group, (coin, group) ∈ c.groups.entries →
      group ≠ [] ∧ (group = c.models.filter fun m => m.coin == coin) ∧
      (group.Pairwise fun a b => b.standing ≤ a.standing) ∧
      ∀ score : Option ℚ, (group.filter fun m => m.score? = score) =
        (ids.map .ofIdentifier).filter fun m => m.score? = score ∧ m.coin = coin) ∧
    (∀ m ∈ c.models, ∃ group, (m.coin, group) ∈ c.groups.entries ∧
      group.count m = c.models.count m ∧
      ∀ coin other, (coin, other) ∈ c.groups.entries → m ∈ other → coin = m.coin ∧ other = group) ∧
    ∀ coin, c.forCoin coin = (c.groups.get? coin).getD [] := by
  intro c
  have hgrouped : IsGrouped c.groups c.models := isGrouped_groups c
  refine ⟨c.groups.keys_ascending, hgrouped.mem_keys_iff, ?_, ?_,
    fun coin => (hgrouped.getD_get? coin).symm⟩
  · intro coin group hentry
    obtain ⟨hgroup, hne⟩ := (hgrouped coin group).mp hentry
    refine ⟨hne, hgroup, ?_, fun score => ?_⟩
    · rw [hgroup]
      exact (pairwise_standing ids).filter _
    · rw [hgroup]
      exact filter_ofCoin ids coin score
  · intro m hm
    exact ⟨ofCoin m.coin c.models, hgrouped.mem_entries_of_mem hm,
      List.count_filter (beq_self_eq_true m.coin),
      fun coin other hentry hmem => hgrouped.unique_of_mem hentry hmem⟩

end Catalogue
end BacktestDesk
