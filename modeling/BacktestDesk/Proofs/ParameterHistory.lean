import BacktestDesk.Proofs.QueryRoundTrip
import Mathlib.Data.List.Dedup

/-!
# BacktestDesk.Proofs.ParameterHistory

Parameters as the outcome of the settings that made them. A setting writes over the value of its key
and leaves the key where it stands; a key that is new comes last. `Parameters.Records` says what
this amounts to after any number of settings.

* `Parameters.keys_set`, `Parameters.get?_set`: one setting.
* `Parameters.Records.set`, `Parameters.Records.foldl`: one more setting, and any number of them.
* `Parameters.sentUnder_eq_append`: what goes out under a key, told by its entries.
* `Parameters.pairs_eq`: what goes out, told by the keys and their values.
* `Parameters.last_set_in_place`: all of it, for parameters that begin empty.
-/

namespace BacktestDesk
namespace Parameters

def keys (ps : Parameters) : List String :=
  ps.entries.map Prod.fst

/-- The texts that go out under a key: the one of a scalar, the items of a list, and none if the key
is not set. -/
def textsAt (ps : Parameters) (key : String) : List String :=
  match ps.get? key with
  | some (.scalar text) => [text]
  | some (.list items) => items
  | none => []

theorem textsAt_eq (ps : Parameters) (key : String) :
    ps.textsAt key = (ps.get? key).elim [] Parameter.texts := by
  rw [textsAt]
  cases ps.get? key with
  | none => rfl
  | some value => cases value <;> rfl

/-! ## One setting -/

theorem keys_set (ps : Parameters) (key : String) (value : Parameter) :
    (ps.set key value).keys = if key ∈ ps.keys then ps.keys else ps.keys ++ [key] := by
  obtain ⟨es⟩ := ps
  unfold keys set
  induction es with
  | nil => simp [setEntry]
  | cons e es ih =>
    obtain ⟨k, v⟩ := e
    simp only [setEntry]
    by_cases hk : k = key
    · simp [hk]
    · have hne : ¬ key = k := fun h => hk h.symm
      simp only [hk, if_false, List.map_cons, ih, List.mem_cons, hne, false_or]
      split <;> simp

theorem get?_set (ps : Parameters) (key : String) (value : Parameter) (k : String) :
    (ps.set key value).get? k = if k = key then some value else ps.get? k := by
  obtain ⟨es⟩ := ps
  unfold get? set
  induction es with
  | nil =>
    by_cases hk : k = key
    · simp [setEntry, hk]
    · have hne : ¬ key = k := fun h => hk h.symm
      simp [setEntry, hk, hne]
  | cons e es ih =>
    obtain ⟨k', v⟩ := e
    simp only [setEntry]
    by_cases hk' : k' = key
    · subst hk'
      by_cases hk : k = k'
      · simp [hk]
      · have hne : ¬ k' = k := fun h => hk h.symm
        simp [hk, hne]
    · rw [if_neg hk']
      by_cases hk : k' = k
      · have hne : ¬ k = key := fun h => hk' (hk.trans h)
        simp [hk, hne]
      · simpa [List.find?_cons, hk] using ih

/-! ## Settings one after the other -/

abbrev Writes := List (String × Parameter)

namespace Writes

def keys (writes : Writes) : List String :=
  List.map Prod.fst writes

/-- How many settings come before the first one of a key. -/
def firstAt (writes : Writes) (key : String) : Nat :=
  (keys writes).idxOf key

/-- A value is the last that a key is set to: whatever comes behind has other keys. -/
def IsLast (writes : Writes) (key : String) (value : Parameter) : Prop :=
  ∃ before after, writes = before ++ (key, value) :: after ∧ key ∉ keys after

theorem keys_concat (writes : Writes) (key : String) (value : Parameter) :
    keys (writes ++ [(key, value)]) = keys writes ++ [key] := by
  simp [keys]

theorem firstAt_concat_of_mem {writes : Writes} {k : String} (h : k ∈ keys writes) (key : String)
    (value : Parameter) : firstAt (writes ++ [(key, value)]) k = firstAt writes k := by
  rw [firstAt, keys_concat, List.idxOf_append_of_mem h, firstAt]

theorem firstAt_lt {writes : Writes} {k : String} (h : k ∈ keys writes) :
    firstAt writes k < (keys writes).length :=
  List.idxOf_lt_length_of_mem h

theorem firstAt_concat_of_notMem {writes : Writes} {key : String} (h : key ∉ keys writes)
    (value : Parameter) : firstAt (writes ++ [(key, value)]) key = (keys writes).length := by
  rw [firstAt, keys_concat, List.idxOf_append_of_notMem h]
  simp

theorem isLast_concat_iff {writes : Writes} {key k : String} {value v : Parameter} :
    IsLast (writes ++ [(key, value)]) k v ↔ if k = key then value = v else IsLast writes k v := by
  by_cases hk : k = key
  · rw [if_pos hk]
    constructor
    · rintro ⟨before, after, hwrites, hafter⟩
      rcases List.eq_nil_or_concat after with rfl | ⟨after, e, rfl⟩
      · obtain ⟨-, he⟩ := List.append_inj' hwrites rfl
        simp_all
      · -- The setting at the end has the key as well.
        have he := congrArg List.getLast? hwrites
        simp only [List.concat_eq_append, ← List.cons_append, ← List.append_assoc,
          List.getLast?_concat, Option.some.injEq] at he
        simp [keys, ← he, hk] at hafter
    · intro hv
      exact ⟨writes, [], by rw [hk, hv], List.not_mem_nil⟩
  · rw [if_neg hk]
    constructor
    · rintro ⟨before, after, hwrites, hafter⟩
      rcases List.eq_nil_or_concat after with rfl | ⟨after, e, rfl⟩
      · obtain ⟨-, he⟩ := List.append_inj' hwrites rfl
        simp_all
      · rw [List.concat_eq_append, ← List.cons_append, ← List.append_assoc] at hwrites
        obtain ⟨rfl, -⟩ := List.append_inj' hwrites rfl
        refine ⟨before, after, rfl, fun hmem => hafter ?_⟩
        simp only [keys, List.concat_eq_append, List.map_append, List.mem_append] at hmem ⊢
        exact .inl hmem
    · rintro ⟨before, after, rfl, hafter⟩
      refine ⟨before, after ++ [(key, value)], by simp, ?_⟩
      rw [keys_concat, List.mem_append, List.mem_singleton, not_or]
      exact ⟨hafter, hk⟩

end Writes

open Writes

/-- What parameters tell of the settings that they come from: each key once, in the order in which
the keys were first set, with the value that it was set to last. -/
structure Records (ps : Parameters) (writes : Writes) : Prop where
  mem_keys : ∀ k, k ∈ ps.keys ↔ k ∈ Writes.keys writes
  ordered : ps.keys.Pairwise fun a b => firstAt writes a < firstAt writes b
  last : ∀ k v, ps.get? k = some v ↔ IsLast writes k v

namespace Records

variable {ps : Parameters} {writes : Writes}

theorem empty : empty.Records [] where
  mem_keys _ := Iff.rfl
  ordered := .nil
  last k v := by simp [get?, Parameters.empty, IsLast]

/-- A key that is there keeps its place, and a new one was first set behind all others. -/
theorem set (h : ps.Records writes) (key : String) (value : Parameter) :
    (ps.set key value).Records (writes ++ [(key, value)]) where
  mem_keys k := by
    rw [keys_set, Writes.keys_concat]
    split
    · rename_i hkey
      have hold := (h.mem_keys key).mp hkey
      rw [h.mem_keys, List.mem_append, List.mem_singleton]
      refine ⟨.inl, fun hk => hk.elim id ?_⟩
      rintro rfl
      exact hold
    · rw [List.mem_append, List.mem_append, h.mem_keys]
  ordered := by
    have hold : ps.keys.Pairwise fun a b =>
        firstAt (writes ++ [(key, value)]) a < firstAt (writes ++ [(key, value)]) b := by
      refine h.ordered.imp_of_mem fun {a b} ha hb hlt => ?_
      rwa [firstAt_concat_of_mem ((h.mem_keys a).mp ha),
        firstAt_concat_of_mem ((h.mem_keys b).mp hb)]
    rw [keys_set]
    split
    · exact hold
    · rename_i hkey
      refine List.pairwise_append.mpr ⟨hold, List.pairwise_singleton .., fun a ha b hb => ?_⟩
      obtain rfl := List.mem_singleton.mp hb
      have hmem := (h.mem_keys a).mp ha
      rw [firstAt_concat_of_mem hmem,
          firstAt_concat_of_notMem fun hb => hkey ((h.mem_keys b).mpr hb)]
      exact firstAt_lt hmem
  last k v := by
    rw [get?_set, isLast_concat_iff]
    split
    · exact Option.some_inj
    · exact h.last k v

theorem foldl (h : ps.Records writes) (more : Writes) :
    (more.foldl (fun ps e => ps.set e.1 e.2) ps).Records (writes ++ more) := by
  induction more generalizing ps writes with
  | nil => rwa [List.append_nil]
  | cons e more ih =>
    have hstep := ih (h.set e.1 e.2)
    rwa [List.append_assoc] at hstep

theorem nodup (h : ps.Records writes) : ps.keys.Nodup :=
  h.ordered.imp fun {a b} hlt heq => by
    rw [heq] at hlt
    exact Nat.lt_irrefl _ hlt

theorem size_eq (h : ps.Records writes) : ps.size = (Writes.keys writes).dedup.length := by
  have hsame : ps.keys.Perm (Writes.keys writes).dedup := by
    refine (List.perm_ext_iff_of_nodup h.nodup (List.nodup_dedup _)).mpr fun k => ?_
    rw [h.mem_keys, List.mem_dedup]
  rw [← hsame.length_eq, keys, List.length_map, size]

end Records

/-! ## The entries of a key -/

/-- The entries of a key, in their order. -/
def under (ps : Parameters) (key : String) : List (String × Parameter) :=
  ps.entries.filter fun e => e.1 == key

/-- What the entries of a key send that stand behind its first one. -/
def overlooked (ps : Parameters) (key : String) : List String :=
  (ps.under key).tail.flatMap fun e => e.2.texts

theorem count_keys (ps : Parameters) (key : String) :
    ps.keys.count key = (ps.under key).length := by
  rw [keys, under, List.count_eq_countP, List.countP_map, List.countP_eq_length_filter]
  rfl

theorem get?_eq_head? (ps : Parameters) (key : String) :
    ps.get? key = (ps.under key).head?.map Prod.snd := by
  rw [get?, under, List.head?_filter]

theorem sentUnder_eq_under (ps : Parameters) (key : String) :
    ps.sentUnder key = (ps.under key).flatMap fun e => e.2.texts := by
  have hentry : ∀ e : String × Parameter,
      ((e.2.texts.map fun s => (e.1, s)).filter fun p => p.1 == key).map Prod.snd =
        if e.1 == key then e.2.texts else [] := by
    intro e
    rw [List.filter_map]
    by_cases hkey : e.1 = key <;> simp [hkey, Function.comp_def]
  rw [sentUnder_eq, pairs, under, List.filter_flatMap, List.map_flatMap]
  simp only [hentry]
  induction ps.entries with
  | nil => rfl
  | cons e es ih =>
    rw [List.flatMap_cons, ih, List.filter_cons]
    split <;> simp

/-- The first entry of a key is the one that is looked up; what the others hold goes out as well. -/
theorem sentUnder_eq_append (ps : Parameters) (key : String) :
    ps.sentUnder key = ps.textsAt key ++ ps.overlooked key := by
  rw [sentUnder_eq_under, textsAt_eq, get?_eq_head?, overlooked]
  cases ps.under key <;> simp

theorem nodup_keys_iff {ps : Parameters} : ps.keys.Nodup ↔ ∀ k, (ps.under k).length ≤ 1 := by
  simp only [List.nodup_iff_count_le_one, count_keys]

theorem overlooked_of_nodup {ps : Parameters} (h : ps.keys.Nodup) (key : String) :
    ps.overlooked key = [] := by
  have hlength := nodup_keys_iff.mp h key
  have htail : (ps.under key).tail = [] := by
    rw [← List.length_eq_zero_iff, List.length_tail]
    omega
  rw [overlooked, htail, List.flatMap_nil]

/-! ## What goes out -/

theorem get?_eq_none_iff {ps : Parameters} {key : String} : ps.get? key = none ↔ key ∉ ps.keys := by
  simp only [get?, keys, Option.map_eq_none_iff, List.find?_eq_none, List.mem_map, beq_iff_eq]
  exact ⟨fun h ⟨e, he, hk⟩ => h e he hk, fun h e he hk => h ⟨e, he, hk⟩⟩

theorem get?_of_mem {ps : Parameters} (h : ps.keys.Nodup) {e : String × Parameter}
    (he : e ∈ ps.entries) : ps.get? e.1 = some e.2 := by
  obtain ⟨es⟩ := ps
  unfold get?
  induction es with
  | nil => cases he
  | cons e' es ih =>
    obtain ⟨hhead, hrest⟩ := List.nodup_cons.mp h
    rcases List.mem_cons.mp he with rfl | he
    · simp
    · have hne : ¬ e'.1 = e.1 := fun heq => hhead (heq ▸ List.mem_map_of_mem he)
      simpa [hne] using ih hrest he

/-- One pair for a scalar and one for each item of a list, the keys in their order. -/
theorem pairs_eq {ps : Parameters} (h : ps.keys.Nodup) :
    ps.pairs = ps.keys.flatMap fun k =>
      match ps.get? k with
      | some (.scalar text) => [(k, text)]
      | some (.list items) => items.map fun item => (k, item)
      | none => [] := by
  rw [pairs, keys, List.flatMap_map]
  refine List.flatMap_congr fun e he => ?_
  rw [get?_of_mem h he]
  cases e.2 <;> rfl

/-- The values that are read under a key are those that it holds. -/
theorem sentUnder_eq_textsAt {ps : Parameters} (h : ps.keys.Nodup) (key : String) :
    ps.sentUnder key = ps.textsAt key := by
  rw [sentUnder_eq_append, overlooked_of_nodup h, List.append_nil]

/-! ## From the beginning -/

/-- The parameters that settings lead to, from none. -/
def ofWrites (writes : Writes) : Parameters :=
  writes.foldl (fun ps e => ps.set e.1 e.2) empty

theorem records_ofWrites (writes : Writes) : (ofWrites writes).Records writes :=
  Records.empty.foldl writes

/-- Parameters are an ordered mapping in which the last setting of a key counts, at the place of the
first. After any settings, of scalars and lists under any keys:

* the keys are distinct, they are those that were set, and a key comes before another exactly when
  it was first set before it; so their number is that of the keys that were set;
* a key holds the value that it was set to last, and nothing if it never was;
* the pairs that go out are, key by key, one for a scalar and one for each item of a list;
* of the pairs that the query is read as, those under a key have the texts that it holds. -/
theorem last_set_in_place (writes : Writes) :
    (ofWrites writes).keys.Nodup ∧
    (∀ k, k ∈ (ofWrites writes).keys ↔ k ∈ Writes.keys writes) ∧
    ((ofWrites writes).keys.Pairwise fun a b => firstAt writes a < firstAt writes b) ∧
    (ofWrites writes).size = (Writes.keys writes).dedup.length ∧
    (∀ k v, (ofWrites writes).get? k = some v ↔ IsLast writes k v) ∧
    (∀ k, (ofWrites writes).get? k = none ↔ k ∉ Writes.keys writes) ∧
    ((ofWrites writes).pairs = (ofWrites writes).keys.flatMap fun k =>
      match (ofWrites writes).get? k with
      | some (.scalar text) => [(k, text)]
      | some (.list items) => items.map fun item => (k, item)
      | none => []) ∧
    ∀ k, (ofWrites writes).sentUnder k =
      match (ofWrites writes).get? k with
      | some (.scalar text) => [text]
      | some (.list items) => items
      | none => [] := by
  have h := records_ofWrites writes
  refine ⟨h.nodup, h.mem_keys, h.ordered, h.size_eq, h.last, fun k => ?_, pairs_eq h.nodup,
    sentUnder_eq_textsAt h.nodup⟩
  rw [get?_eq_none_iff, h.mem_keys]

/-- A list that is overwritten by a text, and a text by an empty list, leave the others in place. -/
example :
    (ofWrites [("model", .list ["a", "b"]), ("coin", .scalar "BTC"), ("gap", .scalar "1"),
      ("model", .scalar "c"), ("gap", .list [])]).pairs = [("model", "c"), ("coin", "BTC")] := by
  decide

end Parameters
end BacktestDesk
