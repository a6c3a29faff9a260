import BacktestDesk.Json.Shape
import BacktestDesk.Proofs.Traversal
import Mathlib.Data.List.Nodup

/-!
# BacktestDesk.Proofs.RecordReading

When a document is read as a record or as a map, and from where. Each lemma is an equivalence, so
that a reading that succeeded is taken apart field by field, in an object by the names of the fields
and in an array by their places.

* `Fields.and_ofObject_ok_iff`, `Fields.and_ofArray_ok_iff`: one more field.
* `Fields.Ensures.of_readRecord`: what is known of a record because of what is known of its fields,
  each of them at its name or its place.
* `readTextMap_ok_keys`, `exists_of_readTextMap`: a map that is read has the keys of the object, and
  every value of it is read.
* `TextMap.perm_ofList`, `TextMap.entries_ofList`: a map made of pairs keeps them.
* `value_eq_some_iff`: looking a key up.
-/

namespace BacktestDesk
namespace Json

variable {α β : Type}

/-! ## Fields -/

theorem mem_keys_of_field? {key : String} {fields : List (String × Json)} {v : Json}
    (h : field? key (.obj fields) = some v) : key ∈ fields.map Prod.fst := by
  obtain ⟨e, he, -⟩ := Option.map_eq_some_iff.mp h
  have hfound := List.find?_some he
  have hkey : e.1 = key := beq_iff_eq.mp hfound
  exact hkey ▸ List.mem_map_of_mem (List.mem_of_find?_eq_some he)

namespace Fields

section

variable {fs : Fields (α → β)} {next : Fields α} {y : β}

theorem and_ofObject_ok_iff {fields : List (String × Json)} :
    (fs.and next).ofObject fields = .ok y ↔
      ∃ f x, fs.ofObject fields = .ok f ∧ next.ofObject fields = .ok x ∧ f x = y := by
  simp only [and]
  cases fs.ofObject fields with
  | error e => cases next.ofObject fields <;> simp
  | ok f => cases next.ofObject fields <;> simp

theorem and_ofArray_ok_iff {place : Nat} {vs rest : List Json} :
    (fs.and next).ofArray place vs = .ok (y, rest) ↔
      ∃ f x behind, fs.ofArray place vs = .ok (f, behind) ∧
        next.ofArray (place + fs.size) behind = .ok (x, rest) ∧ f x = y := by
  simp only [and]
  cases fs.ofArray place vs with
  | error e => simp
  | ok front =>
    obtain ⟨f, behind⟩ := front
    cases hnext : next.ofArray (place + fs.size) behind with
    | error e => simp [hnext]
    | ok last =>
      obtain ⟨x, rest'⟩ := last
      simp [hnext, and_comm]

end

theorem required_ofObject_ok_iff {name : String} {read : Reading α} {x : α}
    {fields : List (String × Json)} :
    (required name read).ofObject fields = .ok x ↔
      ∃ v, field? name (.obj fields) = some v ∧ read v = .ok x := by
  simp only [required, field, field?]
  cases fields.find? fun e => e.1 == name with
  | none => simp
  | some e => cases hread : read e.2 <;> simp [hread]

end Fields

/-! ## Records -/

theorem readRecord_obj_ok_iff {site : Site} {name : String} {fs : Fields α} {x : α}
    {fields : List (String × Json)} :
    readRecord site name fs (.obj fields) = .ok x ↔ fs.ofObject fields = .ok x := by
  simp only [readRecord]
  cases fs.ofObject fields <;> simp

/-- Nothing may be left of an array that is read as a record. -/
theorem readRecord_arr_ok_iff {site : Site} {name : String} {fs : Fields α} {x : α}
    {items : List Json} :
    readRecord site name fs (.arr items) = .ok x ↔ fs.ofArray 0 items = .ok (x, []) := by
  simp only [readRecord]
  cases fs.ofArray 0 items with
  | error e => cases e <;> simp
  | ok front =>
    obtain ⟨x', rest⟩ := front
    cases rest <;> simp

/-- Only an object or an array is read as a record. -/
theorem obj_or_arr_of_readRecord {site : Site} {name : String} {fs : Fields α} {v : Json} {x : α}
    (h : readRecord site name fs v = .ok x) :
    (∃ fields, v = .obj fields ∧ fs.ofObject fields = .ok x) ∨
      ∃ items, v = .arr items ∧ fs.ofArray 0 items = .ok (x, []) := by
  cases v with
  | obj fields => exact .inl ⟨fields, rfl, readRecord_obj_ok_iff.mp h⟩
  | arr items => exact .inr ⟨items, rfl, readRecord_arr_ok_iff.mp h⟩
  | null => cases h
  | bool b => cases h
  | int z => cases h
  | float y => cases h
  | str s => cases h

end Json

/-! ## What is read of a record -/

namespace Json

variable {α β : Type}

/-- The value of a field of a record: in an object by its name, in an array at its place. -/
def part? (name : String) (place : Nat) : Json → Option Json
  | .arr items => items[place]?
  | v => field? name v

namespace Fields

/-- What these fields, the first of them at `place`, read of a record has a property, and of an
array they take as many elements as they are. -/
structure Ensures (fs : Fields α) (v : Json) (place : Nat) (P : α → Prop) : Prop where
  object : ∀ {fields x}, v = .obj fields → fs.ofObject fields = .ok x → P x
  array : ∀ {items x rest}, v = .arr items → fs.ofArray place (items.drop place) = .ok (x, rest) →
    P x ∧ rest = items.drop (place + fs.size)

namespace Ensures

variable {v : Json} {place : Nat}

theorem of_readRecord {site : Site} {name : String} {fs : Fields α} {P : α → Prop} {x : α}
    (h : fs.Ensures v 0 P) (hx : readRecord site name fs v = .ok x) : P x := by
  obtain ⟨fields, hv, hx⟩ | ⟨items, hv, hx⟩ := obj_or_arr_of_readRecord hx
  · exact h.object hv hx
  · exact (h.array hv hx).1

theorem mono {fs : Fields α} {P Q : α → Prop} (h : fs.Ensures v place P) (hPQ : ∀ x, P x → Q x) :
    fs.Ensures v place Q where
  object hv hx := hPQ _ (h.object hv hx)
  array hv hx := ⟨hPQ _ (h.array hv hx).1, (h.array hv hx).2⟩

theorem none {x : α} {P : α → Prop} (hx : P x) : (Fields.none x).Ensures v place P where
  object _ h := by
    cases h
    exact hx
  array _ h := by
    cases h
    exact ⟨hx, rfl⟩

/-- The property is asked of the record step by step, as its constructor takes the fields. -/
theorem and {fs : Fields (α → β)} {next : Fields α} {P : β → Prop} {Q : α → Prop}
    (hfs : fs.Ensures v place fun f => ∀ x, Q x → P (f x))
    (hnext : next.Ensures v (place + fs.size) Q) : (fs.and next).Ensures v place P where
  object hv h := by
    obtain ⟨f, x, hf, hx, rfl⟩ := and_ofObject_ok_iff.mp h
    exact hfs.object hv hf x (hnext.object hv hx)
  array hv h := by
    obtain ⟨f, x, behind, hf, hx, rfl⟩ := and_ofArray_ok_iff.mp h
    obtain ⟨hP, rfl⟩ := hfs.array hv hf
    obtain ⟨hQ, hrest⟩ := hnext.array hv hx
    exact ⟨hP x hQ, hrest.trans (by rw [Nat.add_assoc]; rfl)⟩

/-- A field is read where it stands. Without it the value comes from what the field has for an
object or for an array that ends before. -/
theorem field {name : String} {read : Reading α} {absent short : Option α} :
    (Fields.field name read absent short).Ensures v place fun x =>
      (∃ w, part? name place v = some w ∧ read w = .ok x) ∨
        part? name place v = Option.none ∧ (absent = some x ∨ short = some x) where
  object := by
    rintro fields x rfl h
    simp only [Fields.field] at h
    simp only [part?, field?]
    cases hfound : fields.find? fun e => e.1 == name with
    | some e =>
      simp only [hfound] at h
      split at h
      · rename_i hx
        cases h
        exact .inl ⟨e.2, rfl, hx⟩
      · cases h
    | none =>
      simp only [hfound] at h
      split at h
      · cases h
        exact .inr ⟨rfl, .inl rfl⟩
      · cases h
  array := by
    rintro items x rest rfl h
    simp only [part?, ← List.head?_drop, ← List.drop_drop]
    cases hitems : items.drop place with
    | cons w behind =>
      simp only [hitems, Fields.field] at h
      split at h
      · rename_i hx
        cases h
        exact ⟨.inl ⟨w, rfl, hx⟩, rfl⟩
      · cases h
    | nil =>
      simp only [hitems, Fields.field] at h
      split at h
      · cases h
        exact ⟨.inr ⟨rfl, .inr rfl⟩, rfl⟩
      · cases h

theorem required {name : String} {read : Reading α} :
    (Fields.required name read).Ensures v place fun x =>
      ∃ w, part? name place v = some w ∧ read w = .ok x :=
  field.mono fun x h => by
    rcases h with h | ⟨-, h | h⟩
    · exact h
    · cases h
    · cases h

/-- A field that is not there is read as one that is `null`. -/
theorem of_absent {name : String} {read : Reading α} {short : Option (Option α)}
    (hshort : ∀ o, short = some o → o = Option.none) :
    (Fields.field name (readOption read) (some Option.none) short).Ensures v place fun o =>
      readOption read ((part? name place v).getD .null) = .ok o :=
  field.mono fun o h => by
    rcases h with ⟨w, hw, h⟩ | ⟨hw, h | h⟩
    · rw [hw]
      exact h
    · cases h
      rw [hw]
      rfl
    · rw [hshort o h, hw]
      rfl

theorem optional {name : String} {read : Reading α} :
    (Fields.optional name read).Ensures v place fun o =>
      readOption read ((part? name place v).getD .null) = .ok o :=
  of_absent fun _ h => by cases h

theorem defaulted {name : String} {read : Reading α} :
    (Fields.defaulted name read).Ensures v place fun o =>
      readOption read ((part? name place v).getD .null) = .ok o :=
  of_absent fun _ h => by
    cases h
    rfl

end Ensures
end Fields
end Json

/-! ## Fields that are null -/

namespace Json

/-- The fields of an object but for those of one name. -/
def without (key : String) (fields : List (String × Json)) : List (String × Json) :=
  fields.filter fun e => e.1 != key

theorem find?_without_self (key : String) (fields : List (String × Json)) :
    (without key fields).find? (fun e => e.1 == key) = none := by
  rw [List.find?_eq_none]
  intro e he
  rw [beq_iff_eq]
  exact bne_iff_ne.mp (List.mem_filter.mp he).2

theorem find?_without_of_ne {key name : String} (h : key ≠ name) (fields : List (String × Json)) :
    (without key fields).find? (fun e => e.1 == name) = fields.find? fun e => e.1 == name := by
  rw [without, List.find?_filter]
  congr
  funext e
  rw [Bool.eq_iff_iff, decide_eq_true_eq]
  exact and_iff_right_of_imp fun he => bne_iff_ne.mpr ((beq_iff_eq.mp he).trans_ne h.symm)

namespace Fields

variable {α β : Type}

/-- A field of an object that is `null` is read as one that is not there. -/
def TakesNullAsAbsent (fs : Fields α) (key : String) : Prop :=
  ∀ fields, field? key (.obj fields) = some .null →
    fs.ofObject (without key fields) = fs.ofObject fields

namespace TakesNullAsAbsent

variable {key : String}

theorem none (x : α) : (Fields.none x).TakesNullAsAbsent key := fun _ _ => rfl

theorem and {fs : Fields (α → β)} {next : Fields α} (hfs : fs.TakesNullAsAbsent key)
    (hnext : next.TakesNullAsAbsent key) : (fs.and next).TakesNullAsAbsent key := by
  intro fields h
  simp only [Fields.and, hfs fields h, hnext fields h]

theorem of_absent (name : String) (read : Reading α) (short : Option (Option α)) :
    (Fields.field name (readOption read) (some Option.none) short).TakesNullAsAbsent key := by
  intro fields h
  simp only [Fields.field]
  by_cases hname : key = name
  · subst hname
    obtain ⟨e, he, hnull⟩ := Option.map_eq_some_iff.mp h
    simp only [find?_without_self, he, hnull]
    rfl
  · rw [find?_without_of_ne hname]

end TakesNullAsAbsent
end Fields
end Json

/-! ## Maps -/

/-- With one value for each key, the value found is the one that stands with the key. -/
theorem value_eq_some_iff {α : Type} {entries : List (String × α)}
    (h : (entries.map Prod.fst).Nodup) {key : String} {value : α} :
    (entries.find? fun e => e.1 == key).map Prod.snd = some value ↔ (key, value) ∈ entries := by
  constructor
  · intro hvalue
    obtain ⟨e, he, rfl⟩ := Option.map_eq_some_iff.mp hvalue
    have hfound := List.find?_some he
    have hkey : e.1 = key := beq_iff_eq.mp hfound
    exact hkey ▸ List.mem_of_find?_eq_some he
  · intro hmem
    cases hfind : entries.find? fun e => e.1 == key with
    | none => exact absurd (beq_self_eq_true key) (List.find?_eq_none.mp hfind _ hmem)
    | some e =>
      have hfound := List.find?_some hfind
      have hkey : e.1 = key := beq_iff_eq.mp hfound
      rw [List.inj_on_of_nodup_map h (List.mem_of_find?_eq_some hfind) hmem hkey]
      rfl

namespace TextMap

variable {α : Type}

theorem mem_map_fst_insertKey {key k : String} {value : α} {entries : List (String × α)} :
    k ∈ (insertKey key value entries).map Prod.fst ↔ k = key ∨ k ∈ entries.map Prod.fst := by
  induction entries with
  | nil => simp [insertKey]
  | cons e rest ih =>
    obtain ⟨l, v⟩ := e
    simp only [insertKey]
    split
    · simp
    split
    · rename_i heq
      simp [heq]
    · rw [List.map_cons, List.mem_cons, ih, List.map_cons, List.mem_cons]
      exact or_left_comm

theorem mem_keys_insert {m : TextMap α} {key k : String} {value : α} :
    k ∈ (m.insert key value).keys ↔ k = key ∨ k ∈ m.keys :=
  mem_map_fst_insertKey

theorem mem_keys_foldl {pairs : List (String × α)} {m : TextMap α} {k : String} :
    k ∈ (pairs.foldl (fun m p => m.insert p.1 p.2) m).keys ↔
      k ∈ m.keys ∨ k ∈ pairs.map Prod.fst := by
  induction pairs generalizing m with
  | nil => simp
  | cons p pairs ih =>
    rw [List.foldl_cons, ih, mem_keys_insert, List.map_cons, List.mem_cons, or_assoc]
    exact or_left_comm

theorem mem_keys_ofList {pairs : List (String × α)} {k : String} :
    k ∈ (ofList pairs).keys ↔ k ∈ pairs.map Prod.fst := by
  rw [ofList, mem_keys_foldl]
  simp [empty, keys]

theorem keys_ascending (m : TextMap α) : m.keys.Pairwise (· < ·) :=
  ascending_iff_keys.mp m.ascending

theorem keys_nodup (m : TextMap α) : m.keys.Nodup :=
  m.keys_ascending.imp String.ne_of_lt

theorem mem_foldl {pairs : List (String × α)} {m : TextMap α} {e : String × α}
    (h : e ∈ (pairs.foldl (fun m p => m.insert p.1 p.2) m).entries) :
    e ∈ m.entries ∨ e ∈ pairs := by
  induction pairs generalizing m with
  | nil => exact .inl h
  | cons p pairs ih =>
    rcases ih h with h | h
    · rcases mem_insertKey h with rfl | h
      · exact .inr List.mem_cons_self
      · exact .inl h
    · exact .inr (List.mem_cons_of_mem _ h)

theorem mem_of_mem_ofList {pairs : List (String × α)} {e : String × α}
    (h : e ∈ (ofList pairs).entries) : e ∈ pairs := by
  rcases mem_foldl h with h | h
  · cases h
  · exact h

theorem mem_insertKey_self {key : String} {value : α} {entries : List (String × α)} :
    (key, value) ∈ insertKey key value entries := by
  induction entries with
  | nil => exact List.mem_cons_self
  | cons e rest ih =>
    obtain ⟨k, v⟩ := e
    simp only [insertKey]
    split
    · exact List.mem_cons_self
    split
    · exact List.mem_cons_self
    · exact List.mem_cons_of_mem _ ih

theorem mem_insertKey_of_ne {key : String} {value : α} {entries : List (String × α)}
    {e : String × α} (he : e ∈ entries) (hne : e.1 ≠ key) : e ∈ insertKey key value entries := by
  induction entries with
  | nil => cases he
  | cons x rest ih =>
    obtain ⟨k, v⟩ := x
    simp only [insertKey]
    split
    · exact List.mem_cons_of_mem _ he
    split
    · rename_i heq
      rcases List.mem_cons.mp he with rfl | he
      · exact absurd heq.symm hne
      · exact List.mem_cons_of_mem _ he
    · rcases List.mem_cons.mp he with rfl | he
      · exact List.mem_cons_self
      · exact List.mem_cons_of_mem _ (ih he)

theorem mem_foldl_of_not_mem {pairs : List (String × α)} {m : TextMap α} {e : String × α}
    (he : e ∈ m.entries) (hkey : e.1 ∉ pairs.map Prod.fst) :
    e ∈ (pairs.foldl (fun m p => m.insert p.1 p.2) m).entries := by
  induction pairs generalizing m with
  | nil => exact he
  | cons p pairs ih =>
    rw [List.map_cons, List.mem_cons, not_or] at hkey
    exact ih (mem_insertKey_of_ne he hkey.1) hkey.2

/-- With one value for each key none is replaced. -/
theorem mem_ofList_of_mem {pairs : List (String × α)} {e : String × α}
    (hkeys : (pairs.map Prod.fst).Nodup) (he : e ∈ pairs) : e ∈ (ofList pairs).entries := by
  obtain ⟨before, after, rfl⟩ := List.append_of_mem he
  rw [ofList, List.foldl_append, List.foldl_cons]
  refine mem_foldl_of_not_mem mem_insertKey_self ?_
  rw [List.map_append, List.map_cons] at hkeys
  exact (List.nodup_cons.mp (List.nodup_append.mp hkeys).2.1).1

theorem nodup_of_keys {pairs : List (String × α)} (h : (pairs.map Prod.fst).Nodup) : pairs.Nodup :=
  List.Nodup.of_map _ h

/-- A map made of pairs holds them in ascending order, if no key comes up twice. -/
theorem perm_ofList {pairs : List (String × α)} (h : (pairs.map Prod.fst).Nodup) :
    (ofList pairs).entries.Perm pairs := by
  rw [List.perm_ext_iff_of_nodup (nodup_of_keys (keys_nodup _)) (nodup_of_keys h)]
  exact fun e => ⟨mem_of_mem_ofList, mem_ofList_of_mem h⟩

theorem eq_of_perm {entries entries' : List (String × α)} (h : Ascending entries)
    (h' : Ascending entries') (hperm : entries.Perm entries') : entries = entries' :=
  hperm.eq_of_pairwise (fun _ _ _ _ hlt hgt => absurd hgt (String.lt_asymm hlt)) h h'

theorem insertKey_append {key : String} {value : α} {entries : List (String × α)}
    (h : ∀ e ∈ entries, e.1 < key) : insertKey key value entries = entries ++ [(key, value)] := by
  induction entries with
  | nil => rfl
  | cons e rest ih =>
    obtain ⟨k, v⟩ := e
    rw [List.forall_mem_cons] at h
    rw [insertKey, if_neg (String.lt_asymm h.1), if_neg (String.ne_of_lt h.1).symm, ih h.2,
      List.cons_append]

theorem entries_foldl {pairs : List (String × α)} {m : TextMap α}
    (h : Ascending (m.entries ++ pairs)) :
    (pairs.foldl (fun m p => m.insert p.1 p.2) m).entries = m.entries ++ pairs := by
  induction pairs generalizing m with
  | nil => exact (List.append_nil _).symm
  | cons p pairs ih =>
    have hinsert : (m.insert p.1 p.2).entries = m.entries ++ [p] :=
      insertKey_append fun e he => (List.pairwise_append.mp h).2.2 e he p List.mem_cons_self
    rw [List.foldl_cons, ih (by rwa [hinsert, List.append_assoc]), hinsert, List.append_assoc]
    rfl

theorem entries_ofList {pairs : List (String × α)} (h : Ascending pairs) :
    (ofList pairs).entries = pairs :=
  entries_foldl h

end TextMap

theorem Json.readTextMap_ok_keys {α : Type} {read : Json.Reading α}
    {fields : List (String × Json)} {m : TextMap α}
    (h : Json.readTextMap read (.obj fields) = .ok m) (k : String) :
    k ∈ m.keys ↔ k ∈ fields.map Prod.fst := by
  rw [TextMap.keys_of_mapM h]
  exact TextMap.mem_keys_ofList

/-- Every value of an object that is read as a map is read. -/
theorem Json.exists_of_readTextMap {α : Type} {read : Json.Reading α}
    {fields : List (String × Json)} {m : TextMap α} {key : String} {w : Json}
    (hkeys : (fields.map Prod.fst).Nodup) (h : Json.readTextMap read (.obj fields) = .ok m)
    (hw : Json.field? key (.obj fields) = some w) : ∃ x, read w = .ok x := by
  obtain ⟨e, he, rfl⟩ := Option.map_eq_some_iff.mp hw
  have hentry := TextMap.mem_ofList_of_mem hkeys (List.mem_of_find?_eq_some he)
  exact TextMap.mapM_isOk_iff.mp ⟨m, h⟩ e hentry

end BacktestDesk
