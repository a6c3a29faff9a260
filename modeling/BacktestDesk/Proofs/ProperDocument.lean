import BacktestDesk.Proofs.DocumentNumber
import BacktestDesk.Proofs.RecordReading

/-!
# BacktestDesk.Proofs.ProperDocument

Which documents there are. The type of documents has more values than the format: a proper one keeps
to whole numbers of 64 bits, to finite numbers and to one value for each key.

`Json.ofBytes?_proper` says that every document that is read from text is proper.
-/

namespace BacktestDesk

/-! ## Proper documents -/

namespace Json

/-- A value of the format: whole numbers fit 64 bits, all others are finite, and an object has one
value for a key. -/
inductive Proper : Json → Prop where
  | null : Proper .null
  | bool (b : Bool) : Proper (.bool b)
  | int {z : Int} (least : minInt ≤ z) (greatest : z ≤ maxInt) : Proper (.int z)
  | float {x : Double} (finite : x.isFinite = true) : Proper (.float x)
  | str (s : String) : Proper (.str s)
  | arr {items : List Json} (proper : ∀ v ∈ items, Proper v) : Proper (.arr items)
  | obj {fields : List (String × Json)} (keys : (fields.map Prod.fst).Nodup)
      (proper : ∀ e ∈ fields, Proper e.2) : Proper (.obj fields)

attribute [simp] Proper.null Proper.bool Proper.str

@[simp] theorem proper_int_iff {z : Int} : (int z).Proper ↔ minInt ≤ z ∧ z ≤ maxInt := by
  constructor
  · rintro ⟨⟩
    exact ⟨‹_›, ‹_›⟩
  · rintro ⟨hleast, hgreatest⟩
    exact .int hleast hgreatest

@[simp] theorem proper_arr_iff {items : List Json} :
    (arr items).Proper ↔ ∀ v ∈ items, v.Proper := by
  constructor
  · rintro ⟨⟩
    assumption
  · exact .arr

@[simp] theorem proper_obj_iff {fields : List (String × Json)} :
    (obj fields).Proper ↔ (fields.map Prod.fst).Nodup ∧ ∀ e ∈ fields, e.2.Proper := by
  constructor
  · rintro ⟨⟩
    exact ⟨‹_›, ‹_›⟩
  · rintro ⟨hkeys, hproper⟩
    exact .obj hkeys hproper

theorem Proper.of_field? {key : String} {fields : List (String × Json)} {v : Json}
    (h : ∀ e ∈ fields, Proper e.2) (hv : field? key (.obj fields) = some v) : v.Proper := by
  obtain ⟨e, he, rfl⟩ := Option.map_eq_some_iff.mp hv
  exact h e (List.mem_of_find?_eq_some he)

end Json

/-! ## Reading -/

namespace Json.Reader

theorem collect_eq (fields : List (String × Json)) :
    collect fields = (TextMap.ofList fields).entries := by
  have hfold : ∀ m : TextMap Json, fields.foldl (fun m e => insertKey e.1 e.2 m) m.entries =
      (fields.foldl (fun m p => m.insert p.1 p.2) m).entries := by
    induction fields with
    | nil => exact fun m => rfl
    | cons e fields ih => exact fun m => ih (m.insert e.1 e.2)
  exact hfold .empty

theorem proper_collect {fields : List (String × Json)} (h : ∀ e ∈ fields, e.2.Proper) :
    (Json.obj (collect fields)).Proper := by
  rw [collect_eq]
  exact .obj (TextMap.keys_nodup _) fun e he => h e (TextMap.mem_of_mem_ofList he)

theorem numberValue_proper {negative : Bool} {whole fraction : List Char} {exponent : Option Int}
    {v : Json} (h : numberValue negative whole fraction exponent = some v) : v.Proper := by
  simp only [numberValue] at h
  generalize
      (if negative = true then -(Numeral.ofDigits whole : Int) else Numeral.ofDigits whole) = z
    at h
  split at h
  · rename_i hint
    cases h
    simp only [Bool.and_eq_true, decide_eq_true_eq] at hint
    exact .int hint.1.2 hint.2
  · obtain ⟨x, hx, rfl⟩ := Option.map_eq_some_iff.mp h
    exact .float (real?_isFinite hx)

theorem number_proper {cs rest : List Char} {v : Json} (h : number cs = some (v, rest)) :
    v.Proper := by
  simp only [number] at h
  split at h
  · cases h
  split at h
  · cases h
  split at h
  · cases h
  obtain ⟨w, hw, hv⟩ := Option.map_eq_some_iff.mp h
  cases hv
  exact numberValue_proper hw

theorem scalar_proper {cs rest : List Char} {v : Json} (h : scalar cs = some (v, rest)) :
    v.Proper := by
  rw [scalar.eq_def] at h
  split at h
  · cases h
    exact .null
  · cases h
    exact .bool true
  · cases h
    exact .bool false
  · obtain ⟨r, -, hv⟩ := Option.map_eq_some_iff.mp h
    cases hv
    exact .str _
  · exact number_proper h

section

variable {α : Type} {item : List Char → Read α} {P : α → Prop}
  (hitem : ∀ {cs x rest}, item cs = some (x, rest) → P x)

include hitem

theorem forall_items {close : Char} {limit : Nat} {cs rest : List Char} {xs : List α}
    (h : items item close limit cs = some (xs, rest)) : ∀ x ∈ xs, P x := by
  induction limit generalizing cs xs with
  | zero => cases h
  | succ limit ih =>
    rw [items] at h
    split at h
    · cases h
    rename_i x behind hx
    split at h
    · cases h
    split at h
    · cases h
      exact List.forall_mem_singleton.mpr (hitem hx)
    split at h
    · split at h
      · cases h
      · rename_i hxs
        cases h
        exact List.forall_mem_cons.mpr ⟨hitem hx, ih hxs⟩
    · cases h

theorem forall_bracketed {close : Char} {limit : Nat} {cs rest : List Char} {xs : List α}
    (h : bracketed item close limit cs = some (xs, rest)) : ∀ x ∈ xs, P x := by
  rw [bracketed] at h
  split at h
  · cases h
  split at h
  · cases h
    exact List.forall_mem_nil _
  · exact forall_items hitem h

end

theorem member_proper {value : List Char → Read Json}
    (hvalue : ∀ {cs v rest}, value cs = some (v, rest) → v.Proper) {cs rest : List Char}
    {e : String × Json} (h : member value cs = some (e, rest)) : e.2.Proper := by
  rw [member.eq_def] at h
  split at h
  · split at h
    · cases h
    split at h
    · obtain ⟨r, hr, he⟩ := Option.map_eq_some_iff.mp h
      cases he
      exact hvalue hr
    · cases h
  · cases h

theorem value_proper {limit depth : Nat} {cs rest : List Char} {v : Json}
    (h : value limit depth cs = some (v, rest)) : v.Proper := by
  -- Each bracket leaves one level less for the values behind it.
  induction depth generalizing cs rest v with
  | zero => exact scalar_proper (by simpa only [value] using h)
  | succ depth ih =>
    rw [value.eq_def] at h
    split at h
    · rename_i hdepth
      cases hdepth
      obtain ⟨r, hr, hv⟩ := Option.map_eq_some_iff.mp h
      cases hv
      exact .arr (forall_bracketed ih hr)
    · rename_i hdepth
      cases hdepth
      obtain ⟨r, hr, hv⟩ := Option.map_eq_some_iff.mp h
      cases hv
      exact proper_collect (forall_bracketed (member_proper ih) hr)
    · exact scalar_proper h

end Json.Reader

namespace Json

theorem ofChars?_proper {cs : List Char} {v : Json} (h : ofChars? cs = some v) : v.Proper := by
  rw [ofChars?] at h
  split at h
  · cases h
  split at h
  · rename_i hv _
    cases h
    exact Reader.value_proper hv
  · cases h

/-- Every document that arrives is proper. -/
theorem ofBytes?_proper {bytes : List UInt8} {v : Json} (h : ofBytes? bytes = some v) :
    v.Proper := by
  rw [ofBytes?] at h
  split at h
  · cases h
  · exact ofChars?_proper h

end Json
end BacktestDesk
