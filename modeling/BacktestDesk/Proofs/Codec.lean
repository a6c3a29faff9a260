import BacktestDesk.Proofs.ProperDocument

/-!
# BacktestDesk.Proofs.Codec

Readers and writers of documents that belong together. A document may come back otherwise than it
was handed on: as text its numbers are read again, and the fields of its objects are put into order.
`Json.Retelling` is what all such ways have in common, and `Json.Codec` a reader and a writer, with
what is read of a document that was written and told again.

* `Codec.list`, `Codec.textMap`: lists of values, and maps by text.
* `Codec.read_tell`, `Codec.read_write`: a value is read back as it is if none of its numbers is
  changed, and so it is when its document stays as it is.
* `none_iff_of_readOption`: what is missing or `null` is read as no value.
-/

namespace BacktestDesk

variable {α β : Type}

/-! ## Maps in another order -/

namespace TextMap

/-- Every value of a map by a function. -/
def map (f : α → β) (m : TextMap α) : TextMap β :=
  ⟨m.entries.map fun e => (e.1, f e.2),
    List.pairwise_map.mpr (m.ascending.imp fun hlt => hlt)⟩

theorem map_eq_self {f : α → α} {m : TextMap α} (h : ∀ e ∈ m.entries, f e.2 = e.2) :
    m.map f = m := by
  refine ext_entries ?_
  calc (m.map f).entries = m.entries.map id :=
        List.map_congr_left fun e he => Prod.ext rfl (h e he)
    _ = m.entries := List.map_id _

end TextMap

namespace Json

/-- With one value for each key, the value of a field is the one that stands with its name. -/
theorem field?_eq_some_iff {fields : List (String × Json)} (h : (fields.map Prod.fst).Nodup)
    {name : String} {v : Json} : field? name (.obj fields) = some v ↔ (name, v) ∈ fields :=
  value_eq_some_iff h

/-- The order of the fields does not count. -/
theorem field?_of_perm {fields fields' : List (String × Json)} (h : fields.Perm fields')
    (hkeys : (fields'.map Prod.fst).Nodup) (name : String) :
    field? name (.obj fields) = field? name (.obj fields') := by
  have hkeys' : (fields.map Prod.fst).Nodup := (h.map Prod.fst).nodup_iff.mpr hkeys
  ext v
  rw [field?_eq_some_iff hkeys', field?_eq_some_iff hkeys, h.mem_iff]

theorem field?_map (tell : Json → Json) (fields : List (String × Json)) (name : String) :
    field? name (.obj (fields.map fun e => (e.1, tell e.2))) =
      (field? name (.obj fields)).map tell := by
  simp only [field?, List.find?_map, Option.map_map]
  rfl

/-! ## Retelling -/

/-- A way in which documents come back. Each number becomes another one, and the fields of an object
may be in another order. -/
structure Retelling where
  tell : Json → Json
  number : Double → Double
  null : tell .null = .null
  int : ∀ z, tell (.int z) = .int z
  float : ∀ x, tell (.float x) = .float (number x)
  str : ∀ s, tell (.str s) = .str s
  arr : ∀ items, tell (.arr items) = .arr (items.map tell)
  obj : ∀ fields, (fields.map Prod.fst).Nodup → ∃ fields', tell (.obj fields) = .obj fields' ∧
    fields'.Perm (fields.map fun e => (e.1, tell e.2))

namespace Retelling

/-- Documents that stay as they are. -/
def same : Retelling where
  tell := id
  number := id
  null := rfl
  int _ := rfl
  float _ := rfl
  str _ := rfl
  arr items := by simp
  obj fields _ := ⟨fields, rfl, by simp⟩

variable (t : Retelling)

theorem keys_map_tell (fields : List (String × Json)) :
    (fields.map fun e => (e.1, t.tell e.2)).map Prod.fst = fields.map Prod.fst :=
  List.map_map

/-- The value of a field comes back under its name. -/
theorem field?_tell {fields fields' : List (String × Json)} (hkeys : (fields.map Prod.fst).Nodup)
    (h : fields'.Perm (fields.map fun e => (e.1, t.tell e.2))) (name : String) :
    field? name (.obj fields') = (field? name (.obj fields)).map t.tell := by
  rw [field?_of_perm h (by rwa [t.keys_map_tell]), field?_map]

end Retelling

/-! ## Nested values -/

/-- A value opens no more than `depth` brackets inside one another. -/
def Within : Nat → Json → Prop
  | 0, .arr _ => False
  | 0, .obj _ => False
  | depth + 1, .arr items => ∀ v ∈ items, Within depth v
  | depth + 1, .obj fields => ∀ e ∈ fields, Within depth e.2
  | _, _ => True

theorem Within.null (depth : Nat) : Json.null.Within depth := by
  cases depth <;> trivial

theorem Within.mono {depth depth' : Nat} {v : Json} (h : v.Within depth) (hle : depth ≤ depth') :
    v.Within depth' := by
  induction depth generalizing depth' v with
  | zero => cases v <;> first | exact h.elim | (cases depth' <;> trivial)
  | succ depth ih =>
    obtain ⟨depth', rfl⟩ := Nat.exists_eq_add_one_of_ne_zero (Nat.ne_of_gt (Nat.lt_of_lt_of_le
      (Nat.succ_pos depth) hle))
    have hle := Nat.le_of_succ_le_succ hle
    cases v with
    | arr items => exact fun w hw => ih (h w hw) hle
    | obj fields => exact fun e he => ih (h e he) hle
    | _ => trivial

/-! ## Codecs -/

/-- A reader and a writer. The numbers of a value have to fit for it to be written, and they do when
it was read. What is read of a document that was written and told again is the value `again`, made
of the numbers that came back. -/
structure Codec (α : Type) where
  read : Reading α
  write : α → Json
  Fits : α → Prop
  numbers : α → List Double
  again : (Double → Double) → α → α
  depth : Nat
  fits : ∀ {v x}, v.Proper → read v = .ok x → Fits x
  back : ∀ (t : Retelling) {x}, Fits x → read (t.tell (write x)) = .ok (again t.number x)
  fixed : ∀ {f x}, (∀ y ∈ numbers x, f y = y) → again f x = x
  null : ∀ {x}, read .null ≠ .ok x
  proper : ∀ {x}, Fits x → (write x).Proper
  within : ∀ {x}, Fits x → (write x).Within depth

namespace Codec

theorem read_tell (c : Codec α) {t : Retelling} {x : α} (h : c.Fits x)
    (hfixed : ∀ y ∈ c.numbers x, t.number y = y) : c.read (t.tell (c.write x)) = .ok x := by
  rw [c.back t h, c.fixed hfixed]

theorem read_write (c : Codec α) {x : α} (h : c.Fits x) : c.read (c.write x) = .ok x :=
  c.read_tell (t := .same) h fun _ _ => rfl

/-! ## Single values -/

/-- A value without numbers. -/
def plain (read : Reading α) (write : α → Json) (depth : Nat)
    (back : ∀ (t : Retelling) x, read (t.tell (write x)) = .ok x)
    (null : ∀ x, read .null ≠ .ok x) (proper : ∀ x, (write x).Proper)
    (within : ∀ x, (write x).Within depth) : Codec α where
  read := read
  write := write
  Fits _ := True
  numbers _ := []
  again _ x := x
  depth := depth
  fits _ _ := trivial
  back t x _ := back t x
  fixed _ := rfl
  null := null _
  proper _ := proper _
  within _ := within _

def text : Codec String :=
  plain readText .str 0 (fun t s => by rw [t.str]; rfl) (fun _ h => by cases h) .str
    fun _ => trivial

theorem write_real {x : Double} (h : x.isFinite) : ofDouble x = .float x :=
  if_pos h

def real : Codec Double where
  read := readReal
  write := ofDouble
  Fits x := x.isFinite
  numbers x := [x]
  again f := f
  depth := 0
  fits := by
    intro v x hv h
    cases hv with
    | int least greatest =>
      cases h
      refine Double.ofInt_isFinite ?_
      rw [minInt] at least
      rw [maxInt] at greatest
      omega
    | float finite =>
      cases h
      exact finite
    | _ => cases h
  back := by
    intro t x h
    rw [write_real h, t.float]
    rfl
  fixed h := h _ List.mem_cons_self
  null h := by cases h
  proper h := by
    rw [write_real h]
    exact .float h
  within h := by
    rw [write_real h]
    trivial

end Codec

theorem readWhole_ok_iff {wanted : Wanted} {least bound z : Int} {v : Json} :
    readWhole wanted least bound v = .ok z ↔ v = .int z ∧ least ≤ z ∧ z < bound := by
  cases v with
  | int y =>
    simp only [readWhole]
    split
    · rename_i hy
      simp only [Except.ok.injEq, Json.int.injEq]
      exact ⟨fun h => ⟨h, h ▸ hy⟩, And.left⟩
    · rename_i hy
      simp only [Json.int.injEq, reduceCtorEq, false_iff]
      rintro ⟨rfl, hz⟩
      exact hy hz
  | _ => simp [readWhole]

theorem readNat_ok_iff {wanted : Wanted} {bound n : Nat} {v : Json} :
    readNat wanted bound v = .ok n ↔ v = ofNat n ∧ n < bound := by
  simp only [readNat]
  constructor
  · intro h
    split at h
    · cases h
    · rename_i z hz
      cases h
      obtain ⟨rfl, hleast, hbound⟩ := readWhole_ok_iff.mp hz
      rw [ofNat, Int.toNat_of_nonneg hleast]
      exact ⟨rfl, by omega⟩
  · rintro ⟨rfl, hn⟩
    have hwhole : readWhole wanted 0 bound (ofNat n) = .ok n :=
      readWhole_ok_iff.mpr ⟨rfl, Int.natCast_nonneg n, Int.ofNat_lt.mpr hn⟩
    rw [hwhole]
    rfl

namespace Codec

/-- Whole numbers that a reader takes exactly when they are in its range. -/
def whole (read : Reading α) (write : α → Int) (InRange : α → Prop)
    (read_ok_iff : ∀ {v x}, read v = .ok x ↔ v = .int (write x) ∧ InRange x)
    (bounds : ∀ {x}, InRange x → minInt ≤ write x ∧ write x ≤ maxInt) : Codec α where
  read := read
  write x := .int (write x)
  Fits := InRange
  numbers _ := []
  again _ x := x
  depth := 0
  fits _ h := (read_ok_iff.mp h).2
  back t x h := by
    rw [t.int]
    exact read_ok_iff.mpr ⟨rfl, h⟩
  fixed _ := rfl
  null h := by cases (read_ok_iff.mp h).1
  proper h := proper_int_iff.mpr (bounds h)
  within _ := trivial

/-- Whole numbers of 64 bits, one of them for the sign. -/
def signed64 : Codec Int :=
  whole readSigned64 id (fun z => -0x8000000000000000 ≤ z ∧ z < 0x8000000000000000)
    readWhole_ok_iff fun h => by
      simp only [id, minInt, maxInt]
      omega

def unsigned64 : Codec Nat :=
  whole readUnsigned64 Int.ofNat (· < 0x10000000000000000) readNat_ok_iff fun h => by
    simp only [Int.ofNat_eq_natCast, minInt, maxInt]
    omega

def unsigned32 : Codec Nat :=
  whole readUnsigned32 Int.ofNat (· < 0x100000000) readNat_ok_iff fun h => by
    simp only [Int.ofNat_eq_natCast, minInt, maxInt]
    omega

end Codec

/-! ## Collections -/

theorem readAll_ok_iff {read : Reading α} {vs : List Json} {xs : List α} :
    readAll read vs = .ok xs ↔ List.Forall₂ (fun v x => read v = .ok x) vs xs := by
  induction vs generalizing xs with
  | nil => cases xs <;> simp [readAll]
  | cons v vs ih =>
    simp only [readAll]
    cases hv : read v with
    | error e => cases xs <;> simp [hv]
    | ok x =>
      cases hvs : readAll read vs with
      | error e => cases xs <;> simp [← ih, hvs]
      | ok ys => cases xs <;> simp [← ih, hvs, hv]

theorem readList_ok_iff {read : Reading α} {v : Json} {xs : List α} :
    readList read v = .ok xs ↔
      ∃ items, v = .arr items ∧ List.Forall₂ (fun v x => read v = .ok x) items xs := by
  cases v with
  | arr items => simp [readList, readAll_ok_iff]
  | _ => simp [readList]

theorem forall_of_forall₂ {R : α → β → Prop} {P : α → Prop} {Q : β → Prop}
    {xs : List α} {ys : List β} (h : List.Forall₂ R xs ys) (hxs : ∀ x ∈ xs, P x)
    (hQ : ∀ x y, P x → R x y → Q y) : ∀ y ∈ ys, Q y := by
  induction h with
  | nil => exact List.forall_mem_nil _
  | cons hxy _ ih =>
    rw [List.forall_mem_cons] at hxs ⊢
    exact ⟨hQ _ _ hxs.1 hxy, ih hxs.2⟩

namespace Codec

def list (c : Codec α) : Codec (List α) where
  read := readList c.read
  write := ofList c.write
  Fits xs := ∀ x ∈ xs, c.Fits x
  numbers xs := xs.flatMap c.numbers
  again f xs := xs.map (c.again f)
  depth := c.depth + 1
  fits := by
    intro v xs hv hxs
    obtain ⟨items, rfl, hitems⟩ := readList_ok_iff.mp hxs
    exact forall_of_forall₂ hitems (proper_arr_iff.mp hv) fun _ _ => c.fits
  back := by
    intro t xs hxs
    rw [ofList, t.arr, readList_ok_iff]
    refine ⟨_, rfl, ?_⟩
    rw [List.map_map, List.forall₂_map_left_iff, List.forall₂_map_right_iff]
    exact List.forall₂_same.mpr fun x hx => c.back t (hxs x hx)
  fixed := by
    intro f xs h
    calc xs.map (c.again f) = xs.map id :=
          List.map_congr_left fun x hx => c.fixed fun y hy => h y (List.mem_flatMap_of_mem hx hy)
      _ = xs := List.map_id _
  null h := by cases h
  proper hxs := by
    rw [ofList, proper_arr_iff, List.forall_mem_map]
    exact fun x hx => c.proper (hxs x hx)
  within hxs := List.forall_mem_map.mpr fun x hx => c.within (hxs x hx)

def textMap (c : Codec α) : Codec (TextMap α) where
  read := readTextMap c.read
  write := ofTextMap c.write
  Fits m := ∀ e ∈ m.entries, c.Fits e.2
  numbers m := m.entries.flatMap fun e => c.numbers e.2
  again f m := m.map (c.again f)
  depth := c.depth + 1
  fits := by
    intro v m hv hm
    cases hv with
    | obj _ hproper =>
      refine forall_of_forall₂ (P := fun e : String × Json => e.2.Proper)
        (TextMap.mapM_ok_iff.mp hm) (fun e he => ?_) fun _ _ hP hR => c.fits hP hR.2
      exact hproper e (TextMap.mem_of_mem_ofList he)
    | _ => cases hm
  back := by
    intro t m hm
    have hkeys : ((m.map c.write).entries.map Prod.fst).Nodup := TextMap.keys_nodup _
    obtain ⟨fields, htell, hperm⟩ := t.obj (m.map c.write).entries hkeys
    have hkeys' : (fields.map Prod.fst).Nodup := by
      rwa [(hperm.map Prod.fst).nodup_iff, t.keys_map_tell]
    -- In ascending order the fields are those that were written.
    have hentries : (TextMap.ofList fields).entries = ((m.map c.write).map t.tell).entries :=
      TextMap.eq_of_perm (TextMap.ascending _) (TextMap.ascending _)
        ((TextMap.perm_ofList hkeys').trans hperm)
    rw [ofTextMap]
    rw [TextMap.map] at htell
    rw [htell, readTextMap, TextMap.mapM_ok_iff, hentries]
    simp only [TextMap.map, List.map_map, List.forall₂_map_left_iff, List.forall₂_map_right_iff]
    exact List.forall₂_same.mpr fun e he => ⟨rfl, c.back t (hm e he)⟩
  fixed h := TextMap.map_eq_self fun e he => c.fixed fun y hy =>
    h y (List.mem_flatMap.mpr ⟨e, he, hy⟩)
  null h := by cases h
  proper hm := by
    rw [ofTextMap, proper_obj_iff, List.forall_mem_map]
    exact ⟨TextMap.keys_nodup (TextMap.map _ _), fun e he => c.proper (hm e he)⟩
  within hm := List.forall_mem_map.mpr fun e he => c.within (hm e he)

end Codec

/-! ## Values that may be missing -/

theorem readOption_of_ne_null {read : Reading α} {v : Json} (hv : v ≠ .null) {o : Option α} :
    readOption read v = .ok o ↔ ∃ x, read v = .ok x ∧ o = some x := by
  rw [readOption.eq_2 read v hv]
  cases read v <;> simp [eq_comm]

/-- A value that is missing or `null` is read as none, and no other is. -/
theorem none_iff_of_readOption {read : Reading α} {part : Option Json} {o : Option α}
    (ho : readOption read (part.getD .null) = .ok o) :
    o = none ↔ part = none ∨ part = some .null := by
  cases part with
  | none =>
    cases ho
    simp
  | some w =>
    by_cases hnull : w = .null
    · subst hnull
      cases ho
      simp
    · obtain ⟨x, -, rfl⟩ := (readOption_of_ne_null hnull).mp ho
      simp [hnull]

namespace Codec

variable (c : Codec α)

theorem fits_option {v : Json} (hv : v.Proper) {o : Option α} (ho : readOption c.read v = .ok o) :
    ∀ x ∈ o, c.Fits x := by
  by_cases hnull : v = .null
  · subst hnull
    cases ho
    exact fun x hx => absurd hx (Option.not_mem_none x)
  · obtain ⟨x, hx, rfl⟩ := (readOption_of_ne_null hnull).mp ho
    rintro y hy
    cases hy
    exact c.fits hv hx

theorem back_option (t : Retelling) {o : Option α} (ho : ∀ x ∈ o, c.Fits x) :
    readOption c.read (t.tell (ofOption c.write o)) = .ok (o.map (c.again t.number)) := by
  cases o with
  | none =>
    rw [ofOption, t.null]
    rfl
  | some x =>
    have hx := c.back t (ho x rfl)
    have hnull : t.tell (c.write x) ≠ .null := fun heq => c.null (heq ▸ hx)
    exact (readOption_of_ne_null hnull).mpr ⟨_, hx, rfl⟩

end Codec
end Json
end BacktestDesk
