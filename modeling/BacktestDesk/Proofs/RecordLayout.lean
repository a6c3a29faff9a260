import BacktestDesk.Proofs.Codec

/-!
# BacktestDesk.Proofs.RecordLayout

Records as rows of fields. A `Slot` says how one field is read and written, and a `Layout` puts one
slot behind the other. What holds of a record is said once, by recursion over its slots.

* `Layout.ensures`: of what document each part of a record was read that was read at all.
* `Layout.gives`: what is read where every field stands under its name.
* `Layout.codec`: a record is read and written, if each of its slots is.
-/

namespace BacktestDesk
namespace Json

/-! ## Slots -/

/-- A field of a record. One that may be missing has its place in an array (`placed`) or may be
missing from the end of one as well, and is written as `null` (`shown`) or left out. -/
inductive Slot : Type → Type 1 where
  | required {α : Type} (name : String) (codec : Codec α) : Slot α
  | optional {α : Type} (name : String) (codec : Codec α) (placed shown : Bool) : Slot (Option α)

namespace Slot

variable {α : Type}

def name : Slot α → String
  | required name _ => name
  | optional name _ _ _ => name

def isOptional : Slot α → Bool
  | required _ _ => false
  | optional _ _ _ _ => true

def fields : Slot α → Fields α
  | required name c => .required name c.read
  | optional name c true _ => .optional name c.read
  | optional name c false _ => .defaulted name c.read

def entries : Slot α → α → List (String × Json)
  | required name c, x => [(name, c.write x)]
  | optional name c _ true, o => [(name, ofOption c.write o)]
  | optional name c _ false, o => optionalField name c.write o

def Fits : Slot α → α → Prop
  | required _ c, x => c.Fits x
  | optional _ c _ _, o => ∀ x ∈ o, c.Fits x

def numbers : Slot α → α → List Double
  | required _ c, x => c.numbers x
  | optional _ c _ _, o => o.toList.flatMap c.numbers

def again (f : Double → Double) : Slot α → α → α
  | required _ c, x => c.again f x
  | optional _ c _ _, o => o.map (c.again f)

def depth : Slot α → Nat
  | required _ c => c.depth
  | optional _ c _ _ => c.depth

/-- What is read of a field, by what the document has for it. -/
def Reads : Slot α → Option Json → α → Prop
  | required _ c, part, x => ∃ v, part = some v ∧ c.read v = .ok x
  | optional _ c _ _, part, o => readOption c.read (part.getD .null) = .ok o

/-- What a document has for a field, once it was written and told again. -/
def Told (t : Retelling) : Slot α → Option Json → α → Prop
  | required _ c, part, x => part = some (t.tell (c.write x))
  | optional _ c _ _, part, o => part.getD .null = t.tell (ofOption c.write o)

theorem size_fields (slot : Slot α) : slot.fields.size = 1 := by
  cases slot with
  | required => rfl
  | optional name c placed => cases placed <;> rfl

theorem ensures (slot : Slot α) (v : Json) (place : Nat) :
    slot.fields.Ensures v place (slot.Reads (part? slot.name place v)) := by
  cases slot with
  | required => exact .required
  | optional name c placed =>
    cases placed with
    | true => exact .optional
    | false => exact .defaulted

theorem fits_of_reads (slot : Slot α) {part : Option Json} (hpart : ∀ v ∈ part, v.Proper) {x : α}
    (h : slot.Reads part x) : slot.Fits x := by
  cases slot with
  | required name c =>
    obtain ⟨v, rfl, hv⟩ := h
    exact c.fits (hpart v rfl) hv
  | optional name c =>
    refine c.fits_option ?_ h
    cases part with
    | none => exact .null
    | some v => exact hpart v rfl

theorem reads_of_told (slot : Slot α) {t : Retelling} {part : Option Json} {x : α}
    (hfits : slot.Fits x) (h : slot.Told t part x) : slot.Reads part (slot.again t.number x) := by
  cases slot with
  | required name c => exact ⟨_, h, c.back t hfits⟩
  | optional name c => exact (congrArg (readOption c.read) h).trans (c.back_option t hfits)

theorem again_of_fixed (slot : Slot α) {f : Double → Double} {x : α}
    (h : ∀ y ∈ slot.numbers x, f y = y) : slot.again f x = x := by
  cases slot with
  | required name c => exact c.fixed h
  | optional name c =>
    cases x with
    | none => rfl
    | some x => exact congrArg some (c.fixed fun y hy => h y (by simpa [numbers] using hy))

/-- A field that is found in an object is read there as it would be read anywhere. -/
theorem gives (slot : Slot α) {fields : List (String × Json)} {x : α}
    (h : slot.Reads (field? slot.name (.obj fields)) x) : slot.fields.ofObject fields = .ok x := by
  cases slot with
  | required name c => exact Fields.required_ofObject_ok_iff.mpr h
  | optional name c placed =>
    have habsent : ∀ short, (Fields.field name (readOption c.read) (some none) short).ofObject
        fields = .ok x := by
      intro short
      simp only [Reads, Slot.name, field?] at h
      simp only [Fields.field]
      cases hfound : fields.find? fun e => e.1 == name with
      | none =>
        rw [hfound] at h
        cases h
        rfl
      | some e =>
        rw [hfound, Option.map_some, Option.getD_some] at h
        simp only [h]
    cases placed with
    | true => exact habsent none
    | false => exact habsent (some none)

theorem keys_entries (slot : Slot α) (x : α) : ∀ e ∈ slot.entries x, e.1 = slot.name := by
  cases slot with
  | required => exact List.forall_mem_singleton.mpr rfl
  | optional name c placed shown =>
    cases shown with
    | true => exact List.forall_mem_singleton.mpr rfl
    | false =>
      cases x with
      | none => exact List.forall_mem_nil _
      | some x => exact List.forall_mem_singleton.mpr rfl

theorem nodup_keys_entries (slot : Slot α) (x : α) : ((slot.entries x).map Prod.fst).Nodup := by
  cases slot with
  | required => exact List.nodup_singleton _
  | optional name c placed shown =>
    cases shown with
    | true => exact List.nodup_singleton _
    | false =>
      cases x with
      | none => exact List.nodup_nil
      | some x => exact List.nodup_singleton _

theorem told_entries (slot : Slot α) (t : Retelling) (x : α) :
    slot.Told t ((field? slot.name (.obj (slot.entries x))).map t.tell) x := by
  have hfound : ∀ {name : String} {v : Json}, field? name (.obj [(name, v)]) = some v :=
    fun {name _} => by simp [field?]
  cases slot with
  | required name c => exact congrArg (Option.map t.tell) hfound
  | optional name c placed shown =>
    cases shown with
    | true =>
      exact congrArg (fun part => (Option.map t.tell part).getD .null) hfound
    | false =>
      cases x with
      | none => exact t.null.symm
      | some x => exact congrArg (fun part => (Option.map t.tell part).getD .null) hfound

theorem proper_entries (slot : Slot α) {x : α} (h : slot.Fits x) :
    ∀ e ∈ slot.entries x, e.2.Proper ∧ e.2.Within slot.depth := by
  cases slot with
  | required name c => exact List.forall_mem_singleton.mpr ⟨c.proper h, c.within h⟩
  | optional name c placed shown =>
    cases x with
    | none =>
      cases shown with
      | true => exact List.forall_mem_singleton.mpr ⟨.null, Within.null _⟩
      | false => exact List.forall_mem_nil _
    | some x =>
      cases shown with
      | true => exact List.forall_mem_singleton.mpr ⟨c.proper (h x rfl), c.within (h x rfl)⟩
      | false => exact List.forall_mem_singleton.mpr ⟨c.proper (h x rfl), c.within (h x rfl)⟩

end Slot

/-! ## Layouts -/

/-- The fields of a record of type `σ`, each with the part of the record that it holds. What is
built of them has the type `β`, which is that of the constructor before the first field. -/
inductive Layout (σ : Type) : Type → Type 1 where
  | none {β : Type} (x : β) : Layout σ β
  | and {α β : Type} (front : Layout σ (α → β)) (slot : Slot α) (get : σ → α) : Layout σ β

namespace Layout

variable {σ β : Type}

/-- One part for each field. -/
def Parts : {β : Type} → Layout σ β → Type
  | _, none _ => Unit
  | _, @and _ α _ front _ _ => front.Parts × α

def build : {β : Type} → (l : Layout σ β) → l.Parts → β
  | _, none x, _ => x
  | _, and front _ _, p => front.build p.1 p.2

def parts : {β : Type} → (l : Layout σ β) → σ → l.Parts
  | _, none _, _ => ()
  | _, and front _ get, s => (front.parts s, get s)

def size : {β : Type} → Layout σ β → Nat
  | _, none _ => 0
  | _, and front _ _ => front.size + 1

def names : {β : Type} → Layout σ β → List String
  | _, none _ => []
  | _, and front slot _ => front.names ++ [slot.name]

def fields : {β : Type} → Layout σ β → Fields β
  | _, none x => .none x
  | _, and front slot _ => front.fields.and slot.fields

def entries : {β : Type} → (l : Layout σ β) → l.Parts → List (String × Json)
  | _, none _, _ => []
  | _, and front slot _, p => front.entries p.1 ++ slot.entries p.2

def numbers : {β : Type} → (l : Layout σ β) → l.Parts → List Double
  | _, none _, _ => []
  | _, and front slot _, p => front.numbers p.1 ++ slot.numbers p.2

def again (f : Double → Double) : {β : Type} → (l : Layout σ β) → l.Parts → l.Parts
  | _, none _, _ => ()
  | _, and front slot _, p => (front.again f p.1, slot.again f p.2)

def depth : {β : Type} → Layout σ β → Nat
  | _, none _ => 0
  | _, and front slot _ => max front.depth slot.depth

def onlyOptional : {β : Type} → Layout σ β → Bool
  | _, none _ => true
  | _, and front slot _ => front.onlyOptional && slot.isOptional

/-- A claim about every slot, its place and its part, from the first slot to the last, and one more
claim behind them. -/
def All (claim : ∀ {α : Type}, Slot α → Nat → α → Prop) :
    {β : Type} → (l : Layout σ β) → l.Parts → Prop → Prop
  | _, none _, _, more => more
  | _, and front slot _, p, more => front.All claim p.1 (claim slot front.size p.2 ∧ more)

section

variable {claim claim' : ∀ {α : Type}, Slot α → Nat → α → Prop}

theorem all_iff (l : Layout σ β) {p : l.Parts} {more : Prop} :
    l.All claim p more ↔ l.All claim p True ∧ more := by
  induction l generalizing more with
  | none => exact (true_and more).to_iff.symm
  | and front slot get ih =>
    simp only [All]
    rw [ih, @ih _ (claim slot front.size p.2 ∧ True), and_assoc, and_true]

theorem all_and_iff {α : Type} {front : Layout σ (α → β)} {slot : Slot α} {get : σ → α}
    {p : (front.and slot get).Parts} :
    (front.and slot get).All claim p True ↔
      front.All claim p.1 True ∧ claim slot front.size p.2 := by
  rw [All, all_iff, and_true]

theorem All.imp {l : Layout σ β} {p : l.Parts} (h : l.All claim p True)
    (hclaim : ∀ {α : Type} (slot : Slot α) (place : Nat) (x : α), claim slot place x →
      claim' slot place x) : l.All claim' p True := by
  induction l with
  | none => trivial
  | and front slot get ih =>
    obtain ⟨hfront, hslot⟩ := all_and_iff.mp h
    exact all_and_iff.mpr ⟨ih hfront, hclaim slot _ _ hslot⟩

end

/-- Every part of a record keeps to what its field asks for. -/
def Fits (l : Layout σ β) (p : l.Parts) : Prop :=
  l.All (fun slot _ x => slot.Fits x) p True

/-- Every part of a record is what is read of a document where its field stands: in an object under
its name, and in an array at its place. -/
def Reads (l : Layout σ β) (v : Json) (p : l.Parts) : Prop :=
  l.All (fun slot place x => slot.Reads (part? slot.name place v) x) p True

/-! ## Reading -/

theorem size_fields (l : Layout σ β) : l.fields.size = l.size := by
  induction l with
  | none => rfl
  | and front slot get ih => exact congrArg₂ (· + ·) ih slot.size_fields

theorem ensures (l : Layout σ β) (v : Json) :
    l.fields.Ensures v 0 fun b => ∃ p, l.build p = b ∧ l.Reads v p := by
  induction l with
  | none x => exact .none ⟨(), rfl, trivial⟩
  | and front slot get ih =>
    refine .and (ih.mono fun f hf x hx => ?_) (slot.ensures v _)
    obtain ⟨p, rfl, hp⟩ := hf
    rw [size_fields, Nat.zero_add] at hx
    exact ⟨(p, x), rfl, all_and_iff.mpr ⟨hp, hx⟩⟩

theorem Proper.of_part? {v : Json} (hv : v.Proper) {name : String} {place : Nat} :
    ∀ w ∈ part? name place v, w.Proper := by
  intro w hw
  cases hv with
  | arr hproper => exact hproper w (List.mem_of_getElem? hw)
  | obj _ hproper => exact Proper.of_field? hproper hw
  | _ => cases hw

theorem fits_of_reads {l : Layout σ β} {v : Json} (hv : v.Proper) {p : l.Parts}
    (h : l.Reads v p) : l.Fits p :=
  h.imp fun slot _ _ => slot.fits_of_reads (Proper.of_part? hv)

/-- What is read of an object that has every field under its name. -/
theorem gives {l : Layout σ β} {t : Retelling} {fields : List (String × Json)} {p : l.Parts}
    (hfits : l.Fits p)
    (h : l.All (fun slot _ x => slot.Told t (field? slot.name (.obj fields)) x) p True) :
    l.fields.ofObject fields = .ok (l.build (l.again t.number p)) := by
  induction l with
  | none => rfl
  | and front slot get ih =>
    obtain ⟨hfitsFront, hfitsSlot⟩ := all_and_iff.mp hfits
    obtain ⟨hfront, hslot⟩ := all_and_iff.mp h
    exact Fields.and_ofObject_ok_iff.mpr ⟨_, _, ih hfitsFront hfront,
      slot.gives (slot.reads_of_told hfitsSlot hslot), rfl⟩

/-- A field that is `null` is read as one that is not there, if there may be none. -/
theorem takesNullAsAbsent {l : Layout σ β} (h : l.onlyOptional) (key : String) :
    l.fields.TakesNullAsAbsent key := by
  induction l with
  | none x => exact .none x
  | and front slot get ih =>
    obtain ⟨hfront, hslot⟩ := Bool.and_eq_true_iff.mp h
    refine .and (ih hfront) ?_
    cases slot with
    | required => cases hslot
    | optional name c placed =>
      cases placed with
      | true => exact .of_absent name c.read Option.none
      | false => exact .of_absent name c.read (some Option.none)

/-! ## Writing -/

theorem keys_entries (l : Layout σ β) (p : l.Parts) : ∀ e ∈ l.entries p, e.1 ∈ l.names := by
  induction l with
  | none => exact List.forall_mem_nil _
  | and front slot get ih =>
    rw [entries, List.forall_mem_append]
    refine ⟨fun e he => List.mem_append_left _ (ih p.1 e he), fun e he => ?_⟩
    exact List.mem_append_right _ (List.mem_singleton.mpr (slot.keys_entries p.2 e he))

theorem nodup_keys_entries {l : Layout σ β} (h : l.names.Nodup) (p : l.Parts) :
    ((l.entries p).map Prod.fst).Nodup := by
  induction l with
  | none => exact List.nodup_nil
  | and front slot get ih =>
    obtain ⟨hfront, -, hapart⟩ := List.nodup_append.mp h
    rw [entries, List.map_append, List.nodup_append]
    refine ⟨ih hfront p.1, slot.nodup_keys_entries p.2, ?_⟩
    rintro _ ha _ hb
    obtain ⟨e, he, rfl⟩ := List.mem_map.mp ha
    obtain ⟨e', he', rfl⟩ := List.mem_map.mp hb
    rw [slot.keys_entries p.2 e' he']
    exact hapart _ (front.keys_entries p.1 e he) _ (List.mem_singleton_self _)

theorem field?_append (name : String) (fields fields' : List (String × Json)) :
    field? name (.obj (fields ++ fields')) =
      (field? name (.obj fields)).or (field? name (.obj fields')) := by
  simp only [field?, List.find?_append, Option.map_or]

theorem field?_eq_none {name : String} {fields : List (String × Json)}
    (h : ∀ e ∈ fields, e.1 ≠ name) : field? name (.obj fields) = Option.none := by
  have hnone : (fields.find? fun e => e.1 == name) = Option.none :=
    List.find?_eq_none.mpr fun e he => by simpa using h e he
  rw [field?, hnone, Option.map_none]

/-- Each field that was written is found under its name, if no two have the same. -/
theorem told_of_field? {l : Layout σ β} (hnames : l.names.Nodup) {t : Retelling} {p : l.Parts}
    {fields : List (String × Json)}
    (h : ∀ name ∈ l.names,
      field? name (.obj fields) = (field? name (.obj (l.entries p))).map t.tell) :
    l.All (fun slot _ x => slot.Told t (field? slot.name (.obj fields)) x) p True := by
  induction l with
  | none => trivial
  | and front slot get ih =>
    obtain ⟨hfront, -, hapart⟩ := List.nodup_append.mp hnames
    refine all_and_iff.mpr ⟨ih hfront fun name hname => ?_, ?_⟩
    · have hother : field? name (.obj (slot.entries p.2)) = Option.none :=
        field?_eq_none fun e he => by
          rw [slot.keys_entries p.2 e he]
          exact (hapart name hname _ (List.mem_singleton_self _)).symm
      rw [h name (List.mem_append_left _ hname), entries, field?_append, hother, Option.or_none]
    · have hother : field? slot.name (.obj (front.entries p.1)) = Option.none :=
        field?_eq_none fun e he =>
          hapart _ (front.keys_entries p.1 e he) _ (List.mem_singleton_self _)
      rw [h slot.name (List.mem_append_right _ (List.mem_singleton_self _)), entries,
        field?_append, hother, Option.none_or]
      exact slot.told_entries t p.2

theorem again_of_fixed (l : Layout σ β) {f : Double → Double} {p : l.Parts}
    (h : ∀ y ∈ l.numbers p, f y = y) : l.again f p = p := by
  induction l with
  | none => rfl
  | and front slot get ih =>
    obtain ⟨hfront, hslot⟩ := List.forall_mem_append.mp h
    exact Prod.ext (ih hfront) (slot.again_of_fixed hslot)

theorem proper_entries {l : Layout σ β} {p : l.Parts} (h : l.Fits p) :
    ∀ e ∈ l.entries p, e.2.Proper ∧ e.2.Within l.depth := by
  induction l with
  | none => exact List.forall_mem_nil _
  | and front slot get ih =>
    obtain ⟨hfront, hslot⟩ := all_and_iff.mp h
    rw [entries, List.forall_mem_append]
    refine ⟨fun e he => ?_, fun e he => ?_⟩
    · obtain ⟨hproper, hwithin⟩ := ih hfront e he
      exact ⟨hproper, hwithin.mono (Nat.le_max_left _ _)⟩
    · obtain ⟨hproper, hwithin⟩ := slot.proper_entries hslot e he
      exact ⟨hproper, hwithin.mono (Nat.le_max_right _ _)⟩

/-! ## Records -/

/-- The slots of a record belong to it: no two of them have one name, a record is built of its
parts, and its parts are those that it was built of. -/
structure Describes (l : Layout σ σ) : Prop where
  names : l.names.Nodup
  build_parts : ∀ s, l.build (l.parts s) = s
  parts_build : ∀ p, l.parts (l.build p) = p

variable {l : Layout σ σ} (hl : l.Describes)

include hl

/-- What is read of a record is read of its fields. -/
theorem reads {site : Site} {name : String} {v : Json} {s : σ}
    (h : readRecord site name l.fields v = .ok s) : l.Reads v (l.parts s) := by
  obtain ⟨p, rfl, hp⟩ := (l.ensures v).of_readRecord h
  rwa [hl.parts_build]

/-- A record is written as an object with its fields, and read back from any object that has them
under their names. -/
theorem back {t : Retelling} {s : σ} (hfits : l.Fits (l.parts s)) {fields : List (String × Json)}
    (h : ∀ name ∈ l.names,
      field? name (.obj fields) = (field? name (.obj (l.entries (l.parts s)))).map t.tell)
    (site : Site) (name : String) :
    readRecord site name l.fields (.obj fields) =
      .ok (l.build (l.again t.number (l.parts s))) :=
  readRecord_obj_ok_iff.mpr (gives hfits (told_of_field? hl.names h))

end Layout

/-- The codec of a record. -/
def Layout.codec {σ : Type} (l : Layout σ σ) (hl : l.Describes) (site : Site) (name : String)
    (write : σ → Json) (hwrite : ∀ s, write s = .obj (l.entries (l.parts s))) : Codec σ where
  read := readRecord site name l.fields
  write := write
  Fits s := l.Fits (l.parts s)
  numbers s := l.numbers (l.parts s)
  again f s := l.build (l.again f (l.parts s))
  depth := l.depth + 1
  fits hv h := fits_of_reads hv (l.reads hl h)
  back := by
    intro t s hfits
    have hkeys := nodup_keys_entries hl.names (l.parts s)
    obtain ⟨fields, htell, hperm⟩ := t.obj _ hkeys
    rw [hwrite, htell]
    exact l.back hl hfits (fun name _ => t.field?_tell hkeys hperm name) site name
  fixed h := by rw [l.again_of_fixed h, hl.build_parts]
  null h := by cases h
  proper h := by
    rw [hwrite]
    exact .obj (nodup_keys_entries hl.names _) fun e he => (proper_entries h e he).1
  within h := by
    rw [hwrite]
    exact fun e he => (proper_entries h e he).2

end Json
end BacktestDesk
