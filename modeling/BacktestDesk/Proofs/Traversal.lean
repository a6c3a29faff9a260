import BacktestDesk.Chart
import Mathlib.Data.List.Forall2

/-!
# BacktestDesk.Proofs.Traversal

Maps over the elements of a list, or the entries of a `TextMap`, that stop at the first failure.
Such a map succeeds exactly when it does at every element, and then with one result for each, in
the same order (`resolveAll_ok_iff`, `TextMap.mapM_ok_iff`). Otherwise the failure is that of the
first element, or of its first part, that has one (`TellsFirst`); `FirstFailing` says which that is.
-/

namespace BacktestDesk

variable {α β ε : Type}

theorem exists_forall₂ {R : α → β → Prop} {xs : List α} :
    (∃ ys, List.Forall₂ R xs ys) ↔ ∀ x ∈ xs, ∃ y, R x y := by
  induction xs with
  | nil => exact ⟨fun _ x hx => absurd hx List.not_mem_nil, fun _ => ⟨[], .nil⟩⟩
  | cons x xs ih =>
    rw [List.forall_mem_cons, ← ih]
    constructor
    · rintro ⟨_, h⟩
      cases h with
      | cons hx hxs => exact ⟨⟨_, hx⟩, ⟨_, hxs⟩⟩
    · rintro ⟨⟨y, hy⟩, ⟨ys, hys⟩⟩
      exact ⟨y :: ys, .cons hy hys⟩

theorem map_fst_of_forall₂ {κ : Type} {R : α → β → Prop} {es : List (κ × α)} {es' : List (κ × β)}
    (h : List.Forall₂ (fun e e' => e.1 = e'.1 ∧ R e.2 e'.2) es es') :
    es'.map Prod.fst = es.map Prod.fst := by
  induction h with
  | nil => rfl
  | cons he _ ih => rw [List.map_cons, List.map_cons, ih, he.1]

theorem resolveAll_ok_iff {f : Nat → α → Except ε β} {R : α → β → Prop}
    (h : ∀ i x y, f i x = .ok y ↔ R x y) (i : Nat) (xs : List α) (ys : List β) :
    resolveAll f i xs = .ok ys ↔ List.Forall₂ R xs ys := by
  induction xs generalizing i ys with
  | nil => cases ys <;> simp [resolveAll]
  | cons x xs ih =>
    simp only [resolveAll]
    cases hx : f i x with
    | error e =>
      have hn : ∀ y, ¬ R x y := fun y hy => by rw [← h i, hx] at hy; cases hy
      cases ys <;> simp [hn]
    | ok y =>
      cases hxs : resolveAll f (i + 1) xs with
      | error e => cases ys <;> simp [← ih (i + 1), hxs]
      | ok zs => cases ys <;> simp [← ih (i + 1), hxs, ← h i, hx]

theorem resolveAll_isOk_iff {f : Nat → α → Except ε β} {R : α → β → Prop}
    (h : ∀ i x y, f i x = .ok y ↔ R x y) (i : Nat) (xs : List α) :
    (∃ ys, resolveAll f i xs = .ok ys) ↔ ∀ x ∈ xs, ∃ y, R x y := by
  simp only [resolveAll_ok_iff h, exists_forall₂]

/-- A failure of the map is that of one element. -/
theorem exists_of_resolveAll_error {f : Nat → α → Except ε β} {i : Nat} {xs : List α} {e : ε}
    (h : resolveAll f i xs = .error e) : ∃ j, ∃ x ∈ xs, f j x = .error e := by
  induction xs generalizing i with
  | nil => cases h
  | cons x xs ih =>
    simp only [resolveAll] at h
    split at h
    · rename_i e' hx
      cases h
      exact ⟨i, x, List.mem_cons_self, hx⟩
    · split at h
      · rename_i e' hxs
        cases h
        obtain ⟨j, y, hy, hf⟩ := ih hxs
        exact ⟨j, y, List.mem_cons_of_mem x hy, hf⟩
      · cases h

namespace TextMap

theorem ext_entries {m n : TextMap α} (h : m.entries = n.entries) : m = n := by
  cases m
  cases n
  cases h
  rfl

theorem traverse_ok_iff {f : String → α → Except ε β} {xs : List (String × α)}
    {ys : List (String × β)} :
    traverse f xs = .ok ys ↔
      List.Forall₂ (fun e e' => e.1 = e'.1 ∧ f e.1 e.2 = .ok e'.2) xs ys := by
  induction xs generalizing ys with
  | nil => cases ys <;> simp [traverse]
  | cons x xs ih =>
    obtain ⟨k, v⟩ := x
    simp only [traverse]
    cases hv : f k v with
    | error e => cases ys <;> simp [hv]
    | ok w =>
      cases hxs : traverse f xs with
      | error e => cases ys <;> simp [← ih, hxs]
      | ok zs => cases ys <;> simp [← ih, hxs, hv, Prod.ext_iff]

theorem mapM_ok_iff {f : String → α → Except ε β} {m : TextMap α} {n : TextMap β} :
    m.mapM f = .ok n ↔
      List.Forall₂ (fun e e' => e.1 = e'.1 ∧ f e.1 e.2 = .ok e'.2) m.entries n.entries := by
  rw [← traverse_ok_iff, mapM]
  split
  · rename_i e h
    simp [h]
  · rename_i ys h
    constructor
    · intro hn
      cases hn
      exact h
    · intro hn
      rw [h, Except.ok.injEq] at hn
      rw [Except.ok.injEq]
      exact ext_entries hn

theorem keys_of_mapM {f : String → α → Except ε β} {m : TextMap α} {n : TextMap β}
    (h : m.mapM f = .ok n) : n.keys = m.keys :=
  traverse_keys (traverse_ok_iff.mpr (mapM_ok_iff.mp h))

/-- A map in key order succeeds when it does at every entry. -/
theorem mapM_isOk_iff {f : String → α → Except ε β} {m : TextMap α} :
    (∃ n, m.mapM f = .ok n) ↔ ∀ e ∈ m.entries, ∃ w, f e.1 e.2 = .ok w := by
  constructor
  · rintro ⟨n, hn⟩ e he
    obtain ⟨e', -, h⟩ := exists_forall₂.mp ⟨_, mapM_ok_iff.mp hn⟩ e he
    exact ⟨_, h⟩
  · intro h
    obtain ⟨ys, hys⟩ := exists_forall₂.mpr fun e he => (h e he).elim fun w hw =>
      (⟨(e.1, w), rfl, hw⟩ : ∃ e' : String × β, e.1 = e'.1 ∧ f e.1 e.2 = .ok e'.2)
    rw [← traverse_ok_iff] at hys
    refine ⟨⟨ys, ascending_iff_keys.2 (traverse_keys hys ▸ ascending_iff_keys.1 m.ascending)⟩, ?_⟩
    exact mapM_ok_iff.mpr (traverse_ok_iff.mp hys)

end TextMap

/-! ## The first failure -/

/-- `x` is the first element of a list at which a condition fails. -/
def FirstFailing (P : α → Prop) (xs : List α) (x : α) : Prop :=
  ∃ before after, xs = before ++ x :: after ∧ (∀ y ∈ before, P y) ∧ ¬ P x

namespace FirstFailing

variable {P : α → Prop} {xs ys : List α} {x : α}

theorem append_right (h : FirstFailing P xs x) (ys : List α) : FirstFailing P (xs ++ ys) x := by
  obtain ⟨before, after, rfl, hbefore, hx⟩ := h
  exact ⟨before, after ++ ys, List.append_assoc .., hbefore, hx⟩

theorem append_left (hxs : ∀ y ∈ xs, P y) (h : FirstFailing P ys x) :
    FirstFailing P (xs ++ ys) x := by
  obtain ⟨before, after, rfl, hbefore, hx⟩ := h
  exact ⟨xs ++ before, after, (List.append_assoc ..).symm,
    List.forall_mem_append.mpr ⟨hxs, hbefore⟩, hx⟩

theorem singleton (hx : ¬ P x) : FirstFailing P [x] x :=
  ⟨[], [], rfl, List.forall_mem_nil _, hx⟩

theorem mem (h : FirstFailing P xs x) : x ∈ xs := by
  obtain ⟨before, after, rfl, -, -⟩ := h
  exact List.mem_append_right _ List.mem_cons_self

theorem fails (h : FirstFailing P xs x) : ¬ P x := by
  obtain ⟨-, -, -, -, hx⟩ := h
  exact hx

theorem not_all (h : FirstFailing P xs x) : ¬ ∀ y ∈ xs, P y := fun hall =>
  h.fails (hall x h.mem)

end FirstFailing

theorem resolveAll_cons (f : Nat → α → Except ε β) (i : Nat) (x : α) (xs : List α) :
    resolveAll f i (x :: xs) =
      (f i x).bind fun y => (resolveAll f (i + 1) xs).bind fun ys => .ok (y :: ys) := by
  rw [resolveAll]
  cases f i x with
  | error e => rfl
  | ok y => cases resolveAll f (i + 1) xs <;> rfl

/-- Elements that do the same at every place may stand for each other. -/
theorem resolveAll_congr {f : Nat → α → Except ε β} {xs ys : List α}
    (h : List.Forall₂ (fun x y => ∀ i, f i x = f i y) xs ys) (i : Nat) :
    resolveAll f i xs = resolveAll f i ys := by
  induction h generalizing i with
  | nil => rfl
  | cons hx _ ih => rw [resolveAll_cons, resolveAll_cons, hx, ih]

theorem TextMap.traverse_cons (f : String → α → Except ε β) (k : String) (x : α)
    (es : List (String × α)) :
    traverse f ((k, x) :: es) =
      (f k x).bind fun y => (traverse f es).bind fun ys => .ok ((k, y) :: ys) := by
  rw [traverse]
  cases f k x with
  | error e => rfl
  | ok y => cases traverse f es <;> rfl

namespace TextMap

theorem traverse_map {f : String → α → Except ε β} {g : α → α} (h : ∀ k x, f k (g x) = f k x)
    (es : List (String × α)) :
    traverse f (es.map fun e => (e.1, g e.2)) = traverse f es := by
  induction es with
  | nil => rfl
  | cons e es ih =>
    obtain ⟨k, x⟩ := e
    rw [List.map_cons, traverse_cons, traverse_cons, h, ih]

theorem traverse_congr {f : String → α → Except ε β} {es es' : List (String × α)}
    (h : List.Forall₂ (fun e e' => e.1 = e'.1 ∧ ∀ k, f k e.2 = f k e'.2) es es') :
    traverse f es = traverse f es' := by
  induction h with
  | nil => rfl
  | @cons e e' _ _ he _ ih =>
    obtain ⟨k, x⟩ := e
    obtain ⟨k', x'⟩ := e'
    obtain ⟨rfl, hx⟩ := he
    rw [traverse_cons, traverse_cons, hx, ih]

theorem mapM_congr {f : String → α → Except ε β} {m n : TextMap α}
    (h : traverse f m.entries = traverse f n.entries) : m.mapM f = n.mapM f := by
  rw [mapM, mapM]
  split <;> split <;> simp_all

end TextMap

section

variable {γ π : Type}

def failure? : Except ε α → Option ε
  | .ok _ => none
  | .error e => some e

theorem failure?_eq_some_iff {r : Except ε α} {e : ε} : failure? r = some e ↔ r = .error e := by
  cases r <;> simp [failure?]

/-- A result is a failure exactly when something is wrong with one of the parts, and tells what is
wrong with the first of them. -/
def TellsFirst (tell : ε → γ) (wrong? : π → Option γ) (r : Except ε α) (parts : List π) : Prop :=
  (failure? r).map tell = parts.findSome? wrong?

/-- What is found first is what is wrong with the first part that is not valid. -/
theorem findSome?_eq_some_iff_firstFailing {wrong? : π → Option γ} {Valid : π → Prop}
    (hvalid : ∀ {part}, wrong? part = none ↔ Valid part) {parts : List π} {c : γ} :
    parts.findSome? wrong? = some c ↔
      ∃ part, FirstFailing Valid parts part ∧ wrong? part = some c := by
  rw [List.findSome?_eq_some_iff]
  constructor
  · rintro ⟨before, part, after, hparts, hwrong, hbefore⟩
    refine ⟨part, ⟨before, after, hparts, fun q hq => hvalid.mp (hbefore q hq), ?_⟩, hwrong⟩
    rw [← hvalid, hwrong]
    exact Option.some_ne_none c
  · rintro ⟨part, ⟨before, after, hparts, hbefore, -⟩, hwrong⟩
    exact ⟨before, part, after, hparts, hwrong, fun q hq => hvalid.mpr (hbefore q hq)⟩

namespace TellsFirst

variable {tell : ε → γ} {wrong? : π → Option γ}

theorem ok (x : α) : TellsFirst tell wrong? (.ok x : Except ε α) [] := rfl

theorem bind {r : Except ε α} {f : α → Except ε β} {ps qs : List π}
    (hr : TellsFirst tell wrong? r ps) (hf : ∀ x, TellsFirst tell wrong? (f x) qs) :
    TellsFirst tell wrong? (r.bind f) (ps ++ qs) := by
  simp only [TellsFirst] at hr ⊢
  rw [List.findSome?_append, ← hr]
  cases r with
  | error e => rfl
  | ok x => exact hf x

theorem map {r : Except ε α} {ps : List π} (hr : TellsFirst tell wrong? r ps) (g : α → β) :
    TellsFirst tell wrong? (r.bind fun x => .ok (g x)) ps := by
  have hbind := hr.bind fun x => ok (g x)
  rwa [List.append_nil] at hbind

theorem resolveAll {f : Nat → α → Except ε β} {part : Nat → α → π}
    (hf : ∀ i x, TellsFirst tell wrong? (f i x) [part i x]) (i : Nat) (xs : List α) :
    TellsFirst tell wrong? (resolveAll f i xs) ((xs.zipIdx i).map fun e => part e.2 e.1) := by
  induction xs generalizing i with
  | nil => exact ok []
  | cons x xs ih =>
    have hstep := (hf i x).bind fun y => (ih (i + 1)).map fun ys => y :: ys
    rw [resolveAll_cons, List.zipIdx_cons, List.map_cons]
    exact hstep

theorem mapM {f : String → α → Except ε β} {parts : String → α → List π}
    (hf : ∀ k x, TellsFirst tell wrong? (f k x) (parts k x)) (m : TextMap α) :
    TellsFirst tell wrong? (m.mapM f) (m.entries.flatMap fun e => parts e.1 e.2) := by
  have htraverse : ∀ es : List (String × α),
      TellsFirst tell wrong? (TextMap.traverse f es) (es.flatMap fun e => parts e.1 e.2) := by
    intro es
    induction es with
    | nil => exact ok []
    | cons e es ih =>
      obtain ⟨k, x⟩ := e
      have hstep := (hf k x).bind fun y => ih.map fun ys => (k, y) :: ys
      rw [TextMap.traverse_cons, List.flatMap_cons]
      exact hstep
  have hm := htraverse m.entries
  rw [TextMap.mapM]
  split
  · rename_i h
    rwa [h] at hm
  · rename_i h
    rwa [h] at hm

/-- What is wrong with a part may be told of another part in its place. -/
theorem map_parts {δ ρ : Type} {r : Except ε α} {ps : List π} (h : TellsFirst tell wrong? r ps)
    {k : γ → δ} {g : π → ρ} {wrong' : ρ → Option δ} (hg : ∀ p, wrong' (g p) = (wrong? p).map k) :
    TellsFirst (k ∘ tell) wrong' r (ps.map g) := by
  have hparts : wrong' ∘ g = fun p => (wrong? p).map k := funext hg
  rw [TellsFirst, ← Option.map_map, h, List.findSome?_map, hparts, List.map_findSome?]
  rfl

/-- What is told is what is wrong with the first part that is not valid. -/
theorem exists_iff {r : Except ε α} {parts : List π} (h : TellsFirst tell wrong? r parts)
    {Valid : π → Prop} (hvalid : ∀ {part}, wrong? part = none ↔ Valid part) {c : γ} :
    (∃ e, r = .error e ∧ tell e = c) ↔
      ∃ part, FirstFailing Valid parts part ∧ wrong? part = some c := by
  have htold : (∃ e, r = .error e ∧ tell e = c) ↔ parts.findSome? wrong? = some c := by
    rw [← h]
    cases r <;> simp [failure?]
  rw [htold, findSome?_eq_some_iff_firstFailing hvalid]

end TellsFirst
end
end BacktestDesk
