/-!
# BacktestDesk.TextMap

Finite maps keyed by text, kept in ascending key order (by code point). Inserting under a key that
is present replaces its value, so of several values for one key the last one stays.
-/

namespace BacktestDesk

/-- Puts `value` under `key` into an ascending list of pairs. -/
def insertKey {α : Type} (key : String) (value : α) : List (String × α) → List (String × α)
  | [] => [(key, value)]
  | (k, v) :: rest =>
    if key < k then (key, value) :: (k, v) :: rest
    else if key = k then (key, value) :: rest
    else (k, v) :: insertKey key value rest

def Ascending {α : Type} (entries : List (String × α)) : Prop :=
  entries.Pairwise fun a b => a.1 < b.1

theorem mem_insertKey {α : Type} {key : String} {value : α} {entries : List (String × α)}
    {e : String × α} (h : e ∈ insertKey key value entries) : e = (key, value) ∨ e ∈ entries := by
  induction entries with
  | nil => exact .inl (by simpa [insertKey] using h)
  | cons x rest ih =>
    obtain ⟨k, v⟩ := x
    simp only [insertKey] at h
    split at h
    · simpa using h
    · split at h
      · rcases List.mem_cons.1 h with h | h
        · exact .inl h
        · exact .inr (List.mem_cons_of_mem _ h)
      · rcases List.mem_cons.1 h with h | h
        · exact .inr (h ▸ List.mem_cons_self)
        · rcases ih h with h | h
          · exact .inl h
          · exact .inr (List.mem_cons_of_mem _ h)

theorem ascending_insertKey {α : Type} (key : String) (value : α) {entries : List (String × α)}
    (h : Ascending entries) : Ascending (insertKey key value entries) := by
  induction entries with
  | nil => simp [insertKey, Ascending]
  | cons x rest ih =>
    obtain ⟨k, v⟩ := x
    obtain ⟨hk, hrest⟩ := List.pairwise_cons.1 h
    simp only [insertKey]
    split
    · rename_i hlt
      refine List.pairwise_cons.2 ⟨fun e he => ?_, h⟩
      rcases List.mem_cons.1 he with rfl | he
      · exact hlt
      · exact String.lt_trans hlt (hk e he)
    · rename_i hlt
      split
      · rename_i heq
        subst heq
        exact List.pairwise_cons.2 ⟨hk, hrest⟩
      · rename_i hne
        refine List.pairwise_cons.2 ⟨fun e he => ?_, ih hrest⟩
        rcases mem_insertKey he with rfl | he
        · exact Decidable.byContradiction fun hge =>
            hne (String.le_antisymm (String.not_lt.1 hge) (String.not_lt.1 hlt))
        · exact hk e he

structure TextMap (α : Type) where
  entries : List (String × α)
  ascending : Ascending entries
  deriving DecidableEq

namespace TextMap

variable {α β : Type}

def empty : TextMap α := ⟨[], List.Pairwise.nil⟩

def insert (m : TextMap α) (key : String) (value : α) : TextMap α :=
  ⟨insertKey key value m.entries, ascending_insertKey key value m.ascending⟩

/-- Of several values for one key the last one stays. -/
def ofList (pairs : List (String × α)) : TextMap α :=
  pairs.foldl (fun m p => m.insert p.1 p.2) empty

def single (key : String) (value : α) : TextMap α :=
  empty.insert key value

def get? (m : TextMap α) (key : String) : Option α :=
  (m.entries.find? fun e => e.1 == key).map Prod.snd

def keys (m : TextMap α) : List String :=
  m.entries.map Prod.fst

/-- Maps the entries in key order, up to the first that fails. -/
def traverse {ε : Type} (f : String → α → Except ε β) : List (String × α) →
    Except ε (List (String × β))
  | [] => .ok []
  | (k, v) :: rest =>
    match f k v with
    | .error e => .error e
    | .ok w =>
      match traverse f rest with
      | .error e => .error e
      | .ok ws => .ok ((k, w) :: ws)

theorem traverse_keys {ε : Type} {f : String → α → Except ε β} {xs : List (String × α)}
    {ys : List (String × β)} (h : traverse f xs = .ok ys) : ys.map Prod.fst = xs.map Prod.fst := by
  induction xs generalizing ys with
  | nil => cases h; rfl
  | cons x rest ih =>
    obtain ⟨k, v⟩ := x
    simp only [traverse] at h
    split at h
    · cases h
    · split at h
      · cases h
      · rename_i ws hws
        cases h
        simp [ih hws]

theorem ascending_iff_keys {entries : List (String × α)} :
    Ascending entries ↔ (entries.map Prod.fst).Pairwise (· < ·) :=
  List.pairwise_map.symm

/-- Applies `f` to every entry in ascending key order, up to the first that fails. -/
def mapM {ε : Type} (m : TextMap α) (f : String → α → Except ε β) : Except ε (TextMap β) :=
  match h : traverse f m.entries with
  | .error e => .error e
  | .ok ys => .ok ⟨ys, ascending_iff_keys.2 (traverse_keys h ▸ ascending_iff_keys.1 m.ascending)⟩

end TextMap
end BacktestDesk
