import BacktestDesk.Proofs.ParameterHistory
import BacktestDesk.Proofs.RecordLayout

/-!
# BacktestDesk.Proofs.RepeatedKeys

Parameters that begin with a document. A document lists its entries one by one, and nothing keeps it
from listing a key twice; a setting then writes over the first entry of its key and leaves the
others where they are. What these send is `Parameters.overlooked`, and no setting ever changes it.

* `Parameters.codec`: every list of entries is read from a document, with all its repetitions.
* `Parameters.under_set`: the entries of a key after one setting.
* `Parameters.nodup_keys_after`, `Parameters.overlooked_after`: after any number of settings.
* `Parameters.read_and_set`: keys are distinct exactly when those of the document were.
-/

namespace BacktestDesk

open Json

/-! ## Documents -/

namespace Json

variable {α β : Type}

theorem readText_ok_iff {v : Json} {s : String} : readText v = .ok s ↔ v = .str s := by
  cases v <;> simp [readText]

theorem readPair_ok_iff {first : Reading α} {second : Reading β} {v : Json} {x : α} {y : β} :
    readPair first second v = .ok (x, y) ↔
      ∃ a b, v = .arr [a, b] ∧ first a = .ok x ∧ second b = .ok y := by
  cases v with
  | arr items =>
    match items with
    | [] => simp [readPair]
    | [a] => cases h : first a <;> simp [readPair, h]
    | a :: b :: more =>
      simp only [readPair, arr.injEq, List.cons.injEq]
      cases hx : first a with
      | error e => simp [hx]
      | ok x' =>
        cases hy : second b with
        | error e => simp [hy]
        | ok y' => cases more <;> simp [hx, hy]
  | _ => simp [readPair]

end Json

/-- A list of texts is no text, so that both forms of a value come back. -/
theorem Parameter.read_tell (t : Retelling) (p : Parameter) : read (t.tell p.toJson) = .ok p := by
  cases p with
  | scalar s =>
    rw [toJson, t.str]
    rfl
  | list items =>
    have hitems : readList readText (t.tell (ofList .str items)) = .ok items :=
      Codec.text.list.read_tell (fun _ _ => trivial) (by simp [Codec.list, Codec.text, Codec.plain])
    have htext : readText (t.tell (ofList .str items)) = .error (.kind .sequence .text) := by
      rw [ofList, t.arr]
      rfl
    simp only [read, toJson, readFirst, htext, hitems]

namespace Parameters

def entryCodec : Codec (String × Parameter) :=
  .plain (readPair readText Parameter.read) (fun e => .arr [.str e.1, e.2.toJson]) 2
    (fun t e => by
      rw [t.arr, readPair_ok_iff]
      exact ⟨_, _, rfl, congrArg readText (t.str e.1), Parameter.read_tell t e.2⟩)
    (fun _ h => by cases h)
    (fun e => by cases e.2 <;> simp [Parameter.toJson, ofList])
    fun e => by cases e.2 <;> simp [Parameter.toJson, ofList, Within]

def layout : Layout Parameters Parameters :=
  (Layout.none mk).and (.required "entries" entryCodec.list) entries

theorem describes : layout.Describes where
  names := by decide
  build_parts _ := rfl
  parts_build _ := rfl

def codec : Codec Parameters :=
  layout.codec describes .document "ScenarioParameters" toJson fun _ => rfl

theorem fits (ps : Parameters) : codec.Fits ps :=
  And.intro (fun _ _ => trivial) trivial

/-- A document lists entries: a pair of key and value for each of them, in their order. -/
def Lists (v : Json) (entries : List (String × Parameter)) : Prop :=
  ∃ items, part? "entries" 0 v = some (.arr items) ∧
    List.Forall₂ (fun item e => ∃ w, item = .arr [.str e.1, w] ∧ Parameter.read w = .ok e.2) items
      entries

theorem lists_of_read {v : Json} {ps : Parameters} (h : read v = .ok ps) : Lists v ps.entries := by
  obtain ⟨⟨w, hw, hlist⟩, -⟩ := layout.reads describes h
  obtain ⟨items, rfl, hitems⟩ := readList_ok_iff.mp hlist
  refine ⟨items, hw, hitems.imp fun item e he => ?_⟩
  obtain ⟨a, b, rfl, ha, hb⟩ := readPair_ok_iff.mp he
  exact ⟨b, by rw [readText_ok_iff.mp ha], hb⟩

/-! ## Settings -/

/-- A setting writes over the first entry of its key, and over no other entry. -/
theorem under_set (ps : Parameters) (key : String) (value : Parameter) (k : String) :
    (ps.set key value).under k =
      if k = key then (key, value) :: (ps.under k).tail else ps.under k := by
  obtain ⟨es⟩ := ps
  unfold set under
  induction es with
  | nil =>
    by_cases hk : k = key
    · simp [setEntry, hk]
    · have hne : ¬ key = k := fun h => hk h.symm
      simp [setEntry, hk, hne]
  | cons e es ih =>
    obtain ⟨k', v⟩ := e
    simp only [setEntry]
    by_cases hk' : k' = key
    · subst hk'
      by_cases hk : k = k'
      · simp [hk]
      · have hne : ¬ k' = k := fun h => hk h.symm
        simp [hk, hne]
    · rw [if_neg hk', List.filter_cons, List.filter_cons, ih]
      by_cases hk : k' = k
      · have hne : ¬ k = key := fun h => hk' (hk.trans h)
        simp [hk, hne]
      · simp [hk]

theorem overlooked_set (ps : Parameters) (key : String) (value : Parameter) (k : String) :
    (ps.set key value).overlooked k = ps.overlooked k := by
  rw [overlooked, under_set]
  split
  · rw [List.tail_cons, overlooked]
  · rfl

/-- A setting neither repeats a key nor takes a repetition back. -/
theorem nodup_keys_set (ps : Parameters) (key : String) (value : Parameter) :
    (ps.set key value).keys.Nodup ↔ ps.keys.Nodup := by
  rw [nodup_keys_iff, nodup_keys_iff]
  refine forall_congr' fun k => ?_
  rw [under_set]
  split
  · rw [List.length_cons, List.length_tail]
    omega
  · rfl

/-- The parameters that settings lead to, from any. -/
def after (ps : Parameters) (writes : Writes) : Parameters :=
  writes.foldl (fun ps e => ps.set e.1 e.2) ps

theorem overlooked_after (ps : Parameters) (writes : Writes) (k : String) :
    (ps.after writes).overlooked k = ps.overlooked k := by
  induction writes generalizing ps with
  | nil => rfl
  | cons e writes ih => exact (ih (ps.set e.1 e.2)).trans (ps.overlooked_set e.1 e.2 k)

theorem nodup_keys_after (ps : Parameters) (writes : Writes) :
    (ps.after writes).keys.Nodup ↔ ps.keys.Nodup := by
  induction writes generalizing ps with
  | nil => rfl
  | cons e writes ih => exact (ih (ps.set e.1 e.2)).trans (ps.nodup_keys_set e.1 e.2)

/-! ## Documents and settings -/

/-- Parameters that were read from a document and then set, in any way.

* The document lists the entries that are read from it, and any entries can be listed like that,
  so a key may come up as often as it likes.
* After settings the keys are distinct exactly when those of the document were: a setting neither
  repeats a key nor takes a repetition back.
* If they are, the values that the query is read as under a key are those that the key holds, and
  after one more setting of it those that it was set to.
* In any case these values come first, and behind them what the document lists under the key
  behind its first entry. -/
theorem read_and_set {v : Json} {ps : Parameters} (h : read v = .ok ps) :
    Lists v ps.entries ∧ (∀ other : Parameters, read other.toJson = .ok other) ∧
    ∀ writes : Writes,
      ((ps.after writes).keys.Nodup ↔ ps.keys.Nodup) ∧
      ((ps.after writes).keys.Nodup → ∀ k,
        (ps.after writes).sentUnder k = (ps.after writes).textsAt k ∧
        ∀ value, ((ps.after writes).set k value).sentUnder k = value.texts) ∧
      ∀ k, (ps.after writes).sentUnder k = (ps.after writes).textsAt k ++ ps.overlooked k ∧
        ∀ value, ((ps.after writes).set k value).sentUnder k = value.texts ++ ps.overlooked k := by
  have hsent : ∀ (writes : Writes) (k : String),
      (ps.after writes).sentUnder k = (ps.after writes).textsAt k ++ ps.overlooked k := by
    intro writes k
    rw [sentUnder_eq_append, overlooked_after]
  have hset : ∀ (writes : Writes) (k : String) (value : Parameter),
      ((ps.after writes).set k value).sentUnder k = value.texts ++ ps.overlooked k := by
    intro writes k value
    rw [sentUnder_eq_append, overlooked_set, overlooked_after, textsAt_eq, get?_set, if_pos rfl,
      Option.elim_some]
  refine ⟨lists_of_read h, fun _ => codec.read_write (fits _), fun writes =>
    ⟨nodup_keys_after ps writes, fun hnodup k => ?_, fun k => ⟨hsent writes k, hset writes k⟩⟩⟩
  have hnone := overlooked_of_nodup ((nodup_keys_after ps writes).mp hnodup) k
  simp only [hsent, hset, hnone, List.append_nil]
  exact ⟨trivial, fun _ => trivial⟩

/-- A document that lists the coin twice. -/
def coinTwice : Json :=
  .obj [("entries", .arr [.arr [.str "coin", .str "BTC"], .arr [.str "coin", .str "ETH"]])]

def twoCoins : Parameters :=
  ⟨[("coin", .scalar "BTC"), ("coin", .scalar "ETH")]⟩

theorem read_and_set_coinTwice :
    read coinTwice = .ok twoCoins ∧ Lists coinTwice twoCoins.entries ∧
    (twoCoins.after [("coin", .scalar "XRP")]).sentUnder "coin" =
      (twoCoins.after [("coin", .scalar "XRP")]).textsAt "coin" ++ ["ETH"] := by
  have h : read coinTwice = .ok twoCoins := rfl
  obtain ⟨hlists, -, hafter⟩ := read_and_set h
  exact ⟨h, hlists, ((hafter [("coin", .scalar "XRP")]).2.2 "coin").1⟩

/-- A key that a document lists twice is kept twice. Only its first value is looked up and written
over, but both of them go out. -/
theorem repeated_key_read :
    ∃ ps, read coinTwice = .ok ps ∧ ¬ ps.keys.Nodup ∧
      ps.get? "coin" = some (.scalar "BTC") ∧ ps.sentUnder "coin" = ["BTC", "ETH"] ∧
      (ps.set "coin" (.scalar "XRP")).sentUnder "coin" = ["XRP", "ETH"] := by
  refine ⟨twoCoins, rfl, by decide, by decide, ?_, ?_⟩
  · rw [sentUnder_eq_under]
    decide
  · rw [sentUnder_eq_under]
    decide

end Parameters
end BacktestDesk
