import BacktestDesk.Proofs.FaultPlaces
import BacktestDesk.Proofs.FormRoundTrip

/-!
# BacktestDesk.Proofs.PlacePaths

The path of a place tells the place. The name of a strategy may hold anything that paths are made
of, so a path is read from its end: behind the last bracket comes what does not matter, in front of
it the index, and the side behind the last point of what is left.

* `splitLast_append`: a text is cut at the last mark.
* `Place.ofPath?_path`: a place is read back from its path.
* `Chart.path_tells_place`: the path in a message is that of one timestamp of the answer only.
-/

namespace BacktestDesk

open Calendar

/-! ## From the end -/

/-- What stands in front of the last mark of a text, and what stands behind it. -/
def splitLast (mark : Char) (cs : List Char) : List Char × List Char :=
  ((cs.reverse.dropWhile (· != mark)).tail.reverse, (cs.reverse.takeWhile (· != mark)).reverse)

theorem splitLast_append {mark : Char} {back : List Char} (h : mark ∉ back) (front : List Char) :
    splitLast mark (front ++ mark :: back) = (front, back) := by
  have hback : mark ∉ back.reverse := mt List.mem_reverse.mp h
  have hreverse : (front ++ mark :: back).reverse = back.reverse ++ mark :: front.reverse := by
    rw [List.reverse_append, List.reverse_cons, List.append_assoc, List.singleton_append]
  rw [splitLast, hreverse, Text.dropWhile_append_cons _ hback, Text.takeWhile_append_cons _ hback,
    List.tail_cons, List.reverse_reverse, List.reverse_reverse]

namespace Place

/-! ## The form of a path -/

/-- What stands in front of the index. -/
def name : Place → String
  | time _ => "time"
  | price _ => "price"
  | trade _ => "trades"
  | flatSignal side _ => "trigger." ++ side.text
  | keyedSignal key side _ => "trigger." ++ key ++ "." ++ side.text
  | loss _ => "loss"
  | stored _ => "history"

def index : Place → Nat
  | time i | price i | trade i | flatSignal _ i | keyedSignal _ _ i | loss i | stored i => i

/-- What stands behind the index. -/
def field : Place → String
  | time _ => ""
  | stored _ => ".From"
  | _ => ".x"

theorem toList_path (place : Place) : place.path.toList =
    (place.name.toList ++ '[' :: Nat.toDigits 10 place.index) ++ ']' :: place.field.toList := by
  cases place <;> simp [path, name, index, field]

theorem notMem_field (place : Place) : ']' ∉ place.field.toList := by
  cases place <;> simp [field]

/-! ## Reading a path -/

def sideOf? (cs : List Char) : Option Side :=
  if cs = "buy".toList then some .buy
  else if cs = "sell".toList then some .sell
  else none

/-- The signals of one side; `owner` is the trigger itself, or the trigger and the name of a
strategy behind a point. -/
def ofSignals (owner : List Char) (side : Side) : Nat → Place :=
  if owner = "trigger".toList then .flatSignal side
  else .keyedSignal (String.ofList (owner.drop "trigger.".length)) side

def ofName? (cs : List Char) : Option (Nat → Place) :=
  if cs = "time".toList then some .time
  else if cs = "price".toList then some .price
  else if cs = "trades".toList then some .trade
  else if cs = "loss".toList then some .loss
  else if cs = "history".toList then some .stored
  else
    let (owner, side) := splitLast '.' cs
    (sideOf? side).map (ofSignals owner)

/-- The place that has a path. -/
def ofPath? (path : String) : Option Place :=
  let (front, _) := splitLast ']' path.toList
  let (name, digits) := splitLast '[' front
  (ofName? name).map fun place => place (Numeral.ofDigits digits)

/-! ## Reading back -/

theorem sideOf?_text (side : Side) : sideOf? side.text.toList = some side := by
  cases side <;> rfl

theorem ofName?_signals (owner : List Char) (side : Side) :
    ofName? (owner ++ '.' :: side.text.toList) = some (ofSignals owner side) := by
  have hplain : ∀ cs : List Char, '.' ∉ cs → owner ++ '.' :: side.text.toList ≠ cs := by
    rintro cs hcs rfl
    exact hcs (List.mem_append_right _ List.mem_cons_self)
  have hside : '.' ∉ side.text.toList := by cases side <;> decide
  simp only [ofName?, if_neg (hplain _ (by decide : '.' ∉ "time".toList)),
    if_neg (hplain _ (by decide : '.' ∉ "price".toList)),
    if_neg (hplain _ (by decide : '.' ∉ "trades".toList)),
    if_neg (hplain _ (by decide : '.' ∉ "loss".toList)),
    if_neg (hplain _ (by decide : '.' ∉ "history".toList)),
    splitLast_append hside, sideOf?_text, Option.map_some]

theorem ofSignals_strategy (key : String) (side : Side) :
    ofSignals ("trigger".toList ++ '.' :: key.toList) side = .keyedSignal key side := by
  have howner : "trigger".toList ++ '.' :: key.toList ≠ "trigger".toList := by simp
  have hkey : ("trigger".toList ++ '.' :: key.toList).drop "trigger.".length = key.toList := rfl
  rw [ofSignals, if_neg howner, hkey, String.ofList_toList]

/-- The name of a strategy may hold points: the side stands behind the last one. -/
theorem ofName?_name (place : Place) :
    (ofName? place.name.toList).map (fun p => p place.index) = some place := by
  cases place with
  | flatSignal side i =>
    have hname : (flatSignal side i).name.toList = "trigger".toList ++ '.' :: side.text.toList := by
      simp [name]
    rw [hname, ofName?_signals]
    rfl
  | keyedSignal key side i =>
    have hname : (keyedSignal key side i).name.toList =
        ("trigger".toList ++ '.' :: key.toList) ++ '.' :: side.text.toList := by
      simp [name]
    rw [hname, ofName?_signals, ofSignals_strategy]
    rfl
  | _ => simp [ofName?, name, index]

/-- Brackets in the name of a strategy stand in front of those of the index. -/
theorem ofPath?_path (place : Place) : ofPath? place.path = some place := by
  have hdigits : '[' ∉ Nat.toDigits 10 place.index := by
    intro hc
    exact absurd (Nat.isDigit_of_mem_toDigits (by decide) (by decide) hc) (by decide)
  have hvalue : Numeral.ofDigits (Nat.toDigits 10 place.index) = place.index :=
    Nat.ofDigitChars_ten_toDigits
  simp only [ofPath?, place.toList_path, splitLast_append place.notMem_field,
    splitLast_append hdigits, hvalue, place.ofName?_name]

/-- A strategy named like a path of its own. -/
example : ofPath? "trigger.a.sell[1].buy[0].x" = some (.keyedSignal "a.sell[1]" .buy 0) := by
  decide +kernel

theorem path_injective : Function.Injective path := by
  intro a b h
  have ha := a.ofPath?_path
  rwa [h, b.ofPath?_path, Option.some.injEq, eq_comm] at ha

end Place

/-! ## Messages -/

namespace Chart

/-- The path in a message is that of one timestamp of the answer only.

* A place is read back from its path, whatever the strategies are called, so two places have two
  paths.
* The timestamps of an answer are listed with their places, and no two of them at one path.
* An answer is refused for a timestamp exactly when that is the first that does not resolve.
* What is said of it then has the path of its place. -/
theorem path_tells_place :
    (∀ place : Place, Place.ofPath? place.path = some place) ∧
    Function.Injective Place.path ∧
    ∀ (p : RunAnswer) (place : Place) (raw : String),
      ((place, raw) ∈ p.located ↔ p.stampAt? place = some raw) ∧
      ((place, raw) ∈ p.located →
        ∀ e ∈ p.located, e.1.path = place.path → e = (place, raw)) ∧
      ∀ fault : Calendar.Fault,
        (ofAnswer p = .error (.stamp place raw fault) ↔
          FirstFailing (fun e => Resolves e.2) p.located (place, raw) ∧
            Timestamp.strict raw = .error fault) ∧
        (ofAnswer p = .error (.stamp place raw fault) → ∀ v, RunAnswer.read v = .ok p →
          ofJson v = .error (.malformed ("unparseable timestamp '" ++ raw ++ "' in " ++
            place.path ++ ": " ++ fault.message))) := by
  refine ⟨Place.ofPath?_path, Place.path_injective, fun p place raw => ⟨p.mem_located, ?_,
    fun fault => ⟨ofAnswer_stamp_iff, fun h v hv => ?_⟩⟩⟩
  · rintro hmem ⟨place', raw'⟩ hmem' hpath
    cases Place.path_injective hpath
    rw [RunAnswer.mem_located] at hmem hmem'
    rw [hmem, Option.some.injEq] at hmem'
    rw [hmem']
  · simp only [ofJson, hv, h]
    rfl

end Chart
end BacktestDesk
