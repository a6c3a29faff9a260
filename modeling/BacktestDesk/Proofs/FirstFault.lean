import BacktestDesk.Proofs.FaultPlaces

/-!
# BacktestDesk.Proofs.FirstFault

What an answer that cannot be shown is blamed for. `RunAnswer.parts` lists what a chart needs of an
answer: all timestamps with the paths at which they stand, and behind them all runs.

* `RunAnswer.Blames`: what is said of the first part that is not valid.
* `RunAnswer.parts_eq`: the parts are the timestamps with the paths of their places, and the runs.
* `Chart.checks_ofAnswer`: an answer is refused for its first part that is not valid.
* `Chart.first_fault_reported`: so is a document, unless it has another shape than an answer.
-/

namespace BacktestDesk

open Calendar

/-! ## The parts of an answer -/

/-- What a chart needs: a timestamp that resolves, or a run that has figures. -/
inductive Part where
  | stamp (path raw : String)
  | entry (index : Nat) (run : RunEntry)

namespace Part

def Valid : Part → Prop
  | stamp _ raw => Resolves raw
  | entry _ run => run.result.isSome

/-- What is said of a part that is not valid. -/
def complaint? : Part → Option String
  | stamp path raw =>
    match Timestamp.strict raw with
    | .ok _ => none
    | .error fault =>
      some ("unparseable timestamp '" ++ raw ++ "' in " ++ path ++ ": " ++ fault.message)
  | entry index run =>
    match run.result with
    | some _ => none
    | none => some ("details[" ++ toString index ++ "] (" ++ run.coin ++ ") has no result block")

theorem complaint?_eq_none_iff {part : Part} : part.complaint? = none ↔ part.Valid := by
  cases part with
  | stamp path raw =>
    simp only [complaint?, Valid, Resolves, stampOf_iff]
    cases Timestamp.strict raw <;> simp
  | entry index run =>
    simp only [complaint?, Valid]
    cases run.result <;> simp

end Part

/-- The timestamps of a series; `field` is its path. -/
def seriesParts (field : String) (ps : List Sample) : List Part :=
  ps.zipIdx.map fun e => .stamp (field ++ "[" ++ toString e.2 ++ "].x") e.1.stamp

/-- All buy signals come before the sell signals. -/
def SignalSamples.parts (field : String) (s : SignalSamples) : List Part :=
  seriesParts (field ++ ".buy") s.buy ++ seriesParts (field ++ ".sell") s.sell

/-- Strategies come in ascending order of their names. -/
def Trigger.parts : Trigger → List Part
  | .flat s => s.parts "trigger"
  | .keyed m => m.entries.flatMap fun e => e.2.parts ("trigger." ++ e.1)

namespace RunAnswer

def timeParts (p : RunAnswer) : List Part :=
  p.time.zipIdx.map fun e => .stamp ("time[" ++ toString e.2 ++ "]") e.1

def entryParts (p : RunAnswer) : List Part :=
  p.details.zipIdx.map fun e => .entry e.2 e.1

/-- All parts of an answer, in the order in which they are looked at. -/
def parts (p : RunAnswer) : List Part :=
  p.timeParts ++ seriesParts "price" p.price ++ seriesParts "trades" p.trades ++ p.trigger.parts ++
    seriesParts "loss" (p.loss.getD []) ++ p.entryParts

/-- `text` is what is said of the first part that is not valid. -/
def Blames (p : RunAnswer) (text : String) : Prop :=
  ∃ part, FirstFailing Part.Valid p.parts part ∧ part.complaint? = some text

end RunAnswer

/-! ## Paths -/

namespace Part

/-- A timestamp has the path of its place. -/
def ofStamp (e : Place × String) : Part :=
  stamp e.1.path e.2

def ofRun (e : RunEntry × Nat) : Part :=
  entry e.2 e.1

theorem complaint?_ofStamp (e : Place × String) :
    (ofStamp e).complaint? = (stampFault? e).map Chart.Fault.message := by
  rw [ofStamp, complaint?, stampFault?]
  cases Timestamp.strict e.2 <;> rfl

theorem complaint?_ofRun (e : RunEntry × Nat) :
    (ofRun e).complaint? = (runFault? e).map Chart.Fault.message := by
  rw [ofRun, complaint?, runFault?]
  cases e.1.result <;> rfl

end Part

theorem seriesParts_eq (place : Nat → Place) {field : String}
    (hpath : ∀ i, (place i).path = field ++ "[" ++ toString i ++ "].x") (ps : List Sample) :
    seriesParts field ps = (locatedAt place (ps.map Sample.stamp)).map Part.ofStamp := by
  rw [locatedAt, List.zipIdx_map, List.map_map, List.map_map]
  simp only [seriesParts, Function.comp_def, Part.ofStamp, hpath]
  rfl

theorem SignalSamples.parts_eq {place : Side → Nat → Place} {field : String}
    (hpath : ∀ side i, (place side i).path =
      field ++ "." ++ side.text ++ "[" ++ toString i ++ "].x") (s : SignalSamples) :
    s.parts field = (s.located place).map Part.ofStamp := by
  have hside : ∀ side : Side, ∀ i, (place side i).path =
      field ++ ("." ++ side.text) ++ "[" ++ toString i ++ "].x" := by
    intro side i
    rw [hpath, @String.append_assoc field]
  rw [located, List.map_append, ← seriesParts_eq _ (hside .buy), ← seriesParts_eq _ (hside .sell)]
  rfl

theorem Trigger.parts_eq (t : Trigger) : t.parts = t.located.map Part.ofStamp := by
  cases t with
  | flat s =>
    have hs : s.parts "trigger" = (s.located .flatSignal).map Part.ofStamp :=
      s.parts_eq fun side i => rfl
    exact hs
  | keyed m =>
    have hs : ∀ key (s : SignalSamples), s.parts ("trigger." ++ key) =
        (s.located (.keyedSignal key)).map Part.ofStamp := fun key s =>
      s.parts_eq fun side i => rfl
    simp only [parts, located, List.map_flatMap, hs]

/-- The parts are the timestamps, with the paths of their places, and the runs. -/
theorem RunAnswer.parts_eq (p : RunAnswer) :
    p.parts = p.located.map Part.ofStamp ++ p.details.zipIdx.map Part.ofRun := by
  have htime : p.timeParts = (locatedAt .time p.time).map Part.ofStamp := by
    rw [locatedAt, List.map_map]
    rfl
  have hprice : seriesParts "price" p.price = _ := seriesParts_eq .price (fun i => rfl) _
  have htrades : seriesParts "trades" p.trades = _ := seriesParts_eq .trade (fun i => rfl) _
  have hloss : seriesParts "loss" (p.loss.getD []) = _ := seriesParts_eq .loss (fun i => rfl) _
  simp only [parts, located, List.map_append, htime, p.trigger.parts_eq, hprice, htrades, hloss]
  rfl

namespace Chart

/-- A result comes of checking these parts in order: it fails exactly when one of them is not valid,
and says so of the first. -/
abbrev Checks {α : Type} (r : Except Fault α) (parts : List Part) : Prop :=
  TellsFirst Fault.message Part.complaint? r parts

theorem checks_ofAnswer (p : RunAnswer) : Checks (ofAnswer p) p.parts := by
  have hcomplaint : ∀ e, (Sum.elim Part.ofStamp Part.ofRun e).complaint? =
      (Sum.elim stampFault? runFault? e).map Fault.message := by
    rintro (e | e)
    · exact Part.complaint?_ofStamp e
    · exact Part.complaint?_ofRun e
  have hparts := (reports_ofAnswer p).map_parts hcomplaint
  rwa [List.map_append, List.map_map, List.map_map, Sum.elim_comp_inl, Sum.elim_comp_inr,
    ← p.parts_eq] at hparts

theorem blames_iff {p : RunAnswer} {text : String} :
    (∃ fault, ofAnswer p = .error fault ∧ fault.message = text) ↔ p.Blames text :=
  (checks_ofAnswer p).exists_iff Part.complaint?_eq_none_iff

theorem ofJson_error_iff {v : Json} {p : RunAnswer} (hp : RunAnswer.read v = .ok p) {e : Failure} :
    ofJson v = .error e ↔ ∃ text, p.Blames text ∧ e = .malformed text := by
  simp only [← blames_iff, ofJson, hp]
  cases h : ofAnswer p with
  | ok c => simp
  | error fault => simp [eq_comm]

/-- The first fault is the one that is reported. An answer is refused exactly when one of its parts
is not valid, and what is said is said of the first of them, with the path and the text of a
timestamp or the index and the coin of a run. The parts come in a fixed order, the strategies of a
trigger by ascending name. A document of another shape is refused for its shape, whatever its
timestamps and runs, and every other document as the answer that it holds. -/
theorem first_fault_reported :
    (∀ (p : RunAnswer) (text : String),
      (∃ fault, ofAnswer p = .error fault ∧ fault.message = text) ↔ p.Blames text) ∧
    (∀ (p : RunAnswer) (m : TextMap SignalSamples), p.trigger = .keyed m →
      (m.entries.map Prod.fst).Pairwise (· < ·)) ∧
    (∀ (v : Json) (shape : Json.Fault), RunAnswer.read v = .error shape →
      ofJson v = .error (.malformed ("result payload: " ++ shape.message))) ∧
    ∀ (v : Json) (p : RunAnswer), RunAnswer.read v = .ok p → ∀ e,
      ofJson v = .error e ↔ ∃ text, p.Blames text ∧ e = .malformed text := by
  refine ⟨fun p text => blames_iff, fun p m _ => ?_, fun v shape h => ?_, fun v p hp e => ?_⟩
  · exact TextMap.ascending_iff_keys.mp m.ascending
  · simp only [ofJson, h]
  · exact ofJson_error_iff hp

end Chart
end BacktestDesk
