import BacktestDesk.Proofs.AnswerLayout

/-!
# BacktestDesk.Proofs.SignalKeys

Under which strategies a chart shows the signals of an answer, told from the document.

* `Trigger.keys_of_read`: an object is read as a pair when it has one at its top, and else key by
  key.
* `Chart.strategies_of_object`: so a chart has exactly the strategies of the object, unless there is
  a pair at the top that further keys stand beside. These are not shown.
-/

namespace BacktestDesk

open Json

/-! ## Objects with a pair at the top -/

def HoldsSamples (fields : List (String × Json)) (key : String) : Prop :=
  ∃ v samples, field? key (.obj fields) = some v ∧ readList Sample.read v = .ok samples

def HasPair (fields : List (String × Json)) : Prop :=
  HoldsSamples fields "buy" ∧ HoldsSamples fields "sell"

/-- An object is a pair of signals and has nothing beside it. -/
structure OnlyPair (fields : List (String × Json)) : Prop where
  keys : ∀ k, k ∈ fields.map Prod.fst ↔ k = "buy" ∨ k = "sell"
  pair : HasPair fields

theorem HoldsSamples.mem_keys {fields : List (String × Json)} {key : String}
    (h : HoldsSamples fields key) : key ∈ fields.map Prod.fst := by
  obtain ⟨v, _, hv, -⟩ := h
  exact mem_keys_of_field? hv

theorem SignalSamples.read_obj_isOk_iff {fields : List (String × Json)} :
    (∃ s, SignalSamples.read (.obj fields) = .ok s) ↔ HasPair fields := by
  simp only [SignalSamples.read, readRecord_obj_ok_iff, Fields.and_ofObject_ok_iff,
    Fields.required_ofObject_ok_iff]
  constructor
  · rintro ⟨s, f, sell, ⟨g, buy, hg, ⟨v, hv, hbuy⟩, rfl⟩, ⟨w, hw, hsell⟩, rfl⟩
    exact ⟨⟨v, buy, hv, hbuy⟩, ⟨w, sell, hw, hsell⟩⟩
  · rintro ⟨⟨v, buy, hv, hbuy⟩, ⟨w, sell, hw, hsell⟩⟩
    exact ⟨_, _, sell, ⟨_, buy, rfl, ⟨v, hv, hbuy⟩, rfl⟩, ⟨w, hw, hsell⟩, rfl⟩

/-! ## The strategies of a trigger -/

namespace Trigger

/-- A pair at the top decides: then it is all that is read, and else every key is a strategy. -/
theorem keys_of_read {fields : List (String × Json)} {t : Trigger}
    (h : read (.obj fields) = .ok t) :
    (HasPair fields → t.entries.map Prod.fst = [Chart.defaultKey]) ∧
    (¬ HasPair fields → (t.entries.map Prod.fst).Pairwise (· < ·) ∧
      ∀ k, k ∈ t.entries.map Prod.fst ↔ k ∈ fields.map Prod.fst) := by
  rw [← SignalSamples.read_obj_isOk_iff]
  constructor
  · rintro ⟨s, hs⟩
    rw [read_of_pair hs] at h
    cases h
    rfl
  · intro hpair
    obtain ⟨m, hm, rfl⟩ := keyed_of_read hpair h
    exact ⟨m.keys_ascending, readTextMap_ok_keys hm⟩

end Trigger

/-! ## The trigger of an answer -/

namespace RunAnswer

/-- What an answer gives as its trigger; in an array it is the fourth element. -/
def trigger? : Json → Option Json
  | .arr items => items[3]?
  | v => field? "trigger" v

theorem trigger_of_read {body : Json} {p : RunAnswer} (h : read body = .ok p) :
    ∃ v, trigger? body = some v ∧ Trigger.read v = .ok p.trigger := by
  obtain ⟨-, -, -, htrigger, -⟩ := layout.reads describes h
  exact htrigger

end RunAnswer

/-! ## The strategies of a chart -/

namespace Chart

/-- A chart has the strategies of the object that is the trigger of the answer: the default one for
a pair and nothing else, and for any other object its keys. -/
structure KeepsStrategies (c : Chart) (fields : List (String × Json)) : Prop where
  onlyPair : OnlyPair fields → c.signalKeys = [defaultKey]
  otherwise : ¬ OnlyPair fields → ∀ k, k ∈ c.signalKeys ↔ k ∈ fields.map Prod.fst

theorem answer_of_ofJson {body : Json} {c : Chart} (h : ofJson body = .ok c) :
    ∃ p, RunAnswer.read body = .ok p ∧ c.Shows p := by
  simp only [ofJson] at h
  split at h
  · cases h
  rename_i p hp
  split at h
  · cases h
  rename_i hc
  cases h
  exact ⟨p, hp, shows_of_ofAnswer hc⟩

theorem malformed_of_ofJson {body : Json} {e : Failure} (h : ofJson body = .error e) :
    ∃ text, e = .malformed text := by
  simp only [ofJson] at h
  split at h
  · cases h
    exact ⟨_, rfl⟩
  split at h
  · cases h
    exact ⟨_, rfl⟩
  · cases h

theorem keys_of_ofJson {body : Json} {fields : List (String × Json)} {c : Chart}
    (ht : RunAnswer.trigger? body = some (.obj fields)) (h : ofJson body = .ok c) :
    (HasPair fields → c.signalKeys = [defaultKey]) ∧
    (¬ HasPair fields →
      c.signalKeys.Pairwise (· < ·) ∧ ∀ k, k ∈ c.signalKeys ↔ k ∈ fields.map Prod.fst) := by
  obtain ⟨p, hp, hshows⟩ := answer_of_ofJson h
  obtain ⟨v, hv, hread⟩ := RunAnswer.trigger_of_read hp
  obtain rfl : v = .obj fields := Option.some.inj (hv.symm.trans ht)
  rw [hshows.keys]
  exact Trigger.keys_of_read hread

/-- The strategies of a chart when the trigger of its answer is an object. An answer that is refused
is malformed. A chart has the default strategy alone when there is a pair at the top of the object,
whatever else is in it, and the keys of the object when there is none. Hence no strategy is lost
exactly when a pair at the top has nothing beside it. -/
theorem strategies_of_object {body : Json} {fields : List (String × Json)}
    (ht : RunAnswer.trigger? body = some (.obj fields)) :
    (∀ e, ofJson body = .error e → ∃ text, e = .malformed text) ∧
    ∀ c, ofJson body = .ok c →
      (HasPair fields → c.signalKeys = [defaultKey]) ∧
      (¬ HasPair fields →
        c.signalKeys.Pairwise (· < ·) ∧ ∀ k, k ∈ c.signalKeys ↔ k ∈ fields.map Prod.fst) ∧
      (c.KeepsStrategies fields ↔ (HasPair fields → OnlyPair fields)) := by
  refine ⟨fun e => malformed_of_ofJson, fun c hc => ?_⟩
  obtain ⟨hpair, hnone⟩ := keys_of_ofJson ht hc
  refine ⟨hpair, hnone, fun hkeeps hhas => ?_, fun honly => ⟨fun h => hpair h.pair, fun h => ?_⟩⟩
  · -- The half of a pair would be a strategy by itself.
    by_contra hmore
    have hbuy : "buy" ∈ c.signalKeys := (hkeeps.otherwise hmore "buy").mpr hhas.1.mem_keys
    rw [hpair hhas] at hbuy
    exact absurd hbuy (by decide)
  · exact (hnone fun hhas => h (honly hhas)).2

def noSignals : Json :=
  .obj [("buy", .arr []), ("sell", .arr [])]

def answerOf (fields : List (String × Json)) : Json :=
  .obj [("details", .arr []), ("price", .arr []), ("time", .arr []), ("trades", .arr []),
    ("trigger", .obj fields)]

/-- Strategies may be called like the halves of a pair, and like the default one. -/
def namedLikeSides : List (String × Json) :=
  [("buy", noSignals), ("default", noSignals), ("sell", noSignals)]

theorem not_hasPair_namedLikeSides : ¬ HasPair namedLikeSides := by
  rintro ⟨⟨v, samples, hv, hread⟩, -⟩
  cases hv
  cases hread

theorem strategies_of_object_namedLikeSides :
    RunAnswer.trigger? (answerOf namedLikeSides) = some (.obj namedLikeSides) ∧
    ∃ c, ofJson (answerOf namedLikeSides) = .ok c ∧ c.KeepsStrategies namedLikeSides := by
  have ht : RunAnswer.trigger? (answerOf namedLikeSides) = some (.obj namedLikeSides) := rfl
  refine ⟨ht, _, rfl, ?_⟩
  obtain ⟨-, -, hkeeps⟩ := (strategies_of_object ht).2 _ rfl
  exact hkeeps.mpr fun hpair => absurd hpair not_hasPair_namedLikeSides

/-- A pair with a further strategy beside it. -/
def pairAndModel : List (String × Json) :=
  [("buy", .arr []), ("modelA", noSignals), ("sell", .arr [])]

theorem strategy_lost_beside_pair :
    RunAnswer.trigger? (answerOf pairAndModel) = some (.obj pairAndModel) ∧
    ∃ c, ofJson (answerOf pairAndModel) = .ok c ∧ c.signalKeys = [defaultKey] ∧
      ¬ c.KeepsStrategies pairAndModel := by
  refine ⟨rfl, _, rfl, rfl, fun hkeeps => ?_⟩
  have hmore : ¬ OnlyPair pairAndModel := fun h =>
    absurd ((h.keys "modelA").mp (by decide)) (by decide)
  have hmodel := (hkeeps.otherwise hmore "modelA").mpr (by decide)
  exact absurd hmodel (by decide)

end Chart
end BacktestDesk
