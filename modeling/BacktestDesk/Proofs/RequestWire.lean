import BacktestDesk.Proofs.DayTextRoundTrip
import BacktestDesk.Proofs.QueryRoundTrip
import BacktestDesk.Scenario.Wire
import Mathlib.Data.Option.Basic

/-!
# BacktestDesk.Proofs.RequestWire

What a request sends, told from its configuration, and what the query tells of the configuration.
`Request.wirePairs` lists the pairs; no key is set twice, so that each stands where it was set.

* `Request.pairs_parameters`: the parameters of a request have these pairs.
* `Request.alike_of_wirePairs`: the pairs tell the configuration.
-/

namespace BacktestDesk

open Calendar

/-! ## Pairs -/

def DayRange.wirePairs (r : DayRange) : List (String × String) :=
  [("coin", Text.trim r.coin), ("from", wireDay r.first), ("to", wireDay r.last)]

def Backtest.figures (b : Backtest) : List (String × String) :=
  [("interval", toString b.interval), ("prev", toString b.prev), ("next", toString b.next),
   ("threshold", b.threshold.plain)]

def Training.figures (t : Training) : List (String × String) :=
  [("precision", t.precision.plain), ("size", toString t.size), ("buffer", toString t.buffer),
   ("features", toString t.features), ("look_back", toString t.lookBack),
   ("look_ahead", toString t.lookAhead), ("gap", t.gap.plain),
   ("buffer_time", t.risk.bufferTime.plain), ("price_threshold", t.risk.priceThreshold.plain),
   ("stop_loss", t.risk.stopLoss.plain), ("take_profit", t.risk.takeProfit.plain)]

namespace Request

/-- The coin and the days of a request; the list of models has none. -/
def range? : Request → Option DayRange
  | .run b => some b.range
  | .train t => some t.range
  | .load r => some r
  | .history r => some r
  | .models => none

def named : Request → List String
  | .train t => t.models
  | _ => []

/-- The numbers of a request as they are shown, by name. -/
def figures : Request → List (String × String)
  | .run b => b.figures
  | .train t => t.figures
  | _ => []

def rangePairs (r : Request) : List (String × String) :=
  r.range?.elim [] DayRange.wirePairs

/-- All pairs of a request: coin and days, one pair for each model, and the numbers. -/
def wirePairs (r : Request) : List (String × String) :=
  r.rangePairs ++ (r.named.map fun m => ("model", m)) ++ r.figures

end Request

/-- Two ranges that the backend cannot tell apart. -/
structure DayRange.Alike (r s : DayRange) : Prop where
  coin : Text.trim r.coin = Text.trim s.coin
  first : r.first = s.first
  last : r.last = s.last

/-- Two requests that the backend cannot tell apart. -/
structure Request.Alike (r s : Request) : Prop where
  operation : r.operation = s.operation
  range : Option.Rel DayRange.Alike r.range? s.range?
  named : r.named = s.named
  figures : r.figures = s.figures

/-! ## Parameters -/

namespace Parameters

theorem setEntry_of_notMem {key : String} {value : Parameter} {es : List (String × Parameter)}
    (h : key ∉ es.map Prod.fst) : setEntry key value es = es ++ [(key, value)] := by
  induction es with
  | nil => rfl
  | cons e es ih =>
    obtain ⟨k, v⟩ := e
    rw [List.map_cons, List.mem_cons, not_or] at h
    rw [setEntry, if_neg (Ne.symm h.1), ih h.2, List.cons_append]

theorem set_of_notMem {key : String} {value : Parameter} {es : List (String × Parameter)}
    (h : key ∉ es.map Prod.fst) : set ⟨es⟩ key value = ⟨es ++ [(key, value)]⟩ := by
  rw [set, setEntry_of_notMem h]

end Parameters

theorem DayRange.parameters_eq (r : DayRange) :
    r.parameters = ⟨[("coin", .scalar (Text.trim r.coin)), ("from", .scalar (wireDay r.first)),
      ("to", .scalar (wireDay r.last))]⟩ := by
  simp [parameters, Parameters.empty, Parameters.set_of_notMem]

theorem DayRange.pairs_parameters (r : DayRange) : r.parameters.pairs = r.wirePairs := by
  simp [parameters_eq, Parameters.pairs, Parameter.texts, wirePairs]

namespace Request

theorem pairs_parameters (r : Request) : r.parameters.pairs = r.wirePairs := by
  -- No key is set twice, so every setting appends its own pairs.
  cases r with
  | run b =>
    simp [parameters, Backtest.parameters, DayRange.parameters_eq, Parameters.set_of_notMem,
      Parameters.pairs, Parameter.texts, Parameter.ofNat, Parameter.ofDouble, wirePairs, rangePairs,
      range?, named, figures, DayRange.wirePairs, Backtest.figures]
  | train t =>
    simp [parameters, Training.parameters, DayRange.parameters_eq, Parameters.set_of_notMem,
      Parameters.pairs, Parameter.texts, Parameter.ofNat, Parameter.ofDouble, wirePairs, rangePairs,
      range?, named, figures, DayRange.wirePairs, Training.figures]
  | load range => exact range.pairs_parameters
  | history range => exact range.pairs_parameters
  | models => rfl

/-! ## What the pairs tell -/

theorem length_rangePairs (r : Request) :
    r.rangePairs.length =
      match r.operation with
      | .models => 0
      | _ => 3 := by
  cases r <;> rfl

theorem length_figures (r : Request) :
    r.figures.length =
      match r.operation with
      | .run => 4
      | .train => 11
      | _ => 0 := by
  cases r <;> rfl

theorem alike_of_rangePairs {r s : Request} (h : r.rangePairs = s.rangePairs) :
    Option.Rel DayRange.Alike r.range? s.range? := by
  simp only [rangePairs] at h
  cases hr : r.range? with
  | none =>
    cases hs : s.range? with
    | none => exact .none
    | some range' =>
      rw [hr, hs] at h
      cases h
  | some range =>
    cases hs : s.range? with
    | none =>
      rw [hr, hs] at h
      cases h
    | some range' =>
      simp only [hr, hs, Option.elim_some, DayRange.wirePairs, List.cons.injEq, Prod.mk.injEq,
        true_and, and_true] at h
      exact .some ⟨h.1, wireDay_injective h.2.1, wireDay_injective h.2.2⟩

/-- Of two requests for the same operation the pairs tell the configurations apart. The models stand
between parts whose lengths the operation fixes, so that their number is known too. -/
theorem alike_of_wirePairs {r s : Request} (hop : r.operation = s.operation)
    (h : r.wirePairs = s.wirePairs) : r.Alike s := by
  have hfigures : r.figures.length = s.figures.length := by
    rw [length_figures, length_figures, hop]
  have hrange : r.rangePairs.length = s.rangePairs.length := by
    rw [length_rangePairs, length_rangePairs, hop]
  obtain ⟨hfront, hnumbers⟩ := List.append_inj' h hfigures
  obtain ⟨hdays, hnamed⟩ := List.append_inj hfront hrange
  have hinjective : Function.Injective fun m : String => ("model", m) := fun a b hab => by
    cases hab
    rfl
  exact ⟨hop, alike_of_rangePairs hdays, List.map_injective_iff.mpr hinjective hnamed, hnumbers⟩

/-! ## Requests that keep their rules -/

theorem build_ok_iff {r : Request} {ps : Parameters} :
    r.build = .ok ps ↔ (∀ c ∈ r.checks, c = none) ∧ ps = r.parameters := by
  have hnone : r.violation? = none ↔ ∀ c ∈ r.checks, c = none := List.findSome?_eq_none_iff
  rw [← hnone, build]
  cases r.violation? with
  | some v => simp
  | none => simp [eq_comm]

end Request

theorem DayRange.coin_of_checks {r : DayRange} (h : ∀ c ∈ r.checks, c = none) :
    Text.isBlankText r.coin = false := by
  have hcoin := h _ List.mem_cons_self
  simp only [check] at hcoin
  split at hcoin
  · rename_i hblank
    rwa [Bool.not_eq_true'] at hblank
  · cases hcoin

theorem Request.range_checks {r : Request} {range : DayRange} (h : r.range? = some range) :
    ∀ c ∈ range.checks, c ∈ r.checks := by
  intro c hc
  cases r with
  | run b =>
    cases h
    exact List.mem_append_left _ hc
  | train t =>
    cases h
    exact List.mem_append_left _ (List.mem_append_left _ hc)
  | load s =>
    cases h
    exact hc
  | history s =>
    cases h
    exact hc
  | models => cases h

/-! ## Coins -/

theorem Text.trim_eq_empty_iff {s : String} : Text.trim s = "" ↔ Text.isBlankText s := by
  have hskip : ∀ cs : List Char, Text.skipBlanks cs = [] ↔ ∀ c ∈ cs, Text.isBlank c := fun cs =>
    List.dropWhile_eq_nil_iff
  have hinner : (∀ c ∈ Text.skipBlanks s.toList, Text.isBlank c) ↔
      Text.skipBlanks s.toList = [] := by
    refine ⟨fun h => Decidable.byContradiction fun hne => ?_, fun h => by simp [h]⟩
    have hhead : Text.isBlank ((Text.skipBlanks s.toList).head hne) = false :=
      List.head_dropWhile_not Text.isBlank hne
    rw [h _ (List.head_mem hne)] at hhead
    cases hhead
  rw [Text.isBlankText, List.all_eq_true, ← hskip, ← hinner, Text.trim, Text.trimChars,
    ← String.toList_inj, String.toList_ofList]
  simp [hskip]

/-! ## Configurations -/

/-- What a request sends determines what it was made from. For every request that keeps its rules:

* its query is read as the coin, the first and the last day, one pair for each model in order, and
  the numbers of its operation in order (`Request.wirePairs`);
* the coin is trimmed and not empty, and each day is read back as the midnight at which it begins;
* another request for the same operation with the same query has the same coin, the same days, the
  same models and, number by number, the same text. -/
theorem Request.wire_determines {r : Request} {ps : Parameters} (h : r.build = .ok ps) :
    Text.Form.decode ps.query = r.wirePairs ∧
    (∀ range, r.range? = some range →
      Text.trim range.coin ≠ "" ∧
      ∀ d ∈ [range.first, range.last],
        ∃ t, hourOfWire (wireDay d) = .ok t ∧ t.date = d ∧ t.secondOfDay = 0 ∧ t.nanos = 0) ∧
    ∀ (s : Request) (qs : Parameters), s.build = .ok qs → s.operation = r.operation →
      qs.query = ps.query → s.Alike r := by
  obtain ⟨hchecks, rfl⟩ := build_ok_iff.mp h
  have hwire : ∀ s : Request, Text.Form.decode s.parameters.query = s.wirePairs := fun s => by
    rw [Parameters.decode_query, s.pairs_parameters]
  refine ⟨hwire r, ?_, ?_⟩
  · intro range hrange
    have hcoin := DayRange.coin_of_checks fun c hc => hchecks c (range_checks hrange c hc)
    refine ⟨fun hempty => ?_, fun d _ => ?_⟩
    · rw [Text.trim_eq_empty_iff.mp hempty] at hcoin
      cases hcoin
    · obtain ⟨t, ht, hday⟩ := ofWire?_wireDay d
      exact ⟨t, by rw [hourOfWire, ht], hday⟩
  · intro s qs hs hop hquery
    obtain ⟨-, rfl⟩ := build_ok_iff.mp hs
    exact alike_of_wirePairs hop (by rw [← hwire s, ← hwire r, hquery])

/-- An evaluation of two models whose names hold separators of a query. -/
def twoModels : Training :=
  { Training.default ⟨" ETH ", ⟨-4, 2, 29, by decide⟩, ⟨2024, 2, 29, by decide⟩⟩ with
    models := ["a&b=c", "c d%"] }

theorem Request.wire_determines_twoModels :
    (Request.train twoModels).build = .ok (Request.train twoModels).parameters ∧
    Text.Form.decode (Request.train twoModels).parameters.query =
      [("coin", "ETH"), ("from", "-0004_02_29T00"), ("to", "2024_02_29T00"), ("model", "a&b=c"),
       ("model", "c d%"), ("precision", "0.51"), ("size", "100"), ("buffer", "50"),
       ("features", "3"), ("look_back", "9"), ("look_ahead", "1"), ("gap", "0.75"),
       ("buffer_time", "0"), ("price_threshold", "0"), ("stop_loss", "0"),
       ("take_profit", "0")] := by
  have h : (Request.train twoModels).build = .ok (Request.train twoModels).parameters := by
    decide +kernel
  refine ⟨h, (wire_determines h).1.trans ?_⟩
  decide +kernel

end BacktestDesk
