import BacktestDesk.Proofs.ChartFidelity
import BacktestDesk.Proofs.CoinGroups

/-!
# BacktestDesk.Proofs.FaultPlaces

The place of a timestamp that does not resolve. `RunAnswer.stampAt?` is the timestamp at a place of
an answer, `RunAnswer.located` lists all of them in the order in which they are resolved.

* `RunAnswer.mem_located`: the list has the timestamp of every place.
* `Chart.reports_ofAnswer`: what keeps an answer from being shown is the first fault of the list
  or, behind it, the first run without figures.
* `Chart.ofAnswer_stamp_iff`: the place that is told is that of the first that does not resolve.
-/

namespace BacktestDesk

open Calendar

/-! ## The timestamps of an answer -/

def SignalSamples.onSide (s : SignalSamples) : Side → List Sample
  | .buy => s.buy
  | .sell => s.sell

/-- The timestamp at a place; a pair without strategies has no place under one. -/
def RunAnswer.stampAt? (p : RunAnswer) : Place → Option String
  | .time i => p.time[i]?
  | .price i => p.price[i]?.map Sample.stamp
  | .trade i => p.trades[i]?.map Sample.stamp
  | .flatSignal side i =>
    match p.trigger with
    | .flat s => (s.onSide side)[i]?.map Sample.stamp
    | .keyed _ => none
  | .keyedSignal key side i =>
    match p.trigger with
    | .flat _ => none
    | .keyed m => (m.get? key).bind fun s => (s.onSide side)[i]?.map Sample.stamp
  | .loss i => (p.loss.getD [])[i]?.map Sample.stamp
  | .stored _ => none

/-- Timestamps in a row, each with its place. -/
def locatedAt (place : Nat → Place) (raws : List String) : List (Place × String) :=
  raws.zipIdx.map fun e => (place e.2, e.1)

def SignalSamples.located (place : Side → Nat → Place) (s : SignalSamples) :
    List (Place × String) :=
  locatedAt (place .buy) (s.buy.map Sample.stamp) ++
    locatedAt (place .sell) (s.sell.map Sample.stamp)

def Trigger.located : Trigger → List (Place × String)
  | .flat s => s.located .flatSignal
  | .keyed m => m.entries.flatMap fun e => e.2.located (.keyedSignal e.1)

/-- All timestamps with their places, in the order in which they are resolved. -/
def RunAnswer.located (p : RunAnswer) : List (Place × String) :=
  locatedAt .time p.time ++ locatedAt .price (p.price.map Sample.stamp) ++
    locatedAt .trade (p.trades.map Sample.stamp) ++ p.trigger.located ++
    locatedAt .loss ((p.loss.getD []).map Sample.stamp)

theorem mem_locatedAt {place : Nat → Place} {raws : List String} {spot : Place} {raw : String} :
    (spot, raw) ∈ locatedAt place raws ↔ ∃ i, place i = spot ∧ raws[i]? = some raw := by
  simp only [locatedAt, List.mem_map, Prod.exists, List.mk_mem_zipIdx_iff_getElem?, Prod.mk.injEq]
  constructor
  · rintro ⟨_, i, h, hplace, rfl⟩
    exact ⟨i, hplace, h⟩
  · rintro ⟨i, hplace, h⟩
    exact ⟨raw, i, h, hplace, rfl⟩

theorem SignalSamples.mem_located {place : Side → Nat → Place} {s : SignalSamples} {spot : Place}
    {raw : String} : (spot, raw) ∈ s.located place ↔
      ∃ side i, place side i = spot ∧ (s.onSide side)[i]?.map Sample.stamp = some raw := by
  simp only [located, List.mem_append, mem_locatedAt, List.getElem?_map]
  constructor
  · rintro (⟨i, h⟩ | ⟨i, h⟩)
    · exact ⟨.buy, i, h⟩
    · exact ⟨.sell, i, h⟩
  · rintro ⟨side, i, h⟩
    cases side with
    | buy => exact .inl ⟨i, h⟩
    | sell => exact .inr ⟨i, h⟩

theorem Trigger.mem_located_flat {s : SignalSamples} {spot : Place} {raw : String} :
    (spot, raw) ∈ (Trigger.flat s).located ↔ ∃ side i, .flatSignal side i = spot ∧
      (s.onSide side)[i]?.map Sample.stamp = some raw :=
  SignalSamples.mem_located

theorem Trigger.mem_located_keyed {m : TextMap SignalSamples} {spot : Place} {raw : String} :
    (spot, raw) ∈ (Trigger.keyed m).located ↔ ∃ key side i, .keyedSignal key side i = spot ∧
      ((m.get? key).bind fun s => (s.onSide side)[i]?.map Sample.stamp) = some raw := by
  simp only [located, List.mem_flatMap, SignalSamples.mem_located, Option.bind_eq_some_iff,
    TextMap.get?_eq_some_iff]
  constructor
  · rintro ⟨⟨key, s⟩, he, side, i, hplace, hraw⟩
    exact ⟨key, side, i, hplace, s, he, hraw⟩
  · rintro ⟨key, side, i, hplace, s, he, hraw⟩
    exact ⟨(key, s), he, side, i, hplace, hraw⟩

/-- Every place of an answer is listed, with the timestamp that stands there. -/
theorem RunAnswer.mem_located {p : RunAnswer} {place : Place} {raw : String} :
    (place, raw) ∈ p.located ↔ p.stampAt? place = some raw := by
  simp only [located, List.mem_append, mem_locatedAt, List.getElem?_map]
  cases ht : p.trigger with
  | flat s => cases place <;> simp [Trigger.mem_located_flat, stampAt?, ht]
  | keyed m => cases place <;> simp [Trigger.mem_located_keyed, stampAt?, ht]

/-! ## The first fault -/

/-- What is wrong with a timestamp. -/
def stampFault? (e : Place × String) : Option Chart.Fault :=
  match Timestamp.strict e.2 with
  | .ok _ => none
  | .error fault => some (.stamp e.1 e.2 fault)

/-- What is wrong with a run. -/
def runFault? (e : RunEntry × Nat) : Option Chart.Fault :=
  match e.1.result with
  | some _ => none
  | none => some (.noResult e.2 e.1.coin)

theorem stampFault?_eq_none_iff {e : Place × String} : stampFault? e = none ↔ Resolves e.2 := by
  simp only [stampFault?, Resolves, stampOf_iff]
  cases Timestamp.strict e.2 <;> simp

namespace Chart

/-- A result comes of resolving these timestamps in order: it fails exactly when one of them does
not resolve, and with the fault of the first. -/
abbrev Resolving {α : Type} (r : Except Fault α) (stamps : List (Place × String)) : Prop :=
  TellsFirst id stampFault? r stamps

theorem resolving_resolveStamp (place : Place) (raw : String) :
    Resolving (resolveStamp place raw) [(place, raw)] := by
  simp only [Resolving, TellsFirst, resolveStamp, List.findSome?_cons, List.findSome?_nil,
    stampFault?]
  cases Timestamp.strict raw <;> rfl

theorem resolving_resolvePoint (place : Nat → Place) (i : Nat) (p : Sample) :
    Resolving (resolvePoint place i p) [(place i, p.stamp)] := by
  have hstamp := (resolving_resolveStamp (place i) p.stamp).map fun t => Point.mk t p.value
  rw [resolvePoint]
  cases h : resolveStamp (place i) p.stamp <;> rwa [h] at hstamp

theorem resolving_resolvePoints (place : Nat → Place) (ps : List Sample) :
    Resolving (resolvePoints place ps) (locatedAt place (ps.map Sample.stamp)) := by
  have hps := TellsFirst.resolveAll (resolving_resolvePoint place) 0 ps
  rwa [locatedAt, List.zipIdx_map, List.map_map]

theorem resolving_resolveSignals (place : Side → Nat → Place) (s : SignalSamples) :
    Resolving (resolveSignals place s) (s.located place) := by
  have hpair := (resolving_resolvePoints (place .buy) s.buy).bind fun buy =>
    (resolving_resolvePoints (place .sell) s.sell).map fun sell => Signals.mk buy sell
  rw [resolveSignals]
  cases h : resolvePoints (place .buy) s.buy with
  | error e => rwa [h] at hpair
  | ok buy => cases h' : resolvePoints (place .sell) s.sell <;> rwa [h, h'] at hpair

theorem resolving_resolveTrigger (t : Trigger) : Resolving (resolveTrigger t) t.located := by
  cases t with
  | flat s =>
    have hsingle := (resolving_resolveSignals .flatSignal s).map (TextMap.single defaultKey)
    rw [resolveTrigger]
    cases h : resolveSignals .flatSignal s <;> rwa [h] at hsingle
  | keyed m => exact TellsFirst.mapM (fun key => resolving_resolveSignals (.keyedSignal key)) m

theorem resolving_resolveLoss (loss : Option (List Sample)) :
    Resolving (resolveLoss loss) (locatedAt .loss ((loss.getD []).map Sample.stamp)) := by
  cases loss with
  | none => exact .ok none
  | some ps =>
    have hsome := (resolving_resolvePoints .loss ps).map some
    rw [resolveLoss]
    cases h : resolvePoints .loss ps <;> rwa [h] at hsome

/-- The same for timestamps and runs. -/
abbrev Reports {α : Type} (r : Except Fault α)
    (parts : List ((Place × String) ⊕ (RunEntry × Nat))) : Prop :=
  TellsFirst id (Sum.elim stampFault? runFault?) r parts

theorem Resolving.reports {α : Type} {r : Except Fault α} {stamps : List (Place × String)}
    (h : Resolving r stamps) : Reports r (stamps.map .inl) :=
  h.map_parts (k := id) (g := Sum.inl) fun _ => Option.map_id_apply.symm

theorem reports_resolveDetail (i : Nat) (run : RunEntry) :
    Reports (resolveDetail i run) [.inr (run, i)] := by
  simp only [Reports, TellsFirst, resolveDetail, List.findSome?_cons, List.findSome?_nil,
    Sum.elim_inr, runFault?]
  cases run.result <;> rfl

theorem ofAnswer_eq (p : RunAnswer) :
    ofAnswer p =
      (resolveAll (fun i raw => resolveStamp (.time i) raw) 0 p.time).bind fun timeAxis =>
      (resolvePoints .price p.price).bind fun priceSeries =>
      (resolvePoints .trade p.trades).bind fun tradeSeries =>
      (resolveTrigger p.trigger).bind fun signalSeries =>
      (resolveLoss p.loss).bind fun lossSeries =>
      (resolveAll resolveDetail 0 p.details).bind fun details =>
        .ok ⟨coinOf details, timeAxis, priceSeries, tradeSeries, signalSeries, lossSeries, details,
          p.report.getD .empty⟩ := by
  rw [ofAnswer]
  cases resolveAll (fun i raw => resolveStamp (.time i) raw) 0 p.time with
  | error e => rfl
  | ok timeAxis =>
  cases resolvePoints .price p.price with
  | error e => rfl
  | ok priceSeries =>
  cases resolvePoints .trade p.trades with
  | error e => rfl
  | ok tradeSeries =>
  cases resolveTrigger p.trigger with
  | error e => rfl
  | ok signalSeries =>
  cases resolveLoss p.loss with
  | error e => rfl
  | ok lossSeries => cases resolveAll resolveDetail 0 p.details <;> rfl

theorem reports_ofAnswer (p : RunAnswer) :
    Reports (ofAnswer p) (p.located.map .inl ++ p.details.zipIdx.map .inr) := by
  have htime : Resolving _ (locatedAt .time p.time) :=
    TellsFirst.resolveAll (fun i => resolving_resolveStamp (.time i)) 0 p.time
  have hdetails := TellsFirst.resolveAll reports_resolveDetail 0 p.details
  rw [ofAnswer_eq]
  simp only [RunAnswer.located, List.map_append, List.append_assoc]
  exact htime.reports.bind fun timeAxis =>
    (resolving_resolvePoints .price p.price).reports.bind fun priceSeries =>
    (resolving_resolvePoints .trade p.trades).reports.bind fun tradeSeries =>
    (resolving_resolveTrigger p.trigger).reports.bind fun signalSeries =>
    (resolving_resolveLoss p.loss).reports.bind fun lossSeries => hdetails.map fun details => _

theorem stampFault?_eq_some_iff {e : Place × String} {place : Place} {raw : String}
    {fault : Calendar.Fault} : stampFault? e = some (.stamp place raw fault) ↔
      e = (place, raw) ∧ Timestamp.strict raw = .error fault := by
  obtain ⟨place', raw'⟩ := e
  rw [stampFault?, Prod.mk.injEq]
  cases h : Timestamp.strict raw' with
  | ok t =>
    constructor
    · intro hnone
      cases hnone
    · rintro ⟨⟨-, rfl⟩, hraw⟩
      rw [h] at hraw
      cases hraw
  | error fault' =>
    constructor
    · intro hsome
      cases hsome
      exact ⟨⟨rfl, rfl⟩, h⟩
    · rintro ⟨⟨rfl, rfl⟩, hraw⟩
      rw [h] at hraw
      cases hraw
      rfl

theorem runFault?_ne_stamp (e : RunEntry × Nat) (place : Place) (raw : String)
    (fault : Calendar.Fault) : runFault? e ≠ some (.stamp place raw fault) := by
  rw [runFault?]
  cases e.1.result <;> simp

/-- The timestamp that is told is the first that does not resolve. -/
theorem ofAnswer_stamp_iff {p : RunAnswer} {place : Place} {raw : String}
    {fault : Calendar.Fault} : ofAnswer p = .error (.stamp place raw fault) ↔
      FirstFailing (fun e => Resolves e.2) p.located (place, raw) ∧
        Timestamp.strict raw = .error fault := by
  have hruns : ∀ es : List (RunEntry × Nat),
      es.findSome? runFault? ≠ some (.stamp place raw fault) := by
    intro es h
    obtain ⟨e, -, he⟩ := List.exists_of_findSome?_eq_some h
    exact runFault?_ne_stamp e place raw fault he
  have htold := reports_ofAnswer p
  rw [Reports, TellsFirst, Option.map_id, id_eq, List.findSome?_append, List.findSome?_map,
    List.findSome?_map, Sum.elim_comp_inl, Sum.elim_comp_inr] at htold
  rw [← failure?_eq_some_iff, htold, Option.or_eq_some_iff]
  simp only [hruns, and_false, or_false,
    findSome?_eq_some_iff_firstFailing stampFault?_eq_none_iff, stampFault?_eq_some_iff]
  constructor
  · rintro ⟨_, hfirst, rfl, hfault⟩
    exact ⟨hfirst, hfault⟩
  · rintro ⟨hfirst, hfault⟩
    exact ⟨_, hfirst, rfl, hfault⟩

end Chart
end BacktestDesk
