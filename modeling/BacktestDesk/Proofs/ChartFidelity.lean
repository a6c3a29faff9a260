import BacktestDesk.Proofs.Traversal

/-!
# BacktestDesk.Proofs.ChartFidelity

What a chart has to do with the answer that it is made from. `Chart.Shows` relates the two section
by section: same length, same order, each timestamp as its instant and each value as it is.

* `ofAnswer_ok_iff`: the chart of an answer is the one that shows it.
* `ofAnswer_isOk_iff`: there is one exactly when all timestamps resolve and all runs have figures.
-/

namespace BacktestDesk

open Calendar

/-! ## Answer and chart -/

/-- `t` is the instant that a timestamp stands for, wherever it is found. -/
def StampOf (raw : String) (t : Instant) : Prop :=
  ∀ path, resolveAt raw path = .ok t

def Resolves (raw : String) : Prop :=
  ∃ t, StampOf raw t

structure PointOf (p : Sample) (q : Point) : Prop where
  instant : StampOf p.stamp q.instant
  value : q.value = p.value

abbrev SeriesOf (ps : List Sample) (qs : List Point) : Prop :=
  List.Forall₂ PointOf ps qs

structure SignalsOf (s : SignalSamples) (t : Signals) : Prop where
  buy : SeriesOf s.buy t.buy
  sell : SeriesOf s.sell t.sell

structure DetailOf (e : RunEntry) (d : Detail) : Prop where
  coin : d.coin = e.coin
  duration : d.duration = e.duration
  prev : d.prev = e.prev
  next : d.next = e.next
  result : e.result = some d.result

/-- The strategies of a trigger with their signals; a single pair counts as that of the default
strategy. -/
def Trigger.entries : Trigger → List (String × SignalSamples)
  | .flat s => [(Chart.defaultKey, s)]
  | .keyed m => m.entries

/-- A chart shows an answer: nothing is sorted, dropped, repeated or mixed up. -/
structure Chart.Shows (c : Chart) (p : RunAnswer) : Prop where
  timeAxis : List.Forall₂ StampOf p.time c.timeAxis
  priceSeries : SeriesOf p.price c.priceSeries
  tradeSeries : SeriesOf p.trades c.tradeSeries
  signalSeries : List.Forall₂ (fun e e' => e.1 = e'.1 ∧ SignalsOf e.2 e'.2) p.trigger.entries
    c.signalSeries.entries
  lossSeries : Option.Rel SeriesOf p.loss c.lossSeries
  details : List.Forall₂ DetailOf p.details c.details
  coin : c.coin = (p.details.head?.map RunEntry.coin).getD Chart.unknownCoin
  reports : c.reports = p.report.getD .empty

/-! ## Timestamps of an answer -/

def SignalSamples.stamps (s : SignalSamples) : List String :=
  s.buy.map Sample.stamp ++ s.sell.map Sample.stamp

def Trigger.stamps (t : Trigger) : List String :=
  t.entries.flatMap fun e => e.2.stamps

/-- All timestamps, in the order in which they are resolved. -/
def RunAnswer.stamps (p : RunAnswer) : List String :=
  p.time ++ p.price.map Sample.stamp ++ p.trades.map Sample.stamp ++ p.trigger.stamps ++
    (p.loss.getD []).map Sample.stamp

/-! ## Sections -/

theorem resolveAt_ok_iff {raw path : String} {t : Instant} :
    resolveAt raw path = .ok t ↔ Timestamp.strict raw = .ok t := by
  simp only [resolveAt]
  cases Timestamp.strict raw <;> simp

theorem stampOf_iff {raw : String} {t : Instant} :
    StampOf raw t ↔ Timestamp.strict raw = .ok t := by
  simp only [StampOf, resolveAt_ok_iff]
  exact ⟨fun h => h "", fun h _ => h⟩

namespace Chart

theorem resolveStamp_ok_iff {place : Place} {raw : String} {t : Instant} :
    resolveStamp place raw = .ok t ↔ StampOf raw t := by
  rw [stampOf_iff, resolveStamp]
  cases Timestamp.strict raw <;> simp

theorem resolveTime_ok_iff {raws : List String} {ts : List Instant} :
    resolveAll (fun i raw => resolveStamp (.time i) raw) 0 raws = .ok ts ↔
      List.Forall₂ StampOf raws ts := by
  apply resolveAll_ok_iff
  intro i raw t
  exact resolveStamp_ok_iff

theorem resolvePoint_ok_iff {place : Nat → Place} (i : Nat) (p : Sample) (q : Point) :
    resolvePoint place i p = .ok q ↔ PointOf p q := by
  simp only [resolvePoint]
  constructor
  · intro h
    split at h
    · cases h
    · rename_i t ht
      cases h
      exact ⟨resolveStamp_ok_iff.mp ht, rfl⟩
  · rintro ⟨ht, hv⟩
    rw [resolveStamp_ok_iff.mpr ht, ← hv]

theorem resolvePoints_ok_iff (place : Nat → Place) {ps : List Sample} {qs : List Point} :
    resolvePoints place ps = .ok qs ↔ SeriesOf ps qs :=
  resolveAll_ok_iff resolvePoint_ok_iff 0 ps qs

theorem resolveSignals_ok_iff {place : Side → Nat → Place} {s : SignalSamples} {t : Signals} :
    resolveSignals place s = .ok t ↔ SignalsOf s t := by
  simp only [resolveSignals]
  constructor
  · intro h
    split at h
    · cases h
    · rename_i buy hb
      split at h
      · cases h
      · rename_i sell hs
        cases h
        exact ⟨(resolvePoints_ok_iff _).mp hb, (resolvePoints_ok_iff _).mp hs⟩
  · rintro ⟨hb, hs⟩
    simp only [(resolvePoints_ok_iff _).mpr hb, (resolvePoints_ok_iff _).mpr hs]

theorem entries_single {α : Type} (key : String) (x : α) :
    (TextMap.single key x).entries = [(key, x)] := rfl

theorem resolveTrigger_ok_iff {t : Trigger} {m : TextMap Signals} :
    resolveTrigger t = .ok m ↔
      List.Forall₂ (fun e e' => e.1 = e'.1 ∧ SignalsOf e.2 e'.2) t.entries m.entries := by
  cases t with
  | keyed k =>
    simp only [resolveTrigger, TextMap.mapM_ok_iff, resolveSignals_ok_iff, Trigger.entries]
  | flat s =>
    simp only [resolveTrigger, Trigger.entries]
    constructor
    · intro h
      split at h
      · cases h
      · rename_i signals hs
        cases h
        rw [entries_single]
        exact .cons ⟨rfl, resolveSignals_ok_iff.mp hs⟩ .nil
    · intro h
      obtain ⟨e, rest, ⟨hk, hs⟩, hrest, he⟩ := List.forall₂_cons_left_iff.mp h
      obtain rfl := List.forall₂_nil_left_iff.mp hrest
      rw [resolveSignals_ok_iff.mpr hs, Except.ok.injEq]
      refine TextMap.ext_entries ?_
      rw [he, entries_single]
      exact congrArg (fun k => [(k, e.2)]) hk

theorem resolveLoss_ok_iff {loss : Option (List Sample)} {series : Option (List Point)} :
    resolveLoss loss = .ok series ↔ Option.Rel SeriesOf loss series := by
  cases loss with
  | none => cases series <;> simp [resolveLoss]
  | some ps =>
    simp only [resolveLoss]
    cases h : resolvePoints .loss ps with
    | error e =>
      have hn : ∀ qs, ¬ SeriesOf ps qs := fun qs hqs => by
        rw [← resolvePoints_ok_iff .loss, h] at hqs
        cases hqs
      cases series <;> simp [hn]
    | ok points => cases series <;> simp [← resolvePoints_ok_iff .loss, h]

theorem resolveDetail_ok_iff (i : Nat) (e : RunEntry) (d : Detail) :
    resolveDetail i e = .ok d ↔ DetailOf e d := by
  simp only [resolveDetail]
  constructor
  · intro h
    split at h
    · cases h
    · rename_i r hr
      cases h
      exact ⟨rfl, rfl, rfl, rfl, hr⟩
  · rintro ⟨hc, hd, hp, hn, hr⟩
    rw [hr, ← hc, ← hd, ← hp, ← hn]

theorem coinOf_eq {es : List RunEntry} {ds : List Detail} (h : List.Forall₂ DetailOf es ds) :
    coinOf ds = (es.head?.map RunEntry.coin).getD unknownCoin := by
  cases h with
  | nil => rfl
  | cons hd _ => exact hd.coin

/-! ## The whole chart -/

theorem shows_of_ofAnswer {p : RunAnswer} {c : Chart} (h : ofAnswer p = .ok c) : c.Shows p := by
  simp only [ofAnswer] at h
  split at h
  · cases h
  rename_i timeAxis ht
  split at h
  · cases h
  rename_i priceSeries hp
  split at h
  · cases h
  rename_i tradeSeries htr
  split at h
  · cases h
  rename_i signalSeries hs
  split at h
  · cases h
  rename_i lossSeries hl
  split at h
  · cases h
  rename_i details hd
  cases h
  have hdetails := (resolveAll_ok_iff resolveDetail_ok_iff 0 _ _).mp hd
  exact {
    timeAxis := resolveTime_ok_iff.mp ht
    priceSeries := (resolvePoints_ok_iff _).mp hp
    tradeSeries := (resolvePoints_ok_iff _).mp htr
    signalSeries := resolveTrigger_ok_iff.mp hs
    lossSeries := resolveLoss_ok_iff.mp hl
    details := hdetails
    coin := coinOf_eq hdetails
    reports := rfl }

theorem ofAnswer_of_shows {p : RunAnswer} {c : Chart} (h : c.Shows p) : ofAnswer p = .ok c := by
  have ht := resolveTime_ok_iff.mpr h.timeAxis
  have hp := (resolvePoints_ok_iff .price).mpr h.priceSeries
  have htr := (resolvePoints_ok_iff .trade).mpr h.tradeSeries
  have hd := (resolveAll_ok_iff resolveDetail_ok_iff 0 _ _).mpr h.details
  simp only [ofAnswer, ht, hp, htr, resolveTrigger_ok_iff.mpr h.signalSeries,
    resolveLoss_ok_iff.mpr h.lossSeries, hd, coinOf_eq h.details, ← h.coin, ← h.reports]

theorem ofAnswer_ok_iff {p : RunAnswer} {c : Chart} : ofAnswer p = .ok c ↔ c.Shows p :=
  ⟨shows_of_ofAnswer, ofAnswer_of_shows⟩

/-! ## Existence -/

theorem series_exists_iff {ps : List Sample} :
    (∃ qs, SeriesOf ps qs) ↔ ∀ raw ∈ ps.map Sample.stamp, Resolves raw := by
  rw [exists_forall₂, List.forall_mem_map]
  refine forall₂_congr fun p _ => ⟨?_, ?_⟩
  · rintro ⟨q, hq⟩
    exact ⟨q.instant, hq.instant⟩
  · rintro ⟨t, ht⟩
    exact ⟨⟨t, p.value⟩, ht, rfl⟩

theorem signals_exist_iff {s : SignalSamples} :
    (∃ t, SignalsOf s t) ↔ ∀ raw ∈ s.stamps, Resolves raw := by
  rw [SignalSamples.stamps, List.forall_mem_append, ← series_exists_iff, ← series_exists_iff]
  constructor
  · rintro ⟨t, ht⟩
    exact ⟨⟨_, ht.buy⟩, ⟨_, ht.sell⟩⟩
  · rintro ⟨⟨buy, hb⟩, ⟨sell, hs⟩⟩
    exact ⟨⟨buy, sell⟩, hb, hs⟩

theorem resolveTrigger_isOk_iff {t : Trigger} :
    (∃ m, resolveTrigger t = .ok m) ↔ ∀ raw ∈ t.stamps, Resolves raw := by
  have hstamps : (∀ raw ∈ t.stamps, Resolves raw) ↔ ∀ e ∈ t.entries, ∃ s, SignalsOf e.2 s := by
    simp only [Trigger.stamps, List.mem_flatMap, signals_exist_iff]
    exact ⟨fun h e he raw hraw => h raw ⟨e, he, hraw⟩, fun h raw ⟨e, he, hraw⟩ => h e he raw hraw⟩
  rw [hstamps]
  cases t with
  | keyed k =>
    simp only [resolveTrigger, TextMap.mapM_isOk_iff, resolveSignals_ok_iff, Trigger.entries]
  | flat s =>
    simp only [resolveTrigger_ok_iff, Trigger.entries, List.forall_mem_singleton]
    constructor
    · rintro ⟨m, hm⟩
      obtain ⟨e, -, ⟨-, hs⟩, -, -⟩ := List.forall₂_cons_left_iff.mp hm
      exact ⟨_, hs⟩
    · rintro ⟨signals, hs⟩
      refine ⟨.single defaultKey signals, ?_⟩
      rw [entries_single]
      exact .cons ⟨rfl, hs⟩ .nil

theorem loss_exists_iff {loss : Option (List Sample)} :
    (∃ series, Option.Rel SeriesOf loss series) ↔
      ∀ raw ∈ (loss.getD []).map Sample.stamp, Resolves raw := by
  cases loss with
  | none => exact ⟨fun _ raw hraw => absurd hraw List.not_mem_nil, fun _ => ⟨none, .none⟩⟩
  | some ps =>
    rw [Option.getD_some, ← series_exists_iff]
    constructor
    · rintro ⟨_, h⟩
      cases h with
      | some h => exact ⟨_, h⟩
    · rintro ⟨qs, h⟩
      exact ⟨some qs, .some h⟩

theorem details_exist_iff {es : List RunEntry} :
    (∃ ds, List.Forall₂ DetailOf es ds) ↔ ∀ e ∈ es, e.result.isSome := by
  rw [exists_forall₂]
  refine forall₂_congr fun e _ => ?_
  rw [Option.isSome_iff_exists]
  constructor
  · rintro ⟨d, hd⟩
    exact ⟨d.result, hd.result⟩
  · rintro ⟨r, hr⟩
    exact ⟨⟨e.coin, e.duration, e.prev, e.next, r⟩, rfl, rfl, rfl, rfl, hr⟩

/-- A chart comes of an answer exactly when every timestamp resolves and every run has figures. -/
theorem ofAnswer_isOk_iff {p : RunAnswer} :
    (∃ c, ofAnswer p = .ok c) ↔
      (∀ raw ∈ p.stamps, Resolves raw) ∧ ∀ e ∈ p.details, e.result.isSome := by
  have htime : (∀ raw ∈ p.time, Resolves raw) ↔ ∃ ts, List.Forall₂ StampOf p.time ts :=
    exists_forall₂.symm
  simp only [ofAnswer_ok_iff, RunAnswer.stamps, List.forall_mem_append]
  rw [htime, ← series_exists_iff, ← series_exists_iff, ← resolveTrigger_isOk_iff,
    ← loss_exists_iff, ← details_exist_iff]
  simp only [resolveTrigger_ok_iff]
  constructor
  · rintro ⟨c, h⟩
    exact ⟨⟨⟨⟨⟨⟨_, h.timeAxis⟩, ⟨_, h.priceSeries⟩⟩, ⟨_, h.tradeSeries⟩⟩, ⟨_, h.signalSeries⟩⟩,
      ⟨_, h.lossSeries⟩⟩, ⟨_, h.details⟩⟩
  · rintro ⟨⟨⟨⟨⟨⟨_, ht⟩, ⟨_, hp⟩⟩, ⟨_, htr⟩⟩, ⟨_, hs⟩⟩, ⟨_, hl⟩⟩, ⟨_, hd⟩⟩
    exact ⟨⟨_, _, _, _, _, _, _, _⟩, ht, hp, htr, hs, hl, hd, rfl, rfl⟩

theorem Shows.keys {p : RunAnswer} {c : Chart} (h : c.Shows p) :
    c.signalKeys = p.trigger.entries.map Prod.fst :=
  map_fst_of_forall₂ h.signalSeries

/-- An answer is shown faithfully or not at all. There is a chart exactly when every timestamp
resolves and every run has its figures; then it is the one that shows the answer section by section,
and its signals stand under the strategies of the answer, or under the default one for a single
pair. -/
theorem answer_shown_or_refused (p : RunAnswer) :
    ((∃ c, ofAnswer p = .ok c) ↔
      (∀ raw ∈ p.stamps, Resolves raw) ∧ ∀ e ∈ p.details, e.result.isSome) ∧
    ∀ c, (ofAnswer p = .ok c ↔ c.Shows p) ∧
      (ofAnswer p = .ok c → c.signalKeys =
        match p.trigger with
        | .flat _ => [defaultKey]
        | .keyed m => m.keys) := by
  refine ⟨ofAnswer_isOk_iff, fun c => ⟨ofAnswer_ok_iff, fun h => ?_⟩⟩
  rw [(shows_of_ofAnswer h).keys]
  cases p.trigger <;> rfl

end Chart
end BacktestDesk
