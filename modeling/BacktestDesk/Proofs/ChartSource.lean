import BacktestDesk.Proofs.DeskRun
import BacktestDesk.Proofs.FetchTaxonomy

/-!
# BacktestDesk.Proofs.ChartSource

Where the chart of a desk comes from. In any run whose charts are fetched, what is shown was made of
one reply, that behind the last outcome applied since the last reset.

* `Fetch.made_of_outcome`: a chart that is fetched is made of a successful reply, as a whole.
* `Desk.chart_act_cases`: a step clears the chart, or applies an outcome to it, or keeps it.
* `Desk.current_after`: the chart after a run, told from the step that applied it.
-/

namespace BacktestDesk

/-! ## Fetched charts -/

/-- A chart that is asked for: by which client, with which request, and the reply to it. -/
structure Fetch where
  client : Client
  request : Request
  reply : Reply

namespace Fetch

def outcome (f : Fetch) : Except Failure Snapshot :=
  (f.client.fetchChart f.request f.reply).result

/-- `s` is made of the reply, and of nothing else: the chart is that of the document in its body,
and the metrics are those of the reports in that chart. -/
def Made (f : Fetch) (s : Snapshot) : Prop :=
  ∃ x v, f.reply.whole? = some x ∧ isSuccess x.status = true ∧
    Json.ofBytes? x.body = some v ∧ Chart.ofJson v = .ok s.chart ∧
    Metrics.aggregate s.chart.reports = .ok s.metrics

end Fetch

theorem Exchange.map_ok_iff {α β : Type} {x : Exchange α} {f : α → Except Failure β} {b : β} :
    (x.map f).result = .ok b ↔ ∃ a, x.result = .ok a ∧ f a = .ok b := by
  cases x with
  | mk result sent => cases result <;> simp [map]

theorem Snapshot.ofJson_ok_iff {v : Json} {s : Snapshot} :
    ofJson v = .ok s ↔
      Chart.ofJson v = .ok s.chart ∧ Metrics.aggregate s.chart.reports = .ok s.metrics := by
  obtain ⟨chart, metrics⟩ := s
  rw [ofJson]
  cases Chart.ofJson v with
  | error e => simp
  | ok c =>
    cases hm : Metrics.aggregate c.reports with
    | error e =>
      simp only [hm, reduceCtorEq, false_iff, not_and, Except.ok.injEq]
      rintro rfl
      simp [hm]
    | ok m =>
      simp only [hm, Except.ok.injEq, mk.injEq]
      constructor
      · rintro ⟨rfl, rfl⟩
        exact ⟨rfl, hm⟩
      · rintro ⟨rfl, h⟩
        rw [hm, Except.ok.injEq] at h
        exact ⟨rfl, h⟩

theorem Client.settle_ok {c : Client} {endpoint : String} {u : Url} {reply : Reply} {x : Response}
    (h : c.settle endpoint u reply = .ok x) :
    reply.whole? = some x ∧ isSuccess x.status = true := by
  cases hw : reply.whole? with
  | none =>
    have hnetwork : ∃ text, c.settle endpoint u reply = .error (.network text) :=
      c.settle_of_not_whole hw
    obtain ⟨text, htext⟩ := hnetwork
    rw [htext] at h
    cases h
  | some y =>
    rw [settle_of_whole hw] at h
    split at h
    · rename_i hs
      cases h
      exact ⟨rfl, hs⟩
    · cases h

theorem Client.send_ok {c : Client} {accept endpoint : String} {ps : Parameters} {reply : Reply}
    {x : Response} (h : (c.send accept endpoint ps reply).result = .ok x) :
    reply.whole? = some x ∧ isSuccess x.status = true := by
  simp only [send] at h
  split at h
  · cases h
  · exact settle_ok h

theorem Fetch.made_of_outcome {f : Fetch} {s : Snapshot} (h : f.outcome = .ok s) : f.Made s := by
  rw [outcome, Client.fetchChart] at h
  split at h
  · cases h
  rw [Exchange.map_ok_iff] at h
  obtain ⟨v, hcall, hs⟩ := h
  rw [Client.call, Exchange.map_ok_iff] at hcall
  obtain ⟨x, hsend, hread⟩ := hcall
  obtain ⟨hwhole, hsuccess⟩ := Client.send_ok hsend
  obtain ⟨hchart, hmetrics⟩ := Snapshot.ofJson_ok_iff.mp hs
  have hdocument := (f.client.document_eq_ok_iff x.body _ v).mp hread
  exact ⟨x, v, hwhole, hsuccess, hdocument, hchart, hmetrics⟩

/-! ## Metrics -/

theorem Metrics.keys_of_aggregate {reports : TextMap CoinReport} {metrics : TextMap Metrics}
    (h : aggregate reports = .ok metrics) : metrics.keys = reports.keys := by
  rw [aggregate] at h
  split at h
  · cases h
  · rename_i m hm
    cases h
    exact TextMap.keys_of_mapM hm

theorem Metrics.complete_of_aggregate {reports : TextMap CoinReport} {metrics : TextMap Metrics}
    (h : aggregate reports = .ok metrics) : ∀ e ∈ reports.entries, ∀ f, e.2.has f := by
  have hreads := aggregate_reads reports
  rw [h] at hreads
  cases hreads with
  | ok _ hcomplete => exact hcomplete

/-! ## Steps -/

/-- Whether the chart of an action is fetched. The actions that fetch it themselves see to that; an
outcome that is handed in has to come from a fetch. -/
def Action.IsFetched : Action → Prop
  | .completeChart _ outcome => ∃ f : Fetch, outcome = f.outcome
  | _ => True

namespace Desk

/-- Whether a fetch is behind the chart that an action brings. -/
def Brings (d : Desk) (f : Fetch) (a : Action) (reply : Reply) : Prop :=
  match a with
  | .execute (.run config) => f = ⟨d.client, .run config, reply⟩
  | .execute (.train config) => f = ⟨d.client, .train config, reply⟩
  | .runBacktest config => f = ⟨d.client, .run config, reply⟩
  | .train config => f = ⟨d.client, .train config, reply⟩
  | .completeChart _ outcome => outcome = f.outcome
  | _ => False

def AppliesChart (d : Desk) (a : Action) (reply : Reply) : Prop :=
  a.pane? = some .chart ∧ d.settlement a reply = .applied

/-- A run that neither resets the desk nor applies an outcome to its chart. -/
def ChartQuiet (d : Desk) : List (Action × Reply) → Prop
  | [] => True
  | (a, reply) :: turns =>
    a ≠ .reset ∧ ¬ d.AppliesChart a reply ∧ (d.act a reply).desk.ChartQuiet turns

/-- A chart that is applied is the outcome of every fetch that is behind it. -/
def Applied (d : Desk) (a : Action) (reply : Reply) (s : Snapshot) : Prop :=
  (d.act a reply).desk.chart.current = some s ∧ ∀ f, d.Brings f a reply → f.outcome = .ok s

/-- The actions that write to the chart: an outcome is handed in, or the chart is fetched. -/
theorem chart_action_cases {a : Action} (h : a.pane? = some .chart) :
    (∃ t outcome, a = .completeChart t outcome) ∨
    ∃ r, ∀ (d : Desk) (reply : Reply),
      d.settlement a reply = .ofOutcome (d.client.fetchChart r reply).result ∧
      (d.act a reply).desk = (d.showChart r reply).desk ∧
      ∀ f, d.Brings f a reply ↔ f = ⟨d.client, r, reply⟩ := by
  cases a with
  | execute r =>
    cases r with
    | run config => exact .inr ⟨.run config, fun d reply => ⟨rfl, rfl, fun f => .rfl⟩⟩
    | train config => exact .inr ⟨.train config, fun d reply => ⟨rfl, rfl, fun f => .rfl⟩⟩
    | load range => cases h
    | history range => cases h
    | models => cases h
  | runBacktest config => exact .inr ⟨.run config, fun d reply => ⟨rfl, rfl, fun f => .rfl⟩⟩
  | train config => exact .inr ⟨.train config, fun d reply => ⟨rfl, rfl, fun f => .rfl⟩⟩
  | completeChart t outcome => exact .inl ⟨t, outcome, rfl⟩
  | loadHistory range => cases h
  | loadRange range => cases h
  | listModels => cases h
  | beginChart => cases h
  | beginHistory => cases h
  | completeHistory t outcome => cases h
  | reset => cases h
  | dismiss => cases h

theorem applied_of_appliesChart {d : Desk} {a : Action} {reply : Reply}
    (h : d.AppliesChart a reply) : ∃ s, d.Applied a reply s := by
  obtain ⟨hpane, hsettled⟩ := h
  rcases chart_action_cases hpane with ⟨t, outcome, rfl⟩ | ⟨r, hr⟩
  · obtain ⟨s, rfl, hcurrent⟩ := Slot.current_settle_of_applied hsettled
    exact ⟨s, by simp only [act, completeChart_eq, hcurrent], fun f hf => hf.symm⟩
  · obtain ⟨hsettlement, hdesk, hbrings⟩ := hr d reply
    rw [hsettlement, ← Slot.settlement_issue d.chart] at hsettled
    obtain ⟨s, hs, hcurrent⟩ := Slot.current_settle_of_applied hsettled
    refine ⟨s, by simp only [hdesk, showChart_eq, hcurrent], fun f hf => ?_⟩
    rw [(hbrings f).mp hf]
    exact hs

theorem brings_of_appliesChart {d : Desk} {a : Action} {reply : Reply}
    (h : d.AppliesChart a reply) (hfetched : a.IsFetched) : ∃ f, d.Brings f a reply := by
  rcases chart_action_cases h.1 with ⟨t, outcome, rfl⟩ | ⟨r, hr⟩
  · exact hfetched
  · exact ⟨_, ((hr d reply).2.2 _).mpr rfl⟩

theorem chart_act_cases (d : Desk) (a : Action) (reply : Reply) :
    (a = .reset ∧ (d.act a reply).desk.chart.current = none) ∨
    (d.AppliesChart a reply ∧ ∃ s, d.Applied a reply s) ∨
    (a ≠ .reset ∧ ¬ d.AppliesChart a reply ∧
      (d.act a reply).desk.chart.current = d.chart.current) := by
  by_cases hreset : a = .reset
  · subst hreset
    exact .inl ⟨rfl, rfl⟩
  by_cases happlies : d.AppliesChart a reply
  · exact .inr (.inl ⟨happlies, applied_of_appliesChart happlies⟩)
  refine .inr (.inr ⟨hreset, happlies, ?_⟩)
  by_cases hpane : a.pane? = some .chart
  · have hsettled : d.settlement a reply ≠ .applied := fun h => happlies ⟨hpane, h⟩
    exact congrArg Views.chart (views_act_of_not_applied d hsettled)
  · exact (views_act_same d reply hreset).1 hpane

/-! ## Runs -/

/-- What a run shows was applied in it and nothing applied or reset after, or was there before and
the whole run left it alone. -/
theorem current_after {d : Desk} {turns : List (Action × Reply)} {s : Snapshot}
    (h : (d.after turns).chart.current = some s) :
    (∃ before a reply behind, turns = before ++ (a, reply) :: behind ∧
      (d.after before).AppliesChart a reply ∧ (d.after before).Applied a reply s ∧
      ((d.after before).act a reply).desk.ChartQuiet behind) ∨
    (d.chart.current = some s ∧ d.ChartQuiet turns) := by
  -- The first step matters only when the rest of the run left the chart alone.
  induction turns generalizing d with
  | nil => exact .inr ⟨h, trivial⟩
  | cons turn turns ih =>
    obtain ⟨a, reply⟩ := turn
    rcases ih h with ⟨before, b, reply', behind, rfl, happlies, happlied, hquiet⟩ | ⟨hs, hquiet⟩
    · exact .inl ⟨(a, reply) :: before, b, reply', behind, rfl, happlies, happlied, hquiet⟩
    rcases d.chart_act_cases a reply with ⟨-, hnone⟩ | ⟨happlies, t, ht⟩ | ⟨hreset, hnot, hkept⟩
    · rw [hnone] at hs
      cases hs
    · have hsame : t = s := by
        rw [ht.1] at hs
        exact Option.some.inj hs
      subst hsame
      exact .inl ⟨[], a, reply, turns, rfl, happlies, ht, hquiet⟩
    · exact .inr ⟨hkept ▸ hs, hreset, hnot, hquiet⟩

/-- The chart that is shown is always one whole reply. In any run from a fresh desk whose charts are
fetched, a chart that is shown was applied by one of the actions, and after that nothing was applied
to the chart and nothing reset. A fetch is behind that action, and whichever it is, its reply is
complete and successful, the chart is that of the document in its body, and the metrics are those of
the reports in this chart. So metrics and reports have the same coins, and no report lacks a
figure. -/
theorem chart_is_one_whole_reply {client : Client} {channel : Channel}
    {turns : List (Action × Reply)} (hfetched : ∀ turn ∈ turns, turn.1.IsFetched) {s : Snapshot}
    (h : ((Desk.new client channel).after turns).chart.current = some s) :
    (∃ before a reply behind, turns = before ++ (a, reply) :: behind ∧
      let d := (Desk.new client channel).after before
      d.AppliesChart a reply ∧ (d.act a reply).desk.chart.current = some s ∧
      (d.act a reply).desk.ChartQuiet behind ∧
      (∃ f, d.Brings f a reply) ∧ ∀ f, d.Brings f a reply → f.Made s) ∧
    s.metrics.keys = s.chart.reports.keys ∧
    ∀ e ∈ s.chart.reports.entries, ∀ figure, e.2.has figure := by
  rcases current_after h with
    ⟨before, a, reply, behind, rfl, happlies, ⟨hcurrent, hmade⟩, hquiet⟩ | ⟨hnew, -⟩
  · have haction : a.IsFetched := hfetched (a, reply) (List.mem_append_right _ List.mem_cons_self)
    obtain ⟨f, hf⟩ := brings_of_appliesChart happlies haction
    obtain ⟨-, -, -, -, -, -, hmetrics⟩ := Fetch.made_of_outcome (hmade f hf)
    exact ⟨⟨before, a, reply, behind, rfl, happlies, hcurrent, hquiet, ⟨f, hf⟩,
      fun g hg => Fetch.made_of_outcome (hmade g hg)⟩,
      Metrics.keys_of_aggregate hmetrics, Metrics.complete_of_aggregate hmetrics⟩
  · cases hnew

/-! ### A run with a late outcome -/

def someBacktest : Backtest :=
  .default ⟨"BTC", someDay, someDay⟩

/-- An answer without prices and with the figures of one coin. -/
def someAnswer : List UInt8 :=
  Text.Utf8.encode
    ("\x7b\"time\":[],\"price\":[],\"trades\":[],\"trigger\":\x7b\x7d,\"details\":[]," ++
      "\"report\":\x7b\"BTC\":[2,4,5,1,6,7,8,-3,0,null,null]\x7d\x7d")

def someReply : Reply :=
  .direct (.response ⟨200, none, someAnswer⟩)

def someSnapshot : Snapshot where
  chart := ⟨Chart.unknownCoin, [], [], [], .empty, none, [],
    .single "BTC" ⟨some 2, some (.ofInt 4), some (.ofInt 5), some 1, some (.ofInt 6),
      some (.ofInt 7), some (.ofInt 8), some (.ofInt (-3)), some (.ofInt 0), none, none⟩⟩
  metrics := .single "BTC"
    ⟨2, 1, .ofInt 4, .ofInt 6, .ofInt 5, .ofInt 7, .ofInt 0, .ofInt 8, .ofInt (-3)⟩

theorem fetch_someAnswer :
    (Client.onThisMachine.fetchChart (.run someBacktest) someReply).result =
      .ok someSnapshot := by
  decide +kernel

/-- A request that another one overtakes, and its outcome behind that of the other. -/
def overtaken : List (Action × Reply) :=
  [(.beginChart, .direct .refused), (.runBacktest someBacktest, someReply),
   (.completeChart ⟨1⟩ (Fetch.mk .onThisMachine (.run someBacktest) (.direct .dropped)).outcome,
    .direct .refused)]

theorem chart_is_one_whole_reply_overtaken :
    (∀ turn ∈ overtaken, turn.1.IsFetched) ∧
    ((Desk.new .onThisMachine (.board [])).after overtaken).chart.current = some someSnapshot ∧
    someSnapshot.metrics.keys = someSnapshot.chart.reports.keys ∧
    ∃ before a reply behind, overtaken = before ++ (a, reply) :: behind ∧
      ∃ f, ((Desk.new .onThisMachine (.board [])).after before).Brings f a reply ∧
        f.Made someSnapshot := by
  have hfetched : ∀ turn ∈ overtaken, turn.1.IsFetched := by
    simp only [overtaken, List.forall_mem_cons]
    exact ⟨trivial, trivial, ⟨_, rfl⟩, List.forall_mem_nil _⟩
  have hcurrent : ((Desk.new .onThisMachine (.board [])).after overtaken).chart.current =
      some someSnapshot := by
    simp only [after, overtaken, List.foldl_cons, List.foldl_nil, act, Step.map, runBacktest,
      showChart_eq, completeChart_eq, beginChart, new, fetch_someAnswer]
    -- The late outcome is never looked at.
    generalize Fetch.outcome _ = late
    rfl
  obtain ⟨⟨before, a, reply, behind, hturns, -, -, -, ⟨f, hf⟩, hmade⟩, hkeys, -⟩ :=
    chart_is_one_whole_reply hfetched hcurrent
  exact ⟨hfetched, hcurrent, hkeys, before, a, reply, behind, hturns, f, hf, hmade f hf⟩

end Desk
end BacktestDesk
