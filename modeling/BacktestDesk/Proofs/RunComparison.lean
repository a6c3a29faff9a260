import BacktestDesk.Proofs.DeskRun

/-!
# BacktestDesk.Proofs.RunComparison

Two runs of a desk, one of them with steps left out. What is outdated leaves no trace at all, and
what concerns one pane leaves none in another.

* `log_leaveOut`: steps that keep the desk as it is can be left out of any run.
* `Unwinds.log_filter`: an observer who sees a part of the desk sees the same run without the steps
  that keep this part as it is.
* `after_handedIn`: of the chart requests that are under way, only the newest has a say.
-/

namespace BacktestDesk

/-- Whether an action takes part in a request for a pane, or concerns the desk as a whole. -/
def Action.concerns (pane : Pane) : Action → Bool
  | .reset => true
  | .dismiss => true
  | .beginChart => pane = .chart
  | .beginHistory => pane = .history
  | a => a.pane? = some pane

/-- Whether an action outdates the chart requests that are under way. -/
def Action.outdatesChart : Action → Bool
  | .beginChart => true
  | .reset => true
  | .completeChart _ _ => false
  | a => a.pane? = some .chart

namespace Desk

/-- One step of a run: the action, the reply it came with, and what came of it. -/
structure Entry where
  action : Action
  reply : Reply
  step : Step Action.Result

def log (d : Desk) : List (Action × Reply) → List Entry
  | [] => []
  | (a, reply) :: turns => ⟨a, reply, d.act a reply⟩ :: (d.act a reply).desk.log turns

namespace Entry

def turn (e : Entry) : Action × Reply :=
  (e.action, e.reply)

/-- Whether an outcome was handed in and found to be outdated. -/
def isStale (e : Entry) : Bool :=
  match e.action, e.step.result with
  | .completeChart _ _, .settled .stale => true
  | .completeHistory _ _, .settled .stale => true
  | _, _ => false

/-- What is seen of a step by someone who sees its result, what was sent, and a part of the desk. -/
def seen {σ : Type} (part : Desk → σ) (e : Entry) : Action × Action.Result × List Sent × σ :=
  (e.action, e.step.result, e.step.sent, part e.step.desk)

end Entry

/-- A run without the outcomes that are outdated. -/
def withoutStale (d : Desk) (turns : List (Action × Reply)) : List (Action × Reply) :=
  ((d.log turns).filter fun e => !e.isStale).map Entry.turn

/-- Outcomes of chart requests, handed in one behind the other. -/
def handedIn (order : List (Ticket × Except Failure Snapshot)) (reply : Reply) :
    List (Action × Reply) :=
  order.map fun c => (.completeChart c.1 c.2, reply)

/-- The part of a desk that chart requests have to do with. -/
def chartSide (d : Desk) : Client × Slot Snapshot :=
  (d.client, d.chart)

def historySide (d : Desk) : Client × Slot Availability :=
  (d.client, d.history)

theorem log_cons (d : Desk) (a : Action) (reply : Reply) (turns : List (Action × Reply)) :
    d.log ((a, reply) :: turns) = ⟨a, reply, d.act a reply⟩ :: (d.act a reply).desk.log turns :=
  rfl

/-! ## Outdated outcomes -/

/-- Steps that keep the desk as it is can be left out: the others come to the same. -/
theorem log_leaveOut {p : Entry → Bool}
    (h : ∀ (d : Desk) (a : Action) (reply : Reply),
      p ⟨a, reply, d.act a reply⟩ = false → (d.act a reply).desk = d)
    (d : Desk) (turns : List (Action × Reply)) :
    let rest := ((d.log turns).filter p).map Entry.turn
    d.log rest = (d.log turns).filter p ∧ d.after rest = d.after turns := by
  induction turns generalizing d with
  | nil => exact ⟨rfl, rfl⟩
  | cons turn turns ih =>
    obtain ⟨a, reply⟩ := turn
    rw [log_cons, after_cons]
    cases hp : p ⟨a, reply, d.act a reply⟩ with
    | false =>
      rw [List.filter_cons_of_neg (by rw [hp]; exact Bool.false_ne_true), h d a reply hp]
      exact ih d
    | true =>
      obtain ⟨hlog, hafter⟩ := ih (d.act a reply).desk
      rw [List.filter_cons_of_pos hp, List.map_cons]
      exact ⟨congrArg _ hlog, hafter⟩

theorem act_completeChart_stale {d : Desk} {t : Ticket} {outcome : Except Failure Snapshot}
    (reply : Reply) (h : d.chart.settlement t outcome = .stale) :
    (d.act (.completeChart t outcome) reply).desk = d := by
  have hslot : (d.chart.settle t outcome).2 = d.chart :=
    Slot.next_settle_of_ne_applied (by rw [Slot.settle_fst, h]; exact Settlement.noConfusion)
  simp only [act, completeChart_eq, hslot, h, Settlement.notices, List.foldl_nil]

theorem act_completeHistory_stale {d : Desk} {t : Ticket} {outcome : Except Failure Availability}
    (reply : Reply) (h : d.history.settlement t outcome = .stale) :
    (d.act (.completeHistory t outcome) reply).desk = d := by
  have hslot : (d.history.settle t outcome).2 = d.history :=
    Slot.next_settle_of_ne_applied (by rw [Slot.settle_fst, h]; exact Settlement.noConfusion)
  simp only [act, completeHistory_eq, hslot, h, Settlement.notices, List.foldl_nil]

/-- An outdated outcome keeps the whole desk as it is. -/
theorem desk_of_isStale {d : Desk} {a : Action} {reply : Reply}
    (h : Entry.isStale ⟨a, reply, d.act a reply⟩ = true) : (d.act a reply).desk = d := by
  simp only [Entry.isStale] at h
  split at h
  · rename_i t outcome hresult
    refine act_completeChart_stale reply ?_
    simpa [act, completeChart_eq] using hresult
  · rename_i t outcome hresult
    refine act_completeHistory_stale reply ?_
    simpa [act, completeHistory_eq] using hresult
  · cases h

/-! ## Unrelated steps -/

/-- The steps that an observer of a part of the desk can tell: all others keep this part as it is,
and what comes of these depends on nothing but this part. -/
structure Unwinds {σ : Type} (part : Desk → σ) (keep : Action → Bool) : Prop where
  respects : ∀ d a reply, keep a = false → part (d.act a reply).desk = part d
  consistent : ∀ d e a reply, keep a = true → part d = part e →
    (d.act a reply).result = (e.act a reply).result ∧
    (d.act a reply).sent = (e.act a reply).sent ∧
    part (d.act a reply).desk = part (e.act a reply).desk

theorem Unwinds.log_filter {σ : Type} {part : Desk → σ} {keep : Action → Bool}
    (h : Unwinds part keep) {d e : Desk} (hde : part d = part e) (turns : List (Action × Reply)) :
    (d.log (turns.filter fun turn => keep turn.1)).map (Entry.seen part) =
      ((e.log turns).filter fun entry => keep entry.action).map (Entry.seen part) := by
  -- The two desks agree on the part at every step; the first one stands still at the others.
  induction turns generalizing d e with
  | nil => rfl
  | cons turn turns ih =>
    obtain ⟨a, reply⟩ := turn
    rw [log_cons]
    cases hkeep : keep a with
    | false =>
      rw [List.filter_cons_of_neg (by simp [hkeep]), List.filter_cons_of_neg (by simp [hkeep])]
      exact ih (hde.trans (h.respects e a reply hkeep).symm)
    | true =>
      obtain ⟨hresult, hsent, hpart⟩ := h.consistent d e a reply hkeep hde
      rw [List.filter_cons_of_pos (by exact hkeep), List.filter_cons_of_pos (by exact hkeep),
        log_cons, List.map_cons, List.map_cons, ih hpart]
      simp only [Entry.seen, hresult, hsent, hpart]

theorem chart_unwinds : Unwinds chartSide (Action.concerns .chart) where
  respects d a reply h := by
    cases a with
    | execute r =>
      cases r with
      | history range => simp [act, execute, Step.map, loadHistory_eq, chartSide]
      | models => simp [act, execute, Step.map, listModels_eq, chartSide]
      | load range => simp [act, execute, Step.map, loadRange_eq, chartSide]
      | _ => cases h
    | loadHistory range => simp [act, Step.map, loadHistory_eq, chartSide]
    | loadRange range => simp [act, Step.map, loadRange_eq, chartSide]
    | listModels => simp [act, Step.map, listModels_eq, chartSide]
    | beginHistory => rfl
    | completeHistory t outcome => simp [act, completeHistory_eq, chartSide]
    | _ => cases h
  consistent d e a reply h hde := by
    obtain ⟨hclient, hchart⟩ := Prod.mk.inj hde
    cases a with
    | execute r =>
      cases r with
      | run config =>
        simp [act, execute, Step.map, chartView, showChart_eq, chartSide, hclient, hchart]
      | train config =>
        simp [act, execute, Step.map, chartView, showChart_eq, chartSide, hclient, hchart]
      | _ => cases h
    | runBacktest config =>
      simp [act, runBacktest, Step.map, showChart_eq, chartSide, hclient, hchart]
    | train config => simp [act, train, Step.map, showChart_eq, chartSide, hclient, hchart]
    | beginChart => simp [act, beginChart, chartSide, hclient, hchart]
    | completeChart t outcome => simp [act, completeChart_eq, chartSide, hclient, hchart]
    | reset => simp [act, reset, chartSide, hclient, hchart]
    | dismiss => simp [act, dismiss, chartSide, hclient, hchart]
    | _ => cases h

theorem history_unwinds : Unwinds historySide (Action.concerns .history) where
  respects d a reply h := by
    cases a with
    | execute r =>
      cases r with
      | run config => simp [act, execute, Step.map, showChart_eq, historySide]
      | train config => simp [act, execute, Step.map, showChart_eq, historySide]
      | models => simp [act, execute, Step.map, listModels_eq, historySide]
      | load range => simp [act, execute, Step.map, loadRange_eq, historySide]
      | history range => cases h
    | runBacktest config => simp [act, runBacktest, Step.map, showChart_eq, historySide]
    | train config => simp [act, train, Step.map, showChart_eq, historySide]
    | loadRange range => simp [act, Step.map, loadRange_eq, historySide]
    | listModels => simp [act, Step.map, listModels_eq, historySide]
    | beginChart => rfl
    | completeChart t outcome => simp [act, completeChart_eq, historySide]
    | _ => cases h
  consistent d e a reply h hde := by
    obtain ⟨hclient, hhistory⟩ := Prod.mk.inj hde
    cases a with
    | execute r =>
      cases r with
      | history range =>
        simp [act, execute, Step.map, historyView, loadHistory_eq, historySide, hclient, hhistory]
      | _ => cases h
    | loadHistory range => simp [act, Step.map, loadHistory_eq, historySide, hclient, hhistory]
    | beginHistory => simp [act, beginHistory, historySide, hclient, hhistory]
    | completeHistory t outcome =>
      simp [act, completeHistory_eq, historySide, hclient, hhistory]
    | reset => simp [act, reset, historySide, hclient, hhistory]
    | dismiss => simp [act, dismiss, historySide, hclient, hhistory]
    | _ => cases h

/-! ## Requests under way -/

theorem latest_act (d : Desk) {a : Action} (reply : Reply) (h : a.outdatesChart = false) :
    (d.act a reply).desk.chart.latest = d.chart.latest := by
  by_cases hc : a.concerns .chart = true
  · cases a with
    | completeChart t outcome =>
      simp only [act, completeChart_eq, Slot.latest_settle]
    | dismiss => rfl
    | execute r => cases r <;> cases h <;> cases hc
    | runBacktest config => cases h
    | train config => cases h
    | beginChart => cases h
    | reset => cases h
    | _ => cases hc
  · have hsame := chart_unwinds.respects d a reply (Bool.eq_false_iff.mpr hc)
    exact congrArg (fun side => side.2.latest) hsame

theorem latest_after {d : Desk} {turns : List (Action × Reply)}
    (h : ∀ turn ∈ turns, turn.1.outdatesChart = false) :
    (d.after turns).chart.latest = d.chart.latest := by
  induction turns generalizing d with
  | nil => rfl
  | cons turn turns ih =>
    obtain ⟨a, reply⟩ := turn
    obtain ⟨ha, hturns⟩ := List.forall_mem_cons.mp h
    rw [after_cons, ih hturns, latest_act d reply ha]

theorem after_handedIn_outdated {d : Desk} {order : List (Ticket × Except Failure Snapshot)}
    (h : ∀ c ∈ order, d.chart.isCurrent c.1 = false) (reply : Reply) :
    d.after (handedIn order reply) = d := by
  induction order with
  | nil => rfl
  | cons c order ih =>
    obtain ⟨hc, horder⟩ := List.forall_mem_cons.mp h
    have hstale : d.chart.settlement c.1 c.2 = .stale := by
      rw [Slot.settlement, hc, if_neg Bool.false_ne_true]
    rw [handedIn, List.map_cons, after_cons, act_completeChart_stale reply hstale]
    exact ih horder

/-- In whatever order the requests end, the desk becomes what the newest makes of it. -/
theorem after_handedIn {d : Desk} {t : Ticket} {outcome : Except Failure Snapshot}
    {order : List (Ticket × Except Failure Snapshot)} (hcurrent : d.chart.isCurrent t = true)
    (hnodup : (order.map Prod.fst).Nodup) (hmem : (t, outcome) ∈ order) (reply : Reply) :
    d.after (handedIn order reply) = (d.completeChart t outcome).2 := by
  have hothers : ∀ u : Ticket, u ≠ t → d.chart.isCurrent u = false := by
    intro u hu
    simp only [Slot.isCurrent, beq_iff_eq, beq_eq_false_iff_ne, ne_eq] at hcurrent ⊢
    exact fun hlatest => hu (congrArg Ticket.mk (hlatest.trans hcurrent.symm))
  induction order with
  | nil => cases hmem
  | cons c order ih =>
    obtain ⟨hfresh, hnodup⟩ := List.nodup_cons.mp hnodup
    rw [handedIn, List.map_cons, after_cons]
    rcases List.mem_cons.mp hmem with rfl | hmem
    · -- The newest request ends; all that comes behind it is outdated, as it would be before.
      refine after_handedIn_outdated (fun c hc => ?_) reply
      have hne : c.1 ≠ t := fun hct => hfresh (List.mem_map.mpr ⟨c, hc, hct⟩)
      have hlatest := latest_act d (a := .completeChart t outcome) reply rfl
      rw [Slot.isCurrent, hlatest]
      exact hothers c.1 hne
    · have hne : c.1 ≠ t := fun hct => hfresh (hct ▸ List.mem_map_of_mem hmem)
      have hstale : d.chart.settlement c.1 c.2 = .stale := by
        rw [Slot.settlement, hothers c.1 hne, if_neg Bool.false_ne_true]
      rw [act_completeChart_stale reply hstale]
      exact ih hnodup hmem

/-! ## Runs compared -/

/-- Outdated and unrelated traffic is invisible. In any run of a desk, whatever tickets are handed
in:

* without the outcomes that are outdated, all other steps come to the same, and so does the desk;
* without the steps of other panes, someone who sees the chart sees the same results, the same
  requests sent and the same chart behind each step that remains, and likewise for the history;
* once chart requests are under way and nothing outdates them, it does not matter in which order
  they end: the chart and the notices are what the newest of them makes of them. -/
theorem outdated_and_unrelated_invisible (d : Desk) (turns : List (Action × Reply)) :
    (d.log (d.withoutStale turns) = (d.log turns).filter (fun e => !e.isStale) ∧
      d.after (d.withoutStale turns) = d.after turns) ∧
    (d.log (turns.filter fun turn => turn.1.concerns .chart)).map (Entry.seen chartSide) =
      ((d.log turns).filter fun e => e.action.concerns .chart).map (Entry.seen chartSide) ∧
    (d.log (turns.filter fun turn => turn.1.concerns .history)).map (Entry.seen historySide) =
      ((d.log turns).filter fun e => e.action.concerns .history).map (Entry.seen historySide) ∧
    ∀ before reply behind, turns = before ++ (.beginChart, reply) :: behind →
      (∀ turn ∈ behind, turn.1.outdatesChart = false) →
      ∀ order outcome reply', (order.map Prod.fst).Nodup →
        ((d.after before).beginChart.1, outcome) ∈ order →
        let start := d.after turns
        let done := start.after (handedIn order reply')
        done.views = { start.views with chart := outcome.toOption <|> start.views.chart } ∧
        done.channel = (Settlement.ofOutcome outcome).notices.foldl Channel.send start.channel := by
  refine ⟨log_leaveOut (fun d a reply h => desk_of_isStale (by simpa using h)) d turns,
    chart_unwinds.log_filter rfl turns, history_unwinds.log_filter rfl turns, ?_⟩
  intro before reply behind hturns hbehind order outcome reply' hnodup hmem start done
  have hcurrent : start.chart.isCurrent (d.after before).beginChart.1 = true := by
    have hstart : start = ((d.after before).act .beginChart reply).desk.after behind := by
      simp only [start, hturns, after, List.foldl_append, List.foldl_cons]
    rw [Slot.isCurrent, hstart, latest_after hbehind]
    exact beq_self_eq_true _
  have hdone : done = (start.completeChart _ outcome).2 :=
    after_handedIn hcurrent hnodup hmem reply'
  rw [hdone, completeChart_eq, Slot.settlement, if_pos hcurrent, Slot.settle_current _ hcurrent]
  cases outcome with
  | ok s => exact ⟨rfl, rfl⟩
  | error e => exact ⟨rfl, rfl⟩

end Desk
end BacktestDesk
