import BacktestDesk.Desk
import BacktestDesk.Proofs.SlotHistory

/-!
# BacktestDesk.Proofs.DeskRun

Runs of a desk: actions in any order, each with the reply to the request that it sends.

* `Desk.settlement`: how the operation of an action ends, told from the requests alone.
* `views_act_of_not_applied`: unless the operation succeeds, no view changes.
* `channel_act`: the channel takes one notice for an operation that fails, and none else.
-/

namespace BacktestDesk

/-- What is reported of an operation that ended: its failure, and nothing else. -/
def Settlement.notices : Settlement → List Notice
  | .failed e => [e.notice]
  | _ => []

/-- A place of a desk where something is shown. -/
inductive Pane where
  | chart
  | history
  | catalogue
  deriving DecidableEq

/-- What a desk shows. -/
structure Views where
  chart : Option Snapshot
  history : Option Availability
  catalogue : Option Catalogue
  deriving DecidableEq

namespace Views

def none : Views := ⟨.none, .none, .none⟩

/-- Two states of the views that differ in one pane at most, or in none. -/
def SameBut (pane : Option Pane) (v w : Views) : Prop :=
  (pane ≠ some .chart → v.chart = w.chart) ∧
  (pane ≠ some .history → v.history = w.history) ∧
  (pane ≠ some .catalogue → v.catalogue = w.catalogue)

end Views

/-- The pane that shows the answer to a request. -/
def Request.pane? : Request → Option Pane
  | .run _ => some .chart
  | .train _ => some .chart
  | .history _ => some .history
  | .models => some .catalogue
  | .load _ => none

/-- The pane that the operation of an action writes to. -/
def Action.pane? : Action → Option Pane
  | .execute r => r.pane?
  | .runBacktest _ => some .chart
  | .train _ => some .chart
  | .completeChart _ _ => some .chart
  | .loadHistory _ => some .history
  | .completeHistory _ _ => some .history
  | .listModels => some .catalogue
  | .loadRange _ => none
  | .beginChart => none
  | .beginHistory => none
  | .reset => none
  | .dismiss => none

/-- How a request ends that nothing outdates. -/
def Client.settlement (c : Client) (r : Request) (reply : Reply) : Settlement :=
  match r with
  | .run _ => .ofOutcome (c.fetchChart r reply).result
  | .train _ => .ofOutcome (c.fetchChart r reply).result
  | .history range => .ofOutcome (c.fetchHistory range reply).result
  | .models => .ofOutcome (c.fetchModels reply).result
  | .load range => .ofOutcome (c.fetchLoad range reply).result

/-- How an outcome ends that is handed in for a ticket. -/
def Slot.settlement {α : Type} (s : Slot α) (t : Ticket) (outcome : Except Failure α) :
    Settlement :=
  if s.isCurrent t then .ofOutcome outcome else .stale

namespace Desk

def views (d : Desk) : Views :=
  ⟨d.chart.current, d.history.current, d.catalogue⟩

/-- How the operation of an action ends. -/
def settlement (d : Desk) (a : Action) (reply : Reply) : Settlement :=
  match a with
  | .execute r => d.client.settlement r reply
  | .runBacktest config => d.client.settlement (.run config) reply
  | .train config => d.client.settlement (.train config) reply
  | .loadHistory range => d.client.settlement (.history range) reply
  | .loadRange range => d.client.settlement (.load range) reply
  | .listModels => d.client.settlement .models reply
  | .completeChart t outcome => d.chart.settlement t outcome
  | .completeHistory t outcome => d.history.settlement t outcome
  | .beginChart => .applied
  | .beginHistory => .applied
  | .reset => .applied
  | .dismiss => .applied

/-- The desk after a run of actions, each with its reply. -/
def after (d : Desk) (turns : List (Action × Reply)) : Desk :=
  turns.foldl (fun d turn => (d.act turn.1 turn.2).desk) d

/-- How the operations of a run end, in their order. -/
def settlements (d : Desk) : List (Action × Reply) → List Settlement
  | [] => []
  | (a, reply) :: turns => d.settlement a reply :: (d.act a reply).desk.settlements turns

end Desk

/-- Whether the result of an action tells how its operation ended. -/
def Action.Result.Tells (s : Settlement) : Action.Result → Prop
  | .settled s' => s' = s
  | .viewed v => v.isSome ↔ s = .applied
  | .loaded text => text.isSome ↔ s = .applied
  | .listed c => c.isSome ↔ s = .applied
  | .issued _ => s = .applied
  | .done => s = .applied

/-! ## Slots -/

namespace Slot

variable {α : Type}

theorem settle_fst (s : Slot α) (t : Ticket) (outcome : Except Failure α) :
    (s.settle t outcome).1 = s.settlement t outcome := by
  unfold settlement
  cases h : s.isCurrent t with
  | false => simp [settle_stale outcome h]
  | true => rw [settle_current outcome h]; cases outcome <;> rfl

theorem isCurrent_issue (s : Slot α) : s.issue.2.isCurrent s.issue.1 = true := by
  simp [issue, isCurrent]

theorem settlement_issue (s : Slot α) (outcome : Except Failure α) :
    s.issue.2.settlement s.issue.1 outcome = .ofOutcome outcome := by
  rw [settlement, if_pos (isCurrent_issue s)]

theorem current_settle_of_not_applied {s : Slot α} {t : Ticket} {outcome : Except Failure α}
    (h : s.settlement t outcome ≠ .applied) : (s.settle t outcome).2.current = s.current := by
  rw [← settle_fst] at h
  exact congrArg Slot.current (next_settle_of_ne_applied h)

theorem current_settle_of_applied {s : Slot α} {t : Ticket} {outcome : Except Failure α}
    (h : s.settlement t outcome = .applied) :
    ∃ x, outcome = .ok x ∧ (s.settle t outcome).2.current = some x := by
  unfold settlement at h
  split at h
  · rename_i hc
    cases outcome with
    | ok x => exact ⟨x, rfl, by rw [settle_current _ hc]⟩
    | error e => cases h
  · cases h

end Slot

/-! ## Channels -/

theorem board_take (taken : List Notice) (s : Settlement) :
    s.notices.foldl Channel.send (.board taken) = .board (taken ++ s.notices) := by
  cases s <;> simp [Settlement.notices, Channel.send]

namespace Desk

theorem route_eq (d : Desk) (s : Settlement) :
    d.route s = { d with channel := s.notices.foldl Channel.send d.channel } := by
  cases s <;> rfl

/-! ## The operations -/

theorem completeChart_eq (d : Desk) (t : Ticket) (outcome : Except Failure Snapshot) :
    d.completeChart t outcome = (d.chart.settlement t outcome,
      { d with
        chart := (d.chart.settle t outcome).2
        channel := (d.chart.settlement t outcome).notices.foldl Channel.send d.channel }) := by
  simp only [completeChart, route_eq, Slot.settle_fst]

theorem completeHistory_eq (d : Desk) (t : Ticket) (outcome : Except Failure Availability) :
    d.completeHistory t outcome = (d.history.settlement t outcome,
      { d with
        history := (d.history.settle t outcome).2
        channel := (d.history.settlement t outcome).notices.foldl Channel.send d.channel }) := by
  simp only [completeHistory, route_eq, Slot.settle_fst]

/-- A run or a training settles the ticket that it drew itself. -/
theorem showChart_eq (d : Desk) (r : Request) (reply : Reply) :
    d.showChart r reply =
      let outcome := (d.client.fetchChart r reply).result
      ⟨.ofOutcome outcome,
       { d with
         chart := (d.chart.issue.2.settle d.chart.issue.1 outcome).2
         channel := (Settlement.ofOutcome outcome).notices.foldl Channel.send d.channel },
       (d.client.fetchChart r reply).sent⟩ := by
  simp only [showChart, beginChart, completeChart_eq, Slot.settlement_issue]

theorem loadHistory_eq (d : Desk) (range : DayRange) (reply : Reply) :
    d.loadHistory range reply =
      let outcome := (d.client.fetchHistory range reply).result
      ⟨.ofOutcome outcome,
       { d with
         history := (d.history.issue.2.settle d.history.issue.1 outcome).2
         channel := (Settlement.ofOutcome outcome).notices.foldl Channel.send d.channel },
       (d.client.fetchHistory range reply).sent⟩ := by
  simp only [loadHistory, beginHistory, completeHistory_eq, Slot.settlement_issue]

theorem listModels_eq (d : Desk) (reply : Reply) :
    d.listModels reply =
      let outcome := (d.client.fetchModels reply).result
      ⟨outcome.toOption,
       { d with
         catalogue := outcome.toOption <|> d.catalogue
         channel := (Settlement.ofOutcome outcome).notices.foldl Channel.send d.channel },
       (d.client.fetchModels reply).sent⟩ := by
  simp only [listModels]
  cases (d.client.fetchModels reply).result <;> rfl

theorem loadRange_eq (d : Desk) (range : DayRange) (reply : Reply) :
    d.loadRange range reply =
      let outcome := (d.client.fetchLoad range reply).result
      ⟨outcome.toOption,
       { d with
         channel := (Settlement.ofOutcome outcome).notices.foldl Channel.send d.channel },
       (d.client.fetchLoad range reply).sent⟩ := by
  simp only [loadRange]
  cases (d.client.fetchLoad range reply).result <;> rfl

/-- What a request does to a desk, whether it is carried out or asked for by name. -/
theorem execute_desk (d : Desk) (r : Request) (reply : Reply) :
    (d.execute r reply).desk =
      match r with
      | .run _ => (d.showChart r reply).desk
      | .train _ => (d.showChart r reply).desk
      | .history range => (d.loadHistory range reply).desk
      | .models => (d.listModels reply).desk
      | .load range => (d.loadRange range reply).desk := by
  cases r <;> rfl

/-! ## One step -/

theorem channel_execute (d : Desk) (r : Request) (reply : Reply) :
    (d.execute r reply).desk.channel =
      (d.client.settlement r reply).notices.foldl Channel.send d.channel := by
  rw [execute_desk]
  cases r with
  | run config => simp only [showChart_eq, Client.settlement]
  | train config => simp only [showChart_eq, Client.settlement]
  | history range => simp only [loadHistory_eq, Client.settlement]
  | models => simp only [listModels_eq, Client.settlement]
  | load range => simp only [loadRange_eq, Client.settlement]

/-- A step hands over one notice if its operation failed, and none otherwise. -/
theorem channel_act (d : Desk) {a : Action} (reply : Reply) (h : a ≠ .dismiss) :
    (d.act a reply).desk.channel = (d.settlement a reply).notices.foldl Channel.send d.channel := by
  cases a with
  | execute r => exact channel_execute d r reply
  | runBacktest config => exact channel_execute d (.run config) reply
  | train config => exact channel_execute d (.train config) reply
  | loadHistory range => exact channel_execute d (.history range) reply
  | loadRange range => exact channel_execute d (.load range) reply
  | listModels => exact channel_execute d .models reply
  | beginChart => rfl
  | beginHistory => rfl
  | completeChart t outcome => simp only [act, completeChart_eq, settlement]
  | completeHistory t outcome => simp only [act, completeHistory_eq, settlement]
  | reset => rfl
  | dismiss => exact absurd rfl h

theorem views_execute_same (d : Desk) (r : Request) (reply : Reply) :
    Views.SameBut r.pane? (d.execute r reply).desk.views d.views := by
  rw [execute_desk]
  cases r with
  | run config => simp [showChart_eq, views, Views.SameBut, Request.pane?]
  | train config => simp [showChart_eq, views, Views.SameBut, Request.pane?]
  | history range => simp [loadHistory_eq, views, Views.SameBut, Request.pane?]
  | models => simp [listModels_eq, views, Views.SameBut, Request.pane?]
  | load range => simp [loadRange_eq, views, Views.SameBut, Request.pane?]

/-- A step writes to the pane of its own operation at most. -/
theorem views_act_same (d : Desk) {a : Action} (reply : Reply) (h : a ≠ .reset) :
    Views.SameBut a.pane? (d.act a reply).desk.views d.views := by
  cases a with
  | execute r => exact views_execute_same d r reply
  | runBacktest config => exact views_execute_same d (.run config) reply
  | train config => exact views_execute_same d (.train config) reply
  | loadHistory range => exact views_execute_same d (.history range) reply
  | loadRange range => exact views_execute_same d (.load range) reply
  | listModels => exact views_execute_same d .models reply
  | beginChart => exact ⟨fun _ => rfl, fun _ => rfl, fun _ => rfl⟩
  | beginHistory => exact ⟨fun _ => rfl, fun _ => rfl, fun _ => rfl⟩
  | completeChart t outcome =>
    simp [act, completeChart_eq, views, Views.SameBut, Action.pane?]
  | completeHistory t outcome =>
    simp [act, completeHistory_eq, views, Views.SameBut, Action.pane?]
  | reset => exact absurd rfl h
  | dismiss => exact ⟨fun _ => rfl, fun _ => rfl, fun _ => rfl⟩

theorem current_issue_settle {α : Type} (s : Slot α) {outcome : Except Failure α}
    (h : Settlement.ofOutcome outcome ≠ .applied) :
    (s.issue.2.settle s.issue.1 outcome).2.current = s.current :=
  Slot.current_settle_of_not_applied (by rwa [Slot.settlement_issue])

theorem toOption_of_not_applied {α : Type} {outcome : Except Failure α}
    (h : Settlement.ofOutcome outcome ≠ .applied) : outcome.toOption = none := by
  cases outcome with
  | ok x => exact absurd rfl h
  | error e => rfl

theorem views_execute_of_not_applied (d : Desk) {r : Request} {reply : Reply}
    (h : d.client.settlement r reply ≠ .applied) : (d.execute r reply).desk.views = d.views := by
  rw [execute_desk]
  cases r with
  | run config => simp [showChart_eq, views, current_issue_settle d.chart h]
  | train config => simp [showChart_eq, views, current_issue_settle d.chart h]
  | history range => simp [loadHistory_eq, views, current_issue_settle d.history h]
  | models => simp [listModels_eq, views, toOption_of_not_applied h]
  | load range => simp [loadRange_eq, views]

/-- A step whose operation fails, or is outdated, leaves all views as they are. -/
theorem views_act_of_not_applied (d : Desk) {a : Action} {reply : Reply}
    (h : d.settlement a reply ≠ .applied) : (d.act a reply).desk.views = d.views := by
  cases a with
  | execute r => exact views_execute_of_not_applied d h
  | runBacktest config => exact views_execute_of_not_applied d (r := .run config) h
  | train config => exact views_execute_of_not_applied d (r := .train config) h
  | loadHistory range => exact views_execute_of_not_applied d (r := .history range) h
  | loadRange range => exact views_execute_of_not_applied d (r := .load range) h
  | listModels => exact views_execute_of_not_applied d (r := .models) h
  | beginChart => rfl
  | beginHistory => rfl
  | completeChart t outcome =>
    simp [act, completeChart_eq, views, Slot.current_settle_of_not_applied h]
  | completeHistory t outcome =>
    simp [act, completeHistory_eq, views, Slot.current_settle_of_not_applied h]
  | reset => exact absurd rfl h
  | dismiss => exact absurd rfl h

theorem toOption_isSome {α : Type} (outcome : Except Failure α) :
    outcome.toOption.isSome ↔ Settlement.ofOutcome outcome = .applied := by
  cases outcome <;> simp [Except.toOption, Settlement.ofOutcome]

/-- A request that draws its own ticket shows what it brings. -/
theorem view_eq {α β : Type} (s : Slot α) (outcome : Except Failure α) (f : α → β) :
    (match Settlement.ofOutcome outcome with
      | .applied => (s.issue.2.settle s.issue.1 outcome).2.current.map f
      | _ => none) = outcome.toOption.map f := by
  cases outcome with
  | error e => rfl
  | ok x =>
    obtain ⟨y, hy, hcurrent⟩ := Slot.current_settle_of_applied (Slot.settlement_issue s (.ok x))
    cases hy
    simp only [Settlement.ofOutcome, hcurrent, Except.toOption]

theorem result_execute (d : Desk) (r : Request) (reply : Reply) :
    (d.execute r reply).result =
      match r with
      | .run _ => (d.client.fetchChart r reply).result.toOption.map .chart
      | .train _ => (d.client.fetchChart r reply).result.toOption.map .chart
      | .history range => (d.client.fetchHistory range reply).result.toOption.map .history
      | .models => (d.client.fetchModels reply).result.toOption.map fun c => .models c.models
      | .load range => (d.client.fetchLoad range reply).result.toOption.map .loaded := by
  cases r with
  | run config =>
    simp only [execute, chartView, showChart_eq]
    exact view_eq d.chart _ _
  | train config =>
    simp only [execute, chartView, showChart_eq]
    exact view_eq d.chart _ _
  | history range =>
    simp only [execute, historyView, loadHistory_eq]
    exact view_eq d.history _ _
  | models => simp only [execute, Step.map, listModels_eq]
  | load range => simp only [execute, Step.map, loadRange_eq]

theorem result_execute_isSome (d : Desk) (r : Request) (reply : Reply) :
    (d.execute r reply).result.isSome ↔ d.client.settlement r reply = .applied := by
  rw [result_execute]
  cases r <;> simp only [Option.isSome_map, toOption_isSome, Client.settlement]

/-- The result of a step tells how its operation ended. -/
theorem result_act_tells (d : Desk) (a : Action) (reply : Reply) :
    (d.act a reply).result.Tells (d.settlement a reply) := by
  cases a with
  | execute r => exact result_execute_isSome d r reply
  | runBacktest config => simp [act, Step.map, runBacktest, showChart_eq, settlement,
      Client.settlement, Action.Result.Tells]
  | train config => simp [act, Step.map, train, showChart_eq, settlement, Client.settlement,
      Action.Result.Tells]
  | loadHistory range => simp [act, Step.map, loadHistory_eq, settlement, Client.settlement,
      Action.Result.Tells]
  | loadRange range =>
    simp only [act, Step.map, loadRange_eq, settlement, Client.settlement]
    exact toOption_isSome _
  | listModels =>
    simp only [act, Step.map, listModels_eq, settlement, Client.settlement]
    exact toOption_isSome _
  | beginChart => rfl
  | beginHistory => rfl
  | completeChart t outcome => simp [act, completeChart_eq, settlement, Action.Result.Tells]
  | completeHistory t outcome => simp [act, completeHistory_eq, settlement, Action.Result.Tells]
  | reset => rfl
  | dismiss => rfl

end Desk

/-! ## Notices -/

theorem isBlankText_append {s t : String} (h : Text.isBlankText s = false) :
    Text.isBlankText (s ++ t) = false := by
  simp only [Text.isBlankText, String.toList_append, List.all_append] at h ⊢
  rw [h, Bool.false_and]

/-- The operator is never shown an empty notice. -/
theorem Failure.userMessage_not_blank (e : Failure) : Text.isBlankText e.userMessage = false := by
  cases e with
  | network text => exact isBlankText_append (by decide)
  | malformed text => exact isBlankText_append (by decide)
  | invalidConfig text => exact isBlankText_append (by decide)
  | backend status body =>
    simp only [Failure.userMessage]
    split
    · exact isBlankText_append (by decide)
    · rename_i h
      exact Bool.eq_false_iff.mpr h

theorem Failure.notice_origin (e : Failure) :
    e.notice.origin = .backend ↔ ∃ status body, e = .backend status body := by
  cases e <;> simp [Failure.notice, Failure.isBackend]

/-! ## Runs -/

namespace Desk

theorem after_cons (d : Desk) (a : Action) (reply : Reply) (turns : List (Action × Reply)) :
    d.after ((a, reply) :: turns) = (d.act a reply).desk.after turns := rfl

/-- A board stays one, whatever happens at the desk. -/
theorem board_act {d : Desk} {taken : List Notice} (h : d.channel = .board taken) (a : Action)
    (reply : Reply) : ∃ taken', (d.act a reply).desk.channel = .board taken' := by
  by_cases ha : a = .dismiss
  · subst ha
    exact ⟨[], by simp [act, dismiss, Channel.dismiss, h]⟩
  · exact ⟨_, by rw [channel_act d reply ha, h, board_take]⟩

theorem board_after {d : Desk} {taken : List Notice} (h : d.channel = .board taken)
    (turns : List (Action × Reply)) : ∃ taken', (d.after turns).channel = .board taken' := by
  induction turns generalizing d taken with
  | nil => exact ⟨taken, h⟩
  | cons turn turns ih =>
    obtain ⟨taken', h'⟩ := board_act h turn.1 turn.2
    exact ih h'

/-- The notices of a run are those of the operations that failed, in their order. -/
theorem channel_after {d : Desk} {taken : List Notice} (h : d.channel = .board taken)
    {turns : List (Action × Reply)} (hd : ∀ turn ∈ turns, turn.1 ≠ .dismiss) :
    (d.after turns).channel =
      .board (taken ++ (d.settlements turns).flatMap Settlement.notices) := by
  induction turns generalizing d taken with
  | nil => simpa [after, settlements] using h
  | cons turn turns ih =>
    have hc := channel_act d turn.2 (hd turn List.mem_cons_self)
    rw [h, board_take] at hc
    rw [after_cons, ih hc fun t ht => hd t (List.mem_cons_of_mem _ ht)]
    simp [settlements]

/-- Failures are atomic and each is shown exactly once. After any run from a fresh desk with a
board, for any further action and any reply:

* no pane but that of the operation changes, except that a reset empties all three;
* unless the operation succeeds, nothing that is shown changes;
* the board takes one notice if the operation failed, and none if it succeeded or was outdated;
* the result of the action tells how its operation ended.

A notice carries the message of its failure, which is never blank, and names the backend exactly
for what the backend reported. The board of a whole run holds the notices of its failures. -/
theorem failures_atomic_and_shown_once (client : Client) (turns : List (Action × Reply))
    (a : Action) (reply : Reply) :
    let start := Desk.new client (.board [])
    let d := start.after turns
    let done := (d.act a reply).desk
    let settlement := d.settlement a reply
    (a ≠ .reset → Views.SameBut a.pane? done.views d.views) ∧
    (a = .reset → done.views = .none) ∧
    (settlement ≠ .applied → done.views = d.views) ∧
    (a ≠ .dismiss → done.channel = .board (d.channel.notices ++ settlement.notices)) ∧
    (d.act a reply).result.Tells settlement ∧
    (∀ e : Failure, (e.notice.origin = .backend ↔ ∃ status body, e = .backend status body) ∧
      e.notice.message = e.userMessage ∧ Text.isBlankText e.notice.message = false) ∧
    ((∀ turn ∈ turns, turn.1 ≠ .dismiss) →
      d.channel = .board ((start.settlements turns).flatMap Settlement.notices)) := by
  intro start d done settlement
  have hstart : start.channel = .board [] := rfl
  obtain ⟨taken, hboard⟩ := board_after hstart turns
  refine ⟨views_act_same d reply, ?_, views_act_of_not_applied d, ?_, result_act_tells d a reply,
    ?_, ?_⟩
  · intro ha
    subst ha
    rfl
  · intro ha
    have hc := channel_act d reply ha
    rw [hboard, board_take] at hc
    rw [hboard]
    exact hc
  · intro e
    exact ⟨e.notice_origin, rfl, e.userMessage_not_blank⟩
  · intro hd
    exact channel_after hstart hd

end Desk
end BacktestDesk
