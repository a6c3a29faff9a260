import BacktestDesk.Channel
import BacktestDesk.Fetch
import BacktestDesk.Slot

/-!
# BacktestDesk.Desk

The desk of an operator: a chart, a history and a catalogue, and the channel to which every failure
goes once. Each step sends at most one request, so it comes with the reply to it. Requests may also
overlap: their outcomes are then handed in later, and only that of the latest is taken.
-/

namespace BacktestDesk

/-- What is shown after a request. -/
inductive View where
  | chart (s : Snapshot)
  | history (a : Availability)
  | models (ms : List TrainedModel)
  | loaded (text : String)
  deriving DecidableEq

def View.toJson : View → Json
  | .chart s => .obj [("view", .str "chart"), ("data", s.toJson)]
  | .history a => .obj [("view", .str "history"), ("data", a.toJson)]
  | .models ms => .obj [("view", .str "models"), ("data", .ofList TrainedModel.toJson ms)]
  | .loaded text => .obj [("view", .str "loaded"), ("data", .str text)]

structure Desk where
  client : Client
  chart : Slot Snapshot
  history : Slot Availability
  catalogue : Option Catalogue
  channel : Channel

/-- The result of a step, the desk after it, and the requests that were made in it. -/
structure Step (α : Type) where
  result : α
  desk : Desk
  sent : List Sent

def Step.map {α β : Type} (f : α → β) (s : Step α) : Step β :=
  ⟨f s.result, s.desk, s.sent⟩

namespace Desk

def new (client : Client) (channel : Channel) : Desk :=
  ⟨client, .empty, .empty, none, channel⟩

def report (d : Desk) (e : Failure) : Desk :=
  { d with channel := d.channel.send e.notice }

/-- A failure of the latest request is reported; what is outdated is not. -/
def route (d : Desk) : Settlement → Desk
  | .failed e => d.report e
  | _ => d

def beginChart (d : Desk) : Ticket × Desk :=
  (d.chart.issue.1, { d with chart := d.chart.issue.2 })

def beginHistory (d : Desk) : Ticket × Desk :=
  (d.history.issue.1, { d with history := d.history.issue.2 })

def completeChart (d : Desk) (t : Ticket) (outcome : Except Failure Snapshot) :
    Settlement × Desk :=
  let (settlement, slot) := d.chart.settle t outcome
  (settlement, { d with chart := slot }.route settlement)

def completeHistory (d : Desk) (t : Ticket) (outcome : Except Failure Availability) :
    Settlement × Desk :=
  let (settlement, slot) := d.history.settle t outcome
  (settlement, { d with history := slot }.route settlement)

/-- A run or a training from its start to the settlement of its outcome. -/
def showChart (d : Desk) (r : Request) (reply : Reply) : Step Settlement :=
  let (t, started) := d.beginChart
  let exchange := d.client.fetchChart r reply
  let (settlement, done) := started.completeChart t exchange.result
  ⟨settlement, done, exchange.sent⟩

def runBacktest (d : Desk) (config : Backtest) (reply : Reply) : Step Settlement :=
  d.showChart (.run config) reply

def train (d : Desk) (config : Training) (reply : Reply) : Step Settlement :=
  d.showChart (.train config) reply

def loadHistory (d : Desk) (range : DayRange) (reply : Reply) : Step Settlement :=
  let (t, started) := d.beginHistory
  let exchange := d.client.fetchHistory range reply
  let (settlement, done) := started.completeHistory t exchange.result
  ⟨settlement, done, exchange.sent⟩

/-- The catalogue that the backend sends takes the place of the one before. -/
def listModels (d : Desk) (reply : Reply) : Step (Option Catalogue) :=
  let exchange := d.client.fetchModels reply
  match exchange.result with
  | .ok c => ⟨some c, { d with catalogue := some c }, exchange.sent⟩
  | .error e => ⟨none, d.report e, exchange.sent⟩

def loadRange (d : Desk) (range : DayRange) (reply : Reply) : Step (Option String) :=
  let exchange := d.client.fetchLoad range reply
  match exchange.result with
  | .ok text => ⟨some text, d, exchange.sent⟩
  | .error e => ⟨none, d.report e, exchange.sent⟩

/-- The chart that is current after its own request. -/
def chartView (s : Step Settlement) : Option View :=
  match s.result with
  | .applied => s.desk.chart.current.map View.chart
  | _ => none

def historyView (s : Step Settlement) : Option View :=
  match s.result with
  | .applied => s.desk.history.current.map View.history
  | _ => none

/-- Any request, with the view that it leads to; without one when it failed and was reported. -/
def execute (d : Desk) (r : Request) (reply : Reply) : Step (Option View) :=
  match r with
  | .run _ =>
    let s := d.showChart r reply
    ⟨chartView s, s.desk, s.sent⟩
  | .train _ =>
    let s := d.showChart r reply
    ⟨chartView s, s.desk, s.sent⟩
  | .history range =>
    let s := d.loadHistory range reply
    ⟨historyView s, s.desk, s.sent⟩
  | .models => (d.listModels reply).map fun c => c.map fun c => .models c.models
  | .load range => (d.loadRange range reply).map fun text => text.map .loaded

/-- Forgets all views, and outdates every request that is under way. -/
def reset (d : Desk) : Desk :=
  { d with chart := d.chart.clear, history := d.history.clear, catalogue := none }

def dismiss (d : Desk) : Desk :=
  { d with channel := d.channel.dismiss }

end Desk

/-! ## Actions -/

/-- One thing that happens at a desk. -/
inductive Action where
  | execute (r : Request)
  | runBacktest (config : Backtest)
  | train (config : Training)
  | loadHistory (range : DayRange)
  | loadRange (range : DayRange)
  | listModels
  | beginChart
  | beginHistory
  | completeChart (t : Ticket) (outcome : Except Failure Snapshot)
  | completeHistory (t : Ticket) (outcome : Except Failure Availability)
  | reset
  | dismiss

/-- What an action returns. -/
inductive Action.Result where
  | settled (s : Settlement)
  | viewed (v : Option View)
  | loaded (text : Option String)
  | listed (c : Option Catalogue)
  | issued (t : Ticket)
  | done
  deriving DecidableEq

/-- An action at a desk, with the reply to the request that it sends if it sends one. -/
def Desk.act (d : Desk) (a : Action) (reply : Reply) : Step Action.Result :=
  match a with
  | .execute r => (d.execute r reply).map .viewed
  | .runBacktest config => (d.runBacktest config reply).map .settled
  | .train config => (d.train config reply).map .settled
  | .loadHistory range => (d.loadHistory range reply).map .settled
  | .loadRange range => (d.loadRange range reply).map .loaded
  | .listModels => (d.listModels reply).map .listed
  | .beginChart => ⟨.issued d.beginChart.1, d.beginChart.2, []⟩
  | .beginHistory => ⟨.issued d.beginHistory.1, d.beginHistory.2, []⟩
  | .completeChart t outcome =>
    ⟨.settled (d.completeChart t outcome).1, (d.completeChart t outcome).2, []⟩
  | .completeHistory t outcome =>
    ⟨.settled (d.completeHistory t outcome).1, (d.completeHistory t outcome).2, []⟩
  | .reset => ⟨.done, d.reset, []⟩
  | .dismiss => ⟨.done, d.dismiss, []⟩

end BacktestDesk
