import BacktestDesk.Availability
import BacktestDesk.Backend.Client
import BacktestDesk.Catalogue
import BacktestDesk.Chart
import BacktestDesk.Metrics
import BacktestDesk.Scenario.Wire

/-!
# BacktestDesk.Fetch

From a configuration to what is shown: check it, send it, and read the answer. A configuration that
breaks a rule sends nothing.
-/

namespace BacktestDesk

/-- A chart together with the metrics of its own reports. -/
structure Snapshot where
  chart : Chart
  metrics : TextMap Metrics
  deriving DecidableEq

def Snapshot.ofJson (body : Json) : Except Failure Snapshot :=
  match Chart.ofJson body with
  | .error e => .error e
  | .ok chart =>
    match Metrics.aggregate chart.reports with
    | .error e => .error e
    | .ok metrics => .ok ⟨chart, metrics⟩

def Snapshot.toJson (s : Snapshot) : Json :=
  .obj [("model", s.chart.toJson), ("metrics", .ofTextMap Metrics.toJson s.metrics)]

namespace Client

/-- The chart of a run or a training. -/
def fetchChart (c : Client) (r : Request) (reply : Reply) : Exchange Snapshot :=
  match r.build with
  | .error e => .failed e
  | .ok ps => (c.call r.operation.endpoint ps reply).map Snapshot.ofJson

/-- The stored ranges of a coin. -/
def fetchHistory (c : Client) (range : DayRange) (reply : Reply) : Exchange Availability :=
  match (Request.history range).build with
  | .error e => .failed e
  | .ok ps =>
    (c.call Operation.history.endpoint ps reply).map (Availability.ofJson (Text.trim range.coin))

/-- The trained models; the backend sends `null` when there are none. -/
def fetchModels (c : Client) (reply : Reply) : Exchange Catalogue :=
  (c.callAs (Json.readOption (Json.readList Json.readText)) Operation.models.endpoint .empty
      reply).map fun ids => .ok (.ofIdentifiers (ids.getD []))

/-- What the backend says of a load of trades. -/
def fetchLoad (c : Client) (range : DayRange) (reply : Reply) : Exchange String :=
  match (Request.load range).build with
  | .error e => .failed e
  | .ok ps => c.callText Operation.load.endpoint ps reply

end Client
end BacktestDesk
