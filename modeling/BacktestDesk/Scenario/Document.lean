import BacktestDesk.Json.Moment
import BacktestDesk.Scenario.Config

/-!
# BacktestDesk.Scenario.Document

Requests as documents: the fields of the configuration beside the field `operation`, or an array
that begins with the name of the operation.
-/

namespace BacktestDesk

open Json

namespace Operation

def read : Reading Operation :=
  readChoice (all.map fun o => (o.endpoint, o))

def toJson (o : Operation) : Json :=
  .str o.endpoint

end Operation

namespace DayRange

def read (site : Site) : Reading DayRange :=
  readRecord site "RangeConfig"
    ((Fields.none mk).and (.required "coin" readText)
      |>.and (.required "from" readDay)
      |>.and (.required "to" readDay))

def fields (r : DayRange) : List (String × Json) :=
  [("coin", .str r.coin), ("from", ofDay r.first), ("to", ofDay r.last)]

def toJson (r : DayRange) : Json :=
  .obj r.fields

end DayRange

namespace Backtest

def read (site : Site) : Reading Backtest :=
  readRecord site "RunConfig"
    ((Fields.none mk).and (.required "range" (DayRange.read site))
      |>.and (.required "interval" readUnsigned32)
      |>.and (.required "prev" readUnsigned32)
      |>.and (.required "next" readUnsigned32)
      |>.and (.required "threshold" readReal))

def fields (b : Backtest) : List (String × Json) :=
  [("range", b.range.toJson), ("interval", .ofNat b.interval), ("prev", .ofNat b.prev),
   ("next", .ofNat b.next), ("threshold", .ofDouble b.threshold)]

def toJson (b : Backtest) : Json :=
  .obj b.fields

end Backtest

namespace RiskLimits

def read (site : Site) : Reading RiskLimits :=
  readRecord site "RiskConfig"
    ((Fields.none mk).and (.required "buffer_time" readReal)
      |>.and (.required "price_threshold" readReal)
      |>.and (.required "stop_loss" readReal)
      |>.and (.required "take_profit" readReal))

def toJson (r : RiskLimits) : Json :=
  .obj [("buffer_time", .ofDouble r.bufferTime), ("price_threshold", .ofDouble r.priceThreshold),
    ("stop_loss", .ofDouble r.stopLoss), ("take_profit", .ofDouble r.takeProfit)]

end RiskLimits

namespace Training

def read (site : Site) : Reading Training :=
  readRecord site "TrainConfig"
    ((Fields.none mk).and (.required "range" (DayRange.read site))
      |>.and (.required "models" (readList readText))
      |>.and (.required "precision" readReal)
      |>.and (.required "size" readUnsigned32)
      |>.and (.required "buffer" readUnsigned32)
      |>.and (.required "features" readUnsigned32)
      |>.and (.required "look_back" readUnsigned32)
      |>.and (.required "look_ahead" readUnsigned32)
      |>.and (.required "gap" readReal)
      |>.and (.required "risk" (RiskLimits.read site)))

def fields (t : Training) : List (String × Json) :=
  [("range", t.range.toJson), ("models", .ofList .str t.models),
   ("precision", .ofDouble t.precision), ("size", .ofNat t.size), ("buffer", .ofNat t.buffer),
   ("features", .ofNat t.features), ("look_back", .ofNat t.lookBack),
   ("look_ahead", .ofNat t.lookAhead), ("gap", .ofDouble t.gap), ("risk", t.risk.toJson)]

def toJson (t : Training) : Json :=
  .obj t.fields

end Training

namespace Request

/-- The name of the field that tells the operation. -/
def tag : String := "operation"

/-- An operation by its name alone. -/
def readTag : Reading Operation
  | .str s =>
    match Operation.all.find? fun o => o.endpoint == s with
    | some o => .ok o
    | none => .error (.unknown s (Operation.all.map Operation.endpoint))
  | v => .error (.kind v.found .tag)

/-- The configuration of an operation, from what is left beside the tag. The list of models takes
none: a list that goes on after its tag is too long, and fields are left unread. -/
def readContent : Operation → Reading Request
  | .run, v =>
    match Backtest.read .tagged v with
    | .error e => .error e
    | .ok c => .ok (run c)
  | .train, v =>
    match Training.read .tagged v with
    | .error e => .error e
    | .ok c => .ok (train c)
  | .load, v =>
    match DayRange.read .tagged v with
    | .error e => .error e
    | .ok r => .ok (load r)
  | .history, v =>
    match DayRange.read .tagged v with
    | .error e => .error e
    | .ok r => .ok (history r)
  | .models, .arr (_ :: items) => .error (.length (items.length + 1) (.exactly 0))
  | .models, _ => .ok models

def readTagged (operation : Json) (content : Json) : Except Fault Request :=
  match readTag operation with
  | .error e => .error e
  | .ok o => readContent o content

def read : Reading Request
  | .obj fields =>
    match fields.find? fun e => e.1 == tag with
    | some e => readTagged e.2 (.obj (fields.filter fun e => e.1 != tag))
    | none => .error (.missing tag)
  | .arr (operation :: content) => readTagged operation (.arr content)
  | .arr [] => .error (.missing tag)
  | v => .error (.kind v.found (.union "ScenarioRequest"))

def fields : Request → List (String × Json)
  | run c => c.fields
  | train c => c.fields
  | load r => r.fields
  | history r => r.fields
  | models => []

def toJson (r : Request) : Json :=
  .obj ((tag, r.operation.toJson) :: r.fields)

end Request
end BacktestDesk
