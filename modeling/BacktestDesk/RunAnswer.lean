import BacktestDesk.Json.Shape

/-!
# BacktestDesk.RunAnswer

The answers of the backend as they arrive: run results, coin reports and stored ranges. Timestamps
are still text here.
-/

namespace BacktestDesk

/-- A number at a time that is still text. -/
structure Sample where
  stamp : String
  value : Double
  deriving DecidableEq

/-- The buy and sell signals of one strategy. -/
structure SignalSamples where
  buy : List Sample
  sell : List Sample
  deriving DecidableEq

/-- Signals come as one pair, or as one pair for each strategy. -/
inductive Trigger where
  | flat (signals : SignalSamples)
  | keyed (signals : TextMap SignalSamples)
  deriving DecidableEq

/-- The figures of a finished run. -/
structure Figures where
  trades : Int
  threshold : Double
  value : Double
  coins : Double
  coinValue : Option Double
  fees : Double
  pnl : Double
  deriving DecidableEq

/-- A run as it is listed in an answer, with or without its figures. -/
structure RunEntry where
  coin : String
  duration : Int
  prev : Option Int
  next : Option Int
  result : Option Figures
  deriving DecidableEq

/-- The figures of one coin; each of them may be missing. -/
structure CoinReport where
  buy : Option Nat
  buyAvg : Option Double
  buyVol : Option Double
  sell : Option Nat
  sellAvg : Option Double
  sellVol : Option Double
  wallet : Option Double
  profit : Option Double
  fees : Option Double
  lastPrice : Option Double
  stamp : Option String
  deriving DecidableEq

/-- The answer to a run or a training. -/
structure RunAnswer where
  time : List String
  price : List Sample
  trades : List Sample
  trigger : Trigger
  loss : Option (List Sample)
  details : List RunEntry
  report : Option (TextMap CoinReport)
  deriving DecidableEq

/-- A stretch of trades that the backend has stored. -/
structure StoredRange where
  path : Option String
  hash : Option Int
  start : String
  stop : Option String
  deriving DecidableEq

open Json

namespace Sample

def read : Reading Sample :=
  readRecord .document "RawPoint"
    ((Fields.none mk).and (.required "x" readText) |>.and (.required "y" readReal))

def toJson (p : Sample) : Json :=
  .obj [("x", .str p.stamp), ("y", .ofDouble p.value)]

end Sample

namespace SignalSamples

def read : Reading SignalSamples :=
  readRecord .document "RawSignalPair"
    ((Fields.none mk).and (.required "buy" (readList Sample.read))
      |>.and (.required "sell" (readList Sample.read)))

def toJson (s : SignalSamples) : Json :=
  .obj [("buy", .ofList Sample.toJson s.buy), ("sell", .ofList Sample.toJson s.sell)]

end SignalSamples

namespace Trigger

def readFlat : Reading Trigger := fun v =>
  match SignalSamples.read v with
  | .error e => .error e
  | .ok s => .ok (flat s)

def readKeyed : Reading Trigger := fun v =>
  match readTextMap SignalSamples.read v with
  | .error e => .error e
  | .ok m => .ok (keyed m)

/-- A single pair is tried first; other keys beside its two are then not looked at. -/
def read : Reading Trigger :=
  readFirst "RawTrigger" [readFlat, readKeyed]

def toJson : Trigger → Json
  | flat s => s.toJson
  | keyed m => .ofTextMap SignalSamples.toJson m

end Trigger

namespace Figures

def read : Reading Figures :=
  readRecord .document "RunResult"
    ((Fields.none mk).and (.required "trades" readSigned64)
      |>.and (.required "threshold" readReal)
      |>.and (.required "value" readReal)
      |>.and (.required "coins" readReal)
      |>.and (.defaulted "coinValue" readReal)
      |>.and (.required "fees" readReal)
      |>.and (.required "pnl" readReal))

def toJson (r : Figures) : Json :=
  .obj ([("trades", .int r.trades), ("threshold", .ofDouble r.threshold),
      ("value", .ofDouble r.value), ("coins", .ofDouble r.coins)]
    ++ optionalField "coinValue" Json.ofDouble r.coinValue
    ++ [("fees", .ofDouble r.fees), ("pnl", .ofDouble r.pnl)])

end Figures

namespace RunEntry

def read : Reading RunEntry :=
  readRecord .document "RawRunDetail"
    ((Fields.none mk).and (.required "coin" readText)
      |>.and (.required "duration" readSigned64)
      |>.and (.defaulted "prev" readSigned64)
      |>.and (.defaulted "next" readSigned64)
      |>.and (.defaulted "result" Figures.read))

def toJson (d : RunEntry) : Json :=
  .obj [("coin", .str d.coin), ("duration", .int d.duration), ("prev", .ofOption .int d.prev),
    ("next", .ofOption .int d.next), ("result", .ofOption Figures.toJson d.result)]

end RunEntry

namespace CoinReport

def read : Reading CoinReport :=
  readRecord .document "RawReport"
    ((Fields.none mk).and (.defaulted "buy" readUnsigned64)
      |>.and (.defaulted "buy_avg" readReal)
      |>.and (.defaulted "buy_vol" readReal)
      |>.and (.defaulted "sell" readUnsigned64)
      |>.and (.defaulted "sell_avg" readReal)
      |>.and (.defaulted "sell_vol" readReal)
      |>.and (.defaulted "wallet" readReal)
      |>.and (.defaulted "profit" readReal)
      |>.and (.defaulted "fees" readReal)
      |>.and (.defaulted "last_price" readReal)
      |>.and (.defaulted "stamp" readText))

def toJson (r : CoinReport) : Json :=
  .obj ([("buy", .ofOption ofNat r.buy), ("buy_avg", .ofOption ofDouble r.buyAvg),
      ("buy_vol", .ofOption ofDouble r.buyVol), ("sell", .ofOption ofNat r.sell),
      ("sell_avg", .ofOption ofDouble r.sellAvg), ("sell_vol", .ofOption ofDouble r.sellVol),
      ("wallet", .ofOption ofDouble r.wallet), ("profit", .ofOption ofDouble r.profit),
      ("fees", .ofOption ofDouble r.fees)]
    ++ optionalField "last_price" ofDouble r.lastPrice
    ++ optionalField "stamp" Json.str r.stamp)

end CoinReport

namespace RunAnswer

def read : Reading RunAnswer :=
  readRecord .document "RawResultPayload"
    ((Fields.none mk).and (.required "time" (readList readText))
      |>.and (.required "price" (readList Sample.read))
      |>.and (.required "trades" (readList Sample.read))
      |>.and (.required "trigger" Trigger.read)
      |>.and (.defaulted "loss" (readList Sample.read))
      |>.and (.required "details" (readList RunEntry.read))
      |>.and (.defaulted "report" (readTextMap CoinReport.read)))

def toJson (p : RunAnswer) : Json :=
  .obj ([("time", .ofList .str p.time), ("price", .ofList Sample.toJson p.price),
      ("trades", .ofList Sample.toJson p.trades), ("trigger", p.trigger.toJson)]
    ++ optionalField "loss" (ofList Sample.toJson) p.loss
    ++ [("details", .ofList RunEntry.toJson p.details)]
    ++ optionalField "report" (ofTextMap CoinReport.toJson) p.report)

end RunAnswer

namespace StoredRange

def read : Reading StoredRange :=
  readRecord .document "HistoryRange"
    ((Fields.none mk).and (.defaulted "Path" readText)
      |>.and (.defaulted "Hash" readSigned64)
      |>.and (.required "From" readText)
      |>.and (.defaulted "To" readText))

def toJson (r : StoredRange) : Json :=
  .obj [("Path", .ofOption .str r.path), ("Hash", .ofOption .int r.hash), ("From", .str r.start),
    ("To", .ofOption .str r.stop)]

end StoredRange
end BacktestDesk
