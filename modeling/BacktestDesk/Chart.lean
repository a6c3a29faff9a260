import BacktestDesk.Failure
import BacktestDesk.Json.Moment
import BacktestDesk.RunAnswer

/-!
# BacktestDesk.Chart

What a chart shows of a run: the answer of the backend with every timestamp resolved to an instant.
`Chart.ofAnswer` keeps order and length of every series, and stops at the first timestamp that does
not resolve or, behind all of them, at the first run without figures.
-/

namespace BacktestDesk

open Calendar

/-- The side of a signal. -/
inductive Side where
  | buy
  | sell
  deriving DecidableEq

/-- Where in an answer a timestamp stands. -/
inductive Place where
  | time (index : Nat)
  | price (index : Nat)
  | trade (index : Nat)
  | flatSignal (side : Side) (index : Nat)
  | keyedSignal (key : String) (side : Side) (index : Nat)
  | loss (index : Nat)
  | stored (index : Nat)
  deriving DecidableEq

def Side.text : Side → String
  | .buy => "buy"
  | .sell => "sell"

/-- The path of a place in the document. -/
def Place.path : Place → String
  | .time i => "time[" ++ toString i ++ "]"
  | .price i => "price[" ++ toString i ++ "].x"
  | .trade i => "trades[" ++ toString i ++ "].x"
  | .flatSignal side i => "trigger." ++ side.text ++ "[" ++ toString i ++ "].x"
  | .keyedSignal key side i =>
    "trigger." ++ key ++ "." ++ side.text ++ "[" ++ toString i ++ "].x"
  | .loss i => "loss[" ++ toString i ++ "].x"
  | .stored i => "history[" ++ toString i ++ "].From"

/-- What is said of a timestamp that does not resolve. -/
def unresolved (raw path : String) (fault : Calendar.Fault) : String :=
  "unparseable timestamp '" ++ raw ++ "' in " ++ path ++ ": " ++ fault.message

/-- The instant of a timestamp found at a path. -/
def resolveAt (raw path : String) : Except Failure Instant :=
  match Timestamp.strict raw with
  | .ok t => .ok t
  | .error e => .error (.malformed (unresolved raw path e))

/-! ## Series -/

structure Point where
  instant : Instant
  value : Double
  deriving DecidableEq

structure Signals where
  buy : List Point
  sell : List Point
  deriving DecidableEq

structure Detail where
  coin : String
  duration : Int
  prev : Option Int
  next : Option Int
  result : Figures
  deriving DecidableEq

structure Chart where
  coin : String
  timeAxis : List Instant
  priceSeries : List Point
  tradeSeries : List Point
  signalSeries : TextMap Signals
  lossSeries : Option (List Point)
  details : List Detail
  reports : TextMap CoinReport
  deriving DecidableEq

/-- What keeps an answer from being shown. -/
inductive Chart.Fault where
  | stamp (place : Place) (raw : String) (fault : Calendar.Fault)
  | noResult (index : Nat) (coin : String)
  deriving DecidableEq

def Chart.Fault.message : Chart.Fault → String
  | .stamp place raw fault => unresolved raw place.path fault
  | .noResult index coin =>
    "details[" ++ toString index ++ "] (" ++ coin ++ ") has no result block"

/-- Maps the elements of a list in order, numbered from `index`, up to the first that fails. -/
def resolveAll {α β ε : Type} (f : Nat → α → Except ε β) (index : Nat) : List α → Except ε (List β)
  | [] => .ok []
  | x :: xs =>
    match f index x with
    | .error e => .error e
    | .ok y =>
      match resolveAll f (index + 1) xs with
      | .error e => .error e
      | .ok ys => .ok (y :: ys)

namespace Chart

/-- The coin of a chart without any run. -/
def unknownCoin : String := "unknown"

/-- The strategy under which a single pair of signals is shown. -/
def defaultKey : String := "default"

def resolveStamp (place : Place) (raw : String) : Except Fault Instant :=
  match Timestamp.strict raw with
  | .ok t => .ok t
  | .error e => .error (.stamp place raw e)

def resolvePoint (place : Nat → Place) (index : Nat) (p : Sample) : Except Fault Point :=
  match resolveStamp (place index) p.stamp with
  | .error e => .error e
  | .ok t => .ok ⟨t, p.value⟩

def resolvePoints (place : Nat → Place) (ps : List Sample) : Except Fault (List Point) :=
  resolveAll (resolvePoint place) 0 ps

def resolveSignals (place : Side → Nat → Place) (s : SignalSamples) : Except Fault Signals :=
  match resolvePoints (place .buy) s.buy with
  | .error e => .error e
  | .ok buy =>
    match resolvePoints (place .sell) s.sell with
    | .error e => .error e
    | .ok sell => .ok ⟨buy, sell⟩

def resolveTrigger : Trigger → Except Fault (TextMap Signals)
  | .flat s =>
    match resolveSignals .flatSignal s with
    | .error e => .error e
    | .ok signals => .ok (.single defaultKey signals)
  | .keyed m => m.mapM fun key s => resolveSignals (.keyedSignal key) s

def resolveLoss : Option (List Sample) → Except Fault (Option (List Point))
  | none => .ok none
  | some ps =>
    match resolvePoints .loss ps with
    | .error e => .error e
    | .ok points => .ok (some points)

def resolveDetail (index : Nat) (d : RunEntry) : Except Fault Detail :=
  match d.result with
  | none => .error (.noResult index d.coin)
  | some r => .ok ⟨d.coin, d.duration, d.prev, d.next, r⟩

/-- The coin of the first run, and of nothing else. -/
def coinOf : List Detail → String
  | [] => unknownCoin
  | d :: _ => d.coin

def ofAnswer (p : RunAnswer) : Except Fault Chart :=
  match resolveAll (fun i raw => resolveStamp (.time i) raw) 0 p.time with
  | .error e => .error e
  | .ok timeAxis =>
    match resolvePoints .price p.price with
    | .error e => .error e
    | .ok priceSeries =>
      match resolvePoints .trade p.trades with
      | .error e => .error e
      | .ok tradeSeries =>
        match resolveTrigger p.trigger with
        | .error e => .error e
        | .ok signalSeries =>
          match resolveLoss p.loss with
          | .error e => .error e
          | .ok lossSeries =>
            match resolveAll resolveDetail 0 p.details with
            | .error e => .error e
            | .ok details =>
              .ok { coin := coinOf details, timeAxis, priceSeries, tradeSeries, signalSeries,
                    lossSeries, details, reports := p.report.getD .empty }

/-- The chart of an answer, or the failure that its body amounts to. -/
def ofJson (body : Json) : Except Failure Chart :=
  match RunAnswer.read body with
  | .error e => .error (.malformed ("result payload: " ++ e.message))
  | .ok p =>
    match ofAnswer p with
    | .error e => .error (.malformed e.message)
    | .ok chart => .ok chart

def hasKnownCoin (c : Chart) : Bool :=
  c.coin != unknownCoin

def signalKeys (c : Chart) : List String :=
  c.signalSeries.keys

end Chart

/-! ## Documents -/

open Json

namespace Point

def read : Reading Point :=
  readRecord .document "Point"
    ((Fields.none mk).and (.required "instant" readInstant) |>.and (.required "value" readReal))

def toJson (p : Point) : Json :=
  .obj [("instant", ofInstant p.instant), ("value", ofDouble p.value)]

end Point

namespace Signals

def read : Reading Signals :=
  readRecord .document "SignalSeries"
    ((Fields.none mk).and (.required "buy" (readList Point.read))
      |>.and (.required "sell" (readList Point.read)))

def toJson (s : Signals) : Json :=
  .obj [("buy", .ofList Point.toJson s.buy), ("sell", .ofList Point.toJson s.sell)]

end Signals

namespace Detail

def read : Reading Detail :=
  readRecord .document "RunDetail"
    ((Fields.none mk).and (.required "coin" readText)
      |>.and (.required "duration" readSigned64)
      |>.and (.optional "prev" readSigned64)
      |>.and (.optional "next" readSigned64)
      |>.and (.required "result" Figures.read))

def toJson (d : Detail) : Json :=
  .obj ([("coin", .str d.coin), ("duration", .int d.duration)]
    ++ optionalField "prev" Json.int d.prev
    ++ optionalField "next" Json.int d.next
    ++ [("result", d.result.toJson)])

end Detail

namespace Chart

def read : Reading Chart :=
  readRecord .document "VisualizationModel"
    ((Fields.none mk).and (.required "coin" readText)
      |>.and (.required "timeAxis" (readList readInstant))
      |>.and (.required "priceSeries" (readList Point.read))
      |>.and (.required "tradeSeries" (readList Point.read))
      |>.and (.required "signalSeries" (readTextMap Signals.read))
      |>.and (.defaulted "lossSeries" (readList Point.read))
      |>.and (.required "runDetails" (readList Detail.read))
      |>.and (.required "reports" (readTextMap CoinReport.read)))

def toJson (c : Chart) : Json :=
  .obj ([("coin", .str c.coin), ("timeAxis", .ofList ofInstant c.timeAxis),
      ("priceSeries", .ofList Point.toJson c.priceSeries),
      ("tradeSeries", .ofList Point.toJson c.tradeSeries),
      ("signalSeries", .ofTextMap Signals.toJson c.signalSeries)]
    ++ optionalField "lossSeries" (ofList Point.toJson) c.lossSeries
    ++ [("runDetails", .ofList Detail.toJson c.details),
        ("reports", .ofTextMap CoinReport.toJson c.reports)])

end Chart
end BacktestDesk
