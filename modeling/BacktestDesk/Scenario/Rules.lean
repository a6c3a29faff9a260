import BacktestDesk.Failure
import BacktestDesk.Scenario.Config

/-!
# BacktestDesk.Scenario.Rules

The rules that a configuration has to keep, in the order in which they are checked. A request is
valid when it keeps all of them; otherwise the first that it breaks is reported.
-/

namespace BacktestDesk

open Calendar

/-- A number with bounds on it. -/
inductive Quantity where
  | whole (n : Nat)
  | real (x : Double)
  deriving DecidableEq

def Quantity.text : Quantity → String
  | .whole n => toString n
  | .real x => x.plain

/-- How a configuration breaks a rule. -/
inductive Violation where
  | emptyCoin
  | reversed (first last : Date)
  | interval (n : Nat)
  | outside (name : String) (least greatest got : Quantity)
  | blankModel (position : Nat)
  | negative (name : String) (got : Double)
  deriving DecidableEq

/-- The lengths of candles, in minutes. -/
def intervals : List Nat := [1, 2, 3, 5, 10, 15, 20, 25, 30]

def Violation.message : Violation → String
  | .emptyCoin => "coin must not be empty"
  | .reversed first last => "from (" ++ first.text ++ ") is after to (" ++ last.text ++ ")"
  | .interval n =>
    "interval " ++ toString n ++ " is not one of [" ++
      ", ".intercalate (intervals.map toString) ++ "]"
  | .outside name least greatest got =>
    name ++ " must be between " ++ least.text ++ " and " ++ greatest.text ++ ", got " ++ got.text
  | .blankModel position => "model #" ++ toString position ++ " is blank"
  | .negative name got => name ++ " must be a non-negative number, got " ++ got.plain

/-- A rule as it stands for one configuration: nothing when it is kept, else how it is broken. -/
abbrev Check := Option Violation

def check (holds : Bool) (violation : Violation) : Check :=
  if holds then none else some violation

/-- A whole number between two bounds. -/
def checkWhole (name : String) (n least greatest : Nat) : Check :=
  check (least ≤ n && n ≤ greatest) (.outside name (.whole least) (.whole greatest) (.whole n))

/-- A number between two bounds; what is no number is outside. -/
def checkReal (name : String) (x least greatest : Double) : Check :=
  check (least.le x && x.le greatest) (.outside name (.real least) (.real greatest) (.real x))

/-- A finite number that is not below zero. -/
def checkNonNegative (name : String) (x : Double) : Check :=
  check (x.isFinite && Double.zero.le x) (.negative name x)

/-- The first model without a name is reported by its position, counted from one. -/
def checkModels (models : List String) : Check :=
  (models.findIdx? Text.isBlankText).map fun i => .blankModel (i + 1)

def DayRange.checks (r : DayRange) : List Check :=
  [check (!Text.isBlankText r.coin) .emptyCoin,
   check (r.first.le r.last) (.reversed r.first r.last)]

def Backtest.checks (b : Backtest) : List Check :=
  b.range.checks ++
    [check (intervals.contains b.interval) (.interval b.interval),
     checkWhole "prev" b.prev 0 10,
     checkWhole "next" b.next 0 10,
     checkReal "threshold" b.threshold .zero .one]

def RiskLimits.checks (r : RiskLimits) : List Check :=
  [checkNonNegative "buffer_time" r.bufferTime,
   checkNonNegative "price_threshold" r.priceThreshold,
   checkNonNegative "stop_loss" r.stopLoss,
   checkNonNegative "take_profit" r.takeProfit]

def half : Double := .ofDecimal false 5 (-1)

def Training.checks (t : Training) : List Check :=
  t.range.checks ++
    [checkModels t.models,
     checkReal "precision" t.precision .zero .one,
     checkWhole "size" t.size 10 1000,
     checkWhole "buffer" t.buffer 10 100,
     checkWhole "features" t.features 1 10,
     checkWhole "look_back" t.lookBack 3 30,
     checkWhole "look_ahead" t.lookAhead 1 30,
     checkReal "gap" t.gap half .one] ++
    t.risk.checks

def Request.checks : Request → List Check
  | .run config => config.checks
  | .train config => config.checks
  | .load range => range.checks
  | .history range => range.checks
  | .models => []

/-- How a request breaks the first rule that it does not keep. -/
def Request.violation? (r : Request) : Option Violation :=
  r.checks.findSome? id

end BacktestDesk
