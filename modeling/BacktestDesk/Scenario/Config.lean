import BacktestDesk.Calendar.DayText
import BacktestDesk.Decimal.Layout

/-!
# BacktestDesk.Scenario.Config

What the operator asks for: a backtest, a training, stored trades, a load of trades, or the list of
trained models.
-/

namespace BacktestDesk

open Calendar

/-- A coin, and the days from the first to the last. -/
structure DayRange where
  coin : String
  first : Date
  last : Date
  deriving DecidableEq

/-- A backtest of the statistics strategy. Candles are `interval` minutes long; the windows before
and after are counted in candles. -/
structure Backtest where
  range : DayRange
  interval : Nat
  prev : Nat
  next : Nat
  threshold : Double
  deriving DecidableEq

/-- Bounds on loss and gain, and the price filters of the trader. -/
structure RiskLimits where
  bufferTime : Double
  priceThreshold : Double
  stopLoss : Double
  takeProfit : Double
  deriving DecidableEq

/-- A training, or an evaluation of the models that are named. -/
structure Training where
  range : DayRange
  models : List String
  precision : Double
  size : Nat
  buffer : Nat
  features : Nat
  lookBack : Nat
  lookAhead : Nat
  gap : Double
  risk : RiskLimits
  deriving DecidableEq

inductive Operation where
  | run
  | train
  | load
  | history
  | models
  deriving DecidableEq

inductive Request where
  | run (config : Backtest)
  | train (config : Training)
  | load (range : DayRange)
  | history (range : DayRange)
  | models
  deriving DecidableEq

def Operation.endpoint : Operation → String
  | .run => "run"
  | .train => "train"
  | .load => "load"
  | .history => "history"
  | .models => "models"

def Operation.all : List Operation :=
  [.run, .train, .load, .history, .models]

def Request.operation : Request → Operation
  | .run _ => .run
  | .train _ => .train
  | .load _ => .load
  | .history _ => .history
  | .models => .models

/-! ## Defaults -/

def defaultCoin : String := "BTC"

def RiskLimits.none : RiskLimits :=
  ⟨.zero, .zero, .zero, .zero⟩

def DayRange.default (days : Date × Date) : DayRange :=
  ⟨defaultCoin, days.1, days.2⟩

def Backtest.default (range : DayRange) : Backtest :=
  { range, interval := 15, prev := 3, next := 1, threshold := .zero }

def Training.default (range : DayRange) : Training :=
  { range, models := [], precision := .ofDecimal false 51 (-2), size := 100, buffer := 50,
    features := 3, lookBack := 9, lookAhead := 1, gap := .ofDecimal false 75 (-2),
    risk := .none }

end BacktestDesk
