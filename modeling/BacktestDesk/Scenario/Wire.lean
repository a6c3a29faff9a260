import BacktestDesk.Parameters
import BacktestDesk.Scenario.Rules

/-!
# BacktestDesk.Scenario.Wire

The parameters that a request sends. Numbers go out as they were entered, days as their first hour,
and the coin without blanks around it.
-/

namespace BacktestDesk

open Calendar

def DayRange.parameters (r : DayRange) : Parameters :=
  Parameters.empty
    |>.set "coin" (.scalar (Text.trim r.coin))
    |>.set "from" (.scalar (wireDay r.first))
    |>.set "to" (.scalar (wireDay r.last))

def Backtest.parameters (b : Backtest) : Parameters :=
  b.range.parameters
    |>.set "interval" (.ofNat b.interval)
    |>.set "prev" (.ofNat b.prev)
    |>.set "next" (.ofNat b.next)
    |>.set "threshold" (.ofDouble b.threshold)

def Training.parameters (t : Training) : Parameters :=
  t.range.parameters
    |>.set "model" (.list t.models)
    |>.set "precision" (.ofDouble t.precision)
    |>.set "size" (.ofNat t.size)
    |>.set "buffer" (.ofNat t.buffer)
    |>.set "features" (.ofNat t.features)
    |>.set "look_back" (.ofNat t.lookBack)
    |>.set "look_ahead" (.ofNat t.lookAhead)
    |>.set "gap" (.ofDouble t.gap)
    |>.set "buffer_time" (.ofDouble t.risk.bufferTime)
    |>.set "price_threshold" (.ofDouble t.risk.priceThreshold)
    |>.set "stop_loss" (.ofDouble t.risk.stopLoss)
    |>.set "take_profit" (.ofDouble t.risk.takeProfit)

def Request.parameters : Request → Parameters
  | .run config => config.parameters
  | .train config => config.parameters
  | .load range => range.parameters
  | .history range => range.parameters
  | .models => .empty

/-- The hour that a text in the form of the backend stands for. -/
def hourOfWire (raw : String) : Except Failure Instant :=
  match ofWire? raw with
  | some t => .ok t
  | none => .error (.invalidConfig ("'" ++ raw ++ "' is not a YYYY_MM_DDTHH date"))

/-- The parameters of a request that keeps all rules. -/
def Request.build (r : Request) : Except Failure Parameters :=
  match r.violation? with
  | some v => .error (.invalidConfig v.message)
  | none => .ok r.parameters

end BacktestDesk
