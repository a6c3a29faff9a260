import BacktestDesk.Calendar.DayText
import BacktestDesk.Decimal.Numeral
import BacktestDesk.Scenario.Config

/-!
# BacktestDesk.CommandLine

The command line: a command, and flags with a value each. Of several values for a flag the last one
counts, except that every model is kept. Words are checked before any value is read.
-/

namespace BacktestDesk

open Calendar

namespace CommandLine

/-- Why a command line is no request. -/
inductive Fault where
  | missingCommand
  | unknownCommand (word : String)
  | unexpected (word : String)
  | unknownFlag (name : String)
  | noValue (name : String)
  | notNumber (name raw : String) (why : Numeral.Fault)
  | notDate (name raw : String) (why : Calendar.Fault)
  deriving DecidableEq

def Fault.message : Fault → String
  | .missingCommand => "missing command"
  | .unknownCommand word => "unknown command '" ++ word ++ "'"
  | .unexpected word => "unexpected argument '" ++ word ++ "'"
  | .unknownFlag name => "unknown flag '--" ++ name ++ "'"
  | .noValue name => "flag '--" ++ name ++ "' needs a value"
  | .notNumber name raw why =>
    "'--" ++ name ++ " " ++ raw ++ "' is not a number: " ++ why.message
  | .notDate name raw why =>
    "'--" ++ name ++ " " ++ raw ++ "' is not a YYYY-MM-DD date: " ++ why.message

def usage : String :=
  "\n".intercalate
    ["Usage:",
     "  dashboard run      [--coin C] [--from YYYY-MM-DD] [--to YYYY-MM-DD]",
     "                     [--interval N] [--prev N] [--next N] [--threshold X]",
     "  dashboard train    [--coin C] [--from ..] [--to ..] [--model ID]...",
     "                     [--precision X] [--size N] [--buffer N] [--features N]",
     "                     [--look-back N] [--look-ahead N] [--gap X]",
     "                     [--buffer-time X] [--price-threshold X]",
     "                     [--stop-loss X] [--take-profit X]",
     "  dashboard history  [--coin C] [--from ..] [--to ..]",
     "  dashboard load     [--coin C] [--from ..] [--to ..]",
     "  dashboard models",
     "",
     "Environment:",
     "  BACKTEST_BASE_URL    backend root (default http://localhost:6090/test)",
     "  BACKTEST_TIMEOUT_MS  request timeout (default 20000)",
     "  RUST_LOG             log filter (default info)",
     "  RUST_LOG_FORMAT      set to 'json' for JSON logs"]

/-! ## Flags -/

/-- Flags by name with their values, in the order of the command line. -/
abbrev Flags := List (String × String)

def rangeFlags : List String := ["coin", "from", "to"]

def backtestFlags : List String := ["interval", "prev", "next", "threshold"]

def trainingFlags : List String :=
  ["model", "precision", "size", "buffer", "features", "look-back", "look-ahead", "gap",
   "buffer-time", "price-threshold", "stop-loss", "take-profit"]

/-- The flags that a command takes. -/
def allowed : Operation → List String
  | .run => rangeFlags ++ backtestFlags
  | .train => rangeFlags ++ trainingFlags
  | .load => rangeFlags
  | .history => rangeFlags
  | .models => []

/-- The name of a flag, behind its two dashes. -/
def flagName? (word : String) : Option String :=
  match word.toList with
  | '-' :: '-' :: name => some (String.ofList name)
  | _ => none

/-- The name of an allowed flag. -/
def checkName (names : List String) (word : String) : Except Fault String :=
  match flagName? word with
  | none => .error (.unexpected word)
  | some name => if names.contains name then .ok name else .error (.unknownFlag name)

/-- The flags of a command line, whose words are names and values in turn. -/
def flags (names : List String) : List String → Except Fault Flags
  | [] => .ok []
  | [word] =>
    match checkName names word with
    | .error e => .error e
    | .ok name => .error (.noValue name)
  | word :: value :: rest =>
    match checkName names word with
    | .error e => .error e
    | .ok name =>
      match flags names rest with
      | .error e => .error e
      | .ok fs => .ok ((name, value) :: fs)

/-- All values of a flag, in order. -/
def values (fs : Flags) (name : String) : List String :=
  (fs.filter fun f => f.1 == name).map Prod.snd

/-- The value of a flag that counts. -/
def last? (fs : Flags) (name : String) : Option String :=
  (values fs name).getLast?

def number {α : Type} (read : String → Except Numeral.Fault α) (fs : Flags) (name : String)
    (default : α) : Except Fault α :=
  match last? fs name with
  | none => .ok default
  | some raw =>
    match read raw with
    | .ok x => .ok x
    | .error e => .error (.notNumber name raw e)

def whole : Flags → String → Nat → Except Fault Nat :=
  number (Numeral.whole 0x100000000)

def real : Flags → String → Double → Except Fault Double :=
  number Numeral.real

def date (fs : Flags) (name : String) (default : Date) : Except Fault Date :=
  match last? fs name with
  | none => .ok default
  | some raw =>
    match dayOfText raw with
    | .ok d => .ok d
    | .error e => .error (.notDate name raw e)

/-! ## Requests -/

def dayRange (fs : Flags) (default : DayRange) : Except Fault DayRange := do
  let first ← date fs "from" default.first
  let last ← date fs "to" default.last
  return ⟨(last? fs "coin").getD default.coin, first, last⟩

def backtest (fs : Flags) (default : Backtest) : Except Fault Backtest := do
  let range ← dayRange fs default.range
  let interval ← whole fs "interval" default.interval
  let prev ← whole fs "prev" default.prev
  let next ← whole fs "next" default.next
  let threshold ← real fs "threshold" default.threshold
  return ⟨range, interval, prev, next, threshold⟩

def riskLimits (fs : Flags) (default : RiskLimits) : Except Fault RiskLimits := do
  let bufferTime ← real fs "buffer-time" default.bufferTime
  let priceThreshold ← real fs "price-threshold" default.priceThreshold
  let stopLoss ← real fs "stop-loss" default.stopLoss
  let takeProfit ← real fs "take-profit" default.takeProfit
  return ⟨bufferTime, priceThreshold, stopLoss, takeProfit⟩

/-- The risk limits are read before everything else. -/
def training (fs : Flags) (default : Training) : Except Fault Training := do
  let risk ← riskLimits fs default.risk
  let range ← dayRange fs default.range
  let precision ← real fs "precision" default.precision
  let size ← whole fs "size" default.size
  let buffer ← whole fs "buffer" default.buffer
  let features ← whole fs "features" default.features
  let lookBack ← whole fs "look-back" default.lookBack
  let lookAhead ← whole fs "look-ahead" default.lookAhead
  let gap ← real fs "gap" default.gap
  return { range, models := values fs "model", precision, size, buffer, features, lookBack,
           lookAhead, gap, risk }

/-- The request of a command with its flags; `days` are offered when none are given. -/
def request (days : Date × Date) (o : Operation) (fs : Flags) : Except Fault Request :=
  let range := DayRange.default days
  match o with
  | .run => (backtest fs (.default range)).map .run
  | .train => (training fs (.default range)).map .train
  | .history => (dayRange fs range).map .history
  | .load => (dayRange fs range).map .load
  | .models => .ok .models

def parse (days : Date × Date) : List String → Except Fault Request
  | [] => .error .missingCommand
  | command :: rest =>
    match Operation.all.find? fun o => o.endpoint == command with
    | none => .error (.unknownCommand command)
    | some o =>
      match flags (allowed o) rest with
      | .error e => .error e
      | .ok fs => request days o fs

end CommandLine
end BacktestDesk
