import BacktestDesk.Decimal.Numeral

/-!
# BacktestDesk.Backend.Settings

Where the backend is and how long a request may take, as two variables of the environment say.
-/

namespace BacktestDesk

structure Settings where
  baseUrl : String
  timeoutMs : Nat
  deriving DecidableEq

namespace Settings

def baseUrlVariable : String := "BACKTEST_BASE_URL"

def timeoutVariable : String := "BACKTEST_TIMEOUT_MS"

def defaultBaseUrl : String := "http://localhost:6090/test"

def defaultTimeoutMs : Nat := 20000

/-- An empty address counts as none, and a time that is no number of 64 bits as none. -/
def ofEnvironment (baseUrl timeout : Option String) : Settings where
  baseUrl :=
    match baseUrl with
    | some url => if url.isEmpty then defaultBaseUrl else url
    | none => defaultBaseUrl
  timeoutMs :=
    match timeout with
    | some text =>
      match Numeral.whole 0x10000000000000000 text with
      | .ok n => n
      | .error _ => defaultTimeoutMs
    | none => defaultTimeoutMs

end Settings
end BacktestDesk
