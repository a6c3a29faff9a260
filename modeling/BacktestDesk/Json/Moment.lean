import BacktestDesk.Calendar.Timestamp
import BacktestDesk.Json.Shape

/-!
# BacktestDesk.Json.Moment

Dates and instants in documents, where both are text.
-/

namespace BacktestDesk
namespace Json

/-- Text that a reader of dates or times takes, or the reason why it does not. -/
def readMoment {α : Type} (wanted : Wanted) (parse : String → Except Calendar.Fault α) : Reading α
  | .str s =>
    match parse s with
    | .ok x => .ok x
    | .error e => .error (.unreadable e.message)
  | v => .error (.kind v.found wanted)

def readDay : Reading Calendar.Date :=
  readMoment .day Calendar.looseDayOfText

def readInstant : Reading Calendar.Instant :=
  readMoment .instant Calendar.Timestamp.lenient

def ofDay (d : Calendar.Date) : Json :=
  .str d.text

def ofInstant (t : Calendar.Instant) : Json :=
  .str t.text

end Json
end BacktestDesk
