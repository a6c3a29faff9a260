import BacktestDesk.Failure
import BacktestDesk.Json.Moment

/-!
# BacktestDesk.Channel

Where notices go. A board keeps them until they are dismissed, a console writes each on a line of
its own, and a channel that is out of order takes none.
-/

namespace BacktestDesk

inductive Channel where
  | board (notices : List Notice)
  | console (written : String)
  | outOfOrder
  deriving DecidableEq

namespace Channel

def name : Channel → String
  | board _ => "memory"
  | console _ => "stderr"
  | outOfOrder => "broken"

/-- The line that a console shows for a notice. -/
def banner (n : Notice) : String :=
  "Error: " ++ n.message ++ "\n"

/-- Hands a notice over; the latest comes last. -/
def send : Channel → Notice → Channel
  | board notices, n => board (notices ++ [n])
  | console written, n => console (written ++ banner n)
  | outOfOrder, _ => outOfOrder

/-- The notices that were not dismissed yet. -/
def notices : Channel → List Notice
  | board notices => notices
  | _ => []

def latest? (c : Channel) : Option Notice :=
  c.notices.getLast?

def dismiss : Channel → Channel
  | board _ => board []
  | c => c

end Channel

/-! ## Documents -/

/-- A notice with the instant at which it was shown. -/
structure Alert where
  notice : Notice
  shown : Calendar.Instant
  deriving DecidableEq

open Json

namespace Origin

def text : Origin → String
  | .backend => "Backend"
  | .client => "Client"

def read : Reading Origin :=
  readChoice [("Backend", .backend), ("Client", .client)]

def toJson (o : Origin) : Json :=
  .str o.text

end Origin

namespace Alert

def read : Reading Alert :=
  readRecord .document "Alert"
    ((Fields.none fun kind message shown => ⟨⟨kind, message⟩, shown⟩)
      |>.and (.required "kind" Origin.read)
      |>.and (.required "message" readText)
      |>.and (.required "timestamp" readInstant))

def toJson (a : Alert) : Json :=
  .obj [("kind", a.notice.origin.toJson), ("message", .str a.notice.message),
    ("timestamp", ofInstant a.shown)]

end Alert
end BacktestDesk
