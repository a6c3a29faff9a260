import BacktestDesk.Chart

/-!
# BacktestDesk.Availability

Where trades of a coin are stored: one marker at the start of each stored range.
-/

namespace BacktestDesk

structure Availability where
  coin : String
  points : List Point
  deriving DecidableEq

namespace Availability

/-- The height of a marker; only its place in time says something. -/
def height : Double := .one

def marker (index : Nat) (r : StoredRange) : Except Failure Point :=
  match resolveAt r.start (Place.stored index).path with
  | .error e => .error e
  | .ok t => .ok ⟨t, height⟩

/-- The markers of the stored ranges, in their order. The records do not name the coin, so it is
the one that was asked for. -/
def ofRanges (coin : String) (ranges : List StoredRange) : Except Failure Availability :=
  match resolveAll marker 0 ranges with
  | .error e => .error e
  | .ok points => .ok ⟨coin, points⟩

def ofJson (coin : String) (body : Json) : Except Failure Availability :=
  match Json.readList StoredRange.read body with
  | .error e => .error (.malformed ("history payload: " ++ e.message))
  | .ok ranges => ofRanges coin ranges

open Json

def read : Reading Availability :=
  readRecord .document "HistorySeries"
    ((Fields.none mk).and (.required "coin" readText)
      |>.and (.required "points" (readList Point.read)))

def toJson (a : Availability) : Json :=
  .obj [("coin", .str a.coin), ("points", .ofList Point.toJson a.points)]

end Availability
end BacktestDesk
