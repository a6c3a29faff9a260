import BacktestDesk.Calendar.Scan

/-!
# BacktestDesk.Calendar.DayText

Dates as text, and the form `2024_03_07T00` in which a day, or an hour of it, goes to the backend.
-/

namespace BacktestDesk
namespace Calendar

/-- Blanks are skipped where the form is loose. -/
def gap (loose : Bool) (cs : List Char) : List Char :=
  if loose then Text.skipBlanks cs else cs

/-- Year, month and day with a separator between them, off the front of a text. -/
def dayParts (separator : Char) (loose : Bool) (cs : List Char) : Scan (Int × Nat × Nat) :=
  match year cs with
  | .error e => .error e
  | .ok (y, cs) =>
    match expect separator (gap loose cs) with
    | .error e => .error e
    | .ok cs =>
      match bounded 2 1 12 cs with
      | .error e => .error e
      | .ok (m, cs) =>
        match expect separator (gap loose cs) with
        | .error e => .error e
        | .ok cs =>
          match bounded 2 1 31 cs with
          | .error e => .error e
          | .ok (d, cs) => .ok ((y, m, d), cs)

/-- The date that a whole text holds. In the loose form blanks may stand before a separator and at
the end. -/
def dayOfChars (separator : Char) (loose : Bool) (cs : List Char) : Except Fault Date :=
  match dayParts separator loose cs with
  | .error e => .error e
  | .ok ((y, m, d), rest) =>
    match finished (gap loose rest) with
    | .error e => .error e
    | .ok () =>
      match Date.of? y m d with
      | some date => .ok date
      | none => .error .outOfRange

/-- Reads `2024-03-07`. -/
def dayOfText (s : String) : Except Fault Date :=
  dayOfChars '-' false s.toList

/-- Reads `2024-03-07` in a document. -/
def looseDayOfText (s : String) : Except Fault Date :=
  dayOfChars '-' true s.toList

/-! ## The form sent to the backend -/

def hourChars (d : Date) (hour : Nat) : List Char :=
  d.chars '_' ++ 'T' :: padded 2 hour

/-- The hour of an instant. -/
def wireHour (t : Instant) : String :=
  String.ofList (hourChars t.date t.hour)

/-- The first hour of a day. -/
def wireDay (d : Date) : String :=
  String.ofList (hourChars d 0)

/-- The hour that two digits stand for. -/
def hourOfChars? : List Char → Option Nat
  | [a, b] =>
    match Numeral.digit? a, Numeral.digit? b with
    | some x, some y => if 10 * x + y < 24 then some (10 * x + y) else none
    | _, _ => none
  | _ => none

/-- The text is cut at the first `T`. -/
def ofWireChars? (cs : List Char) : Option Instant :=
  match cs.dropWhile (· != 'T') with
  | [] => none
  | _ :: hour =>
    match hourOfChars? hour, dayOfChars '_' false (cs.takeWhile (· != 'T')) with
    | some h, .ok d => Instant.ofLocal? d (h * 3600) 0 0
    | _, _ => none

def ofWire? (s : String) : Option Instant :=
  ofWireChars? s.toList

end Calendar
end BacktestDesk
