import BacktestDesk.Calendar.Instant
import BacktestDesk.Decimal.Numeral
import BacktestDesk.Text.Utf8
import BacktestDesk.Text.Blank

/-!
# BacktestDesk.Calendar.Scan

The parts that texts of dates and times are made of: numbers, separators, fractions of a second and
offsets. Each takes its part off the front of a text, or says what is wrong with it.
-/

namespace BacktestDesk
namespace Calendar

/-- Why a text is no date or no time. -/
inductive Fault where
  | outOfRange
  | invalid
  | tooShort
  | tooLong
  | impossible
  deriving DecidableEq

def Fault.message : Fault → String
  | .outOfRange => "input is out of range"
  | .invalid => "input contains invalid characters"
  | .tooShort => "premature end of input"
  | .tooLong => "trailing input"
  | .impossible => "no possible date and time matching input"

abbrev Scan (α : Type) := Except Fault (α × List Char)

/-- One given character. -/
def expect (c : Char) : List Char → Except Fault (List Char)
  | [] => .error .tooShort
  | d :: cs => if d = c then .ok cs else .error .invalid

/-- At least one digit and at most `width`, blanks in front skipped. -/
def number (width : Nat) (cs : List Char) : Scan Nat :=
  let cs := Text.skipBlanks cs
  let ds := (cs.take width).takeWhile Char.isDigit
  if ds.isEmpty then .error (if cs.isEmpty then .tooShort else .invalid)
  else .ok (Numeral.ofDigits ds, cs.drop ds.length)

/-- A number between two bounds. -/
def bounded (width least greatest : Nat) (cs : List Char) : Scan Nat :=
  match number width cs with
  | .error e => .error e
  | .ok (n, rest) => if least ≤ n ∧ n ≤ greatest then .ok (n, rest) else .error .outOfRange

/-- A year: one to four digits, or a sign and any number of digits that fits 32 bits. -/
def year (cs : List Char) : Scan Int :=
  match Text.skipBlanks cs with
  | '-' :: rest =>
    match signedDigits rest with
    | .error e => .error e
    | .ok (n, rest) => if n ≤ 0x80000000 then .ok (-n, rest) else .error .outOfRange
  | '+' :: rest =>
    match signedDigits rest with
    | .error e => .error e
    | .ok (n, rest) => if n < 0x80000000 then .ok (n, rest) else .error .outOfRange
  | rest =>
    match number 4 rest with
    | .error e => .error e
    | .ok (n, rest) => .ok (n, rest)
where
  /-- The digits behind a sign follow it at once. -/
  signedDigits (cs : List Char) : Scan Nat :=
    let ds := cs.takeWhile Char.isDigit
    if ds.isEmpty then .error (if cs.isEmpty then .tooShort else .invalid)
    else .ok (Numeral.ofDigits ds, cs.drop ds.length)

/-- The digits of a fraction of a second; those past the ninth are dropped. -/
def nanos (cs : List Char) : Scan Nat :=
  let ds := cs.takeWhile Char.isDigit
  if ds.isEmpty then .error (if cs.isEmpty then .tooShort else .invalid)
  else
    let kept := ds.take 9
    .ok (Numeral.ofDigits kept * Nat.pow 10 (9 - kept.length), cs.drop ds.length)

/-- Two digits, the first of them at most `greatest`; a greater first digit is out of range. -/
def twoDigits (greatest : Nat) (cs : List Char) : Scan Nat :=
  match cs with
  | a :: b :: rest =>
    match Numeral.digit? a, Numeral.digit? b with
    | some x, some y => if x ≤ greatest then .ok (10 * x + y, rest) else .error .outOfRange
    | _, _ => .error .invalid
  | cs => .error (if Text.Utf8.byteCount cs < 2 then .tooShort else .invalid)

/-- The sign of an offset, true for minus. The minus sign proper is read as well as the hyphen. -/
def offsetSign : List Char → Scan Bool
  | [] => .error .tooShort
  | c :: cs =>
    if c = '+' then .ok (false, cs)
    else if c = '-' ∨ c.toNat = 0x2212 then .ok (true, cs)
    else .error .invalid

/-- An offset in seconds: `Z`, or a sign, hours, what separates them, and minutes. -/
def offset (separator : List Char → Except Fault (List Char)) (cs : List Char) : Scan Int :=
  match cs with
  | 'Z' :: rest => .ok (0, rest)
  | 'z' :: rest => .ok (0, rest)
  | cs =>
    match offsetSign cs with
    | .error e => .error e
    | .ok (negative, cs) =>
      match twoDigits 9 cs with
      | .error e => .error e
      | .ok (hours, cs) =>
        match separator cs with
        | .error e => .error e
        | .ok cs =>
          match twoDigits 5 cs with
          | .error e => .error e
          | .ok (minutes, rest) =>
            let seconds : Int := hours * 3600 + minutes * 60
            .ok (if negative then -seconds else seconds, rest)

/-- Nothing may be left. -/
def finished : List Char → Except Fault Unit
  | [] => .ok ()
  | _ => .error .tooLong

end Calendar
end BacktestDesk
