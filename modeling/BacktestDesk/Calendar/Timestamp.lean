import BacktestDesk.Calendar.DayText

/-!
# BacktestDesk.Calendar.Timestamp

Instants from RFC 3339 text. `strict` reads the form with fixed places that answers have to use;
`lenient` reads the same parts with blanks between them, and is used for documents of our own.
-/

namespace BacktestDesk
namespace Calendar
namespace Timestamp

/-- A date and a time of day as a clock shows them; second 60 is a leap second. -/
structure Clock where
  date : Date
  hour : Nat
  minute : Nat
  second : Nat
  nanos : Nat
  deriving DecidableEq

namespace Clock

/-- A leap second is second 59 with another `10 ^ 9` nanoseconds. -/
def secondOfDay (c : Clock) : Nat :=
  c.hour * 3600 + c.minute * 60 + (if c.second = 60 then 59 else c.second)

def nanosOfSecond (c : Clock) : Nat :=
  if c.second = 60 then nanosPerSecond + c.nanos else c.nanos

def inRange (c : Clock) : Bool :=
  c.hour < 24 && c.minute < 60 && c.second ≤ 60

/-- The instant at which a clock ahead by `offset` seconds, less than a day, shows this. -/
def instant (c : Clock) (offset : Int) : Except Fault Instant :=
  if offset.natAbs < secondsPerDay.toNat then
    match Instant.ofLocal? c.date c.secondOfDay c.nanosOfSecond offset with
    | some t => .ok t
    | none => .error .impossible
  else .error .outOfRange

end Clock

/-! ## Fixed places -/

/-- Exactly `count` digits. -/
def digits : Nat → Nat → List Char → Scan Nat
  | 0, n, cs => .ok (n, cs)
  | _ + 1, _, [] => .error .invalid
  | count + 1, n, c :: cs =>
    match Numeral.digit? c with
    | some d => digits count (10 * n + d) cs
    | none => .error .invalid

def exactly (c : Char) : List Char → Except Fault (List Char)
  | [] => .error .invalid
  | d :: cs => if d = c then .ok cs else .error .invalid

def isDateEnd (c : Char) : Bool :=
  c == 'T' || c == 't' || c == ' '

/-- Three numbers of fixed width with a separator between them. -/
def triple (width : Nat) (separator : Char) (cs : List Char) : Scan (Nat × Nat × Nat) :=
  match digits width 0 cs with
  | .error e => .error e
  | .ok (a, cs) =>
    match exactly separator cs with
    | .error e => .error e
    | .ok cs =>
      match digits 2 0 cs with
      | .error e => .error e
      | .ok (b, cs) =>
        match exactly separator cs with
        | .error e => .error e
        | .ok cs =>
          match digits 2 0 cs with
          | .error e => .error e
          | .ok (c, cs) => .ok ((a, b, c), cs)

def fraction : List Char → Scan Nat
  | '.' :: cs => nanos cs
  | cs => .ok (0, cs)

/-- A date that exists, off the front of a text. -/
def fixedDate (cs : List Char) : Scan Date :=
  match triple 4 '-' cs with
  | .error e => .error e
  | .ok ((y, m, d), cs) =>
    match Date.of? y m d with
    | some date => .ok (date, cs)
    | none => .error .outOfRange

def dateEnd : List Char → Except Fault (List Char)
  | [] => .error .invalid
  | c :: cs => if isDateEnd c then .ok cs else .error .invalid

/-- Date and time of day, off the front of a text. -/
def fixedClock (cs : List Char) : Scan Clock :=
  match fixedDate cs with
  | .error e => .error e
  | .ok (date, cs) =>
    match dateEnd cs with
    | .error e => .error e
    | .ok cs =>
      match triple 2 ':' cs with
      | .error e => .error e
      | .ok ((h, m, s), cs) =>
        match fraction cs with
        | .error e => .error e
        | .ok (n, cs) =>
          let clock : Clock := ⟨date, h, m, s, n⟩
          if clock.inRange then .ok (clock, cs) else .error .outOfRange

/-- The bytes of a date and a time of day without fraction and offset. -/
def fixedLength : Nat := 19

def strictChars (cs : List Char) : Except Fault Instant :=
  if Text.Utf8.byteCount cs < fixedLength then .error .tooShort
  else
    match fixedClock cs with
    | .error e => .error e
    | .ok (clock, cs) =>
      match offset (expect ':') cs with
      | .error e => .error e
      | .ok (off, cs) =>
        match finished cs with
        | .error e => .error e
        | .ok () => clock.instant off

def strict (s : String) : Except Fault Instant :=
  strictChars s.toList

/-! ## Loose places -/

/-- Three numbers with blanks and a separator between them. -/
def looseTime (cs : List Char) : Scan (Nat × Nat × Nat) :=
  match bounded 2 0 23 cs with
  | .error e => .error e
  | .ok (h, cs) =>
    match expect ':' (Text.skipBlanks cs) with
    | .error e => .error e
    | .ok cs =>
      match bounded 2 0 59 cs with
      | .error e => .error e
      | .ok (m, cs) =>
        match expect ':' (Text.skipBlanks cs) with
        | .error e => .error e
        | .ok cs =>
          match bounded 2 0 60 cs with
          | .error e => .error e
          | .ok (s, cs) => .ok ((h, m, s), cs)

def looseDateEnd : List Char → Except Fault (List Char)
  | [] => .error .tooShort
  | c :: cs => if isDateEnd c then .ok cs else .error .invalid

/-- Colons and blanks between hours and minutes may be any number, also none. -/
def looseSeparator (cs : List Char) : Except Fault (List Char) :=
  .ok (cs.dropWhile fun c => c == ':' || Text.isBlank c)

/-- An offset, or the letters `UTC` in any case. -/
def looseOffset (cs : List Char) : Scan Int :=
  match cs with
  | a :: b :: c :: rest =>
    if [a, b, c].map Char.toUpper = ['U', 'T', 'C'] then .ok (0, rest)
    else offset looseSeparator cs
  | cs => offset looseSeparator cs

def lenientChars (cs : List Char) : Except Fault Instant :=
  match dayParts '-' true cs with
  | .error e => .error e
  | .ok ((y, m, d), cs) =>
    match looseDateEnd cs with
    | .error e => .error e
    | .ok cs =>
      match looseTime cs with
      | .error e => .error e
      | .ok ((hour, minute, second), cs) =>
        match fraction cs with
        | .error e => .error e
        | .ok (n, cs) =>
          match looseOffset (Text.skipBlanks cs) with
          | .error e => .error e
          | .ok (off, cs) =>
            match finished (Text.skipBlanks cs) with
            | .error e => .error e
            | .ok () =>
              match Date.of? y m d with
              | none => .error .outOfRange
              | some date => Clock.instant ⟨date, hour, minute, second, n⟩ off

def lenient (s : String) : Except Fault Instant :=
  lenientChars s.toList

end Timestamp
end Calendar
end BacktestDesk
