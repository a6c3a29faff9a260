import BacktestDesk.Json.Basic
import BacktestDesk.Decimal.Numeral
import BacktestDesk.Decimal.Scaling
import BacktestDesk.Text.Utf8

/-!
# BacktestDesk.Json.Reader

Reads a document from text. The format is taken strictly: no text but blanks around the value, no
bare control characters in strings, no half of a surrogate pair, at most 127 values inside one
another. The fields of an object come out in ascending key order, and of several values for one
key the last one stays.
-/

namespace BacktestDesk
namespace Json
namespace Reader

/-- What a reader makes of the front of a text, and the text behind it. -/
abbrev Read (α : Type) := Option (α × List Char)

def isSpace (c : Char) : Bool :=
  c == ' ' || c == '\t' || c == '\n' || c == '\r'

def skip (cs : List Char) : List Char :=
  cs.dropWhile isSpace

/-! ## Strings -/

/-- A part of a string: a character, or a 16-bit unit written as an escape. -/
inductive Piece where
  | char (c : Char)
  | unit (n : Nat)

def unit? (a b c d : Char) : Option Nat :=
  match Numeral.hexDigit? a, Numeral.hexDigit? b, Numeral.hexDigit? c, Numeral.hexDigit? d with
  | some a, some b, some c, some d => some (((a * 16 + b) * 16 + c) * 16 + d)
  | _, _, _, _ => none

/-- The character that a one-letter escape stands for. -/
def escaped? : Char → Option Char
  | '"' => some '"'
  | '\\' => some '\\'
  | '/' => some '/'
  | 'b' => some '\x08'
  | 'f' => some '\x0c'
  | 'n' => some '\n'
  | 'r' => some '\r'
  | 't' => some '\t'
  | _ => none

def andPiece (p : Piece) : Read (List Piece) → Read (List Piece)
  | none => none
  | some (ps, rest) => some (p :: ps, rest)

/-- Cuts a string into pieces, up to its closing quote. -/
def pieces : List Char → Read (List Piece)
  | [] => none
  | '"' :: cs => some ([], cs)
  | '\\' :: 'u' :: a :: b :: c :: d :: cs =>
    match unit? a b c d with
    | none => none
    | some n => andPiece (.unit n) (pieces cs)
  | '\\' :: e :: cs =>
    match escaped? e with
    | none => none
    | some c => andPiece (.char c) (pieces cs)
  | c :: cs => if c.toNat < 0x20 || c == '\\' then none else andPiece (.char c) (pieces cs)

def isHigh (n : Nat) : Bool := 0xD800 ≤ n && n < 0xDC00

def isLow (n : Nat) : Bool := 0xDC00 ≤ n && n < 0xE000

/-- Joins surrogate pairs; half a pair is refused. -/
def join : List Piece → Option (List Char)
  | [] => some []
  | .char c :: ps => (join ps).map (c :: ·)
  | .unit n :: .unit m :: ps =>
    if isHigh n then
      if isLow m then
        (join ps).map (Char.ofNat (0x10000 + (n - 0xD800) * 0x400 + (m - 0xDC00)) :: ·)
      else none
    else if isLow n then none
    else (join (.unit m :: ps)).map (Char.ofNat n :: ·)
  | .unit n :: ps =>
    if isHigh n || isLow n then none else (join ps).map (Char.ofNat n :: ·)

/-- The rest of a string, behind its opening quote. -/
def string (cs : List Char) : Read String :=
  match pieces cs with
  | none => none
  | some (ps, rest) => (join ps).map fun s => (String.ofList s, rest)

/-! ## Numbers -/

/-- The digits before the point: a single zero, or no zero in front. -/
def integerDigits : List Char → Read (List Char)
  | [] => none
  | c :: cs =>
    if c = '0' then some (['0'], cs)
    else if c.isDigit then some (c :: cs.takeWhile Char.isDigit, cs.dropWhile Char.isDigit)
    else none

/-- At least one digit. -/
def someDigits (cs : List Char) : Read (List Char) :=
  let ds := cs.takeWhile Char.isDigit
  if ds.isEmpty then none else some (ds, cs.dropWhile Char.isDigit)

def fractionDigits : List Char → Read (List Char)
  | '.' :: cs => someDigits cs
  | cs => some ([], cs)

/-- The exponent of a number, `none` inside when there is none. -/
def exponentPart : List Char → Read (Option Int)
  | [] => some (none, [])
  | c :: cs =>
    if c = 'e' ∨ c = 'E' then
      let (negative, ds) := Numeral.sign cs
      match someDigits ds with
      | none => none
      | some (ds, rest) =>
        some (some (if negative then -(Numeral.ofDigits ds : Int) else Numeral.ofDigits ds), rest)
    else some (none, c :: cs)

/-- The greatest significand of a number. -/
def maxSignificand : Nat := 0xFFFFFFFFFFFFFFFF

/-- Takes digits into a significand for as long as it does not grow too large; the digits that are
left over come with it. -/
def gather (n : Nat) : List Char → Nat × List Char
  | [] => (n, [])
  | c :: cs =>
    let m := 10 * n + (c.toNat - '0'.toNat)
    if m ≤ maxSignificand then gather m cs else (n, c :: cs)

/-- A number that is not kept whole. Digits before the point for which the significand has no room
raise the exponent, and those behind it are dropped. -/
def real? (negative : Bool) (whole fraction : List Char) (exponent : Int) : Option Double :=
  let (n, surplus) := gather 0 whole
  let (significand, dropped) := gather n fraction
  Double.scaled? negative significand
    (exponent + surplus.length - (fraction.length - dropped.length))

/-- A number as a value: whole when it has neither fraction nor exponent, fits the range and is
not a negative zero. A number past the greatest magnitude is refused. -/
def numberValue (negative : Bool) (whole fraction : List Char) (exponent : Option Int) :
    Option Json :=
  let n : Int := Numeral.ofDigits whole
  let z := if negative then -n else n
  if fraction.isEmpty && exponent.isNone && (!negative || n != 0) && minInt ≤ z && z ≤ maxInt then
    some (.int z)
  else
    (real? negative whole fraction (exponent.getD 0)).map .float

def number (cs : List Char) : Read Json :=
  let (negative, cs) :=
    match cs with
    | '-' :: cs => (true, cs)
    | cs => (false, cs)
  match integerDigits cs with
  | none => none
  | some (whole, cs) =>
    match fractionDigits cs with
    | none => none
    | some (fraction, cs) =>
      match exponentPart cs with
      | none => none
      | some (exponent, cs) => (numberValue negative whole fraction exponent).map (·, cs)

/-! ## Values -/

/-- The values that hold no others. -/
def scalar : List Char → Read Json
  | 'n' :: 'u' :: 'l' :: 'l' :: cs => some (.null, cs)
  | 't' :: 'r' :: 'u' :: 'e' :: cs => some (.bool true, cs)
  | 'f' :: 'a' :: 'l' :: 's' :: 'e' :: cs => some (.bool false, cs)
  | '"' :: cs => (string cs).map fun r => (.str r.1, r.2)
  | cs => number cs

/-- At most `limit` items, but at least one, with commas between them, up to the closing bracket. -/
def items {α : Type} (item : List Char → Read α) (close : Char) : Nat → List Char → Read (List α)
  | 0, _ => none
  | limit + 1, cs =>
    match item cs with
    | none => none
    | some (x, rest) =>
      match skip rest with
      | [] => none
      | c :: rest =>
        if c = close then some ([x], rest)
        else if c = ',' then
          match items item close limit (skip rest) with
          | none => none
          | some (xs, rest) => some (x :: xs, rest)
        else none

/-- What stands between two brackets: nothing, or items. -/
def bracketed {α : Type} (item : List Char → Read α) (close : Char) (limit : Nat)
    (cs : List Char) : Read (List α) :=
  match skip cs with
  | [] => none
  | c :: rest => if c = close then some ([], rest) else items item close limit (c :: rest)

/-- A key, a colon and a value. -/
def member (value : List Char → Read Json) : List Char → Read (String × Json)
  | '"' :: cs =>
    match string cs with
    | none => none
    | some (key, rest) =>
      match skip rest with
      | ':' :: rest => (value (skip rest)).map fun r => ((key, r.1), r.2)
      | _ => none
  | _ => none

/-- The fields of an object in ascending key order; the last value of a key stays. -/
def collect (fields : List (String × Json)) : List (String × Json) :=
  fields.foldl (fun m e => insertKey e.1 e.2 m) []

/-- A value that opens no more than `depth` brackets inside one another, with at most `limit`
items or fields between two of them. -/
def value (limit : Nat) : Nat → List Char → Read Json
  | depth + 1, '[' :: cs =>
    (bracketed (value limit depth) ']' limit cs).map fun r => (.arr r.1, r.2)
  | depth + 1, '\x7b' :: cs =>
    (bracketed (member (value limit depth)) '\x7d' limit cs).map fun r => (.obj (collect r.1), r.2)
  | _, cs => scalar cs

/-- No more than this many brackets are open at one place. -/
def maxDepth : Nat := 127

end Reader

/-- The document that a text holds, with nothing but blanks around it. Each item takes at least
one character, so the length of the text bounds the number of items. -/
def ofChars? (cs : List Char) : Option Json :=
  match Reader.value cs.length Reader.maxDepth (Reader.skip cs) with
  | none => none
  | some (v, rest) => if (Reader.skip rest).isEmpty then some v else none

def ofText? (s : String) : Option Json :=
  ofChars? s.toList

/-- The document that a body holds; its bytes have to be well-formed text. -/
def ofBytes? (bs : List UInt8) : Option Json :=
  match Text.Utf8.decode? bs with
  | none => none
  | some cs => ofChars? cs

end Json
end BacktestDesk
