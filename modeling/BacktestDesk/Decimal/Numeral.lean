import BacktestDesk.Decimal.Rounding

/-!
# BacktestDesk.Decimal.Numeral

Numbers read from text: single digits, whole numbers below a bound, and real numbers. A real number
has an optional sign, digits with an optional point, at least one digit in all, and an optional
exponent; the words `inf`, `infinity` and `nan` stand in for digits in any case of letters.
-/

namespace BacktestDesk
namespace Numeral

/-- Why a text is no number. -/
inductive Fault where
  | emptyWhole
  | noDigit
  | tooLarge
  | emptyReal
  | noReal
  deriving DecidableEq

def Fault.message : Fault → String
  | .emptyWhole => "cannot parse integer from empty string"
  | .noDigit => "invalid digit found in string"
  | .tooLarge => "number too large to fit in target type"
  | .emptyReal => "cannot parse float from empty string"
  | .noReal => "invalid float literal"

/-- The value of an ASCII digit. -/
def digit? (c : Char) : Option Nat :=
  if c.isDigit then some (c.toNat - '0'.toNat) else none

/-- The value of a hexadecimal digit, in either case of letters. -/
def hexDigit? (c : Char) : Option Nat :=
  if c.isDigit then some (c.toNat - 48)
  else if 'a' ≤ c ∧ c ≤ 'f' then some (c.toNat - 87)
  else if 'A' ≤ c ∧ c ≤ 'F' then some (c.toNat - 55)
  else none

/-- The number that a row of digits denotes, most significant digit first. -/
def ofDigits (ds : List Char) : Nat :=
  ds.foldl (fun n c => 10 * n + (c.toNat - '0'.toNat)) 0

/-- Reads the remaining digits of a whole number; the first digit that is none, or that carries
the number to the bound, ends it. -/
def wholeFrom (bound : Nat) : Nat → List Char → Except Fault Nat
  | n, [] => .ok n
  | n, c :: cs =>
    match digit? c with
    | none => .error .noDigit
    | some d =>
      if 10 * n + d < bound then wholeFrom bound (10 * n + d) cs else .error .tooLarge

/-- A whole number below the bound, with an optional plus sign in front. -/
def whole (bound : Nat) (s : String) : Except Fault Nat :=
  match s.toList with
  | [] => .error .emptyWhole
  | ['+'] => .error .noDigit
  | '+' :: cs => wholeFrom bound 0 cs
  | cs => wholeFrom bound 0 cs

/-- Splits a sign off the front; the flag tells a minus. -/
def sign : List Char → Bool × List Char
  | '-' :: cs => (true, cs)
  | '+' :: cs => (false, cs)
  | cs => (false, cs)

/-- The exponent at the end of a number, 0 when nothing is left. -/
def exponent? : List Char → Option Int
  | [] => some 0
  | c :: cs =>
    if c = 'e' ∨ c = 'E' then
      let (negative, ds) := sign cs
      if ds.isEmpty || !ds.all Char.isDigit then none
      else some (if negative then -(ofDigits ds : Int) else ofDigits ds)
    else none

/-- The digits after a point, which may be missing together with it. -/
def fraction : List Char → List Char × List Char
  | '.' :: cs => (cs.takeWhile Char.isDigit, cs.dropWhile Char.isDigit)
  | cs => ([], cs)

/-- Coefficient and power of ten of an unsigned decimal. -/
def decimal? (cs : List Char) : Option (Nat × Int) :=
  let ds := cs.takeWhile Char.isDigit
  let (fs, rest) := fraction (cs.dropWhile Char.isDigit)
  if ds.isEmpty && fs.isEmpty then none
  else (exponent? rest).map fun e => (ofDigits (ds ++ fs), e - fs.length)

/-- The words for what is not finite, in any case of letters. -/
def word? (negative : Bool) (cs : List Char) : Option Double :=
  let w := cs.map Char.toLower
  if w = "inf".toList ∨ w = "infinity".toList then some (Double.ofCode negative Double.infinity)
  else if w = "nan".toList then some .nan
  else none

def realChars (cs : List Char) : Except Fault Double :=
  if cs.isEmpty then .error .emptyReal
  else
    let (negative, body) := sign cs
    match decimal? body with
    | some (coefficient, exponent) => .ok (Double.ofDecimal negative coefficient exponent)
    | none =>
      match word? negative body with
      | some x => .ok x
      | none => .error .noReal

def real (s : String) : Except Fault Double :=
  realChars s.toList

end Numeral
end BacktestDesk
