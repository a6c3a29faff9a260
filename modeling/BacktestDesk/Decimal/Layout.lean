import BacktestDesk.Decimal.Shortest

/-!
# BacktestDesk.Decimal.Layout

The two written forms of a number. The plain form never has an exponent and no point without a
fraction; the document form always has a point or an exponent, and turns to an exponent below
`10 ^ -5` and from `10 ^ 16` on.
-/

namespace BacktestDesk
namespace Double

/-- Digits without the zeros at their end, and the place of the point: `0.d₁d₂… · 10 ^ point`. -/
structure Digits where
  digits : List Char
  point : Int

def Decimal.layout (d : Decimal) : Digits :=
  let all := Nat.toDigits 10 d.coefficient
  ⟨(all.reverse.dropWhile (· == '0')).reverse, d.exponent + all.length⟩

def zeros (n : Nat) : List Char :=
  List.replicate n '0'

/-- The digits with the point in its place; `whole` follows a number without a fraction. -/
def Digits.positional (d : Digits) (whole : List Char) : List Char :=
  if d.point ≤ 0 then
    '0' :: '.' :: zeros (-d.point).toNat ++ d.digits
  else if d.digits.length ≤ d.point.toNat then
    d.digits ++ zeros (d.point.toNat - d.digits.length) ++ whole
  else
    d.digits.take d.point.toNat ++ '.' :: d.digits.drop d.point.toNat

def signText (negative : Bool) : List Char :=
  if negative then ['-'] else []

/-- One digit, the others after a point, and an exponent that shows its sign. -/
def Digits.scientific (d : Digits) : List Char :=
  let exponent := d.point - 1
  let mantissa :=
    match d.digits with
    | [] => ['0']
    | [c] => [c]
    | c :: rest => c :: '.' :: rest
  let sign := if exponent < 0 then '-' else '+'
  mantissa ++ 'e' :: sign :: Nat.toDigits 10 exponent.natAbs

/-- The plain form, in which numbers go into queries and messages. Of two shortest forms that are
equally near the larger is taken. -/
def plainChars : Double → List Char
  | nan => "NaN".toList
  | signed negative code =>
    signText negative ++
      (if code.val = infinity then "inf".toList
       else if code.val = 0 then ['0']
       else (shortest .upward code.val).layout.positional [])

def plain (x : Double) : String :=
  String.ofList (plainChars x)

/-- The document form of a finite number. Of two shortest forms that are equally near the one with
the even last digit is taken. -/
def documentChars : Double → List Char
  | nan => "null".toList
  | signed negative code =>
    if code.val = infinity then "null".toList
    else if code.val = 0 then signText negative ++ "0.0".toList
    else
      let d := (shortest .toEven code.val).layout
      signText negative ++
        (if -5 < d.point ∧ d.point ≤ 16 then d.positional ['.', '0'] else d.scientific)

end Double
end BacktestDesk
