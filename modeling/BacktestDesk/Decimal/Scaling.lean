import BacktestDesk.Decimal.Rounding

/-!
# BacktestDesk.Decimal.Scaling

The binary64 number that documents give for digits and an exponent. The digits are rounded to a
magnitude, which is then multiplied or divided by a power of ten; each of these steps rounds, so the
outcome need not be the number nearest to the decimal.
-/

namespace BacktestDesk
namespace Double

/-- The position of the product of two magnitudes, past the last finite one when it is too large. -/
def mulCode (a b : Nat) : Nat :=
  nearestCode (units a * units b) (Nat.pow 2 1074)

/-- The position of the quotient of two magnitudes, the second of them not zero. -/
def divCode (a b : Nat) : Nat :=
  nearestCode (units a * Nat.pow 2 1074) (units b)

/-- The greatest power of ten that is a finite magnitude. -/
def greatestPower : Nat := 308

def powerOfTen (n : Nat) : Nat :=
  codeOfDecimal 1 n

/-- A magnitude divided by the greatest power of ten, a number of times; zero stays zero. -/
def lowered (code : Nat) : Nat → Nat
  | 0 => code
  | steps + 1 => if code = 0 then 0 else lowered (divCode code (powerOfTen greatestPower)) steps

/-- The magnitude of a significand at an exponent, if it is finite. -/
def scaledCode? (significand : Nat) (exponent : Int) : Option Nat :=
  let code := codeOfDecimal significand 0
  if 0 ≤ exponent then
    if code = 0 then some 0
    else if exponent ≤ greatestPower then
      let product := mulCode code (powerOfTen exponent.toNat)
      if product < infinity then some product else none
    else none
  else
    let n := (-exponent).toNat
    let steps := (n - 1) / greatestPower
    some (divCode (lowered code steps) (powerOfTen (n - steps * greatestPower)))

def scaled? (negative : Bool) (significand : Nat) (exponent : Int) : Option Double :=
  (scaledCode? significand exponent).map (ofCode negative)

end Double
end BacktestDesk
