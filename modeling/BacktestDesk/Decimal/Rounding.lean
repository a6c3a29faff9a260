import BacktestDesk.Decimal.Double

/-!
# BacktestDesk.Decimal.Rounding

The binary64 number nearest to a decimal number `coefficient · 10 ^ exponent`; a decimal halfway
between two goes to the one at the even position.
-/

namespace BacktestDesk
namespace Double

/-- The quotient to the nearest whole number; a half goes to the even neighbour. -/
def divEven (n d : Nat) : Nat :=
  let q := n / d
  let twice := 2 * (n % d)
  if twice < d ∨ (twice = d ∧ q % 2 = 0) then q else q + 1

/-- The position of the magnitude nearest to `n / d` units. A magnitude of at most 53 bits is a
position itself; each further bit doubles the step and adds a binade. -/
def nearestCode (n d : Nat) : Nat :=
  let shift := (n / d).log2 + 1 - 53
  shift * binade + divEven n (d * Nat.pow 2 shift)

def digitCount (n : Nat) : Nat :=
  (Nat.toDigits 10 n).length

/-- The position of the magnitude nearest to a decimal. Far outside the format the powers are not
computed: with 310 digits before the point a number is infinite, below `10 ^ -330` it is zero. -/
def codeOfDecimal (coefficient : Nat) (exponent : Int) : Nat :=
  if coefficient = 0 then 0
  else if exponent + digitCount coefficient > 310 then infinity
  else if exponent + digitCount coefficient < -330 then 0
  else if 0 ≤ exponent then
    nearestCode (coefficient * Nat.pow 10 exponent.toNat * Nat.pow 2 1074) 1
  else
    nearestCode (coefficient * Nat.pow 2 1074) (Nat.pow 10 (-exponent).toNat)

def ofDecimal (negative : Bool) (coefficient : Nat) (exponent : Int) : Double :=
  ofCode negative (codeOfDecimal coefficient exponent)

/-- A whole number, rounded to the format. -/
def ofInt (z : Int) : Double :=
  ofDecimal (z < 0) z.natAbs 0

end Double
end BacktestDesk
