import BacktestDesk.Decimal.Rounding

/-!
# BacktestDesk.Decimal.Shortest

The decimal with the fewest digits that reads back as a given magnitude, and of those the nearest.
A decimal reads back when it lies between the two midpoints to the neighbouring magnitudes, the
midpoints included when the position is even.
-/

namespace BacktestDesk
namespace Double

/-- Which of two equally near decimals is taken. -/
inductive Tie where
  | toEven
  | upward
  deriving DecidableEq

/-- The decimal `coefficient · 10 ^ exponent`. -/
structure Decimal where
  coefficient : Nat
  exponent : Int
  deriving DecidableEq

/-- Whether `candidate` steps lie between the midpoints below and above a magnitude; all three are
given in half units times a common factor. -/
def readsBack (even : Bool) (below above candidate : Nat) : Bool :=
  if even then below ≤ candidate && candidate ≤ above
  else below < candidate && candidate < above

/-- The multiple of `10 ^ exponent` that reads back as the magnitude and is nearest to it, if
there is one. Only the multiples next to the magnitude can be. -/
def onGrid? (tie : Tie) (code : Nat) (exponent : Int) : Option Nat :=
  let scale := Nat.pow 10 (-exponent).toNat
  let step := Nat.pow 2 1075 * Nat.pow 10 exponent.toNat
  let below := (units (code - 1) + units code) * scale
  let value := 2 * units code * scale
  let above := (units code + units (code + 1)) * scale
  let even := code % 2 = 0
  let q := value / step
  let low := readsBack even below above (q * step)
  let high := readsBack even below above ((q + 1) * step)
  if low && high then
    let down := value - q * step
    let up := (q + 1) * step - value
    if down < up then some q
    else if up < down then some (q + 1)
    else
      match tie with
      | .upward => some (q + 1)
      | .toEven => if q % 2 = 0 then some q else some (q + 1)
  else if low then some q
  else if high then some (q + 1)
  else none

/-- The number of digits before the point, or less the number of zeros after it. -/
def magnitude (code : Nat) : Int :=
  (digitCount (units code * Nat.pow 10 330 / Nat.pow 2 1074) : Int) - 330

/-- The decimal that a magnitude is exactly. -/
def exactly (code : Nat) : Decimal :=
  ⟨units code * Nat.pow 5 1074, -1074⟩

/-- The first grid with a hit, from coarse to fine; without a hit the exact decimal. -/
def searchGrids (tie : Tie) (code : Nat) : Nat → Int → Decimal
  | 0, _ => exactly code
  | more + 1, exponent =>
    match onGrid? tie code exponent with
    | some q => ⟨q, exponent⟩
    | none => searchGrids tie code more (exponent - 1)

/-- The shortest decimal of a finite magnitude other than zero; 17 digits always read back. -/
def shortest (tie : Tie) (code : Nat) : Decimal :=
  searchGrids tie code 17 (magnitude code - 1)

end Double
end BacktestDesk
