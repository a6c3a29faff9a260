/-!
# BacktestDesk.Decimal.Double

Numbers of the binary64 format as values: a sign and the position of the magnitude among all
magnitudes in ascending order, or the one value that is no number. A finite magnitude is a whole
number of units of `2 ^ -1074`, given by `Double.units`.
-/

namespace BacktestDesk

namespace Double

/-- Every binade holds this many magnitudes. -/
def binade : Nat := Nat.pow 2 52

/-- The position of the infinite magnitude, after all finite ones. -/
def infinity : Nat := 2047 * binade

end Double

/-- A number of the binary64 format. Zero keeps its sign; all values that are no number are one. -/
inductive Double where
  | nan
  | signed (negative : Bool) (code : Fin (Double.infinity + 1))
  deriving DecidableEq

namespace Double

/-- The units of `2 ^ -1074` in the magnitude at a position. The first binade counts from zero,
every later one starts at a power of two, and its steps are twice as long as those before. -/
def units (code : Nat) : Nat :=
  if code / binade = 0 then code
  else (binade + code % binade) * Nat.pow 2 (code / binade - 1)

/-- The magnitude at a position; every position past the last stands for infinity. -/
def ofCode (negative : Bool) (code : Nat) : Double :=
  .signed negative ⟨min code infinity, Nat.lt_succ_of_le (Nat.min_le_right ..)⟩

def zero : Double := ofCode false 0

def one : Double := ofCode false (1023 * binade)

def isFinite : Double → Bool
  | nan => false
  | signed _ code => code.val < infinity

/-- Position on the line of all numbers, the two zeros being one point. -/
def rank (negative : Bool) (code : Nat) : Int :=
  if negative then -(code : Int) else code

/-- At most, as numbers; what is no number is neither below nor above anything. -/
def le : Double → Double → Bool
  | signed n c, signed m d => rank n c.val ≤ rank m d.val
  | _, _ => false

end Double
end BacktestDesk
