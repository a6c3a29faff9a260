/-!
# BacktestDesk.Text.Utf16

Text as units of sixteen bits. A character past U+FFFF takes two units, a lead and a trail; each
unit alone of its kind is a broken part, and so is a byte that is left over.
-/

namespace BacktestDesk
namespace Text
namespace Utf16

/-- Which byte of a unit comes first. -/
inductive Order where
  | highFirst
  | lowFirst
  deriving DecidableEq

def unit : Order → UInt8 → UInt8 → Nat
  | .highFirst, a, b => 256 * a.toNat + b.toNat
  | .lowFirst, a, b => 256 * b.toNat + a.toNat

def isLead (n : Nat) : Bool := 0xD800 ≤ n && n ≤ 0xDBFF

def isTrail (n : Nat) : Bool := 0xDC00 ≤ n && n ≤ 0xDFFF

/-- The units of a byte string, `none` for a byte that is left over. -/
def units (order : Order) : List UInt8 → List (Option Nat)
  | [] => []
  | [_] => [none]
  | a :: b :: bs => some (unit order a b) :: units order bs

/-- The characters that units stand for, `none` for each broken part. -/
def pieces : List (Option Nat) → List (Option Char)
  | [] => []
  | none :: us => none :: pieces us
  | some u :: us =>
    if isLead u then
      match us with
      | some t :: rest =>
        if isTrail t then
          some (Char.ofNat (0x10000 + (u - 0xD800) * 0x400 + (t - 0xDC00))) :: pieces rest
        else none :: pieces (some t :: rest)
      | none :: rest => none :: pieces rest
      | [] => [none]
    else if isTrail u then none :: pieces us
    else some (Char.ofNat u) :: pieces us

end Utf16
end Text
end BacktestDesk
