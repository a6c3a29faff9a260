import BacktestDesk.Host.Mapping.Table
import BacktestDesk.Text.Blank
import BacktestDesk.Text.Normal

/-!
# BacktestDesk.Host.Mapping

The form of text in the name of a host: letters are small, compatible characters give way to plain
ones, invisible ones vanish, and the rest is composed.
-/

namespace BacktestDesk
namespace Host
namespace Mapping

/-- Whether a character lies in one of the ranges. -/
def isIn (ranges : List (Nat × Nat)) (c : Char) : Bool :=
  Text.inRanges ranges c.toNat

/-- The one character that a row of `shifts` gives. -/
def shift? (c : Char) : List Nat → Option (List Char)
  | [first, last, step, image] =>
    if first ≤ c.toNat && c.toNat ≤ last && (c.toNat - first) % step == 0 then
      some [Char.ofNat (image + (c.toNat - first))]
    else none
  | _ => none

/-- The characters that a row of `images` gives. -/
def image? (c : Char) : List Nat → Option (List Char)
  | n :: ns => if n = c.toNat then some (ns.map Char.ofNat) else none
  | [] => none

/-- What becomes of a character; `none` when no name holds it. -/
def replacement? (c : Char) : Option (List Char) :=
  if c.toNat < 0x80 then some [c.toLower]
  else if isIn kept c then some [c]
  else if isIn dropped c then some []
  else
    match shifts.findSome? (shift? c) with
    | some cs => some cs
    | none => images.findSome? (image? c)

/-- The form of a text. -/
def form? (cs : List Char) : Option (List Char) :=
  (cs.mapM replacement?).map fun parts => Text.Normal.compose parts.flatten

end Mapping
end Host
end BacktestDesk
