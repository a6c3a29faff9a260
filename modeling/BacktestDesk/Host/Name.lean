import BacktestDesk.Host.Direction
import BacktestDesk.Host.Joining
import BacktestDesk.Host.Mapping
import BacktestDesk.Host.Punycode
import BacktestDesk.Text.Split

/-!
# BacktestDesk.Host.Name

The ASCII form of the name of a host. A name is a row of labels with dots between them. A label that
holds more than ASCII is written behind a mark; a label that already has the mark is read, and has
to be what is written for the text it stands for.
-/

namespace BacktestDesk
namespace Host
namespace Name

def isAscii (cs : List Char) : Bool :=
  cs.all (·.toNat < 0x80)

/-- The characters of ASCII that no name holds. -/
def isForbidden (c : Char) : Bool :=
  c.toNat ≤ 0x20 || c.toNat == 0x7F || "%#/:<>?@[\\]^|".toList.contains c

/-- The mark in front of a written label. -/
def labelMark : List Char := "xn--".toList

def isMarked (label : List Char) : Bool :=
  labelMark.isPrefixOf label

/-- Lengths beyond which a label is neither read nor written. -/
def longestRead : Nat := 2000
def longestWritten : Nat := 1000

/-- The text of a marked label. -/
def readMarked? (label : List Char) : Option (List Char) :=
  let written := label.drop labelMark.length
  if isAscii label && label.getLast? != some '-' && written.length ≤ longestRead then
    match Punycode.decode? written with
    | some text => if Mapping.form? text = some text then some text else none
    | none => none
  else none

/-- The text that a label stands for. -/
def text? (label : List Char) : Option (List Char) :=
  if isMarked label then readMarked? label else some label

/-- Whether a label may hold its text: a label in ASCII may, any other starts with no mark, and
joiners have their place in it. -/
def isSound (label : List Char) : Bool :=
  isAscii label ||
    (!isMarked label && !(label.head?.any isMark) && Joining.isPlaced [] label)

/-- The written form of a label. -/
def write? (label : List Char) : Option (List Char) :=
  if isAscii label then some label
  else if label.length ≤ longestWritten then some (labelMark ++ Punycode.encode label)
  else none

/-- The written form of labels whose texts are sound. -/
def writeAll? (labels : List (List Char)) : Option (List Char) :=
  if labels.all isSound && Direction.areReadable labels then
    (labels.mapM write?).map ['.'].intercalate
  else none

/-- Whether a name is in ASCII without a marked label. -/
def isPlain (cs : List Char) : Bool :=
  isAscii cs && !((Text.split '.' (cs.map Char.toLower)).any isMarked)

/-- The ASCII form of a name; that of a plain name is the name in small letters. -/
def ascii? (cs : List Char) : Option (List Char) :=
  if isPlain cs then
    if cs.any isForbidden then none else some (cs.map Char.toLower)
  else
    match Mapping.form? cs with
    | none => none
    | some name =>
      if name.any isForbidden then none
      else
        match (Text.split '.' name).mapM text? with
        | none => none
        | some labels => writeAll? labels

end Name
end Host
end BacktestDesk
