import BacktestDesk.Host.Marks

/-!
# BacktestDesk.Host.Direction

The directions in which characters are written, and the rule for names that are written from right
to left in some part: a reader has to be able to tell where one label ends and the next begins.
-/

namespace BacktestDesk
namespace Host

inductive Direction where
  /-- Letters written from left to right. -/
  | left
  /-- Letters written from right to left. -/
  | right
  | europeanDigit
  | arabicDigit
  /-- Signs that take the direction of what is around them. -/
  | neutral
  /-- Marks that take the direction of the character before them. -/
  | mark
  deriving DecidableEq

namespace Direction

/-! The tables are asked for characters that stand in names; a range may run over others. -/

def rightLetters : List (Nat × Nat) :=
  Text.Rows.ranges
    ["5BE 5C0 5C3 5C6 5D0,5F4 608 60B 60D 61B,64A 66D,66F 671,6D5 6E5,6E6 6EE,6EF 6FA,710 712,72F",
     "74D,7A5 7B1,7EA 7F4,7F5 7FA 7FE,815 81A 824 828 830,858 85E,88F 8A0,8C9 FBB2,FBC2 FE73",
     "10800,1091B 10920,10A00 10A10,10A35 10A40,10AE4 10AEB,10B35 10B40,10D23 10D40,10D4F",
     "10D6F,10D8F 10E80,10EA9 10EAD,10ED0 10F00,10F45 10F51,10F81 10F86,10FF6 1E800,1E8CF",
     "1E922,1E943 1E94B,1ED3D"]

def arabicDigits : List (Nat × Nat) :=
  Text.Rows.ranges
    ["660,669 66B,66C 10D30,10D39 10E60,10E7E"]

def europeanDigits : List (Nat × Nat) :=
  Text.Rows.ranges
    ["6F0,6F9 102E1,102FB"]

def neutralSigns : List (Nat × Nat) :=
  Text.Rows.ranges
    ["A1,D7 F7 2B9,2BA 2C2,2CF 2D2,2ED 2EF,2FF 375 3F6 58A,58F 606,607 609,60A 60C 60E,60F 66A 6DE",
     "6E9 7F6,7F9 9F2,9F3 9FB AF1 BF3,BFA C78,C7E E3F F3A,F3D 1390,1399 1400 169B,169C 17DB",
     "17F0,180A 1940,1945 19DE,19FF 200C,20C1 2104,214D 218A,2335 237B,2394 2396,26AB 26AD,27FF",
     "2900,2BFF 2CE5,2CEA 2CF9,2CFF 2E00,3004 3008,3020 3030 3037 303D,303F 30A0 30FB 31C0,31E5",
     "4DC0,4DFF A490,A4C6 A60D,A60F A673 A67E,A67F A700,A721 A788 A828,A82B A838,A839 A874,A877",
     "AB6A,AB6B FBC3,FDFF FE45,FE46 10101 10140,1018C 10190,101A0 1091F 10B39,10B3F 10D6E",
     "10ED1,10ED8 11052,11065 11660,1166C 11FD5,11FF1 16FE2 1CC00,1CEF0 1D1E9,1D241 1D245",
     "1D300,1D356 1E2FF 1EEF0,1F12F 1F16D,1F16F 1F1AD 1F260,1FBFA"]

/-- Nonspacing marks that are written as letters are, from left to right. -/
def leftMarks : List Nat :=
  [0xCBF, 0xCC6, 0x11A07, 0x11A08, 0x11C3F]

/-- The one spacing mark that takes the direction of the character before it. -/
def followingMark : Nat := 0x1171E

def ofAscii (c : Char) : Direction :=
  if c.isAlpha then left
  else if c.isDigit then europeanDigit
  else neutral

def of (c : Char) : Direction :=
  let n := c.toNat
  if n < 0x80 then ofAscii c
  else if n = followingMark || (isNonspacing c && !leftMarks.contains n) then mark
  else if Text.inRanges rightLetters n then right
  else if Text.inRanges arabicDigits n then arabicDigit
  else if Text.inRanges europeanDigits n then europeanDigit
  else if Text.inRanges neutralSigns n then neutral
  else left

/-- Whether a character makes a name one to which the rule applies. -/
def turns : Direction → Bool
  | right => true
  | arabicDigit => true
  | _ => false

/-- The last direction that is not a mark's. -/
def last? (ds : List Direction) : Option Direction :=
  (ds.filter (· != mark)).getLast?

/-- The rule for the directions of a label: it keeps to the direction of its first letter, ends in
a letter or a digit, and does not mix two kinds of digits. -/
def isReadable : List Direction → Bool
  | [] => true
  | left :: ds =>
    !ds.any turns && [left, europeanDigit].contains ((last? ds).getD left)
  | right :: ds =>
    !ds.contains left && [right, europeanDigit, arabicDigit].contains ((last? ds).getD right) &&
      !(ds.contains europeanDigit && ds.contains arabicDigit)
  | _ => false

/-- The rule for the labels of a name. -/
def areReadable (labels : List (List Char)) : Bool :=
  let directions := labels.map fun l => l.map of
  !directions.any (·.any turns) || directions.all isReadable

end Direction
end Host
end BacktestDesk
