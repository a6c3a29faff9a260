import BacktestDesk.Text.Percent
import BacktestDesk.Text.Split
import BacktestDesk.Text.Utf8

/-!
# BacktestDesk.Text.Form

The form-urlencoded text of a list of pairs, and its reading: pieces between ampersands, each a key
and a value around its first equals sign, a plus for a blank and a percent sign with two hex digits
for any byte that does not stand for itself.
-/

namespace BacktestDesk
namespace Text
namespace Form

/-- The bytes that stand for themselves: ASCII letters and digits and `* - . _`. -/
def isPlain (b : UInt8) : Bool :=
  let n := b.toNat
  (0x30 ≤ n && n ≤ 0x39) || (0x41 ≤ n && n ≤ 0x5A) || (0x61 ≤ n && n ≤ 0x7A) ||
    n == 0x2A || n == 0x2D || n == 0x2E || n == 0x5F

def encodeByte (b : UInt8) : List Char :=
  if isPlain b then [Char.ofNat b.toNat]
  else if b.toNat = 0x20 then ['+']
  else Percent.escapeByte b

def encodeText (s : String) : List Char :=
  (Utf8.encode s).flatMap encodeByte

def encodePair (p : String × String) : List Char :=
  encodeText p.1 ++ '=' :: encodeText p.2

/-- The text of a list of pairs, with an ampersand between them. -/
def encode (pairs : List (String × String)) : String :=
  String.ofList (['&'].intercalate (pairs.map encodePair))

/-! ## Reading -/

/-- The bytes of a key or a value. -/
def decodeBytes (cs : List Char) : List UInt8 :=
  Percent.decode (cs.map fun c => if c = '+' then ' ' else c)

/-- The text of a key or a value; bytes that are no text become U+FFFD. -/
def decodeText (cs : List Char) : String :=
  String.ofList ((Utf8.pieces (decodeBytes cs)).map fun p => p.getD (Char.ofNat 0xFFFD))

def decodePair (cs : List Char) : String × String :=
  (decodeText (cs.takeWhile (· != '=')), decodeText ((cs.dropWhile (· != '=')).drop 1))

/-- The pairs of a text, empty pieces left out. -/
def decode (s : String) : List (String × String) :=
  ((split '&' s.toList).filter (!·.isEmpty)).map decodePair

end Form
end Text
end BacktestDesk
