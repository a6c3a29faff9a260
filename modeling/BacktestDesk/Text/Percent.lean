import BacktestDesk.Decimal.Numeral

/-!
# BacktestDesk.Text.Percent

Escapes: bytes written as a percent sign and two hexadecimal digits, and text read as bytes with
such escapes in it.
-/

namespace BacktestDesk
namespace Text
namespace Percent

def upperHex (n : Nat) : Char :=
  (Nat.digitChar n).toUpper

def escapeByte (b : UInt8) : List Char :=
  ['%', upperHex (b.toNat / 16), upperHex (b.toNat % 16)]

/-- All bytes of a character as escapes. -/
def escapeChar (c : Char) : List Char :=
  (String.utf8EncodeChar c).flatMap escapeByte

/-- Escapes what lies outside printable ASCII, and the characters of `special`. -/
def escape (special : List Char) (cs : List Char) : List Char :=
  cs.flatMap fun c =>
    if c.toNat ≤ 0x1F || 0x7E < c.toNat || special.contains c then escapeChar c else [c]

/-- The bytes of a text. A percent sign without two hexadecimal digits stands for itself. -/
def decode : List Char → List UInt8
  | [] => []
  | '%' :: a :: b :: cs =>
    match Numeral.hexDigit? a, Numeral.hexDigit? b with
    | some x, some y => UInt8.ofNat (16 * x + y) :: decode cs
    | _, _ => String.utf8EncodeChar '%' ++ decode (a :: b :: cs)
  | c :: cs => String.utf8EncodeChar c ++ decode cs

end Percent
end Text
end BacktestDesk
