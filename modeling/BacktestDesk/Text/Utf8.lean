/-!
# BacktestDesk.Text.Utf8

Text as bytes. `pieces` cuts a byte string into well-formed characters and broken parts, a broken
part being the longest start of a character that the next byte does not continue. `decode?`
refuses broken parts.
-/

namespace BacktestDesk
namespace Text
namespace Utf8

def encodeChars (cs : List Char) : List UInt8 :=
  cs.flatMap String.utf8EncodeChar

def encode (s : String) : List UInt8 :=
  encodeChars s.toList

/-- The number of bytes that a text takes. -/
def byteCount (cs : List Char) : Nat :=
  (encodeChars cs).length

/-- What stands at the front of a byte string, and what follows it. -/
inductive Front where
  | char (c : Char) (rest : List UInt8)
  | broken (rest : List UInt8)

/-- Reads `more` continuation bytes, the first of them in the closed range `lo` to `hi`. -/
def continued : Nat → Nat → Nat → Nat → List UInt8 → Front
  | 0, _, _, acc, bs => .char (Char.ofNat acc) bs
  | _ + 1, _, _, _, [] => .broken []
  | more + 1, lo, hi, acc, b :: bs =>
    if lo ≤ b.toNat ∧ b.toNat ≤ hi then
      continued more 0x80 0xBF (acc * 64 + b.toNat % 64) bs
    else .broken (b :: bs)

/-- Reads the rest of the character whose first byte is `b`. -/
def front (b : UInt8) (bs : List UInt8) : Front :=
  let n := b.toNat
  if n < 0x80 then .char (Char.ofNat n) bs
  else if n < 0xC2 then .broken bs
  else if n < 0xE0 then continued 1 0x80 0xBF (n % 32) bs
  else if n = 0xE0 then continued 2 0xA0 0xBF 0 bs
  else if n = 0xED then continued 2 0x80 0x9F 13 bs
  else if n < 0xF0 then continued 2 0x80 0xBF (n % 16) bs
  else if n = 0xF0 then continued 3 0x90 0xBF 0 bs
  else if n < 0xF4 then continued 3 0x80 0xBF (n % 8) bs
  else if n = 0xF4 then continued 3 0x80 0x8F 4 bs
  else .broken bs

/-- Cuts at most `limit` parts off a byte string; `none` stands for a broken part. -/
def piecesUpTo : Nat → List UInt8 → List (Option Char)
  | 0, _ => []
  | _ + 1, [] => []
  | limit + 1, b :: bs =>
    match front b bs with
    | .char c rest => some c :: piecesUpTo limit rest
    | .broken rest => none :: piecesUpTo limit rest

/-- The characters and broken parts of a byte string, of which none is empty. -/
def pieces (bs : List UInt8) : List (Option Char) :=
  piecesUpTo bs.length bs

def decode? (bs : List UInt8) : Option (List Char) :=
  (pieces bs).mapM id

end Utf8
end Text
end BacktestDesk
