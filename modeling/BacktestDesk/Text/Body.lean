import BacktestDesk.Text.Utf16
import BacktestDesk.Text.Utf8

/-!
# BacktestDesk.Text.Body

The text of a body. A mark at its front tells the encoding; without one it is the encoding that was
named with the body, and UTF-8 when none was. Each broken part becomes U+FFFD.
-/

namespace BacktestDesk
namespace Text

/-- The reader of an encoding. -/
abbrev Decoder := List UInt8 → String

/-- The text of characters and broken parts. -/
def ofPieces (pieces : List (Option Char)) : String :=
  String.ofList (pieces.map fun p => p.getD (Char.ofNat 0xFFFD))

/-- The characters and broken parts of a body that begins with a mark. -/
def markedPieces? : List UInt8 → Option (List (Option Char))
  | 0xEF :: 0xBB :: 0xBF :: bs => some (Utf8.pieces bs)
  | 0xFE :: 0xFF :: bs => some (Utf16.pieces (Utf16.units .highFirst bs))
  | 0xFF :: 0xFE :: bs => some (Utf16.pieces (Utf16.units .lowFirst bs))
  | _ => none

def ofUtf8 : Decoder := fun bs => ofPieces (Utf8.pieces bs)

/-- The text of a body, which may be named in an encoding. -/
def ofBody (named : Option Decoder) (bs : List UInt8) : String :=
  match markedPieces? bs with
  | some pieces => ofPieces pieces
  | none => named.getD ofUtf8 bs

end Text
end BacktestDesk
