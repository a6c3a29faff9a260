import BacktestDesk.Decimal.Numeral
import BacktestDesk.Text.Split

/-!
# BacktestDesk.Host.Ipv6

Addresses of eight pieces of sixteen bits. Two colons stand for pieces that are zero, and the last
two pieces may be written as four decimal bytes.
-/

namespace BacktestDesk
namespace Host

structure Ipv6 where
  pieces : List UInt16
  eight : pieces.length = 8
  deriving DecidableEq

namespace Ipv6

/-! ## Reading -/

/-- A piece has one to four hexadecimal digits. -/
def piece? (cs : List Char) : Option UInt16 :=
  if cs.isEmpty || 4 < cs.length then none
  else
    (cs.foldlM (fun n c => (Numeral.hexDigit? c).map (16 * n + ·)) 0).map UInt16.ofNat

/-- A byte in decimal, without zeros in front. -/
def byte? (cs : List Char) : Option Nat :=
  match cs with
  | [] => none
  | '0' :: _ :: _ => none
  | _ =>
    if cs.all Char.isDigit && Numeral.ofDigits cs ≤ 255 then some (Numeral.ofDigits cs) else none

/-- The two pieces that four decimal bytes stand for. -/
def bytes? (cs : List Char) : Option (List UInt16) :=
  match (Text.split '.' cs).mapM byte? with
  | some [a, b, c, d] => some [UInt16.ofNat (256 * a + b), UInt16.ofNat (256 * c + d)]
  | _ => none

/-- Pieces of hexadecimal digits only. -/
def hexPieces? (fields : List (List Char)) : Option (List UInt16) :=
  fields.mapM piece?

/-- Pieces of which the last two may be bytes. -/
def pieces? (cs : List Char) : Option (List UInt16) :=
  let fields := Text.split ':' cs
  match hexPieces? fields with
  | some ps => some ps
  | none =>
    match hexPieces? fields.dropLast, bytes? (fields.getLastD []) with
    | some ps, some last => some (ps ++ last)
    | _, _ => none

/-- The text before the first two colons, and the text behind them. -/
def cut? : List Char → Option (List Char × List Char)
  | [] => none
  | ':' :: ':' :: cs => some ([], cs)
  | c :: cs => (cut? cs).map fun p => (c :: p.1, p.2)

def ofPieces? (ps : List UInt16) : Option Ipv6 :=
  if h : ps.length = 8 then some ⟨ps, h⟩ else none

/-- Fills up with pieces that are zero; they stand for one at least. -/
def filled? (front back : List UInt16) : Option Ipv6 :=
  if front.length + back.length ≤ 7 then
    ofPieces? (front ++ List.replicate (8 - front.length - back.length) 0 ++ back)
  else none

/-- The address written between brackets. -/
def ofText? (cs : List Char) : Option Ipv6 :=
  match cut? cs with
  | none =>
    match pieces? cs with
    | some ps => ofPieces? ps
    | none => none
  | some (front, back) =>
    match if front.isEmpty then some [] else hexPieces? (Text.split ':' front),
        if back.isEmpty then some [] else pieces? back with
    | some ps, some qs => filled? ps qs
    | _, _ => none

/-! ## Writing -/

/-- How many pieces are zero from each place on. -/
def zeros : List UInt16 → List Nat
  | [] => []
  | p :: ps => (if p = 0 then (zeros ps).headD 0 + 1 else 0) :: zeros ps

/-- The first of the longest rows of zeros, by its place and its length. -/
def longestZeros (ps : List UInt16) : Nat × Nat :=
  let longest := (zeros ps).foldl max 0
  ((zeros ps).idxOf longest, longest)

def joined (ps : List UInt16) : List Char :=
  [':'].intercalate (ps.map fun p => Nat.toDigits 16 p.toNat)

/-- The pieces in hexadecimal; the first of the longest rows of two zeros or more is left out. -/
def text (a : Ipv6) : List Char :=
  let (place, count) := longestZeros a.pieces
  if count < 2 then joined a.pieces
  else joined (a.pieces.take place) ++ ':' :: ':' :: joined (a.pieces.drop (place + count))

end Ipv6
end Host
end BacktestDesk
