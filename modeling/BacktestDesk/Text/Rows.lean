import BacktestDesk.Decimal.Numeral
import BacktestDesk.Text.Split

/-!
# BacktestDesk.Text.Rows

Tables of numbers written as text. A line holds rows with a blank between them, a row holds
hexadecimal numbers with commas between them.
-/

namespace BacktestDesk
namespace Text
namespace Rows

def number (cs : List Char) : Nat :=
  cs.foldl (fun n c => 16 * n + (Numeral.hexDigit? c).getD 0) 0

def row (cs : List Char) : List Nat :=
  (split ',' cs).map number

/-- The rows of a table. -/
def read (lines : List String) : List (List Nat) :=
  lines.flatMap fun l => (split ' ' l.toList).map row

/-- A table of closed ranges: a row is a first and a last number, or one that is both. -/
def ranges (lines : List String) : List (Nat × Nat) :=
  (read lines).map fun r => (r.headD 0, r.getLastD 0)

end Rows
end Text
end BacktestDesk
