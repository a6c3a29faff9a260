/-!
# BacktestDesk.Text.Split

Text cut at a separator.
-/

namespace BacktestDesk
namespace Text

/-- The pieces between the occurrences of a separator; there is always at least one. -/
def split (separator : Char) : List Char → List (List Char)
  | [] => [[]]
  | c :: cs =>
    match split separator cs with
    | [] => [[c]]
    | piece :: pieces => if c = separator then [] :: piece :: pieces else (c :: piece) :: pieces

end Text
end BacktestDesk
