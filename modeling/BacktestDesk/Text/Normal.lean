import BacktestDesk.Text.Normal.Table

/-!
# BacktestDesk.Text.Normal

The composed form of a text: every character is taken apart, the marks behind a letter are put in
the order of their classes, and letters and marks are joined again as far as one character stands
for both. Characters that are taken apart for good are not among the pairs; a text that holds one
is brought into its lasting form before it comes here.
-/

namespace BacktestDesk
namespace Text
namespace Normal

/-- The combining class of a character; zero is that of letters. -/
def combiningClass (c : Char) : Nat :=
  let class? : List Nat → Option Nat
    | [first, last, k] => if first ≤ c.toNat && c.toNat ≤ last then some k else none
    | _ => none
  (classes.findSome? class?).getD 0

def isMark (c : Char) : Bool := combiningClass c != 0

/-! ## Korean syllables -/

def leadBase : Nat := 0x1100
def vowelBase : Nat := 0x1161
def tailBase : Nat := 0x11A7
def syllableBase : Nat := 0xAC00

/-- The parts of a syllable: a lead, a vowel, and a tail unless it has none. -/
def syllableParts? (c : Char) : Option (List Char) :=
  let n := c.toNat
  if syllableBase ≤ n && n < syllableBase + 11172 then
    let i := n - syllableBase
    let start := [Char.ofNat (leadBase + i / 588), Char.ofNat (vowelBase + i % 588 / 28)]
    some (if i % 28 = 0 then start else start ++ [Char.ofNat (tailBase + i % 28)])
  else none

/-- A lead and a vowel, or a syllable without a tail and a tail, as one syllable. -/
def syllable? (a b : Char) : Option Char :=
  let (m, n) := (a.toNat, b.toNat)
  if leadBase ≤ m && m < leadBase + 19 && vowelBase ≤ n && n < vowelBase + 21 then
    some (Char.ofNat (syllableBase + ((m - leadBase) * 21 + (n - vowelBase)) * 28))
  else if syllableBase ≤ m && m < syllableBase + 11172 && (m - syllableBase) % 28 == 0 &&
      tailBase < n && n < tailBase + 28 then
    some (Char.ofNat (m + (n - tailBase)))
  else none

/-! ## Parts -/

/-- The two characters that one is made of. -/
def parts? (c : Char) : Option (Char × Char) :=
  pairs.findSome? fun
    | [whole, a, b] => if whole = c.toNat then some (Char.ofNat a, Char.ofNat b) else none
    | _ => none

/-- Takes a character apart `depth` times over; only the first part can have parts of its own. -/
def unfold : Nat → Char → List Char
  | 0, c => [c]
  | depth + 1, c =>
    match parts? c with
    | some (a, b) => unfold depth a ++ [b]
    | none => [c]

/-- A character in all its parts; no character holds more than three pairs. -/
def decompose (c : Char) : List Char :=
  match syllableParts? c with
  | some cs => cs
  | none => unfold 3 c

/-- Puts a mark behind the marks of lower classes that follow it. -/
def place (c : Char) : List Char → List Char
  | [] => [c]
  | d :: ds =>
    if isMark d && combiningClass d < combiningClass c then d :: place c ds else c :: d :: ds

/-! ## Joining -/

/-- The character that stands for two. -/
def whole? (a b : Char) : Option Char :=
  match syllable? a b with
  | some c => some c
  | none =>
    pairs.findSome? fun
      | [whole, x, y] => if x = a.toNat && y = b.toNat then some (Char.ofNat whole) else none
      | _ => none

/-- Joins what follows a letter with it. The marks `passed` stay between, last first; a character
that comes behind one of its own class or a higher one does not reach the letter. -/
def joinTo (letter : Char) (passed : List Char) : List Char → List Char
  | [] => letter :: passed.reverse
  | c :: cs =>
    let reaches :=
      match passed with
      | [] => true
      | d :: _ => combiningClass d < combiningClass c
    match if reaches then whole? letter c else none with
    | some whole => joinTo whole passed cs
    | none =>
      if isMark c then joinTo letter (c :: passed) cs
      else letter :: passed.reverse ++ joinTo c [] cs

def join (cs : List Char) : List Char :=
  cs.takeWhile isMark ++
    match cs.dropWhile isMark with
    | [] => []
    | letter :: rest => joinTo letter [] rest

/-- The composed form of a text. -/
def compose (cs : List Char) : List Char :=
  join ((cs.flatMap decompose).foldr place [])

end Normal
end Text
end BacktestDesk
