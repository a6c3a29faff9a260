/-!
# BacktestDesk.Host.Punycode

Text past ASCII written in small letters, digits and hyphens. The ASCII characters come first, with
a hyphen behind them; then the others in ascending order, each as the number of places that a
counter over all pairs of a character and a position moves on. Such a number has digits to a base
of 36 and ends at the first digit below a threshold, which follows the sizes of the numbers before.
-/

namespace BacktestDesk
namespace Host
namespace Punycode

def digitChar (d : Nat) : Char :=
  Char.ofNat (if d < 26 then 0x61 + d else 0x30 + (d - 26))

def digit? (c : Char) : Option Nat :=
  if c.isLower then some (c.toNat - 0x61)
  else if c.isUpper then some (c.toNat - 0x41)
  else if c.isDigit then some (c.toNat - 0x30 + 26)
  else none

/-- The threshold at place `k`, a multiple of 36. -/
def threshold (bias k : Nat) : Nat :=
  if k ≤ bias then 1 else if bias + 26 ≤ k then 26 else k - bias

theorem threshold_pos (bias k : Nat) : 1 ≤ threshold bias k := by
  simp only [threshold]
  split
  · omega
  · split <;> omega

/-- The bias that follows from what is left of a number. -/
def biasOf (delta k : Nat) : Nat :=
  if 455 < delta then biasOf (delta / 35) (k + 36) else k + 36 * delta / (delta + 38)
termination_by delta

/-- The bias behind a number, at `count` characters. -/
def adapt (delta count : Nat) (isFirst : Bool) : Nat :=
  let d := if isFirst then delta / 700 else delta / 2
  biasOf (d + d / count) 0

/-! ## Writing -/

/-- The digits of a number from place `k` on. -/
def number (bias k q : Nat) : List Char :=
  let t := threshold bias k
  if q < t then [digitChar q]
  else digitChar (t + (q - t) % (36 - t)) :: number bias (k + 36) ((q - t) / (36 - t))
termination_by q
decreasing_by
  have h := threshold_pos bias k
  have hd := Nat.div_le_self (q - threshold bias k) (36 - threshold bias k)
  omega

/-- A text on its way: what is written, the places passed since, the bias, and the number of
characters written. -/
structure Writer where
  done : List Char
  delta : Nat
  bias : Nat
  count : Nat

/-- Passes one character of the text while the counter is at `n`. -/
def Writer.pass (basic n : Nat) (w : Writer) (c : Char) : Writer :=
  if c.toNat < n then { w with delta := w.delta + 1 }
  else if c.toNat = n then
    { done := w.done ++ number w.bias 36 w.delta
      delta := 0
      bias := adapt w.delta (w.count + 1) (w.count == basic)
      count := w.count + 1 }
  else w

/-- Writes the characters of the given code points; `n` is the first that is still to come. -/
def write (basic : Nat) (cs : List Char) : Nat → List Nat → Writer → Writer
  | _, [], w => w
  | n, m :: ms, w =>
    let w := cs.foldl (Writer.pass basic m) { w with delta := w.delta + (m - n) * (w.count + 1) }
    write basic cs (m + 1) ms { w with delta := w.delta + 1 }

/-- The written form of a text. -/
def encode (cs : List Char) : List Char :=
  let basic := cs.filter (·.toNat < 0x80)
  let others := ((cs.map Char.toNat).filter (0x80 ≤ ·)).mergeSort.eraseReps
  let w := write basic.length cs 0x80 others ⟨[], 0, 72, basic.length⟩
  basic ++ (if basic.isEmpty then [] else ['-']) ++ w.done

/-! ## Reading -/

/-- The largest number that is read. -/
def limit : Nat := 0xFFFFFFFF

/-- A number read from the front of a text, added to `sum`, and what is left of the text. -/
def number? (bias : Nat) : Nat → Nat → Nat → List Char → Option (Nat × List Char)
  | _, _, _, [] => none
  | k, weight, sum, c :: cs =>
    match digit? c with
    | none => none
    | some d =>
      let t := threshold bias k
      if limit < sum + d * weight then none
      else if d < t then some (sum + d * weight, cs)
      else if limit < weight * (36 - t) then none
      else number? bias (k + 36) (weight * (36 - t)) (sum + d * weight) cs

/-- The character of a code point that has one. -/
def char? (n : Nat) : Option Char :=
  if n.isValidChar then some (Char.ofNat n) else none

/-- Puts in characters at most `steps` times; the counter is at `n` and the position `i`. -/
def insertFrom : Nat → Nat → Nat → Nat → List Char → List Char → Option (List Char)
  | _, _, _, _, done, [] => some done
  | 0, _, _, _, _, _ => none
  | steps + 1, bias, n, i, done, cs =>
    match number? bias 36 1 i cs with
    | none => none
    | some (j, rest) =>
      let size := done.length + 1
      match char? (n + j / size) with
      | none => none
      | some c =>
        insertFrom steps (adapt (j - i) size (i == 0)) (n + j / size) (j % size + 1)
          (done.take (j % size) ++ c :: done.drop (j % size)) rest

/-- The part before the last hyphen, and the part behind it; a hyphen at the front divides
nothing. -/
def parts (cs : List Char) : List Char × List Char :=
  match (cs.reverse.dropWhile (· != '-')).drop 1 with
  | [] => ([], cs)
  | before => (before.reverse, cs.drop (before.length + 1))

/-- The text of a written form; every number takes a digit, so the length bounds their count. -/
def decode? (cs : List Char) : Option (List Char) :=
  let (basic, rest) := parts cs
  insertFrom rest.length 72 0x80 0 basic rest

end Punycode
end Host
end BacktestDesk
