import BacktestDesk.Decimal.Numeral
import BacktestDesk.Text.Split

/-!
# BacktestDesk.Host.Ipv4

Addresses of four bytes. A name that ends in a number is such an address or nothing: up to four
numbers, the last of which fills the bytes that the others leave.
-/

namespace BacktestDesk
namespace Host

structure Ipv4 where
  value : UInt32
  deriving DecidableEq

namespace Ipv4

/-- The four bytes in decimal. -/
def text (a : Ipv4) : List Char :=
  let n := a.value.toNat
  ['.'].intercalate
    ([n / 0x1000000, n / 0x10000 % 256, n / 0x100 % 256, n % 256].map (Nat.toDigits 10))

/-- The number that digits to a base denote; no digits are zero. -/
def ofDigits? (base : Nat) (cs : List Char) : Option Nat :=
  cs.foldlM (fun n c =>
    match Numeral.hexDigit? c with
    | some d => if d < base then some (base * n + d) else none
    | none => none) 0

/-- A number with sixteen as its base behind `0x`, eight behind `0`, and ten elsewhere. -/
def number? : List Char → Option Nat
  | [] => none
  | '0' :: 'x' :: cs => ofDigits? 16 cs
  | '0' :: 'X' :: cs => ofDigits? 16 cs
  | '0' :: c :: cs => ofDigits? 8 (c :: cs)
  | cs => ofDigits? 10 cs

/-- The parts of a name between its dots, without an empty last one. -/
def parts (name : List Char) : List (List Char) :=
  let all := Text.split '.' name
  if all.getLast? = some [] then all.dropLast else all

/-- Whether the last part of a name is a number, or digits alone. -/
def endsInNumber (name : List Char) : Bool :=
  match (parts name).getLast? with
  | none => false
  | some last => (!last.isEmpty && last.all Char.isDigit) || (number? last).isSome

/-- The value of numbers of which each but the last is a byte. -/
def ofNumbers? (numbers : List Nat) : Option Ipv4 :=
  let free := 5 - numbers.length
  match numbers.getLast? with
  | none => none
  | some last =>
    if numbers.length ≤ 4 && numbers.dropLast.all (· ≤ 255) && last < Nat.pow 256 free then
      let high := numbers.dropLast.foldl (fun n b => 256 * n + b) 0
      some ⟨UInt32.ofNat (high * Nat.pow 256 free + last)⟩
    else none

/-- The address that a name which ends in a number stands for. -/
def ofName? (name : List Char) : Option Ipv4 :=
  match (parts name).mapM number? with
  | none => none
  | some numbers => ofNumbers? numbers

end Ipv4
end Host
end BacktestDesk
