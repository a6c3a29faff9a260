import BacktestDesk.Host.Ipv4
import BacktestDesk.Host.Ipv6
import BacktestDesk.Host.Name
import BacktestDesk.Text.Percent
import BacktestDesk.Text.Utf8

/-!
# BacktestDesk.Host

Hosts: names, and the numeric addresses that are told from names by their form.
-/

namespace BacktestDesk

inductive Host where
  | named (name : List Char)
  | ipv4 (address : Host.Ipv4)
  | ipv6 (address : Host.Ipv6)
  deriving DecidableEq

namespace Host

def text : Host → List Char
  | named name => name
  | ipv4 address => address.text
  | ipv6 address => '[' :: address.text ++ [']']

/-- What stands between brackets; `none` when the closing one is missing. -/
def bracketed? (cs : List Char) : Option (List Char) :=
  if cs.getLast? = some ']' then some cs.dropLast else none

def ofBracketed? (cs : List Char) : Option Host :=
  match bracketed? cs with
  | some inside => (Ipv6.ofText? inside).map ipv6
  | none => none

/-- The host of an ASCII name, which is an address when it ends in a number. -/
def ofAscii? (name : List Char) : Option Host :=
  if name.isEmpty then none
  else if Ipv4.endsInNumber name then (Ipv4.ofName? name).map ipv4
  else some (named name)

/-- The host that a text stands for where names are those of the network. -/
def ofText? : List Char → Option Host
  | '[' :: cs => ofBracketed? cs
  | cs =>
    match Text.Utf8.decode? (Text.Percent.decode cs) with
    | none => none
    | some name =>
      match Name.ascii? name with
      | none => none
      | some name => ofAscii? name

/-- The characters that are in no host of any kind. -/
def isBreaker (c : Char) : Bool :=
  c.toNat == 0 || " \t\n\r#/:<>?@[\\]^|".toList.contains c

/-- The host that a text stands for where names mean nothing but themselves. -/
def ofOpaque? : List Char → Option Host
  | '[' :: cs => ofBracketed? cs
  | cs =>
    if cs.any isBreaker then none else some (named (Text.Percent.escape [] cs))

end Host
end BacktestDesk
