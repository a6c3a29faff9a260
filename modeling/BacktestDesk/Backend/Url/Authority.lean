import BacktestDesk.Backend.Url.Scheme
import BacktestDesk.Host

/-!
# BacktestDesk.Backend.Url.Authority

The part of an address that names the host, with a name and a password in front of it and a port
behind it.
-/

namespace BacktestDesk
namespace Url

structure Credentials where
  name : List Char
  password : Option (List Char)
  deriving DecidableEq

structure Authority where
  credentials : Credentials
  host : Host
  port : Option Nat
  deriving DecidableEq

def userSpecials : List Char :=
  [' ', '"', '#', '<', '>', '?', '\x60', '\x7b', '\x7d', '/', ':', ';', '=', '@', '[', '\\', ']',
   '^', '|']

namespace Credentials

def empty : Credentials := ⟨[], none⟩

/-- The name stands before the first colon; an empty password is none. -/
def ofText (cs : List Char) : Credentials :=
  let password := (cs.dropWhile (· != ':')).drop 1
  ⟨Text.Percent.escape userSpecials (cs.takeWhile (· != ':')),
    if password.isEmpty then none else some (Text.Percent.escape userSpecials password)⟩

def text (c : Credentials) : List Char :=
  if c = empty then []
  else
    c.name ++ (match c.password with | some p => ':' :: p | none => []) ++ ['@']

def isReadable (cs : List Char) : Bool :=
  (Text.Utf8.decode? (Text.Percent.decode cs)).isSome

/-- Whether a name, or a password alone, can be given to a server. -/
def areReadable (c : Credentials) : Bool :=
  isReadable c.name && (!c.name.isEmpty || c.password.any isReadable)

end Credentials

namespace Authority

def ofHost (host : Host) : Authority :=
  ⟨.empty, host, none⟩

def hostAndPort (a : Authority) : List Char :=
  a.host.text ++ (match a.port with | some n => ':' :: Nat.toDigits 10 n | none => [])

def text (a : Authority) : List Char :=
  a.credentials.text ++ a.hostAndPort

/-- Credentials that a server can be given are no part of the written address. -/
def withoutCredentials (a : Authority) : Authority :=
  if a.credentials.areReadable then { a with credentials := .empty } else a

/-- Cuts at the first colon outside brackets. -/
def cutPort (inside : Bool) : List Char → List Char × Option (List Char)
  | [] => ([], none)
  | c :: cs =>
    if c = ':' && !inside then ([], some cs)
    else
      let (host, port) := cutPort (if c = '[' then true else if c = ']' then false else inside) cs
      (c :: host, port)

/-- The port, nothing when it is missing or implied, and what a backslash divides from it. -/
def port? (scheme cs : List Char) : Option (Option Nat × List Char) :=
  let digits := cs.takeWhile Char.isDigit
  let rest := cs.drop digits.length
  let n := Numeral.ofDigits digits
  if (rest.isEmpty || rest.head? = some '\\') && n ≤ 65535 then
    some (if digits.isEmpty || impliedPort? scheme = some n then none else some n, rest)
  else none

/-- A host without a name stands alone, and only where the scheme is not one of the network. -/
def host? (scheme : List Char) (isAlone : Bool) (cs : List Char) : Option Host :=
  if cs.isEmpty then if isSpecial scheme || !isAlone then none else some (.named [])
  else if isSpecial scheme then Host.ofText? cs
  else Host.ofOpaque? cs

/-- The part in front of the last at sign, and the part behind it. -/
def cutCredentials (cs : List Char) : Option (List Char) × List Char :=
  match (cs.reverse.dropWhile (· != '@')) with
  | [] => (none, cs)
  | _ :: front => (some front.reverse, cs.drop (front.length + 1))

/-- The authority, and what is left of the text behind it. `isLast` tells that the address ends
here; an at sign alone is only taken there. -/
def ofText? (scheme : List Char) (isLast : Bool) (cs : List Char) :
    Option (Authority × List Char) :=
  let (front, rest) := cutCredentials cs
  let credentials := (front.map Credentials.ofText).getD .empty
  let (hostText, portText) := cutPort false rest
  if front = some [] && rest.isEmpty && !isLast then none
  else
    match host? scheme (portText.isNone && credentials = .empty) hostText,
        port? scheme (portText.getD []) with
    | some host, some (port, rest) => some (⟨credentials, host, port⟩, rest)
    | _, _ => none

end Authority
end Url
end BacktestDesk
