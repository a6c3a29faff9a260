/-!
# BacktestDesk.Backend.Url.Scheme

Schemes of addresses. Those of the network and of files divide an address at both kinds of slashes
and name their hosts as the network does; any other scheme knows one slash only.
-/

namespace BacktestDesk
namespace Url

/-- The scheme in small letters, and what follows its colon. -/
def scheme? (cs : List Char) : Option (List Char × List Char) :=
  let name := cs.takeWhile fun c => c.isAlphanum || c == '+' || c == '-' || c == '.'
  match name, cs.drop name.length with
  | first :: _, ':' :: rest => if first.isAlpha then some (name.map Char.toLower, rest) else none
  | _, _ => none

/-- The schemes of the network, with the ports that they imply. -/
def networkSchemes : List (List Char × Nat) :=
  [("http".toList, 80), ("https".toList, 443), ("ws".toList, 80), ("wss".toList, 443),
   ("ftp".toList, 21)]

def impliedPort? (scheme : List Char) : Option Nat :=
  (networkSchemes.find? (·.1 == scheme)).map (·.2)

def isFile (scheme : List Char) : Bool :=
  scheme == "file".toList

def isSpecial (scheme : List Char) : Bool :=
  isFile scheme || (impliedPort? scheme).isSome

def isSlash (c : Char) : Bool := c == '/' || c == '\\'

/-- Whether a character divides a path of the scheme. -/
def divides (scheme : List Char) (c : Char) : Bool :=
  c == '/' || (isSpecial scheme && c == '\\')

/-- Whether a character ends the part of an address that names the host. -/
def endsAuthority (scheme : List Char) (c : Char) : Bool :=
  divides scheme c || c == '?' || c == '#'

end Url
end BacktestDesk
