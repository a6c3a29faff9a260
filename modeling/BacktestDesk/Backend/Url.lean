import BacktestDesk.Backend.Url.Authority
import BacktestDesk.Backend.Url.Path

/-!
# BacktestDesk.Backend.Url

Addresses. The written form of an address has the scheme in small letters, the host in its plain
form, no port that the scheme implies, no segments for here and above, and every character outside
printable ASCII as escaped bytes. A request goes to a host over http or https.
-/

namespace BacktestDesk

structure Url where
  scheme : List Char
  authority : Option Url.Authority
  path : List Char
  query : Option (List Char)
  fragment : Option (List Char)
  deriving DecidableEq

namespace Url

/-! ## Written form -/

/-- Path and query, which go into the request. -/
def targetChars (u : Url) : List Char :=
  u.path ++ (match u.query with | some q => '?' :: q | none => [])

/-- The authority behind its two slashes. Without one, a path that starts with two slashes has a
segment for here in front, so that it is not taken for an authority. -/
def hostChars (u : Url) : List Char :=
  match u.authority with
  | some a => '/' :: '/' :: a.text
  | none => if ['/', '/'].isPrefixOf u.path then ['/', '.'] else []

def chars (u : Url) : List Char :=
  u.scheme ++ ':' :: u.hostChars ++ u.targetChars ++
    (match u.fragment with | some f => '#' :: f | none => [])

def text (u : Url) : String := String.ofList u.chars

def target (u : Url) : String := String.ofList u.targetChars

/-- The host and the port that is not implied. -/
def hostAndPort (u : Url) : String :=
  String.ofList ((u.authority.map Authority.hostAndPort).getD [])

/-! ## Reading -/

/-- Control characters and blanks at either end do not belong to an address, nor do tabs and line
ends inside it. -/
def clean (cs : List Char) : List Char :=
  let outside (c : Char) : Bool := c.toNat ≤ 0x20
  ((cs.dropWhile outside).reverse.dropWhile outside).reverse.filter fun c =>
    c != '\t' && c != '\n' && c != '\r'

/-- The text before a character, and the text behind it if there is one. -/
def cut (c : Char) (cs : List Char) : List Char × Option (List Char) :=
  match cs.dropWhile (· != c) with
  | [] => (cs, none)
  | _ :: rest => (cs.takeWhile (· != c), some rest)

/-- What follows the authority, as it is given. -/
structure Tail where
  path : List Char
  query : Option (List Char)
  fragment : Option (List Char)

def Tail.ofText (cs : List Char) : Tail :=
  let (cs, fragment) := cut '#' cs
  let (path, query) := cut '?' cs
  ⟨path, query, fragment⟩

def querySpecials (scheme : List Char) : List Char :=
  [' ', '"', '#', '<', '>'] ++ (if isSpecial scheme then ['\x27'] else [])

def fragmentSpecials : List Char :=
  [' ', '"', '<', '>', '\x60']

/-- An address with a written path, and the query and fragment of its tail. -/
def Tail.url (t : Tail) (scheme : List Char) (authority : Option Authority) (path : List Char) :
    Url :=
  { scheme
    authority
    path
    query := t.query.map (Text.Percent.escape (querySpecials scheme))
    fragment := t.fragment.map (Text.Percent.escape fragmentSpecials) }

/-- An address from its authority on. -/
def ofAuthority? (scheme cs : List Char) : Option Url :=
  let region := cs.takeWhile (!endsAuthority scheme ·)
  let rest := cs.drop region.length
  match Authority.ofText? scheme rest.isEmpty region with
  | none => none
  | some (authority, left) =>
    let t := Tail.ofText (left ++ rest)
    some (t.url scheme (some authority) (hostPath scheme t.path))

/-- An address without authority whose path starts with a slash. -/
def ofRooted (scheme cs : List Char) : Url :=
  let t := Tail.ofText cs
  t.url scheme none (joinSegments (segments scheme t.path))

/-- An address without authority whose path means nothing but itself. -/
def ofOpaque (scheme cs : List Char) : Url :=
  let t := Tail.ofText cs
  t.url scheme none (Text.Percent.escape [] t.path)

/-! ### Files -/

/-- The host of a file's address; this machine has no name. -/
def fileHost? (cs : List Char) : Option Host :=
  if cs.isEmpty then some (.named [])
  else
    match Host.ofText? cs with
    | some host => some (if host = .named "localhost".toList then .named [] else host)
    | none => none

/-- An address of a file on a host. A path that starts with a drive needs none. -/
def ofFilePath (scheme : List Char) (host : Host) (cs : List Char) : Url :=
  let t := Tail.ofText cs
  let path := segments scheme t.path
  let host := if path.head?.any isDrive then .named [] else host
  t.url scheme (some (.ofHost host)) (filePath path)

/-- An address of a file, from the colon of its scheme on. -/
def ofFile? (scheme : List Char) : List Char → Option Url
  | a :: b :: cs =>
    if isSlash a && isSlash b then
      let region := cs.takeWhile (!endsAuthority scheme ·)
      if isDrive region then some (ofFilePath scheme (.named []) cs)
      else
        match fileHost? region with
        | some host => some (ofFilePath scheme host (cs.drop region.length))
        | none => none
    else some (ofFilePath scheme (.named []) (a :: b :: cs))
  | cs => some (ofFilePath scheme (.named []) cs)

/-- The address that a text stands for, when it is absolute. -/
def ofText? (s : String) : Option Url :=
  match scheme? (clean s.toList) with
  | none => none
  | some (scheme, rest) =>
    if isFile scheme then ofFile? scheme rest
    else if isSpecial scheme then ofAuthority? scheme (rest.dropWhile isSlash)
    else
      match rest with
      | '/' :: '/' :: cs => ofAuthority? scheme cs
      | '/' :: cs => some (ofRooted scheme ('/' :: cs))
      | cs => some (ofOpaque scheme cs)

/-! ## Addresses of requests -/

/-- Why a text is no address for a request. -/
inductive Fault where
  /-- Not an absolute address. -/
  | noAddress
  /-- An address that no request can be sent to. -/
  | unusable (text : String)
  deriving DecidableEq

def Fault.message : Fault → String
  | .noAddress => "builder error"
  | .unusable text => "builder error for url (" ++ text ++ ")"

def withoutCredentials (u : Url) : Url :=
  { u with authority := u.authority.map Authority.withoutCredentials }

/-- The schemes of requests. -/
def requestSchemes : List (List Char) :=
  ["http".toList, "https".toList]

/-- The characters that a host may hold but no request. -/
def unsendable : List Char := ['"', '\x60', '\x7b', '\x7d']

/-- The length of the longest address of a request. -/
def longest : Nat := 65534

def isUsable (u : Url) : Bool :=
  requestSchemes.contains u.scheme && !(u.hostChars.any unsendable.contains) &&
    u.chars.length ≤ longest

/-- The address of a request. -/
def forRequest (s : String) : Except Fault Url :=
  match ofText? s with
  | none => .error .noAddress
  | some u =>
    let u := u.withoutCredentials
    if u.isUsable then .ok u else .error (.unusable u.text)

end Url
end BacktestDesk
