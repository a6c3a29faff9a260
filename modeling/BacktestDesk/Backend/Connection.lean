import BacktestDesk.Backend.Client

/-!
# BacktestDesk.Backend.Connection

What arrives, from the bytes that a connection carries until it is closed: a status line, header
lines, an empty line, and a body whose end is told by its length, by chunks, or by the end of the
connection.
-/

namespace BacktestDesk
namespace Connection

abbrev Bytes := List UInt8

/-- Cuts at the first line end; `none` when there is none. -/
def line? : Bytes → Option (Bytes × Bytes)
  | [] => none
  | 0x0D :: 0x0A :: rest => some ([], rest)
  | b :: bs => (line? bs).map fun p => (b :: p.1, p.2)

/-- The lines up to the first empty one, and what follows it. -/
def headFrom : Nat → Bytes → Option (List Bytes × Bytes)
  | 0, _ => none
  | limit + 1, bs =>
    match line? bs with
    | none => none
    | some ([], rest) => some ([], rest)
    | some (l, rest) => (headFrom limit rest).map fun p => (l :: p.1, p.2)

/-- The head of a response; every line takes a byte, so the length bounds their number. -/
def head? (bs : Bytes) : Option (List Bytes × Bytes) :=
  headFrom bs.length bs

def ascii (bs : Bytes) : List Char :=
  bs.map fun b => Char.ofNat b.toNat

/-- The status of a line such as `HTTP/1.1 200 OK`. -/
def status? (l : Bytes) : Option Nat :=
  let digits := (((ascii l).dropWhile (· != ' ')).drop 1).takeWhile Char.isDigit
  if digits.length = 3 then some (Numeral.ofDigits digits) else none

/-- The value of a header, without blanks around it. -/
def header? (name : String) (lines : List Bytes) : Option (List Char) :=
  lines.findSome? fun l =>
    let cs := ascii l
    if (cs.takeWhile (· != ':')).map Char.toLower = name.toList then
      some (Text.trimChars ((cs.dropWhile (· != ':')).drop 1))
    else none

def length? (lines : List Bytes) : Option Nat :=
  match header? "content-length" lines with
  | some ds => if !ds.isEmpty && ds.all Char.isDigit then some (Numeral.ofDigits ds) else none
  | none => none

def isChunked (lines : List Bytes) : Bool :=
  match header? "transfer-encoding" lines with
  | some v => v.map Char.toLower == "chunked".toList
  | none => false

/-- The number that a row of hexadecimal digits denotes. -/
def hexNumber? (cs : List Char) : Option Nat :=
  if cs.isEmpty then none
  else cs.foldl (fun n c =>
    match n, Numeral.hexDigit? c with
    | some n, some d => some (16 * n + d)
    | _, _ => none) (some 0)

/-- A body and whether it has come to its end. -/
structure Body where
  bytes : Bytes
  complete : Bool

/-- Joins chunks, each a line with its length and the bytes, up to the empty one. -/
def chunksFrom : Nat → Bytes → Body
  | 0, _ => ⟨[], false⟩
  | limit + 1, bs =>
    match line? bs with
    | none => ⟨[], false⟩
    | some (l, rest) =>
      match hexNumber? ((ascii l).takeWhile fun c => c != ';' && c != ' ') with
      | none => ⟨[], false⟩
      | some 0 => ⟨[], true⟩
      | some n =>
        if rest.length < n then ⟨rest, false⟩
        else
          let body := chunksFrom limit ((rest.drop n).drop 2)
          ⟨rest.take n ++ body.bytes, body.complete⟩

def body (lines : List Bytes) (bs : Bytes) : Body :=
  if isChunked lines then chunksFrom bs.length bs
  else
    match length? lines with
    | some n => ⟨bs.take n, n ≤ bs.length⟩
    | none => ⟨bs, true⟩

/-- The statuses whose responses lead to another address when they name one. -/
def isRedirect (status : Nat) : Bool :=
  [301, 302, 303, 307, 308].contains status

/-- What the bytes of a connection that was closed amount to, with the place that they lead to. -/
structure Delivery where
  arrival : Arrival
  location : Option (List Char)

def delivery (bs : Bytes) : Delivery :=
  match head? bs with
  | some (first :: lines, rest) =>
    match status? first with
    | none => ⟨.dropped, none⟩
    | some status =>
      let b := body lines rest
      let contentType := (header? "content-type" lines).map String.ofList
      ⟨.ofHead ⟨status, contentType, b.bytes⟩ b.complete,
        if isRedirect status then header? "location" lines else none⟩
  | _ => ⟨.dropped, none⟩

/-- The text of an address that is given from another: whole, from the host on, from the root on, or
from the directory on. -/
def absolute (u : Url) (location : List Char) : String :=
  let scheme := String.ofList u.scheme ++ ":"
  let host := scheme ++ "//" ++ u.hostAndPort
  let place := String.ofList location
  match location with
  | '/' :: '/' :: _ => scheme ++ place
  | '/' :: _ => host ++ place
  | '?' :: _ => host ++ String.ofList u.path ++ place
  | _ =>
    if (Url.ofText? place).isSome then place
    else
      let directory := (u.path.reverse.dropWhile (· != '/')).reverse
      host ++ String.ofList directory ++ place

/-- The address that a request is led to. -/
def destination? (u : Url) (location : List Char) : Option Url :=
  match Url.forRequest (absolute u location) with
  | .ok v => some v
  | .error _ => none

end Connection
end BacktestDesk
