import BacktestDesk.Backend.Url.Scheme
import BacktestDesk.Text.Percent
import BacktestDesk.Text.Split

/-!
# BacktestDesk.Backend.Url.Path

Paths: segments between slashes, of which those for here and for the one above are resolved. The
letter of a drive is a segment that no path climbs out of.
-/

namespace BacktestDesk
namespace Url

def pathSpecials : List Char :=
  [' ', '"', '#', '<', '>', '?', '\x60', '\x7b', '\x7d']

/-- The spellings of the segment for here. -/
def hereSpellings : List String := [".", "%2e"]

/-- The spellings of the segment for the one above. -/
def aboveSpellings : List String := ["..", ".%2e", "%2e.", "%2e%2e"]

def isHere (segment : List Char) : Bool :=
  hereSpellings.contains (String.ofList (segment.map Char.toLower))

def isAbove (segment : List Char) : Bool :=
  aboveSpellings.contains (String.ofList (segment.map Char.toLower))

/-- Whether two characters are the letter of a drive and the sign behind it. -/
def isDriveMark (letter sign : Char) : Bool :=
  letter.isAlpha && (sign == ':' || sign == '|')

def isDrive : List Char → Bool
  | [letter, sign] => isDriveMark letter sign
  | _ => false

/-- Whether a segment stays when the path climbs. -/
def isAnchor : List Char → Bool
  | [letter, sign] => isDriveMark letter sign
  | letter :: sign :: '\\' :: _ => isDriveMark letter sign
  | _ => false

/-- Leaves the last of the segments, which stand last first. -/
def climb : List (List Char) → List (List Char)
  | [] => []
  | s :: rest => if isAnchor s then s :: rest else rest

/-- The segment of a file's path; a drive at its front has a colon behind its letter. -/
def fileSegment (done : List (List Char)) (s : List Char) : List Char :=
  match done, s with
  | [], [letter, sign] => if isDriveMark letter sign then [letter, ':'] else s
  | _, _ => s

/-- Resolves the segments for here and for the one above; `done` holds those before, last first. -/
def resolve (file : Bool) (done : List (List Char)) : List (List Char) → List (List Char)
  | [] => done.reverse
  | s :: rest =>
    if isHere s then
      if rest.isEmpty then ([] :: done).reverse else resolve file done rest
    else if isAbove s then
      if rest.isEmpty then ([] :: climb done).reverse else resolve file (climb done) rest
    else resolve file ((if file then fileSegment done s else s) :: done) rest

/-- The segments of a path, which may start with a slash. -/
def segments (scheme cs : List Char) : List (List Char) :=
  let cs := cs.map fun c => if divides scheme c then '/' else c
  let cs := if cs.head? = some '/' then cs.drop 1 else cs
  resolve (isFile scheme) [] ((Text.split '/' cs).map (Text.Percent.escape pathSpecials))

def joinSegments (segments : List (List Char)) : List Char :=
  '/' :: ['/'].intercalate segments

/-- The written path of a file has no empty segments at its front. -/
def filePath (segments : List (List Char)) : List Char :=
  joinSegments (segments.dropWhile List.isEmpty)

/-- The written path behind a host; schemes of the network have one always. -/
def hostPath (scheme cs : List Char) : List Char :=
  if cs.isEmpty && !isSpecial scheme then [] else joinSegments (segments scheme cs)

end Url
end BacktestDesk
