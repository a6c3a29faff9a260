import BacktestDesk.Program
import BacktestDesk.Transport
import Std.Time

/-!
# BacktestDesk.Main

The command line program. A first pass over the arguments tells the request, if there is one; the
reply to it settles the outcome.
-/

namespace BacktestDesk
namespace Main

open Calendar

/-- The label of an encoding in the value of a `Content-Type` header. -/
def charset? (contentType : String) : Option String :=
  ((contentType.splitOn ";").drop 1).findSome? fun part =>
    match part.splitOn "=" with
    | [name, label] =>
      if (Text.trim name).toLower == "charset" then
        some ((Text.trim label).replace "\"" "").toLower
      else none
    | _ => none

/-- The characters of the bytes 80 to 9F in the encoding of the western pages. -/
def westernMarks : List Nat :=
  [0x20AC, 0x81, 0x201A, 0x192, 0x201E, 0x2026, 0x2020, 0x2021, 0x2C6, 0x2030, 0x160, 0x2039, 0x152,
    0x8D, 0x17D, 0x8F, 0x90, 0x2018, 0x2019, 0x201C, 0x201D, 0x2022, 0x2013, 0x2014, 0x2DC, 0x2122,
    0x161, 0x203A, 0x153, 0x9D, 0x17E, 0x178]

def western : Text.Decoder := fun bs =>
  String.ofList (bs.map fun b =>
    Char.ofNat (if 0x80 ≤ b ∧ b < 0xA0 then westernMarks.getD (b.toNat - 0x80) 0 else b.toNat))

/-- The libraries as far as the program has them. -/
def libraries : Libraries where
  decoder? contentType :=
    match charset? contentType with
    | some "iso-8859-1" | some "latin1" | some "us-ascii" | some "windows-1252" => some western
    | some "utf-16" | some "utf-16le" =>
      some fun bs => Text.ofPieces (Text.Utf16.pieces (Text.Utf16.units .lowFirst bs))
    | some "utf-16be" =>
      some fun bs => Text.ofPieces (Text.Utf16.pieces (Text.Utf16.units .highFirst bs))
    | _ => none
  documentFault _ := "no document"

/-- The days offered at the present instant. -/
def today : IO (Date × Date) := do
  let now ← Std.Time.Timestamp.now
  let seconds := now.toSecondsSinceUnixEpoch.val
  match (Instant.of? seconds 0).bind Instant.offeredDays? with
  | some days => return days
  | none => throw (IO.userError "the clock is out of range")

def outcome (args : List String) : IO Outcome := do
  let days ← today
  let settings := Settings.ofEnvironment (← IO.getEnv Settings.baseUrlVariable)
    (← IO.getEnv Settings.timeoutVariable)
  let draft := Program.run libraries days settings args (.direct .silent)
  match draft.sent with
  | [] => return draft
  | request :: _ =>
    let reply ← Transport.fetch request settings.timeoutMs
    return Program.run libraries days settings args reply

end Main
end BacktestDesk

def main (args : List String) : IO UInt32 := do
  let o ← BacktestDesk.Main.outcome args
  IO.print o.stdout
  IO.eprint o.stderr
  return UInt32.ofNat o.exit
