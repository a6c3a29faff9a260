import BacktestDesk.CommandLine
import BacktestDesk.Desk
import BacktestDesk.Json.Writer

/-!
# BacktestDesk.Program

One run of the program: help, a faulty command line, or one request whose view goes to the standard
output and whose failure goes to the standard error.
-/

namespace BacktestDesk

/-- What a run of the program leaves behind. -/
structure Outcome where
  exit : Nat
  stdout : String
  stderr : String
  sent : List Sent
  deriving DecidableEq

namespace Program

def wantsHelp (args : List String) : Bool :=
  args.any fun a => a == "--help" || a == "-h"

def help : Outcome :=
  ⟨0, CommandLine.usage ++ "\n", "", []⟩

def misuse (e : CommandLine.Fault) : Outcome :=
  ⟨2, "", "Error: " ++ e.message ++ "\n\n" ++ CommandLine.usage ++ "\n", []⟩

/-- What a console shows. -/
def consoleText : Channel → String
  | .console written => written
  | _ => ""

def perform (libraries : Libraries) (settings : Settings) (r : Request) (reply : Reply) : Outcome :=
  let step := (Desk.new (.ofSettings libraries settings) (.console "")).execute r reply
  match step.result with
  | some view => ⟨0, view.toJson.pretty ++ "\n", consoleText step.desk.channel, step.sent⟩
  | none => ⟨1, "", consoleText step.desk.channel, step.sent⟩

def run (libraries : Libraries) (days : Calendar.Date × Calendar.Date) (settings : Settings)
    (args : List String) (reply : Reply) : Outcome :=
  if wantsHelp args then help
  else
    match CommandLine.parse days args with
    | .error e => misuse e
    | .ok r => perform libraries settings r reply

end Program
end BacktestDesk
