import BacktestDesk.Text.Blank

/-!
# BacktestDesk.Failure

The four ways in which a request fails, and what the operator is told.
-/

namespace BacktestDesk

inductive Failure where
  /-- No complete response arrived. -/
  | network (text : String)
  /-- The backend answered with a status that is no success; `body` is its text. -/
  | backend (status : Nat) (body : String)
  /-- The backend reported success with a body of another shape than agreed. -/
  | malformed (text : String)
  /-- The configuration breaks a rule; nothing was sent. -/
  | invalidConfig (text : String)
  deriving DecidableEq

namespace Failure

def describe : Failure → String
  | network text => "Network failure: " ++ text
  | backend status body => "Backend failure (" ++ toString status ++ "): " ++ body
  | malformed text => "Malformed payload: " ++ text
  | invalidConfig text => "Invalid configuration: " ++ text

def isBackend : Failure → Bool
  | backend _ _ => true
  | _ => false

/-- What the operator reads. The words of the backend are passed on as they are; when it sent
nothing but blanks its status is told instead. -/
def userMessage : Failure → String
  | backend status body =>
    if Text.isBlankText body then "backend returned status " ++ toString status else body
  | e => e.describe

end Failure

/-- Who raised a failure that is shown. -/
inductive Origin where
  | backend
  | client
  deriving DecidableEq

/-- What is shown of a failure. -/
structure Notice where
  origin : Origin
  message : String
  deriving DecidableEq

def Failure.notice (e : Failure) : Notice :=
  ⟨if e.isBackend then .backend else .client, e.userMessage⟩

end BacktestDesk
