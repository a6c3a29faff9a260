import BacktestDesk.Failure

/-!
# BacktestDesk.Slot

The place of one view: its current value, and the number of the latest request for it. A request
draws a ticket when it starts; its outcome settles the slot only while no later ticket was drawn
and the slot was not cleared. `settle_stale` and `settle_current` say so.
-/

namespace BacktestDesk

/-- The number of a request. -/
structure Ticket where
  number : Nat
  deriving DecidableEq

/-- What becomes of the outcome of a request. -/
inductive Settlement where
  | applied
  | failed (e : Failure)
  | stale
  deriving DecidableEq

structure Slot (α : Type) where
  latest : Nat
  current : Option α
  deriving DecidableEq

namespace Slot

variable {α : Type}

def empty : Slot α := ⟨0, none⟩

/-- Starts a request; every request before it is outdated from now on. -/
def issue (s : Slot α) : Ticket × Slot α :=
  (⟨s.latest + 1⟩, { s with latest := s.latest + 1 })

def isCurrent (s : Slot α) (t : Ticket) : Bool :=
  t.number == s.latest

/-- Only the outcome of the latest request counts, and only a success changes the value. -/
def settle (s : Slot α) (t : Ticket) (outcome : Except Failure α) : Settlement × Slot α :=
  if s.isCurrent t then
    match outcome with
    | .ok x => (.applied, { s with current := some x })
    | .error e => (.failed e, s)
  else (.stale, s)

/-- Drops the value, and outdates every request that is under way. -/
def clear (s : Slot α) : Slot α :=
  ⟨s.latest + 1, none⟩

theorem settle_stale {s : Slot α} {t : Ticket} (outcome : Except Failure α)
    (h : s.isCurrent t = false) : s.settle t outcome = (.stale, s) := by
  simp [settle, h]

theorem settle_current {s : Slot α} {t : Ticket} (outcome : Except Failure α)
    (h : s.isCurrent t = true) :
    s.settle t outcome =
      match outcome with
      | .ok x => (.applied, { s with current := some x })
      | .error e => (.failed e, s) := by
  simp [settle, h]

end Slot
end BacktestDesk
