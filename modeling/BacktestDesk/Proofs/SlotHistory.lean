import BacktestDesk.Slot

/-!
# BacktestDesk.Proofs.SlotHistory

Runs of a slot. A run is a list of events from the empty slot, in any order; its log holds every
event with what the slot answered.

* `log_current`, `log_outdated`: the invariant that ties the counter to the tickets. A ticket is as
  good as the counter says, and a slot never forgets that a ticket is outdated.
* `current_iff`: the value shown is that of the last outcome applied since the last clearing.
-/

namespace BacktestDesk

/-- What becomes of an outcome that is not outdated. -/
def Settlement.ofOutcome {α : Type} : Except Failure α → Settlement
  | .ok _ => .applied
  | .error e => .failed e

namespace Slot

/-- One thing that happens at a slot. -/
inductive Event (α : Type) where
  | issue
  | clear
  | settle (t : Ticket) (outcome : Except Failure α)

/-- What the slot answers. -/
inductive Answer where
  | issued (t : Ticket)
  | cleared
  | settled (s : Settlement)

/-- An event with its answer. -/
structure Entry (α : Type) where
  event : Event α
  answer : Answer

variable {α : Type}

def answer (s : Slot α) : Event α → Answer
  | .issue => .issued s.issue.1
  | .clear => .cleared
  | .settle t outcome => .settled (s.settle t outcome).1

def next (s : Slot α) : Event α → Slot α
  | .issue => s.issue.2
  | .clear => s.clear
  | .settle t outcome => (s.settle t outcome).2

/-- The slot after a run. -/
def after (s : Slot α) (events : List (Event α)) : Slot α :=
  events.foldl next s

def log (s : Slot α) : List (Event α) → List (Entry α)
  | [] => []
  | e :: es => ⟨e, s.answer e⟩ :: (s.next e).log es

/-- Whether an event outdates the tickets issued before it. -/
def Event.outdates : Event α → Bool
  | .issue => true
  | .clear => true
  | .settle _ _ => false

def Event.isClear : Event α → Bool
  | .clear => true
  | _ => false

/-- The ticket that was handed out. -/
def Entry.issued? : Entry α → Option Ticket
  | ⟨_, .issued t⟩ => some t
  | _ => none

/-- The ticket whose outcome was applied. -/
def Entry.applied? : Entry α → Option Ticket
  | ⟨.settle t _, .settled .applied⟩ => some t
  | _ => none

/-- Nothing is applied and nothing is cleared. -/
def Quiet (log : List (Entry α)) : Prop :=
  ∀ e ∈ log, e.applied? = none ∧ e.event.isClear = false

/-- `x` is the value of the last outcome that was applied, and no clearing came after it. -/
def Shows (log : List (Entry α)) (x : α) : Prop :=
  ∃ before t behind, log = before ++ ⟨.settle t (.ok x), .settled .applied⟩ :: behind ∧ Quiet behind

/-! ## One event -/

@[simp] theorem after_nil (s : Slot α) : s.after [] = s := rfl

@[simp] theorem after_cons (s : Slot α) (e : Event α) (es : List (Event α)) :
    s.after (e :: es) = (s.next e).after es := rfl

@[simp] theorem log_nil (s : Slot α) : s.log [] = [] := rfl

@[simp] theorem log_cons (s : Slot α) (e : Event α) (es : List (Event α)) :
    s.log (e :: es) = ⟨e, s.answer e⟩ :: (s.next e).log es := rfl

theorem latest_settle (s : Slot α) (t : Ticket) (outcome : Except Failure α) :
    (s.settle t outcome).2.latest = s.latest := by
  simp only [settle]
  split
  · cases outcome <;> rfl
  · rfl

theorem latest_next (s : Slot α) (e : Event α) :
    (s.next e).latest = s.latest + (if e.outdates then 1 else 0) := by
  cases e with
  | issue => rfl
  | clear => rfl
  | settle t outcome => exact latest_settle s t outcome

theorem latest_le_next (s : Slot α) (e : Event α) : s.latest ≤ (s.next e).latest := by
  rw [latest_next]
  omega

/-- A success is applied to the latest ticket only. -/
theorem applied?_entry {s : Slot α} {e : Event α} {t : Ticket}
    (h : Entry.applied? ⟨e, s.answer e⟩ = some t) :
    t.number = s.latest ∧ ∃ x, e = .settle t (.ok x) ∧ s.answer e = .settled .applied ∧
      s.next e = { s with current := some x } := by
  cases e with
  | issue => simp [Entry.applied?] at h
  | clear => simp [Entry.applied?] at h
  | settle u outcome =>
    cases hc : s.isCurrent u with
    | false => simp [answer, settle_stale outcome hc, Entry.applied?] at h
    | true =>
      have hu : u.number = s.latest := by simpa [isCurrent] using hc
      cases outcome with
      | error e => simp [answer, settle_current _ hc, Entry.applied?] at h
      | ok x =>
        simp only [answer, settle_current _ hc, Entry.applied?, Option.some.injEq] at h
        subst h
        exact ⟨hu, x, rfl, by simp [answer, settle_current _ hc],
          by simp [next, settle_current _ hc]⟩

/-- An event that neither applies an outcome nor clears the slot leaves its value alone. -/
theorem current_next_of_quiet {s : Slot α} {e : Event α}
    (h : Entry.applied? ⟨e, s.answer e⟩ = none) (hc : e.isClear = false) :
    (s.next e).current = s.current := by
  cases e with
  | issue => rfl
  | clear => cases hc
  | settle t outcome =>
    cases hs : s.isCurrent t with
    | false => simp [next, settle_stale outcome hs]
    | true =>
      cases outcome with
      | error e => simp [next, settle_current _ hs]
      | ok x => simp [answer, settle_current _ hs, Entry.applied?] at h

/-- An outcome that is not applied leaves the whole slot as it is. -/
theorem next_settle_of_ne_applied {s : Slot α} {t : Ticket} {outcome : Except Failure α}
    (h : (s.settle t outcome).1 ≠ .applied) : s.next (.settle t outcome) = s := by
  cases hs : s.isCurrent t with
  | false => simp [next, settle_stale outcome hs]
  | true =>
    cases outcome with
    | error e => simp [next, settle_current _ hs]
    | ok x => exact absurd (by simp [settle_current _ hs]) h

/-! ## Tickets -/

theorem latest_after (s : Slot α) (es : List (Event α)) :
    (s.after es).latest = s.latest + es.countP Event.outdates := by
  induction es generalizing s with
  | nil => simp
  | cons e es ih =>
    rw [after_cons, ih, latest_next, List.countP_cons]
    omega

theorem issued_entry {s : Slot α} {e : Event α} {t : Ticket}
    (h : Entry.issued? ⟨e, s.answer e⟩ = some t) :
    s.latest < t.number ∧ (s.next e).latest = t.number := by
  cases e with
  | issue =>
    simp only [answer, issue, Entry.issued?, Option.some.injEq] at h
    subst h
    exact ⟨Nat.lt_succ_self _, rfl⟩
  | clear => simp [answer, Entry.issued?] at h
  | settle t outcome => simp [answer, Entry.issued?] at h

theorem latest_lt_of_issued {s : Slot α} {es : List (Event α)} {t : Ticket}
    (h : t ∈ (s.log es).filterMap Entry.issued?) : s.latest < t.number := by
  induction es generalizing s with
  | nil => simp at h
  | cons e es ih =>
    rw [log_cons, List.filterMap_cons] at h
    split at h
    · exact Nat.lt_of_le_of_lt (latest_le_next s e) (ih h)
    · rename_i u hu
      rcases List.mem_cons.mp h with rfl | h
      · exact (issued_entry hu).1
      · exact Nat.lt_of_le_of_lt (latest_le_next s e) (ih h)

theorem issued_increasing (s : Slot α) (es : List (Event α)) :
    ((s.log es).filterMap Entry.issued?).Pairwise fun t u => t.number < u.number := by
  induction es generalizing s with
  | nil => simp
  | cons e es ih =>
    rw [log_cons, List.filterMap_cons]
    split
    · exact ih _
    · rename_i t ht
      refine List.pairwise_cons.mpr ⟨fun u hu => ?_, ih _⟩
      rw [← (issued_entry ht).2]
      exact latest_lt_of_issued hu

theorem latest_le_of_applied {s : Slot α} {es : List (Event α)} {t : Ticket}
    (h : t ∈ (s.log es).filterMap Entry.applied?) : s.latest ≤ t.number := by
  induction es generalizing s with
  | nil => simp at h
  | cons e es ih =>
    rw [log_cons, List.filterMap_cons] at h
    split at h
    · exact Nat.le_trans (latest_le_next s e) (ih h)
    · rename_i u hu
      rcases List.mem_cons.mp h with rfl | h
      · exact Nat.le_of_eq (applied?_entry hu).1.symm
      · exact Nat.le_trans (latest_le_next s e) (ih h)

theorem applied_ordered (s : Slot α) (es : List (Event α)) :
    ((s.log es).filterMap Entry.applied?).Pairwise fun t u => t.number ≤ u.number := by
  induction es generalizing s with
  | nil => simp
  | cons e es ih =>
    rw [log_cons, List.filterMap_cons]
    split
    · exact ih _
    · rename_i t ht
      refine List.pairwise_cons.mpr ⟨fun u hu => ?_, ih _⟩
      rw [(applied?_entry ht).1]
      exact Nat.le_trans (latest_le_next s e) (latest_le_of_applied hu)

/-! ## Settlements -/

/-- A log that holds an entry was written by a run up to the event of that entry. -/
theorem log_split {s : Slot α} {es : List (Event α)} {before behind : List (Entry α)} {e : Entry α}
    (h : s.log es = before ++ e :: behind) :
    ∃ done rest, es = done ++ e.event :: rest ∧ s.log done = before ∧
      e.answer = (s.after done).answer e.event ∧
      ((s.after done).next e.event).log rest = behind := by
  induction before generalizing s es with
  | nil =>
    cases es with
    | nil => simp at h
    | cons x es =>
      simp only [log_cons, List.nil_append, List.cons.injEq] at h
      obtain ⟨rfl, rfl⟩ := h
      exact ⟨[], es, rfl, rfl, rfl, rfl⟩
  | cons b before ih =>
    cases es with
    | nil => simp at h
    | cons x es =>
      simp only [log_cons, List.cons_append, List.cons.injEq] at h
      obtain ⟨rfl, h⟩ := h
      obtain ⟨done, rest, rfl, hdone, ha, hrest⟩ := ih h
      exact ⟨x :: done, rest, rfl, by rw [log_cons, hdone], ha, hrest⟩

/-- A ticket below the counter stays outdated through any run. -/
theorem log_outdated {s : Slot α} {es : List (Event α)} {between behind : List (Entry α)}
    {t : Ticket} {outcome : Except Failure α} {a : Answer} (ht : t.number < s.latest)
    (h : s.log es = between ++ ⟨.settle t outcome, a⟩ :: behind) : a = .settled .stale := by
  obtain ⟨done, rest, -, -, ha, -⟩ := log_split h
  have hlt : t.number < (s.after done).latest := by
    rw [latest_after]
    omega
  have hs : (s.after done).isCurrent t = false := by
    simp only [isCurrent, beq_eq_false_iff_ne]
    omega
  refine ha.trans ?_
  rw [answer, settle_stale outcome hs]

/-- The ticket at the counter counts until an event outdates it. -/
theorem log_current {s : Slot α} {es : List (Event α)} {between behind : List (Entry α)}
    {t : Ticket} {outcome : Except Failure α} {a : Answer} (ht : t.number = s.latest)
    (h : s.log es = between ++ ⟨.settle t outcome, a⟩ :: behind) :
    a = .settled (if between.any (·.event.outdates) then .stale else .ofOutcome outcome) := by
  induction between generalizing s es with
  | nil =>
    obtain ⟨done, rest, -, hdone, ha, -⟩ := log_split h
    have hnil : done = [] := by
      cases done with
      | nil => rfl
      | cons x done => simp at hdone
    subst hnil
    have hs : s.isCurrent t = true := by simp [isCurrent, ht]
    refine ha.trans ?_
    rw [after_nil, answer, settle_current outcome hs]
    cases outcome <;> rfl
  | cons b between ih =>
    cases es with
    | nil => simp at h
    | cons x es =>
      simp only [log_cons, List.cons_append, List.cons.injEq] at h
      obtain ⟨rfl, h⟩ := h
      cases hx : x.outdates with
      | true =>
        have hlt : t.number < (s.next x).latest := by
          rw [latest_next, hx, if_pos rfl]
          omega
        rw [log_outdated hlt h]
        simp [hx]
      | false =>
        have heq : t.number = (s.next x).latest := by
          rw [latest_next, hx]
          simpa using ht
        rw [ih heq h]
        simp [hx]

/-! ## The value shown -/

theorem shows_cons {e : Entry α} {log : List (Entry α)} {x : α} :
    Shows (e :: log) x ↔
      Shows log x ∨ ((∃ t, e = ⟨.settle t (.ok x), .settled .applied⟩) ∧ Quiet log) := by
  constructor
  · rintro ⟨before, t, behind, h, hq⟩
    cases before with
    | nil =>
      simp only [List.nil_append, List.cons.injEq] at h
      obtain ⟨rfl, rfl⟩ := h
      exact .inr ⟨⟨t, rfl⟩, hq⟩
    | cons b before =>
      simp only [List.cons_append, List.cons.injEq] at h
      exact .inl ⟨before, t, behind, h.2, hq⟩
  · rintro (⟨before, t, behind, rfl, hq⟩ | ⟨⟨t, rfl⟩, hq⟩)
    · exact ⟨e :: before, t, behind, rfl, hq⟩
    · exact ⟨[], t, log, rfl, hq⟩

theorem quiet_cons {e : Entry α} {log : List (Entry α)} :
    Quiet (e :: log) ↔ (e.applied? = none ∧ e.event.isClear = false) ∧ Quiet log := by
  simp [Quiet]

/-- The value after a run is one that the run applied, or the one before it if the run is quiet. -/
theorem current_after_iff (s : Slot α) (es : List (Event α)) (x : α) :
    (s.after es).current = some x ↔
      Shows (s.log es) x ∨ (s.current = some x ∧ Quiet (s.log es)) := by
  induction es generalizing s with
  | nil => simp [Shows, Quiet]
  | cons e es ih =>
    rw [after_cons, ih, log_cons, shows_cons, quiet_cons, or_assoc]
    refine or_congr_right ?_
    cases ha : Entry.applied? ⟨e, s.answer e⟩ with
    | some t =>
      -- the event applies an outcome, whose value takes the place of the one before
      obtain ⟨-, y, rfl, hans, hn⟩ := applied?_entry ha
      simp [hn, hans]
    | none =>
      have hne : ¬ ∃ t, (⟨e, s.answer e⟩ : Entry α) = ⟨.settle t (.ok x), .settled .applied⟩ := by
        rintro ⟨t, h⟩
        rw [h] at ha
        cases ha
      cases hc : e.isClear with
      | true =>
        have hn : (s.next e).current = none := by
          cases e with
          | clear => rfl
          | issue => cases hc
          | settle t outcome => cases hc
        simp only [hn, hne, reduceCtorEq, false_and, and_false, or_false]
      | false =>
        simp only [current_next_of_quiet ha hc, hne, false_and, true_and, false_or]

theorem current_iff (es : List (Event α)) (x : α) :
    ((empty : Slot α).after es).current = some x ↔ Shows (empty.log es) x := by
  rw [current_after_iff]
  simp [empty]

/-! ## Histories -/

/-- Only the latest request may touch a slot. In any run from the empty slot:

* tickets are handed out with ever greater numbers;
* an outcome for a ticket that the run issued is stale exactly when another ticket was issued, or
  the slot cleared, in between, and otherwise it is applied or reported;
* no outcome is applied after that of a later ticket;
* the slot shows the value of the last outcome applied since it was last cleared;
* an outcome that is not applied leaves the slot as it was;
* the counter is the number of issues and clearings, so 64 bits hold it for fewer than `2 ^ 64`. -/
theorem only_latest_applies (events : List (Event α)) :
    (((empty : Slot α).log events).filterMap Entry.issued?).Pairwise
      (fun t u => t.number < u.number) ∧
    (∀ before t between outcome a behind,
      (empty : Slot α).log events =
          before ++ ⟨.issue, .issued t⟩ :: (between ++ ⟨.settle t outcome, a⟩ :: behind) →
        a = .settled (if between.any (·.event.outdates) then .stale else .ofOutcome outcome)) ∧
    (((empty : Slot α).log events).filterMap Entry.applied?).Pairwise
      (fun t u => t.number ≤ u.number) ∧
    (∀ x, ((empty : Slot α).after events).current = some x ↔ Shows (empty.log events) x) ∧
    (∀ done t outcome rest, events = done ++ .settle t outcome :: rest →
      ((empty : Slot α).after done).answer (.settle t outcome) ≠ .settled .applied →
        (empty : Slot α).after (done ++ [.settle t outcome]) = empty.after done) ∧
    ((empty : Slot α).after events).latest = events.countP Event.outdates := by
  refine ⟨issued_increasing _ _, ?_, applied_ordered _ _, current_iff events, ?_, ?_⟩
  · intro before t between outcome a behind h
    obtain ⟨done, rest, -, -, ha, hrest⟩ := log_split h
    have hlatest : t.number = (((empty : Slot α).after done).next .issue).latest := by
      simp only [answer, issue, Answer.issued.injEq] at ha
      rw [ha]
      rfl
    exact log_current hlatest hrest
  · intro done t outcome rest _ h
    have hne : (((empty : Slot α).after done).settle t outcome).1 ≠ .applied := by
      simpa [answer] using h
    simp only [after, List.foldl_append, List.foldl_cons, List.foldl_nil]
    exact next_settle_of_ne_applied hne
  · rw [latest_after]
    simp [empty]

example :
    (empty : Slot Char).log [.issue, .issue, .settle ⟨2⟩ (.ok 'b'), .settle ⟨1⟩ (.ok 'a'), .clear] =
      [⟨.issue, .issued ⟨1⟩⟩, ⟨.issue, .issued ⟨2⟩⟩,
        ⟨.settle ⟨2⟩ (.ok 'b'), .settled .applied⟩, ⟨.settle ⟨1⟩ (.ok 'a'), .settled .stale⟩,
        ⟨.clear, .cleared⟩] := rfl

end Slot
end BacktestDesk
