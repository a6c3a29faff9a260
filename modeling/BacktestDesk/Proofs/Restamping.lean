import BacktestDesk.Proofs.ChartFidelity
import BacktestDesk.Proofs.StampReading

/-!
# BacktestDesk.Proofs.Restamping

Answers whose timestamps are written in another way. A timestamp may be moved to another offset, or
be written with more or fewer digits, as long as it stands for the same moment; what is shown of the
answer, or said of it, stays the same.

* `Restamped`: the same text, or two texts of one moment.
* `Chart.ofAnswer_restamped`: the chart of such an answer, or its fault.
* `Chart.moments_resolved`: the moment of a timestamp, and what follows for answers.
-/

namespace BacktestDesk

open Calendar

/-! ## Timestamps of one moment -/

/-- A timestamp is kept, whether or not it can be read, or another text of its moment is put in its
place. -/
inductive Restamped : String → String → Prop where
  | kept (raw : String) : Restamped raw raw
  | moved (w v : Timestamp.Written) (seconds : w.seconds = v.seconds) (nanos : w.nanos = v.nanos) :
    Restamped w.text v.text

theorem Calendar.Timestamp.Written.instant_eq {w v : Timestamp.Written}
    (hseconds : w.seconds = v.seconds) (hnanos : w.nanos = v.nanos) : w.instant = v.instant := by
  simp only [Timestamp.Written.instant, hseconds, hnanos]

structure Sample.Restamped (p q : Sample) : Prop where
  stamp : BacktestDesk.Restamped p.stamp q.stamp
  value : p.value = q.value

structure SignalSamples.Restamped (s t : SignalSamples) : Prop where
  buy : List.Forall₂ Sample.Restamped s.buy t.buy
  sell : List.Forall₂ Sample.Restamped s.sell t.sell

inductive Trigger.Restamped : Trigger → Trigger → Prop where
  | flat {s t : SignalSamples} (h : s.Restamped t) : Restamped (.flat s) (.flat t)
  | keyed {m n : TextMap SignalSamples}
    (h : List.Forall₂ (fun e e' => e.1 = e'.1 ∧ e.2.Restamped e'.2) m.entries n.entries) :
    Restamped (.keyed m) (.keyed n)

/-- Two answers that differ in how timestamps are written, and in nothing else. -/
structure RunAnswer.Restamped (p q : RunAnswer) : Prop where
  time : List.Forall₂ BacktestDesk.Restamped p.time q.time
  price : List.Forall₂ Sample.Restamped p.price q.price
  trades : List.Forall₂ Sample.Restamped p.trades q.trades
  trigger : p.trigger.Restamped q.trigger
  loss : Option.Rel (List.Forall₂ Sample.Restamped) p.loss q.loss
  details : p.details = q.details
  report : p.report = q.report

/-! ## Sections -/

namespace Chart

theorem stampOf_written (w : Timestamp.Written) : StampOf w.text w.instant :=
  stampOf_iff.mpr (Timestamp.strict_text w)

/-- A text that is kept is not even looked at, so one that cannot be read is blamed as before. -/
theorem resolveStamp_restamped {raw raw' : String} (h : Restamped raw raw') (place : Place) :
    resolveStamp place raw = resolveStamp place raw' := by
  cases h with
  | kept => rfl
  | moved w v hseconds hnanos =>
    rw [resolveStamp_ok_iff.mpr (stampOf_written w), resolveStamp_ok_iff.mpr (stampOf_written v),
      Timestamp.Written.instant_eq hseconds hnanos]

theorem resolvePoint_restamped {p q : Sample} (h : p.Restamped q) (place : Nat → Place) (i : Nat) :
    resolvePoint place i p = resolvePoint place i q := by
  rw [resolvePoint, resolvePoint, resolveStamp_restamped h.stamp, h.value]

theorem resolvePoints_restamped {ps qs : List Sample} (h : List.Forall₂ Sample.Restamped ps qs)
    (place : Nat → Place) : resolvePoints place ps = resolvePoints place qs :=
  resolveAll_congr (h.imp fun _ _ hpq => resolvePoint_restamped hpq place) 0

theorem resolveSignals_restamped {s t : SignalSamples} (h : s.Restamped t)
    (place : Side → Nat → Place) : resolveSignals place s = resolveSignals place t := by
  rw [resolveSignals, resolveSignals, resolvePoints_restamped h.buy, resolvePoints_restamped h.sell]

theorem resolveTrigger_restamped {s t : Trigger} (h : s.Restamped t) :
    resolveTrigger s = resolveTrigger t := by
  cases h with
  | flat h => rw [resolveTrigger, resolveTrigger, resolveSignals_restamped h]
  | keyed h =>
    rw [resolveTrigger, resolveTrigger]
    refine TextMap.mapM_congr (TextMap.traverse_congr (h.imp fun e e' he => ?_))
    exact ⟨he.1, fun k => resolveSignals_restamped he.2 (.keyedSignal k)⟩

theorem resolveLoss_restamped {ps qs : Option (List Sample)}
    (h : Option.Rel (List.Forall₂ Sample.Restamped) ps qs) : resolveLoss ps = resolveLoss qs := by
  cases h with
  | none => rfl
  | some h => rw [resolveLoss, resolveLoss, resolvePoints_restamped h]

theorem ofAnswer_restamped {p q : RunAnswer} (h : p.Restamped q) : ofAnswer p = ofAnswer q := by
  have htime : resolveAll (fun i raw => resolveStamp (.time i) raw) 0 p.time =
      resolveAll (fun i raw => resolveStamp (.time i) raw) 0 q.time :=
    resolveAll_congr (h.time.imp fun _ _ hraw i => resolveStamp_restamped hraw (.time i)) 0
  rw [ofAnswer, ofAnswer, htime, resolvePoints_restamped h.price, resolvePoints_restamped h.trades,
    resolveTrigger_restamped h.trigger, resolveLoss_restamped h.loss, h.details, h.report]

/-! ## The whole answer -/

/-- Timestamps are resolved to their moments, whatever their offset.

* A date of the years 0 to 9999 with a time of day, any digits behind the point and any offset below
  a day is resolved wherever it is found, to the local time less the offset. A clock with that
  offset then shows the date and the time of day that are written. The fraction is cut to whole
  nanoseconds, and second 60 counts as a second more of them in second 59.
* So two texts of one moment are resolved to the same instant.
* In an answer, other texts of the same moments change nothing: there is the same chart, or the same
  fault. -/
theorem moments_resolved :
    (∀ w : Timestamp.Written, StampOf w.text w.instant ∧
      w.instant.seconds = w.date.dayNumber * 86400 +
        (w.hour * 3600 + w.minute * 60 + min w.second.val 59 : Nat) - w.zone.seconds ∧
      w.instant.nanos = (if w.second.val = 60 then 1000000000 else 0) +
        Numeral.ofDigits w.fraction * 1000000000 / 10 ^ w.fraction.length ∧
      w.ShownAt w.instant) ∧
    (∀ w v : Timestamp.Written, w.seconds = v.seconds → w.nanos = v.nanos →
      ∃ t, StampOf w.text t ∧ StampOf v.text t) ∧
    ∀ p q : RunAnswer, p.Restamped q → ofAnswer p = ofAnswer q := by
  refine ⟨fun w => ⟨stampOf_written w, rfl, rfl, w.shownAt_instant⟩, fun w v hseconds hnanos => ?_,
    fun p q => ofAnswer_restamped⟩
  refine ⟨w.instant, stampOf_written w, ?_⟩
  rw [Timestamp.Written.instant_eq hseconds hnanos]
  exact stampOf_written v

/-- A leap second of a clock that has reached the next month. -/
def leapAhead : Timestamp.Written where
  date := ⟨2017, 1, 1, by decide⟩
  mark := 'T'
  hour := 5
  minute := 44
  second := 60
  fraction := "1234567899".toList
  zone := .shifted .plus 5 45
  year_mem := by decide
  isDateEnd_mark := by decide
  fraction_isDigit := List.all_eq_true.mp (by decide)

/-- The same leap second in universal time. -/
def leapUniversal : Timestamp.Written where
  date := ⟨2016, 12, 31, by decide⟩
  mark := ' '
  hour := 23
  minute := 59
  second := 60
  fraction := "123456789".toList
  zone := .universal true
  year_mem := by decide
  isDateEnd_mark := by decide
  fraction_isDigit := List.all_eq_true.mp (by decide)

/-- An answer with one timestamp and, behind it, one that cannot be read. -/
def answerAt (raw : String) : RunAnswer where
  time := [raw, "yesterday"]
  price := []
  trades := []
  trigger := .keyed .empty
  loss := none
  details := []
  report := none

theorem moments_resolved_leapSecond :
    leapAhead.text = "2017-01-01T05:44:60.1234567899+05:45" ∧
    leapUniversal.text = "2016-12-31 23:59:60.123456789z" ∧
    leapAhead.seconds = leapUniversal.seconds ∧ leapAhead.nanos = leapUniversal.nanos ∧
    (∃ t, StampOf leapAhead.text t ∧ StampOf leapUniversal.text t) ∧
    (answerAt leapAhead.text).Restamped (answerAt leapUniversal.text) ∧
    ofAnswer (answerAt leapAhead.text) = ofAnswer (answerAt leapUniversal.text) := by
  have hseconds : leapAhead.seconds = leapUniversal.seconds := by decide
  have hnanos : leapAhead.nanos = leapUniversal.nanos := by decide
  have hanswer : (answerAt leapAhead.text).Restamped (answerAt leapUniversal.text) :=
    ⟨.cons (.moved _ _ hseconds hnanos) (.cons (.kept _) .nil), .nil, .nil, .keyed .nil, .none,
      rfl, rfl⟩
  obtain ⟨-, hsame, hrest⟩ := moments_resolved
  exact ⟨by decide, by decide, hseconds, hnanos, hsame _ _ hseconds hnanos, hanswer,
    hrest _ _ hanswer⟩

end Chart
end BacktestDesk
