import BacktestDesk.Proofs.SignalKeys

/-!
# BacktestDesk.Proofs.AnswerRoundTrip

An answer is read back from the document that it is written as.

* `not_pair_and_map`: the two forms of a trigger are told apart, also when the records in it are
  given as arrays.
* `RunAnswer.forms_apart_and_read_back`: the whole answer, with what it leaves out and with the
  chart that is made of it.
-/

namespace BacktestDesk

open Json

/-! ## The two forms of a trigger -/

theorem not_text_of_sample {v : Json} {p : Sample} {s : String} (hp : Sample.read v = .ok p)
    (hs : readText v = .ok s) : False := by
  cases v with
  | str s => cases hp
  | _ => cases hs

theorem arr_of_samples {v : Json} {ps : List Sample} (h : readList Sample.read v = .ok ps) :
    ∃ items, v = .arr items ∧ ∀ w ∈ items, ∃ p, Sample.read w = .ok p := by
  obtain ⟨items, rfl, hitems⟩ := readList_ok_iff.mp h
  exact ⟨items, rfl, exists_forall₂.mp ⟨ps, hitems⟩⟩

theorem stamp_of_sample {v : Json} {p : Sample} (h : Sample.read v = .ok p) :
    ∃ w, part? "x" 0 v = some w ∧ readText w = .ok p.stamp := by
  obtain ⟨hstamp, -⟩ := Sample.layout.reads Sample.describes h
  exact hstamp

/-- No value is a list of samples and a pair of signals at once. As an array it would hold a list of
samples that is a sample itself, and so a sample that is the text of a timestamp. -/
theorem not_pair_of_samples {v : Json} {ps : List Sample} {s : SignalSamples}
    (hps : readList Sample.read v = .ok ps) (hs : SignalSamples.read v = .ok s) : False := by
  obtain ⟨items, rfl, hsamples⟩ := arr_of_samples hps
  obtain ⟨buy, hbuy, hlist⟩ := SignalSamples.buy_of_read hs
  obtain ⟨inner, rfl, hinner⟩ := arr_of_samples hlist
  obtain ⟨p, hp⟩ := hsamples _ (List.mem_of_getElem? hbuy)
  obtain ⟨stamp, hstamp, htext⟩ := stamp_of_sample hp
  obtain ⟨q, hq⟩ := hinner stamp (List.mem_of_getElem? hstamp)
  exact not_text_of_sample hq htext

/-- The value under `buy` would be a list of samples in a pair, and a pair itself in a map. -/
theorem not_pair_and_map {v : Json} (hv : v.Proper) :
    ¬ ((∃ s, SignalSamples.read v = .ok s) ∧ ∃ m, readTextMap SignalSamples.read v = .ok m) := by
  rintro ⟨hs, m, hm⟩
  cases hv with
  | obj hkeys _ =>
    obtain ⟨⟨w, ps, hw, hps⟩, -⟩ := SignalSamples.read_obj_isOk_iff.mp hs
    obtain ⟨s, hs⟩ := exists_of_readTextMap hkeys hm hw
    exact not_pair_of_samples hps hs
  | _ => cases hm

/-! ## The whole answer -/

namespace RunAnswer

/-- What an answer gives as its losses; in an array it is the fifth element. -/
def loss? : Json → Option Json :=
  part? "loss" 4

/-- What an answer gives as its report; in an array it is the seventh element. -/
def report? : Json → Option Json :=
  part? "report" 6

theorem options_of_read {v : Json} {p : RunAnswer} (h : read v = .ok p) :
    readOption (readList Sample.read) ((loss? v).getD .null) = .ok p.loss ∧
    readOption (readTextMap CoinReport.read) ((report? v).getD .null) = .ok p.report := by
  obtain ⟨-, -, -, -, hloss, -, hreport, -⟩ := layout.reads describes h
  exact ⟨hloss, hreport⟩

theorem loss?_toJson (p : RunAnswer) :
    loss? p.toJson = p.loss.map (ofList Sample.toJson) := by
  obtain ⟨time, price, trades, trigger, loss, details, report⟩ := p
  cases loss <;> cases report <;> rfl

theorem report?_toJson (p : RunAnswer) :
    report? p.toJson = p.report.map (ofTextMap CoinReport.toJson) := by
  obtain ⟨time, price, trades, trigger, loss, details, report⟩ := p
  cases loss <;> cases report <;> rfl

/-- An answer that was read from a document survives being written: it is read back as it is, its
trigger in the same form, a list of losses or a report is there exactly when the document had one
other than `null`, and the chart or the failure is that of the document. -/
structure Survives (p : RunAnswer) (v : Json) : Prop where
  answer : read p.toJson = .ok p
  trigger : ∃ w, trigger? p.toJson = some w ∧ Trigger.read w = .ok p.trigger
  loss : p.loss = none ↔ loss? v = none ∨ loss? v = some .null
  lossWritten : loss? p.toJson = none ↔ p.loss = none
  report : p.report = none ↔ report? v = none ∨ report? v = some .null
  reportWritten : report? p.toJson = none ↔ p.report = none
  chart : Chart.ofJson p.toJson = Chart.ofJson v

theorem survives_of_read {v : Json} (hv : v.Proper) {p : RunAnswer} (h : read v = .ok p) :
    p.Survives v := by
  have hback : read p.toJson = .ok p := codec.read_write (codec.fits hv h)
  obtain ⟨hloss, hreport⟩ := options_of_read h
  exact {
    answer := hback
    trigger := trigger_of_read hback
    loss := none_iff_of_readOption hloss
    lossWritten := by rw [loss?_toJson, Option.map_eq_none_iff]
    report := none_iff_of_readOption hreport
    reportWritten := by rw [report?_toJson, Option.map_eq_none_iff]
    chart := by simp only [Chart.ofJson, hback, h] }

/-- No document is a pair of signals and a map of pairs at once, in whichever form its records are
given. Every answer that is read from a document survives being written. -/
theorem forms_apart_and_read_back {v : Json} (hv : v.Proper) :
    ¬ ((∃ s, SignalSamples.read v = .ok s) ∧ ∃ m, readTextMap SignalSamples.read v = .ok m) ∧
    ∀ p, read v = .ok p → p.Survives v :=
  ⟨not_pair_and_map hv, fun _ => survives_of_read hv⟩

/-- An answer in the form of an array that ends before its report, with a record in it that is an
array as well. -/
def arrayAnswer : Json :=
  .arr [.arr [], .arr [.arr [.str "2021-01-01T00:00:00Z", .int 7]], .arr [],
    .obj [("buy", .arr [.arr [], .arr []]),
      ("default", .obj [("buy", .arr []), ("sell", .arr [])])],
    .null, .arr []]

theorem proper_arrayAnswer : arrayAnswer.Proper := by
  simp [arrayAnswer, minInt, maxInt]

theorem forms_apart_and_read_back_arrayAnswer :
    arrayAnswer.Proper ∧ ∃ p, read arrayAnswer = .ok p ∧ p.Survives arrayAnswer ∧
      p.trigger.entries.map Prod.fst = ["buy", "default"] := by
  refine ⟨proper_arrayAnswer, _, rfl, (forms_apart_and_read_back proper_arrayAnswer).2 _ rfl, rfl⟩

end RunAnswer
end BacktestDesk
