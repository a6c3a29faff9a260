import BacktestDesk.Proofs.ChartFidelity
import BacktestDesk.Proofs.RecordLayout

/-!
# BacktestDesk.Proofs.AnswerLayout

The records of an answer as rows of fields, from single samples to the whole answer.

* `Trigger.codec`: a trigger is read back in the form that it has, whatever its strategies are
  called. Records of one form are told from those of the other by the value of their first field.
* `RunAnswer.codec`: the whole answer.
-/

namespace BacktestDesk

open Json

/-! ## Samples and signals -/

namespace Sample

def layout : Layout Sample Sample :=
  (Layout.none mk).and (.required "x" .text) stamp |>.and (.required "y" .real) value

theorem describes : layout.Describes where
  names := by decide
  build_parts _ := rfl
  parts_build _ := rfl

def codec : Codec Sample :=
  layout.codec describes .document "RawPoint" toJson fun _ => rfl

end Sample

namespace SignalSamples

def layout : Layout SignalSamples SignalSamples :=
  (Layout.none mk).and (.required "buy" Sample.codec.list) buy
    |>.and (.required "sell" Sample.codec.list) sell

theorem describes : layout.Describes where
  names := by decide
  build_parts _ := rfl
  parts_build _ := rfl

def codec : Codec SignalSamples :=
  layout.codec describes .document "RawSignalPair" toJson fun _ => rfl

theorem buy_of_read {v : Json} {s : SignalSamples} (h : read v = .ok s) :
    ∃ w, part? "buy" 0 v = some w ∧ readList Sample.read w = .ok s.buy := by
  obtain ⟨hbuy, -⟩ := layout.reads describes h
  exact hbuy

end SignalSamples

/-! ## The two forms of a trigger -/

namespace Trigger

theorem read_of_pair {v : Json} {s : SignalSamples} (h : SignalSamples.read v = .ok s) :
    read v = .ok (flat s) := by
  simp only [read, readFirst, readFlat, h]

theorem keyed_of_read {v : Json} {t : Trigger} (hv : ¬ ∃ s, SignalSamples.read v = .ok s)
    (h : read v = .ok t) : ∃ m, readTextMap SignalSamples.read v = .ok m ∧ t = keyed m := by
  cases hs : SignalSamples.read v with
  | ok s => exact absurd ⟨s, hs⟩ hv
  | error e =>
    cases hm : readTextMap SignalSamples.read v with
    | error e' =>
      simp only [read, readFirst, readFlat, readKeyed, hs, hm] at h
      cases h
    | ok m =>
      simp only [read, readFirst, readFlat, readKeyed, hs, hm] at h
      cases h
      exact ⟨m, rfl, rfl⟩

theorem read_of_map {v : Json} {m : TextMap SignalSamples}
    (hv : ¬ ∃ s, SignalSamples.read v = .ok s)
    (hm : readTextMap SignalSamples.read v = .ok m) : read v = .ok (keyed m) := by
  cases hs : SignalSamples.read v with
  | ok s => exact absurd ⟨s, hs⟩ hv
  | error e => simp only [read, readFirst, readFlat, readKeyed, hs, hm]

/-- Whatever the strategies are called, the value of each comes back as an object. -/
theorem not_pair_of_keyed (t : Retelling) (m : TextMap SignalSamples) :
    ¬ ∃ s, SignalSamples.read (t.tell (ofTextMap SignalSamples.toJson m)) = .ok s := by
  have hkeys : ((m.map SignalSamples.toJson).entries.map Prod.fst).Nodup := TextMap.keys_nodup _
  obtain ⟨fields, htell, hperm⟩ := t.obj _ hkeys
  have htell : t.tell (ofTextMap SignalSamples.toJson m) = .obj fields := htell
  rintro ⟨s, hs⟩
  rw [htell] at hs
  obtain ⟨w, hw, hlist⟩ := SignalSamples.buy_of_read hs
  have hw : (field? "buy" (.obj (m.map SignalSamples.toJson).entries)).map t.tell = some w :=
    (t.field?_tell hkeys hperm "buy").symm.trans hw
  obtain ⟨v, hv, rfl⟩ := Option.map_eq_some_iff.mp hw
  obtain ⟨e, -, he⟩ := List.mem_map.mp ((field?_eq_some_iff hkeys).mp hv)
  obtain ⟨-, rfl⟩ := Prod.mk.injEq _ _ _ _ ▸ he
  have hpair := SignalSamples.layout.nodup_keys_entries SignalSamples.describes.names
    (SignalSamples.layout.parts e.2)
  obtain ⟨fields', hobj, -⟩ := t.obj _ hpair
  have hobj : t.tell e.2.toJson = .obj fields' := hobj
  rw [hobj] at hlist
  cases hlist

def codec : Codec Trigger where
  read := read
  write := toJson
  Fits t := ∀ e ∈ t.entries, SignalSamples.codec.Fits e.2
  numbers t := t.entries.flatMap fun e => SignalSamples.codec.numbers e.2
  again f
    | flat s => flat (SignalSamples.codec.again f s)
    | keyed m => keyed (m.map (SignalSamples.codec.again f))
  depth := SignalSamples.codec.depth + 1
  fits := by
    intro v t hv h
    by_cases hpair : ∃ s, SignalSamples.read v = .ok s
    · obtain ⟨s, hs⟩ := hpair
      rw [read_of_pair hs] at h
      cases h
      exact List.forall_mem_singleton.mpr (SignalSamples.codec.fits hv hs)
    · obtain ⟨m, hm, rfl⟩ := keyed_of_read hpair h
      exact SignalSamples.codec.textMap.fits hv hm
  back := by
    intro t x h
    cases x with
    | flat s => exact read_of_pair (SignalSamples.codec.back t (h _ List.mem_cons_self))
    | keyed m => exact read_of_map (not_pair_of_keyed t m) (SignalSamples.codec.textMap.back t h)
  fixed := by
    intro f x h
    cases x with
    | flat s =>
      exact congrArg flat (SignalSamples.codec.fixed (by simpa [entries] using h))
    | keyed m => exact congrArg keyed (SignalSamples.codec.textMap.fixed h)
  null h := by cases h
  proper := by
    intro x h
    cases x with
    | flat s => exact SignalSamples.codec.proper (h _ List.mem_cons_self)
    | keyed m => exact SignalSamples.codec.textMap.proper h
  within := by
    intro x h
    cases x with
    | flat s => exact (SignalSamples.codec.within (h _ List.mem_cons_self)).mono (Nat.le_succ _)
    | keyed m => exact SignalSamples.codec.textMap.within h

end Trigger

/-! ## Runs and reports -/

namespace Figures

def layout : Layout Figures Figures :=
  (Layout.none mk).and (.required "trades" .signed64) trades
    |>.and (.required "threshold" .real) threshold
    |>.and (.required "value" .real) value
    |>.and (.required "coins" .real) coins
    |>.and (.optional "coinValue" .real false false) coinValue
    |>.and (.required "fees" .real) fees
    |>.and (.required "pnl" .real) pnl

theorem describes : layout.Describes where
  names := by decide
  build_parts _ := rfl
  parts_build _ := rfl

def codec : Codec Figures :=
  layout.codec describes .document "RunResult" toJson fun _ =>
    congrArg Json.obj (List.append_assoc _ [_] [_]).symm

end Figures

namespace RunEntry

def layout : Layout RunEntry RunEntry :=
  (Layout.none mk).and (.required "coin" .text) coin
    |>.and (.required "duration" .signed64) duration
    |>.and (.optional "prev" .signed64 false true) prev
    |>.and (.optional "next" .signed64 false true) next
    |>.and (.optional "result" Figures.codec false true) result

theorem describes : layout.Describes where
  names := by decide
  build_parts _ := rfl
  parts_build _ := rfl

def codec : Codec RunEntry :=
  layout.codec describes .document "RawRunDetail" toJson fun _ => rfl

end RunEntry

namespace CoinReport

def layout : Layout CoinReport CoinReport :=
  (Layout.none mk).and (.optional "buy" .unsigned64 false true) buy
    |>.and (.optional "buy_avg" .real false true) buyAvg
    |>.and (.optional "buy_vol" .real false true) buyVol
    |>.and (.optional "sell" .unsigned64 false true) sell
    |>.and (.optional "sell_avg" .real false true) sellAvg
    |>.and (.optional "sell_vol" .real false true) sellVol
    |>.and (.optional "wallet" .real false true) wallet
    |>.and (.optional "profit" .real false true) profit
    |>.and (.optional "fees" .real false true) fees
    |>.and (.optional "last_price" .real false false) lastPrice
    |>.and (.optional "stamp" .text false false) stamp

theorem describes : layout.Describes where
  names := by decide
  build_parts _ := rfl
  parts_build _ := rfl

def codec : Codec CoinReport :=
  layout.codec describes .document "RawReport" toJson fun _ => rfl

end CoinReport

/-! ## The whole answer -/

namespace RunAnswer

def layout : Layout RunAnswer RunAnswer :=
  (Layout.none mk).and (.required "time" Codec.text.list) time
    |>.and (.required "price" Sample.codec.list) price
    |>.and (.required "trades" Sample.codec.list) trades
    |>.and (.required "trigger" Trigger.codec) trigger
    |>.and (.optional "loss" Sample.codec.list false false) loss
    |>.and (.required "details" RunEntry.codec.list) details
    |>.and (.optional "report" CoinReport.codec.textMap false false) report

theorem describes : layout.Describes where
  names := by decide
  build_parts _ := rfl
  parts_build _ := rfl

def codec : Codec RunAnswer :=
  layout.codec describes .document "RawResultPayload" toJson fun _ => rfl

end RunAnswer
end BacktestDesk
