import BacktestDesk.Proofs.DocumentText
import BacktestDesk.Proofs.InstantRoundTrip
import BacktestDesk.Proofs.KeptNumber
import BacktestDesk.Proofs.SignalKeys

/-!
# BacktestDesk.Proofs.ChartRoundTrip

A chart is read back from the document that it is written as, and from the text of this document.

* `Chart.codec`: every chart of finite numbers and whole numbers of 64 bits.
* `Chart.fits_of_shows`: the chart of an answer that was read is one.
* `Chart.shown_chart_read_back`: every chart that is made of a document. As text it comes back with
  its numbers as they are read, which need not be those that were written
  (`Chart.price_read_back_otherwise`).
-/

namespace BacktestDesk

open Json Calendar

/-! ## Numbers of a chart -/

namespace Point

def numbers (q : Point) : List Double :=
  [q.value]

def mapNumbers (f : Double → Double) (q : Point) : Point :=
  { q with value := f q.value }

end Point

namespace Signals

def numbers (s : Signals) : List Double :=
  s.buy.flatMap Point.numbers ++ s.sell.flatMap Point.numbers

def mapNumbers (f : Double → Double) (s : Signals) : Signals where
  buy := s.buy.map (Point.mapNumbers f)
  sell := s.sell.map (Point.mapNumbers f)

end Signals

namespace Figures

def numbers (r : Figures) : List Double :=
  [r.threshold, r.value, r.coins] ++ r.coinValue.toList ++ [r.fees, r.pnl]

def mapNumbers (f : Double → Double) (r : Figures) : Figures :=
  { r with
    threshold := f r.threshold
    value := f r.value
    coins := f r.coins
    coinValue := r.coinValue.map f
    fees := f r.fees
    pnl := f r.pnl }

end Figures

namespace Detail

def numbers (d : Detail) : List Double :=
  d.result.numbers

def mapNumbers (f : Double → Double) (d : Detail) : Detail :=
  { d with result := d.result.mapNumbers f }

end Detail

namespace CoinReport

def numbers (r : CoinReport) : List Double :=
  [r.buyAvg, r.buyVol, r.sellAvg, r.sellVol, r.wallet, r.profit, r.fees, r.lastPrice].flatMap
    Option.toList

def mapNumbers (f : Double → Double) (r : CoinReport) : CoinReport :=
  { r with
    buyAvg := r.buyAvg.map f
    buyVol := r.buyVol.map f
    sellAvg := r.sellAvg.map f
    sellVol := r.sellVol.map f
    wallet := r.wallet.map f
    profit := r.profit.map f
    fees := r.fees.map f
    lastPrice := r.lastPrice.map f }

end CoinReport

namespace Chart

/-- The real numbers of a chart, from its prices to its reports. -/
def numbers (c : Chart) : List Double :=
  c.priceSeries.flatMap Point.numbers ++ c.tradeSeries.flatMap Point.numbers ++
    c.signalSeries.entries.flatMap (fun e => e.2.numbers) ++
    c.lossSeries.toList.flatMap (fun qs => qs.flatMap Point.numbers) ++
    c.details.flatMap Detail.numbers ++ c.reports.entries.flatMap (fun e => e.2.numbers)

/-- A chart with other real numbers; its texts, instants, keys and counts stay. -/
def mapNumbers (f : Double → Double) (c : Chart) : Chart :=
  { c with
    priceSeries := c.priceSeries.map (Point.mapNumbers f)
    tradeSeries := c.tradeSeries.map (Point.mapNumbers f)
    signalSeries := c.signalSeries.map (Signals.mapNumbers f)
    lossSeries := c.lossSeries.map (List.map (Point.mapNumbers f))
    details := c.details.map (Detail.mapNumbers f)
    reports := c.reports.map (CoinReport.mapNumbers f) }

end Chart

/-! ## Layouts -/

namespace Json.Codec

theorem read_ofInstant (t : Instant) : readInstant (ofInstant t) = .ok t := by
  simp only [readInstant, readMoment, ofInstant, Timestamp.lenient_text]

def instant : Codec Instant :=
  plain readInstant ofInstant 0 (fun t x => by rw [ofInstant, t.str]; exact read_ofInstant x)
    (fun _ h => by cases h) (fun _ => .str _) fun _ => trivial

end Json.Codec

namespace Point

def layout : Layout Point Point :=
  (Layout.none mk).and (.required "instant" .instant) instant
    |>.and (.required "value" .real) value

theorem describes : layout.Describes where
  names := by decide
  build_parts _ := rfl
  parts_build _ := rfl

def codec : Codec Point :=
  layout.codec describes .document "Point" toJson fun _ => rfl

theorem numbers_codec : codec.numbers = numbers := rfl

end Point

namespace Signals

def layout : Layout Signals Signals :=
  (Layout.none mk).and (.required "buy" Point.codec.list) buy
    |>.and (.required "sell" Point.codec.list) sell

theorem describes : layout.Describes where
  names := by decide
  build_parts _ := rfl
  parts_build _ := rfl

def codec : Codec Signals :=
  layout.codec describes .document "SignalSeries" toJson fun _ => rfl

theorem numbers_codec : codec.numbers = numbers := rfl

end Signals

namespace Figures

theorem numbers_codec : codec.numbers = numbers := by
  funext r
  obtain ⟨trades, threshold, value, coins, coinValue, fees, pnl⟩ := r
  cases coinValue <;> rfl

end Figures

namespace CoinReport

theorem numbers_codec : codec.numbers = numbers := by
  funext r
  obtain ⟨buy, buyAvg, buyVol, sell, sellAvg, sellVol, wallet, profit, fees, lastPrice, stamp⟩ := r
  cases buy <;> cases sell <;> cases stamp <;>
    simp [codec, Layout.codec, layout, Layout.numbers, Layout.parts, Slot.numbers, Codec.text,
      Codec.plain, Codec.unsigned64, Codec.whole, Codec.real, numbers]

theorem again_codec (f : Double → Double) : codec.again f = mapNumbers f := by
  funext r
  obtain ⟨buy, buyAvg, buyVol, sell, sellAvg, sellVol, wallet, profit, fees, lastPrice, stamp⟩ := r
  cases buy <;> cases sell <;> cases stamp <;> rfl

end CoinReport

namespace Detail

def layout : Layout Detail Detail :=
  (Layout.none mk).and (.required "coin" .text) coin
    |>.and (.required "duration" .signed64) duration
    |>.and (.optional "prev" .signed64 true false) prev
    |>.and (.optional "next" .signed64 true false) next
    |>.and (.required "result" Figures.codec) result

theorem describes : layout.Describes where
  names := by decide
  build_parts _ := rfl
  parts_build _ := rfl

def codec : Codec Detail :=
  layout.codec describes .document "RunDetail" toJson fun _ => rfl

theorem numbers_codec : codec.numbers = numbers := by
  funext d
  obtain ⟨coin, duration, prev, next, result⟩ := d
  rw [numbers, ← Figures.numbers_codec]
  cases prev <;> cases next <;> rfl

theorem again_codec (f : Double → Double) : codec.again f = mapNumbers f := by
  funext d
  obtain ⟨coin, duration, prev, next, result⟩ := d
  cases prev <;> cases next <;> rfl

end Detail

namespace Chart

def layout : Layout Chart Chart :=
  (Layout.none mk).and (.required "coin" .text) coin
    |>.and (.required "timeAxis" Codec.instant.list) timeAxis
    |>.and (.required "priceSeries" Point.codec.list) priceSeries
    |>.and (.required "tradeSeries" Point.codec.list) tradeSeries
    |>.and (.required "signalSeries" Signals.codec.textMap) signalSeries
    |>.and (.optional "lossSeries" Point.codec.list false false) lossSeries
    |>.and (.required "runDetails" Detail.codec.list) details
    |>.and (.required "reports" CoinReport.codec.textMap) reports

theorem describes : layout.Describes where
  names := by decide
  build_parts _ := rfl
  parts_build _ := rfl

def codec : Codec Chart :=
  layout.codec describes .document "VisualizationModel" toJson fun _ =>
    congrArg Json.obj (List.append_assoc _ [_] [_]).symm

theorem again_codec (f : Double → Double) (c : Chart) : codec.again f c = c.mapNumbers f := by
  have hagain : codec.again f c =
      { c.mapNumbers f with
        timeAxis := c.timeAxis.map id
        details := c.details.map (Detail.codec.again f)
        reports := c.reports.map (CoinReport.codec.again f) } := rfl
  rw [hagain, List.map_id, Detail.again_codec, CoinReport.again_codec]
  rfl

theorem numbers_codec (c : Chart) : codec.numbers c = c.numbers := by
  have htime : c.timeAxis.flatMap (fun _ => ([] : List Double)) = [] :=
    List.flatMap_eq_nil_iff.mpr fun _ _ => rfl
  simp [codec, Layout.codec, layout, Layout.numbers, Layout.parts, Slot.numbers, Codec.text,
    Codec.plain, Codec.list, Codec.textMap, Codec.instant, Point.numbers_codec,
    Signals.numbers_codec, Detail.numbers_codec, CoinReport.numbers_codec, numbers, htime]

/-! ## Charts of an answer -/

theorem series_fit {ps : List Sample} {qs : List Point} (h : SeriesOf ps qs)
    (hps : ∀ p ∈ ps, Sample.codec.Fits p) : ∀ q ∈ qs, Point.codec.Fits q :=
  forall_of_forall₂ h hps fun p q ⟨_, hvalue, _⟩ hq => by
    have hfinite : q.value.isFinite := hq.value ▸ hvalue
    exact ⟨trivial, hfinite, trivial⟩

theorem signals_fit {s : SignalSamples} {t : Signals} (h : SignalsOf s t)
    (hs : SignalSamples.codec.Fits s) : Signals.codec.Fits t := by
  obtain ⟨hbuy, hsell, -⟩ := hs
  exact ⟨series_fit h.buy hbuy, series_fit h.sell hsell, trivial⟩

theorem detail_fits {e : RunEntry} {d : Detail} (h : DetailOf e d) (he : RunEntry.codec.Fits e) :
    Detail.codec.Fits d := by
  obtain ⟨-, hduration, hprev, hnext, hresult, -⟩ := he
  obtain ⟨coin, duration, prev, next, result⟩ := d
  obtain ⟨rfl, rfl, rfl, rfl, hsome⟩ := h
  exact ⟨trivial, hduration, hprev, hnext, hresult result hsome, trivial⟩

theorem loss_fits {loss : Option (List Sample)} {series : Option (List Point)}
    (h : Option.Rel SeriesOf loss series) (hloss : ∀ ps ∈ loss, Sample.codec.list.Fits ps) :
    ∀ qs ∈ series, Point.codec.list.Fits qs := by
  cases h with
  | none => exact fun qs hqs => absurd hqs (Option.not_mem_none qs)
  | some h =>
    rintro qs hqs
    cases hqs
    exact series_fit h (hloss _ rfl)

theorem fits_of_shows {c : Chart} {p : RunAnswer} (h : c.Shows p) (hp : RunAnswer.codec.Fits p) :
    codec.Fits c := by
  obtain ⟨-, hprice, htrades, htrigger, hloss, hdetails, hreport, -⟩ := hp
  have hsignals : ∀ e ∈ c.signalSeries.entries, Signals.codec.Fits e.2 :=
    forall_of_forall₂ h.signalSeries htrigger fun _ _ he hs => signals_fit hs.2 he
  have hruns : ∀ d ∈ c.details, Detail.codec.Fits d :=
    forall_of_forall₂ h.details hdetails fun _ _ he hd => detail_fits hd he
  have hreports : ∀ e ∈ c.reports.entries, CoinReport.codec.Fits e.2 := by
    rw [h.reports]
    cases hr : p.report with
    | none => exact List.forall_mem_nil _
    | some m => exact hreport m hr
  exact ⟨trivial, fun _ _ => trivial, series_fit h.priceSeries hprice,
    series_fit h.tradeSeries htrades, hsignals, loss_fits h.lossSeries hloss, hruns, hreports,
    trivial⟩

theorem fits_of_ofJson {v : Json} (hv : v.Proper) {c : Chart} (h : ofJson v = .ok c) :
    codec.Fits c := by
  obtain ⟨p, hp, hshows⟩ := answer_of_ofJson h
  exact fits_of_shows hshows (RunAnswer.codec.fits hv hp)

/-- The text of a chart, on many lines or one, is read as the chart with its numbers read again. -/
theorem read_text {c : Chart} (h : codec.Fits c) :
    ∀ text ∈ [c.toJson.pretty, c.toJson.compact], ∃ w, ofText? text = some w ∧
      read w = .ok (c.mapNumbers Double.reread) := by
  have hproper : c.toJson.Proper := codec.proper h
  have hwithin : c.toJson.Within Reader.maxDepth := (codec.within h).mono (by decide)
  have hread : read c.toJson.reread = .ok (codec.again Double.reread c) := codec.back .text h
  rw [again_codec] at hread
  exact hproper.read_texts hwithin hread

theorem mapNumbers_of_fixed {f : Double → Double} {c : Chart} (h : ∀ x ∈ c.numbers, f x = x) :
    c.mapNumbers f = c := by
  rw [← again_codec]
  exact codec.fixed (by rwa [numbers_codec])

/-- The chart of a document is read back from the document that it is written as, whatever form the
answer had and its timestamps. The document itself is read as the chart. Its text, on many lines or
on one, is read as the chart with each real number as the text of this number is read, and all else
as it was; it is the chart itself if these numbers stay the same, as those do that have up to
fifteen digits and no exponent. -/
theorem shown_chart_read_back {v : Json} (hv : v.Proper) {c : Chart} (h : ofJson v = .ok c) :
    read c.toJson = .ok c ∧
    ∀ text ∈ [c.toJson.pretty, c.toJson.compact], ∃ w, ofText? text = some w ∧
      read w = .ok (c.mapNumbers Double.reread) ∧
      ((∀ x ∈ c.numbers, x.IsShort ∨ x.reread = x) → read w = .ok c) := by
  have hfits := fits_of_ofJson hv h
  refine ⟨codec.read_write hfits, fun text htext => ?_⟩
  obtain ⟨w, hw, hread⟩ := read_text hfits text htext
  refine ⟨w, hw, hread, fun hnumbers => ?_⟩
  rw [hread, mapNumbers_of_fixed fun x hx => (hnumbers x hx).elim Double.reread_of_isShort id]

/-- A leap second seen from another zone, with more digits than there are nanoseconds. -/
def leapAnswer : Json :=
  .obj [("details", .arr []), ("loss", .arr []),
    ("price", .arr [.arr [.str "2016-12-31t18:59:60.1234567891-05:00", .int 7]]),
    ("time", .arr [.str "2016-12-31t18:59:60.1234567891-05:00"]), ("trades", .arr []),
    ("trigger", .obj [])]

theorem proper_leapAnswer : leapAnswer.Proper := by
  simp [leapAnswer, minInt, maxInt]

theorem shown_chart_read_back_leapAnswer :
    leapAnswer.Proper ∧ ∃ c, ofJson leapAnswer = .ok c ∧ read c.toJson = .ok c ∧
      (∃ w, ofText? c.toJson.pretty = some w ∧ read w = .ok c) ∧
      c.timeAxis.map Instant.text = ["2016-12-31T23:59:60.123456789Z"] ∧
      c.lossSeries = some [] := by
  obtain ⟨hvalue, htext⟩ := shown_chart_read_back proper_leapAnswer rfl
  obtain ⟨w, hw, -, hread⟩ := htext _ List.mem_cons_self
  refine ⟨proper_leapAnswer, _, rfl, hvalue, ⟨w, hw, hread fun x hx => .inl ?_⟩, by decide, rfl⟩
  have hx : x = .ofInt 7 := List.mem_singleton.mp hx
  rw [hx]
  decide +kernel

/-- A price that is written with seventeen digits, the last of which is lost when it is read. -/
def price : Double := .ofDecimal false 14506102391881983 (-12)

def misreadAnswer : Json :=
  .obj [("details", .arr []), ("price", .arr [.arr [.str "2021-01-01T00:00:00Z", .float price]]),
    ("time", .arr []), ("trades", .arr []), ("trigger", .obj [])]

/-- Not every chart is read back from its text as it was. -/
theorem price_read_back_otherwise :
    misreadAnswer.Proper ∧ ∃ c w c', ofJson misreadAnswer = .ok c ∧
      ofText? c.toJson.pretty = some w ∧ read w = .ok c' ∧
      c.priceSeries.map (fun q => q.value.plain) = ["14506.102391881983"] ∧
      c'.priceSeries.map (fun q => q.value.plain) = ["14506.102391881985"] ∧ c' ≠ c := by
  have hproper : misreadAnswer.Proper := by
    have hfinite : price.isFinite := by decide +kernel
    simp [misreadAnswer, Proper.float hfinite]
  obtain ⟨w, hw, hread⟩ := read_text (fits_of_ofJson hproper rfl) _ List.mem_cons_self
  refine ⟨hproper, _, w, _, rfl, hw, hread, by decide +kernel, by decide +kernel, ?_⟩
  decide +kernel

end Chart
end BacktestDesk
