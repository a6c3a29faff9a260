import BacktestDesk.Proofs.FetchTaxonomy
import BacktestDesk.Proofs.AnswerLayout

/-!
# BacktestDesk.Proofs.MetricsProjection

Metrics are the figures of the reports under other names. No figure is made up: one that a report
lacks is a failure, which names the first coin and the first of its figures, and a report in a
document lacks what is not there or is `null`.

* `Metrics.ofReport_ok_iff`: each metric is its own figure.
* `Metrics.tells_aggregate`: figures are looked for coin by coin, in one order.
* `CoinReport.has_of_read`: which figures a report has that was read from a document.
-/

namespace BacktestDesk

/-! ## Figures -/

/-- The figures in the order in which they are looked for. -/
def Figure.all : List Figure :=
  [.buy, .sell, .buyAvg, .sellAvg, .buyVol, .sellVol, .fees, .wallet, .profit]

/-- What a figure is called in a report, and when it is missing. -/
def Figure.key : Figure → String
  | .buy => "buy"
  | .sell => "sell"
  | .buyAvg => "buy_avg"
  | .sellAvg => "sell_avg"
  | .buyVol => "buy_vol"
  | .sellVol => "sell_vol"
  | .fees => "fees"
  | .wallet => "wallet"
  | .profit => "profit"

theorem Figure.name_eq (f : Figure) : f.name = f.key := by
  cases f <;> rfl

/-- The place of a figure in a report that is given as an array. -/
def Figure.place : Figure → Nat
  | .buy => 0
  | .buyAvg => 1
  | .buyVol => 2
  | .sell => 3
  | .sellAvg => 4
  | .sellVol => 5
  | .wallet => 6
  | .profit => 7
  | .fees => 8

/-- What a document has for a figure of a report. -/
def Figure.part? (f : Figure) (v : Json) : Option Json :=
  Json.part? f.key f.place v

/-- A report without the last price and the time, which are no figures. -/
def CoinReport.onlyFigures (r : CoinReport) : CoinReport :=
  { r with lastPrice := none, stamp := none }

namespace Metrics

/-- The metrics hold the figures of a report, unchanged. -/
structure Renames (m : Metrics) (r : CoinReport) : Prop where
  buyCount : r.buy = some m.buyCount
  sellCount : r.sell = some m.sellCount
  avgBuyPrice : r.buyAvg = some m.avgBuyPrice
  avgSellPrice : r.sellAvg = some m.avgSellPrice
  buyVolume : r.buyVol = some m.buyVolume
  sellVolume : r.sellVol = some m.sellVolume
  fees : r.fees = some m.fees
  walletValue : r.wallet = some m.walletValue
  profit : r.profit = some m.profit

theorem ofReport_ok_iff {coin : String} {r : CoinReport} {m : Metrics} :
    ofReport coin r = .ok m ↔ m.Renames r := by
  constructor
  · intro h
    simp only [ofReport] at h
    repeat
      split at h
      · cases h
    cases h
    constructor <;> assumption
  · rintro ⟨hbuy, hsell, hbuyAvg, hsellAvg, hbuyVol, hsellVol, hfees, hwallet, hprofit⟩
    simp only [ofReport, hbuy, hsell, hbuyAvg, hsellAvg, hbuyVol, hsellVol, hfees, hwallet, hprofit]

theorem aggregate_ok_iff {reports : TextMap CoinReport} {ms : TextMap Metrics} :
    aggregate reports = .ok ms ↔
      List.Forall₂ (fun e e' => e.1 = e'.1 ∧ e'.2.Renames e.2) reports.entries ms.entries := by
  have hmap : ofReports reports = .ok ms ↔
      List.Forall₂ (fun e e' => e.1 = e'.1 ∧ e'.2.Renames e.2) reports.entries ms.entries := by
    simp only [ofReports, TextMap.mapM_ok_iff, ofReport_ok_iff]
  rw [← hmap, aggregate]
  cases ofReports reports <;> simp

theorem aggregate_isOk_iff {reports : TextMap CoinReport} :
    (∃ ms, aggregate reports = .ok ms) ↔ ∀ e ∈ reports.entries, ∀ f, e.2.has f :=
  (aggregate_reads reports).outcome.2

/-! ## The first figure that is missing -/

/-- A figure that is looked for in the report of a coin. -/
structure Sought where
  coin : String
  report : CoinReport
  figure : Figure

def Sought.IsThere (s : Sought) : Prop :=
  s.report.has s.figure

/-- What is said of a figure that is not there. -/
def Sought.complaint (s : Sought) : String :=
  "report for " ++ s.coin ++ " is missing '" ++ s.figure.key ++ "'"

def Sought.missing? (s : Sought) : Option Missing :=
  if s.report.has s.figure then none else some ⟨s.coin, s.figure⟩

theorem Sought.missing?_eq_none_iff {s : Sought} : s.missing? = none ↔ s.IsThere := by
  rw [missing?, IsThere]
  split <;> simp [*]

theorem Sought.missing?_eq_some_iff {s : Sought} {m : Missing} :
    s.missing? = some m ↔ ¬ s.IsThere ∧ m = ⟨s.coin, s.figure⟩ := by
  rw [missing?, IsThere]
  split <;> simp [*, eq_comm]

def soughtOf (coin : String) (r : CoinReport) : List Sought :=
  Figure.all.map fun f => ⟨coin, r, f⟩

/-- All figures that are looked for: coin by coin, and of each coin in one order. -/
def soughtIn (reports : TextMap CoinReport) : List Sought :=
  reports.entries.flatMap fun e => soughtOf e.1 e.2

theorem tells_ofReport (coin : String) (r : CoinReport) :
    TellsFirst id Sought.missing? (ofReport coin r) (soughtOf coin r) := by
  obtain ⟨buy, buyAvg, buyVol, sell, sellAvg, sellVol, wallet, profit, fees, lastPrice, stamp⟩ := r
  -- The cases stand in the order in which the figures are looked for.
  rcases buy with - | buy
  · rfl
  rcases sell with - | sell
  · rfl
  rcases buyAvg with - | buyAvg
  · rfl
  rcases sellAvg with - | sellAvg
  · rfl
  rcases buyVol with - | buyVol
  · rfl
  rcases sellVol with - | sellVol
  · rfl
  rcases fees with - | fees
  · rfl
  rcases wallet with - | wallet
  · rfl
  rcases profit with - | profit <;> rfl

theorem tells_aggregate (reports : TextMap CoinReport) :
    TellsFirst id Sought.missing? (ofReports reports) (soughtIn reports) :=
  TellsFirst.mapM tells_ofReport reports

theorem aggregate_error_iff {reports : TextMap CoinReport} {e : Failure} :
    aggregate reports = .error e ↔
      ∃ s, FirstFailing Sought.IsThere (soughtIn reports) s ∧ e = .malformed s.complaint := by
  have hcomplaint : ∀ s : Sought, Missing.message ⟨s.coin, s.figure⟩ = s.complaint := by
    intro s
    rw [Missing.message, s.figure.name_eq, Sought.complaint]
  have hfirst : ∀ m, ofReports reports = .error m ↔
      ∃ s, FirstFailing Sought.IsThere (soughtIn reports) s ∧ s.missing? = some m := by
    intro m
    rw [← (tells_aggregate reports).exists_iff Sought.missing?_eq_none_iff]
    simp
  have haggregate : aggregate reports = .error e ↔
      ∃ m, ofReports reports = .error m ∧ e = .malformed m.message := by
    rw [aggregate]
    cases ofReports reports <;> simp [eq_comm]
  rw [haggregate]
  constructor
  · rintro ⟨m, hm, rfl⟩
    obtain ⟨s, hs, hmissing⟩ := (hfirst m).mp hm
    exact ⟨s, hs, by rw [(Sought.missing?_eq_some_iff.mp hmissing).2, hcomplaint]⟩
  · rintro ⟨s, hs, rfl⟩
    have hmissing := Sought.missing?_eq_some_iff.mpr ⟨hs.fails, rfl⟩
    exact ⟨_, (hfirst _).mpr ⟨s, hs, hmissing⟩, by rw [hcomplaint]⟩

/-! ## What does not count -/

theorem ofReport_onlyFigures (coin : String) (r : CoinReport) :
    ofReport coin r.onlyFigures = ofReport coin r := rfl

/-- Neither the last price nor the time of a report is looked at. -/
theorem aggregate_congr {reports reports' : TextMap CoinReport}
    (h : reports'.entries.map (fun e => (e.1, e.2.onlyFigures)) =
      reports.entries.map fun e => (e.1, e.2.onlyFigures)) :
    aggregate reports' = aggregate reports := by
  have htraverse : TextMap.traverse ofReport reports'.entries =
      TextMap.traverse ofReport reports.entries := by
    rw [← TextMap.traverse_map ofReport_onlyFigures, h,
      TextMap.traverse_map ofReport_onlyFigures]
  rw [aggregate, aggregate, ofReports, ofReports, TextMap.mapM_congr htraverse]

end Metrics

/-! ## Reports in documents -/

namespace CoinReport

open Json

/-- What a report has that was read: whatever the document has, but for `null`. -/
theorem has_of_read {v : Json} {r : CoinReport} (h : read v = .ok r) (f : Figure) :
    r.has f = false ↔ f.part? v = none ∨ f.part? v = some .null := by
  obtain ⟨hbuy, hbuyAvg, hbuyVol, hsell, hsellAvg, hsellVol, hwallet, hprofit, hfees, -⟩ :=
    layout.reads describes h
  cases f <;> simp only [has, Option.isSome_eq_false_iff, Option.isNone_iff_eq_none]
  case buy => exact none_iff_of_readOption hbuy
  case buyAvg => exact none_iff_of_readOption hbuyAvg
  case buyVol => exact none_iff_of_readOption hbuyVol
  case sell => exact none_iff_of_readOption hsell
  case sellAvg => exact none_iff_of_readOption hsellAvg
  case sellVol => exact none_iff_of_readOption hsellVol
  case wallet => exact none_iff_of_readOption hwallet
  case profit => exact none_iff_of_readOption hprofit
  case fees => exact none_iff_of_readOption hfees

theorem read_of_null {fields : List (String × Json)} {key : String}
    (h : field? key (.obj fields) = some .null) :
    read (.obj (without key fields)) = read (.obj fields) := by
  have hfields : layout.fields.ofObject (without key fields) = layout.fields.ofObject fields :=
    Layout.takesNullAsAbsent rfl key fields h
  have hread : ∀ fields, read (.obj fields) = readRecord .document "RawReport" layout.fields
      (.obj fields) := fun _ => rfl
  rw [hread, hread, readRecord, hfields, readRecord]

end CoinReport

/-! ## All reports -/

/-- The metrics are the figures of the reports, and nothing else.

* There are metrics exactly when every report has all nine figures.
* They are those of the same coins, each of them one figure of its report, unchanged.
* Otherwise the failure names the first figure that is not there; the coins come by ascending name,
  and the figures of each in one order.
* The last price and the time of a report make no difference.
* A report that is read lacks exactly the figures that are not there or `null`, and one in which a
  figure is `null` is read as one without it. -/
theorem Metrics.figures_renamed (reports : TextMap CoinReport) :
    ((∃ ms, aggregate reports = .ok ms) ↔ ∀ e ∈ reports.entries, ∀ f, e.2.has f) ∧
    (∀ ms, aggregate reports = .ok ms ↔
      List.Forall₂ (fun e e' => e.1 = e'.1 ∧ e'.2.Renames e.2) reports.entries ms.entries) ∧
    (reports.keys.Pairwise (· < ·) ∧ ∀ e, aggregate reports = .error e ↔
      ∃ s, FirstFailing Sought.IsThere (soughtIn reports) s ∧ e = .malformed s.complaint) ∧
    (∀ reports' : TextMap CoinReport,
      (reports'.entries.map (fun e => (e.1, e.2.onlyFigures)) =
        reports.entries.map fun e => (e.1, e.2.onlyFigures)) →
      aggregate reports' = aggregate reports) ∧
    (∀ v r, CoinReport.read v = .ok r → ∀ f : Figure,
      r.has f = false ↔ f.part? v = none ∨ f.part? v = some .null) ∧
    ∀ (f : Figure) (fields : List (String × Json)),
      Json.field? f.key (.obj fields) = some .null →
      CoinReport.read (.obj (Json.without f.key fields)) = CoinReport.read (.obj fields) :=
  ⟨aggregate_isOk_iff, fun _ => aggregate_ok_iff, ⟨reports.keys_ascending,
    fun _ => aggregate_error_iff⟩, fun _ => aggregate_congr, fun _ _ => CoinReport.has_of_read,
    fun _ _ => CoinReport.read_of_null⟩

end BacktestDesk
