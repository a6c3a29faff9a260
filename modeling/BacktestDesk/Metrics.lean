import BacktestDesk.Failure
import BacktestDesk.RunAnswer

/-!
# BacktestDesk.Metrics

The figures of each coin under the names that the operator sees. Nothing is computed: each metric is
one figure of the report, and a figure that is missing is an error and no zero.
-/

namespace BacktestDesk

structure Metrics where
  buyCount : Nat
  sellCount : Nat
  avgBuyPrice : Double
  avgSellPrice : Double
  buyVolume : Double
  sellVolume : Double
  fees : Double
  walletValue : Double
  profit : Double
  deriving DecidableEq

/-- A figure that a report has to have. -/
inductive Figure where
  | buy
  | sell
  | buyAvg
  | sellAvg
  | buyVol
  | sellVol
  | fees
  | wallet
  | profit
  deriving DecidableEq

def Figure.name : Figure → String
  | .buy => "buy"
  | .sell => "sell"
  | .buyAvg => "buy_avg"
  | .sellAvg => "sell_avg"
  | .buyVol => "buy_vol"
  | .sellVol => "sell_vol"
  | .fees => "fees"
  | .wallet => "wallet"
  | .profit => "profit"

namespace Metrics

/-- A figure that the report of a coin lacks. -/
structure Missing where
  coin : String
  figure : Figure
  deriving DecidableEq

def Missing.message (m : Missing) : String :=
  "report for " ++ m.coin ++ " is missing '" ++ m.figure.name ++ "'"

/-- The figures of a report, in the order in which they are looked for. -/
def ofReport (coin : String) (r : CoinReport) : Except Missing Metrics :=
  match r.buy with
  | none => .error ⟨coin, .buy⟩
  | some buyCount =>
    match r.sell with
    | none => .error ⟨coin, .sell⟩
    | some sellCount =>
      match r.buyAvg with
      | none => .error ⟨coin, .buyAvg⟩
      | some avgBuyPrice =>
        match r.sellAvg with
        | none => .error ⟨coin, .sellAvg⟩
        | some avgSellPrice =>
          match r.buyVol with
          | none => .error ⟨coin, .buyVol⟩
          | some buyVolume =>
            match r.sellVol with
            | none => .error ⟨coin, .sellVol⟩
            | some sellVolume =>
              match r.fees with
              | none => .error ⟨coin, .fees⟩
              | some fees =>
                match r.wallet with
                | none => .error ⟨coin, .wallet⟩
                | some walletValue =>
                  match r.profit with
                  | none => .error ⟨coin, .profit⟩
                  | some profit =>
                    .ok { buyCount, sellCount, avgBuyPrice, avgSellPrice, buyVolume, sellVolume,
                          fees, walletValue, profit }

/-- The metrics of all coins, or the first coin in key order whose report lacks a figure. -/
def ofReports (reports : TextMap CoinReport) : Except Missing (TextMap Metrics) :=
  reports.mapM ofReport

/-- The metrics, or the failure that a missing figure amounts to. -/
def aggregate (reports : TextMap CoinReport) : Except Failure (TextMap Metrics) :=
  match ofReports reports with
  | .error e => .error (.malformed e.message)
  | .ok m => .ok m

open Json

def read : Reading Metrics :=
  readRecord .document "DisplayMetrics"
    ((Fields.none mk).and (.required "buy_count" readUnsigned64)
      |>.and (.required "sell_count" readUnsigned64)
      |>.and (.required "avg_buy_price" readReal)
      |>.and (.required "avg_sell_price" readReal)
      |>.and (.required "buy_volume" readReal)
      |>.and (.required "sell_volume" readReal)
      |>.and (.required "fees" readReal)
      |>.and (.required "wallet_value" readReal)
      |>.and (.required "profit" readReal))

def toJson (m : Metrics) : Json :=
  .obj [("buy_count", .ofNat m.buyCount), ("sell_count", .ofNat m.sellCount),
    ("avg_buy_price", .ofDouble m.avgBuyPrice), ("avg_sell_price", .ofDouble m.avgSellPrice),
    ("buy_volume", .ofDouble m.buyVolume), ("sell_volume", .ofDouble m.sellVolume),
    ("fees", .ofDouble m.fees), ("wallet_value", .ofDouble m.walletValue),
    ("profit", .ofDouble m.profit)]

end Metrics
end BacktestDesk
