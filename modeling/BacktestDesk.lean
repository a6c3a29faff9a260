import BacktestDesk.Main
import BacktestDesk.Scenario.Document
import BacktestDesk.Proofs.DeskRun
import BacktestDesk.Proofs.FetchTaxonomy
import BacktestDesk.Proofs.CalendarRoundTrip
import BacktestDesk.Proofs.DayTextRoundTrip
import BacktestDesk.Proofs.QueryRoundTrip
import BacktestDesk.Proofs.ChartSource
import BacktestDesk.Proofs.RequestWire
import BacktestDesk.Proofs.RecordReading
import BacktestDesk.Proofs.SignalKeys
import BacktestDesk.Proofs.RunComparison
import BacktestDesk.Proofs.HourRoundTrip
import BacktestDesk.Proofs.AnswerRoundTrip
import BacktestDesk.Proofs.ChartRoundTrip
import BacktestDesk.Proofs.FirstFault
import BacktestDesk.Proofs.DoubleValue
import BacktestDesk.Proofs.RuleOrder
import BacktestDesk.Proofs.ProgramRun
import BacktestDesk.Proofs.RequestRoundTrip
import BacktestDesk.Proofs.CoinGroups
import BacktestDesk.Proofs.CommandFields
import BacktestDesk.Proofs.ExecutedRequest
import BacktestDesk.Proofs.DecimalRounding
import BacktestDesk.Proofs.WrittenNumeral
import BacktestDesk.Proofs.AccuracyReading
import BacktestDesk.Proofs.CallAgreement
import BacktestDesk.Proofs.MetricsProjection
import BacktestDesk.Proofs.StoredMarkers
import BacktestDesk.Proofs.ParameterHistory
import BacktestDesk.Proofs.Restamping
import BacktestDesk.Proofs.DayTextOrder
import BacktestDesk.Proofs.HourReading
import BacktestDesk.Proofs.RepeatedKeys
import BacktestDesk.Proofs.OfferedDays
import BacktestDesk.Proofs.LongestNumber
import BacktestDesk.Proofs.PlacePaths
