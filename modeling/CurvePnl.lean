import CurvePnl.Attribution.Conversion
import CurvePnl.Attribution.Failure
import CurvePnl.Attribution.Journal
import CurvePnl.Attribution.Matching
import CurvePnl.Attribution.Replay
import CurvePnl.Attribution.Run
import CurvePnl.Attribution.Sources
import CurvePnl.Bucket
import CurvePnl.Command.Arguments
import CurvePnl.Command.Run
import CurvePnl.Config.Basic
import CurvePnl.Config.Form
import CurvePnl.Context
import CurvePnl.Csv.Reader
import CurvePnl.Csv.Records
import CurvePnl.Csv.Writer
import CurvePnl.Currency
import CurvePnl.Curve
import CurvePnl.Date.Basic
import CurvePnl.Date.Civil
import CurvePnl.Date.Text
import CurvePnl.Decimal.Binary
import CurvePnl.Decimal.Cell
import CurvePnl.Decimal.Digit
import CurvePnl.Decimal.Numeral
import CurvePnl.Decimal.Scaled
import CurvePnl.Decimal.Shortest
import CurvePnl.ErrorForm
import CurvePnl.Halt
import CurvePnl.Json.Basic
import CurvePnl.Json.Decode
import CurvePnl.Json.Reader
import CurvePnl.Json.Writer
import CurvePnl.JsonForm
import CurvePnl.Log
import CurvePnl.Main
import CurvePnl.MarketConvention
import CurvePnl.Matrix
import CurvePnl.Proofs.AbortedLoads
import CurvePnl.Proofs.Additions
import CurvePnl.Proofs.Agreement
import CurvePnl.Proofs.Arena
import CurvePnl.Proofs.Blind
import CurvePnl.Proofs.Buckets
import CurvePnl.Proofs.Bundles
import CurvePnl.Proofs.Calendar
import CurvePnl.Proofs.CalendarDates
import CurvePnl.Proofs.CallOrder
import CurvePnl.Proofs.Cancellation
import CurvePnl.Proofs.ColumnKeys
import CurvePnl.Proofs.ColumnSums
import CurvePnl.Proofs.ConfiguredRun
import CurvePnl.Proofs.Conversion
import CurvePnl.Proofs.ConvertedRun
import CurvePnl.Proofs.Cuts
import CurvePnl.Proofs.DateText
import CurvePnl.Proofs.DayArithmetic
import CurvePnl.Proofs.Digits
import CurvePnl.Proofs.EmptySensitivities
import CurvePnl.Proofs.Endings
import CurvePnl.Proofs.FailedInputs
import CurvePnl.Proofs.FreshLoad
import CurvePnl.Proofs.HalvingSearch
import CurvePnl.Proofs.HistoryRows
import CurvePnl.Proofs.ImpliedRows
import CurvePnl.Proofs.ImpliedRun
import CurvePnl.Proofs.LongerHistories
import CurvePnl.Proofs.LongerLead
import CurvePnl.Proofs.LongerReplay
import CurvePnl.Proofs.Matching
import CurvePnl.Proofs.NativeCurrency
import CurvePnl.Proofs.NestedCuts
import CurvePnl.Proofs.PlainSeries
import CurvePnl.Proofs.PnlDates
import CurvePnl.Proofs.Products
import CurvePnl.Proofs.Questions
import CurvePnl.Proofs.QuotedRun
import CurvePnl.Proofs.QuotingOrder
import CurvePnl.Proofs.Reconstruction
import CurvePnl.Proofs.Reload
import CurvePnl.Proofs.Replay
import CurvePnl.Proofs.ReplayDays
import CurvePnl.Proofs.ReplaySteps
import CurvePnl.Proofs.ReportRows
import CurvePnl.Proofs.Returns
import CurvePnl.Proofs.RunErrors
import CurvePnl.Proofs.SameSamples
import CurvePnl.Proofs.Series
import CurvePnl.Proofs.SeriesExpr
import CurvePnl.Proofs.SharedSteps
import CurvePnl.Proofs.SortedSamples
import CurvePnl.Proofs.StockReturns
import CurvePnl.Proofs.StoredSeries
import CurvePnl.Proofs.TenorOrder
import CurvePnl.Proofs.TenorText
import CurvePnl.Proofs.Total
import CurvePnl.Proofs.Trimming
import CurvePnl.Proofs.Unread
import CurvePnl.Proofs.Window
import CurvePnl.Proofs.WindowDays
import CurvePnl.Proofs.Work
import CurvePnl.Proofs.WrittenStrings
import CurvePnl.Quantity
import CurvePnl.Report.Attribution
import CurvePnl.Report.Settings
import CurvePnl.Report.TextTable
import CurvePnl.Sensitivity
import CurvePnl.Series.Basic
import CurvePnl.Series.Product
import CurvePnl.Series.Returns
import CurvePnl.Series.Trim
import CurvePnl.SourceError
import CurvePnl.Store.DataSet
import CurvePnl.Store.File
import CurvePnl.Store.Folder
import CurvePnl.Store.History
import CurvePnl.Store.ImpliedCurves
import CurvePnl.Store.Rates
import CurvePnl.Store.Specifications
import CurvePnl.Tenor
import CurvePnl.Text.Blank
import CurvePnl.Text.Columns
import CurvePnl.Text.Emoji
import CurvePnl.Text.Ligature
import CurvePnl.Text.Scan
import CurvePnl.Text.Upper
import CurvePnl.Text.Width
import CurvePnl.Toml.Basic
import CurvePnl.Toml.Reader
import CurvePnl.ValueError
import CurvePnl.Window
