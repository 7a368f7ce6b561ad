import TradeWorker.ReconcileJob
import TradeWorker.StrategyIsolation
import TradeWorker.DuplicateHeal
import TradeWorker.Broker
import TradeWorker.FlatSafety
import TradeWorker.CryptoStops
import TradeWorker.SignalIsolation
import TradeWorker.CycleDelivery
import TradeWorker.ChangeCapture
import TradeWorker.EventDelivery
import TradeWorker.CloseDetector
import TradeWorker.FlatScope
import TradeWorker.ReadPolicy
import TradeWorker.Exposure
import TradeWorker.MagicMap
import TradeWorker.Handshake
import TradeWorker.HandshakeConfig
import TradeWorker.Routing
import TradeWorker.ExchangeClose
import TradeWorker.Permit
import TradeWorker.ReplayOnce
import TradeWorker.FinalStatus
import TradeWorker.CloseHandlers
import TradeWorker.Aside
import TradeWorker.EntryMessage
import TradeWorker.ManualImport
import TradeWorker.CycleReport
import TradeWorker.ChatTargets
import TradeWorker.Dispatchers
import TradeWorker.ProcessGateway
import TradeWorker.Protection
import TradeWorker.RealizedTotal
import TradeWorker.Grid
import TradeWorker.Rounding
import TradeWorker.StopRules
import TradeWorker.MarginFit
import TradeWorker.EntrySizing
import TradeWorker.RiskBudget
import TradeWorker.MinNotional
import TradeWorker.Outbox
import TradeWorker.ZeroLevels
import TradeWorker.EntryOutcome
import TradeWorker.Tp1Report
import TradeWorker.Markup
import TradeWorker.Presenter
import TradeWorker.CyclePresenter
import TradeWorker.Deliverable
import TradeWorker.Numbers
import TradeWorker.NumericSizing
import TradeWorker.ForexEntry
import TradeWorker.ReplayClock
import TradeWorker.HandshakeReply
import TradeWorker.Chars
import TradeWorker.Implement
import TradeWorker.LeverageBand
import TradeWorker.OrderLabel
import TradeWorker.Lines
import TradeWorker.Dotenv
import TradeWorker.DotenvLines
import TradeWorker.DotenvValues
import TradeWorker.DotenvRoundTrip
import TradeWorker.Hearing
import TradeWorker.ExecutedOrders
import TradeWorker.ExecutionRecord
import TradeWorker.Ledger
import TradeWorker.Mt5Gateway
import TradeWorker.TerminalLedger
import TradeWorker.BusyContext
import TradeWorker.BinanceGateway
import TradeWorker.TimestampSync
import TradeWorker.ExchangeFills
import TradeWorker.Segment
import TradeWorker.PriceGrid
import TradeWorker.UserStream
import TradeWorker.Monitor
import TradeWorker.HealthThread
import TradeWorker.RetryBudget
import TradeWorker.WorkerRun
import TradeWorker.Tables
import TradeWorker.Migration
import TradeWorker.Schema
import TradeWorker.ProfitLedger
import TradeWorker.DedupWindow
import TradeWorker.LogForwarder
import TradeWorker.ThreadShutdown
import TradeWorker.Fleet
