import TradeWorker.CryptoReach
import TradeWorker.ForexReach

/-!
# The markets the worker is built with

A worker trades one market. What its executor does to positions is followed in the
two modules before this one; here both count as executors that work at the broker.
-/

namespace TradeWorker

/-- `ForexMarket` or `CryptoMarket`, over its executor. -/
inductive Market where
  | forex (ex : ForexExecutor)
  | crypto (ex : CryptoExecutor)

namespace Market

/-- What the market lists as live. -/
abbrev Pos : Market → Type
  | .forex _ => PlatformPosition
  | .crypto _ => ExchangePosition

instance (m : Market) : LivePosition m.Pos :=
  match m with
  | .forex _ => inferInstanceAs (LivePosition PlatformPosition)
  | .crypto _ => inferInstanceAs (LivePosition ExchangePosition)

def strategy : (m : Market) → ExecutorBackedMarket m.Pos
  | .forex ex => forexMarket ex
  | .crypto ex => cryptoMarket ex

def processor (settings : WorkerSettings) : (m : Market) → Processor m.Pos
  | .forex ex => forexProcessor ex settings
  | .crypto ex => cryptoProcessor ex settings

@[simp] theorem processor_market (settings : WorkerSettings) (m : Market) :
    (m.processor settings).market = m.strategy := by
  cases m <;> rfl

@[simp] theorem processor_settings (settings : WorkerSettings) (m : Market) :
    (m.processor settings).settings = settings := by
  cases m <;> rfl

/-! ## Both work at the broker -/

theorem brokering_of_onPlatform {α : Type} {Q : α → Prop} {p : Work α}
    (hp : Prog.Sends (onPlatform fun _ => True) Q p) : Prog.Sends brokering Q p :=
  hp.relax (fun _ ho => ho.1) fun _ _ _ => trivial

theorem brokering_of_onExchange {α : Type} {Q : α → Prop} {p : Work α} {X : String}
    (hp : Prog.Sends (onExchange X) Q p) : Prog.Sends brokering Q p :=
  hp.relax (fun _ ho => ho.1) fun _ _ _ => trivial

theorem forex_consults (ex : ForexExecutor) : ex.protocol.Consults := by
  constructor
  · exact fun signal => ForexExecutor.getEntryPrice_consults signal
  · exact fun _ _ => ForexExecutor.normalize_consults ..
  · exact fun _ _ => ForexExecutor.convertQuantity_consults ..
  · exact fun symbol strategy =>
      (ForexExecutor.getOpenPositions_consults symbol strategy).mono fun _ _ => trivial

theorem crypto_consults (ex : CryptoExecutor) : ex.protocol.Consults := by
  constructor
  · exact fun signal => CryptoExecutor.getEntryPrice_consults signal
  · exact fun _ _ => CryptoExecutor.normalizeVolume_consults ..
  · exact fun _ _ => CryptoExecutor.normalizeVolume_consults ..
  · exact fun symbol _ => CryptoExecutor.getOpenPositions_consults symbol

theorem consults (m : Market) : m.strategy.executor.Consults := by
  cases m with
  | forex ex => exact forex_consults ex
  | crypto ex => exact crypto_consults ex

theorem forex_atBroker (ex : ForexExecutor) : ex.protocol.AtBroker := by
  have hscope : ∀ strategy ticket, ex.Scoped (fun _ => True) strategy ticket :=
    fun _ _ _ _ _ _ _ => trivial
  have hreads := forex_consults ex
  constructor
  · exact fun signal => brokering_of_onPlatform (ForexExecutor.openPosition_sends signal)
  · exact fun signal => brokering_of_consulting (hreads.getEntryPrice signal)
  · exact fun _ _ => brokering_of_consulting (hreads.normalizeVolume ..)
  · exact fun _ _ => brokering_of_consulting (hreads.convertQuantityToLots ..)
  · exact fun _ _ => brokering_of_consulting (hreads.getOpenPositions ..)
  · exact fun _ _ _ strategy _ => brokering_of_onPlatform
      (ForexExecutor.partialClosePosition_sends (hscope strategy none))
  · exact fun _ _ _ strategy => brokering_of_onPlatform
      (ForexExecutor.updatePositionSl_sends (hscope strategy none))
  · exact fun _ _ strategy _ ticket => brokering_of_onPlatform
      (ForexExecutor.closeAllPositions_sends (hscope strategy ticket))

theorem crypto_atBroker (ex : CryptoExecutor) : ex.protocol.AtBroker := by
  have hreads := crypto_consults ex
  constructor
  · exact fun signal => brokering_of_onExchange (CryptoExecutor.openPosition_reduces signal)
  · exact fun signal => brokering_of_consulting (hreads.getEntryPrice signal)
  · exact fun _ _ => brokering_of_consulting (hreads.normalizeVolume ..)
  · exact fun _ _ => brokering_of_consulting (hreads.convertQuantityToLots ..)
  · exact fun _ _ => brokering_of_consulting (hreads.getOpenPositions ..)
  · exact fun _ _ _ _ _ => brokering_of_onExchange (CryptoExecutor.partialClosePosition_reduces ..)
  · exact fun _ _ _ _ => brokering_of_onExchange (X := "")
      (CryptoExecutor.updatePositionSl_reduces ..)
  · exact fun _ _ _ _ _ => brokering_of_onExchange (CryptoExecutor.closeAllPositions_reduces ..)

theorem atBroker (m : Market) : m.strategy.executor.AtBroker := by
  cases m with
  | forex ex => exact forex_atBroker ex
  | crypto ex => exact crypto_atBroker ex

end Market

end TradeWorker
