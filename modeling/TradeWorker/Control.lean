import TradeWorker.AdminFlat
import TradeWorker.Embed
import TradeWorker.MagicMap

/-!
# What a control message may do

Besides signals a worker hears messages about itself: the handshake's reply, SYSTEM
broadcasts, ADMIN directives. They set what the worker holds in memory, tell the operator,
and ask the exchange for leverage; these are calls of their own, next to those of the
signal path. Setting is by the same helper on every path.
-/

namespace TradeWorker

inductive ControlOp where
  | live
  | setSignalsBlocked (blocked : Bool)
  | setMaxOpenOrders (maxOpenOrders : Int)
  | setStrategyMagicMap (mapping : Dict String Int)
  | setExecutorMagicMap (mapping : Dict String Int)
  | sendSignalsBlocked (blocked : Bool)
  | getMaxLeverage (symbol : String)
  | setLeverage (symbol : String) (leverage : Int) (minLeverageCap : Option Int)

@[reducible] def ControlOp.Ans : ControlOp → Type
  | .live => LiveWorker
  | .setSignalsBlocked _ => Unit
  | .setMaxOpenOrders _ => Unit
  | .setStrategyMagicMap _ => Unit
  | .setExecutorMagicMap _ => Unit
  | .sendSignalsBlocked _ => Unit
  | .getMaxLeverage _ => Option Int
  | .setLeverage .. => Option Int

abbrev DeskOp := WorkerOp ⊕ ControlOp

abbrev DeskOp.Ans : DeskOp → Type := Prog.SumAns WorkerOp.Ans ControlOp.Ans

abbrev DeskWork (α : Type) := Prog DeskOp DeskOp.Ans Exn α

def control (o : ControlOp) : DeskWork o.Ans := @Prog.perform DeskOp DeskOp.Ans Exn (.inr o)

/-! ## In memory -/

def setSignalsBlocked (blocked : Bool) : DeskWork Unit := do
  let live : LiveWorker ← control .live
  if live.signalsBlocked = blocked then pure ()
  else do
    let _ : Unit ← control (.setSignalsBlocked blocked)
    control (.sendSignalsBlocked blocked)

def setMaxOpenOrders (maxOpenOrders : Int) : DeskWork Unit := do
  let live : LiveWorker ← control .live
  if live.maxOpenOrders = some maxOpenOrders then pure ()
  else control (.setMaxOpenOrders maxOpenOrders)

def applyWorkerSettings (settings : PushedSettings) : DeskWork Unit := do
  settings.signalBlocked.elim (pure ()) setSignalsBlocked
  settings.maxOpenOrders.elim (pure ()) setMaxOpenOrders

/-! ## Leverage -/

structure LeverageSettings where
  useCustomLeverage : Bool := false
  maxLeverageCap : Int := 10
  minLeverageCap : Int := 5
  initSymbols : List String := []

/-- `LeverageInitJob`, with the caller's symbols resolved by the executor. -/
structure LeverageInitJob where
  symbols : List String
  cap : Int
  minCap : Option Int
  resolve : String → String

namespace LeverageInitJob

variable (job : LeverageInitJob)

def initOne (rawSymbol : String) : DeskWork Unit := do
  let resolved := job.resolve rawSymbol
  let maxLev : Option Int ← control (.getMaxLeverage resolved)
  match maxLev with
  | none => pure ()
  | some maxLev =>
      if maxLev ≤ 0 then pure ()
      else do
        let _applied : Option Int ←
          control (.setLeverage resolved (min maxLev job.cap) job.minCap)
        pure ()

def initEach : List String → DeskWork Unit
  | [] => pure ()
  | rawSymbol :: rest => do
      job.initOne rawSymbol
      initEach rest

/-- `LeverageInitJob.run`: each symbol once, in the order given. -/
def run : DeskWork Unit :=
  let symbols := (job.symbols.filter (· ≠ "")).eraseDups
  if symbols = [] then pure ()
  else if job.cap ≤ 0 then pure ()
  else job.initEach symbols

end LeverageInitJob

/-- The job `_run_leverage_init` builds: the configured cap wins where the worker is told
to use its own. -/
def leverageInitJob (ex : CryptoExecutor) (settings : LeverageSettings) (init : LeverageInit) :
    LeverageInitJob where
  symbols := init.symbols.getD settings.initSymbols
  cap := (if settings.useCustomLeverage then none else init.defaultLeverage).getD
    settings.maxLeverageCap
  minCap := if settings.minLeverageCap = 0 then none else some settings.minLeverageCap
  resolve := ex.getSymbol

/-- `_run_leverage_init`: a job that raises is only logged. -/
def runLeverageInit (ex : CryptoExecutor) (settings : LeverageSettings) (init : LeverageInit) :
    DeskWork Unit :=
  Prog.tryCatch (leverageInitJob ex settings init).run fun _ => pure ()

/-! ## The worker -/

/-- A worker as it is set up: its market, its settings, and who it is. -/
structure ControlWorker where
  market : Market
  settings : WorkerSettings := {}
  leverage : LeverageSettings := {}
  subscribedStrategies : List String := []
  identity : Option String := none
  gateway : String := ""
  accountId : String := ""

def Market.marketType : Market → MarketType
  | .forex _ => .forex
  | .crypto _ => .crypto

namespace ControlWorker

variable (worker : ControlWorker)

def setup : WorkerSetup where
  marketType := worker.market.marketType
  subscribedStrategies := worker.subscribedStrategies

def systemAccountId : Option String := text? worker.identity

def applyStrategyMagicMap (pushed : Dict String Int) : DeskWork Unit := do
  let mapping := worker.setup.subscribedOnly pushed
  let _ : Unit ← control (.setStrategyMagicMap mapping)
  match worker.market with
  | .forex _ => control (.setExecutorMagicMap mapping)
  | .crypto _ => pure ()

def applyMarketInit (init : Option LeverageInit) : DeskWork Unit :=
  match worker.market with
  | .forex _ => pure ()
  | .crypto ex => init.elim (pure ()) (runLeverageInit ex worker.leverage)

end ControlWorker

/-! ## Serving both paths -/

/-- What answers a control message from outside. -/
structure ControlBackend (β : Type) extends Backend β where
  sendSignalsBlocked : Bool → β → Except Exn Unit × β
  getMaxLeverage : String → β → Except Exn (Option Int) × β
  setLeverage : String → Int → Option Int → β → Except Exn (Option Int) × β

/-- The worker's memory, and the world it works in. -/
structure ControlDesk (β : Type) where
  live : LiveWorker
  world : World β

/-- The world with the backend's state moved on. -/
def ControlDesk.move {β : Type} (desk : ControlDesk β) (rest : β) : ControlDesk β :=
  { desk with world := { desk.world with rest } }

/-- The block flag is the worker's own; nothing sets its memory but its own calls. -/
def ControlBackend.serve {β : Type} (C : ControlBackend β) :
    Prog.Server DeskOp DeskOp.Ans Exn (ControlDesk β)
  | .inl (.host .signalsBlocked), desk => (.ok desk.live.signalsBlocked, desk)
  | .inl o, desk =>
      ((C.toBackend.serve o desk.world).1,
        { desk with world := (C.toBackend.serve o desk.world).2 })
  | .inr .live, desk => (.ok desk.live, desk)
  | .inr (.setSignalsBlocked blocked), desk =>
      (.ok (), { desk with live := { desk.live with signalsBlocked := blocked } })
  | .inr (.setMaxOpenOrders maxOpenOrders), desk =>
      (.ok (), { desk with live := { desk.live with maxOpenOrders := some maxOpenOrders } })
  | .inr (.setStrategyMagicMap mapping), desk =>
      (.ok (), { desk with live := { desk.live with strategyMagicMap := mapping } })
  | .inr (.setExecutorMagicMap mapping), desk =>
      (.ok (), { desk with live := { desk.live with executorMagicMap := mapping } })
  | .inr (.sendSignalsBlocked blocked), desk =>
      ((C.sendSignalsBlocked blocked desk.world.rest).1,
        desk.move (C.sendSignalsBlocked blocked desk.world.rest).2)
  | .inr (.getMaxLeverage symbol), desk =>
      ((C.getMaxLeverage symbol desk.world.rest).1,
        desk.move (C.getMaxLeverage symbol desk.world.rest).2)
  | .inr (.setLeverage symbol leverage minCap), desk =>
      ((C.setLeverage symbol leverage minCap desk.world.rest).1,
        desk.move (C.setLeverage symbol leverage minCap desk.world.rest).2)

end TradeWorker
