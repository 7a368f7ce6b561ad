import TradeWorker.Prog
import TradeWorker.Store

/-!
# The calls the worker makes

Everything the modelled code asks of the outside world, in four groups: SQL
statements, the forex platform contract (`BasePlatformGateway`), the exchange
contract (`BaseExchangeGateway`), and the process around the worker (its block
flag, the footer, the clock, notifications). Every call may raise.

`Work α` is a program over these calls. The repository methods that swallow a
database error and those that re-raise it are the first programs.
-/

namespace TradeWorker

/-! ## The forex platform -/

structure SymbolSpec where
  resolvedName : String
  point : ℚ
  digits : Nat
  volumeMin : ℚ
  volumeStep : ℚ
  volumeMax : ℚ
  tickValue : ℚ
  tickSize : ℚ
  contractSize : ℚ
  stopsLevel : Int
  deriving DecidableEq, Repr

structure Tick where
  bid : ℚ
  ask : ℚ
  deriving DecidableEq, Repr

/-- The account snapshot, with the keys the code looks up. -/
structure Account where
  balance : Option ℚ := none
  equity : Option ℚ := none
  marginFree : Option ℚ := none
  freeMargin : Option ℚ := none
  deriving DecidableEq, Repr

/-- The arguments of `place_order`. -/
structure OrderRequest where
  symbol : String
  side : Side
  volume : ℚ
  price : ℚ
  sl : Option ℚ
  tp : Option ℚ
  magic : Int
  comment : String
  deriving DecidableEq, Repr

/-- `BasePlatformGateway`. -/
inductive ForexOp where
  | resolveSymbol (baseSymbol : String)
  | getSymbolSpec (symbol : String)
  | getTick (symbol : String)
  | getPositions (symbol : Option String)
  | getAccount
  | calcMargin (symbol : String) (side : Side) (volume price : ℚ)
  | placeOrder (req : OrderRequest)
  | closePosition (position : PlatformPosition) (volume : Option ℚ) (comment : String)
  | modifySl (position : PlatformPosition) (newSl : ℚ)
  | getPositionRealizedPnl (ticket : String)
  deriving DecidableEq, Repr

@[reducible] def ForexOp.Ans : ForexOp → Type
  | .resolveSymbol _ => String
  | .getSymbolSpec _ => Option SymbolSpec
  | .getTick _ => Option Tick
  | .getPositions _ => List PlatformPosition
  | .getAccount => Option Account
  | .calcMargin .. => Option ℚ
  | .placeOrder _ => TradeResult
  | .closePosition .. => TradeResult
  | .modifySl .. => TradeResult
  | .getPositionRealizedPnl _ => Option ℚ

/-! ## The exchange -/

/-- `SymbolFilter`; a rule the exchange does not state is zero. -/
structure SymbolFilter where
  stepSize : ℚ := 0
  minQty : ℚ := 0
  tickSize : ℚ := 0
  minNotional : ℚ := 0
  deriving DecidableEq, Repr

/-- `BaseExchangeGateway`. -/
inductive CryptoOp where
  | getSymbolFilter (symbol : String)
  | getMarkPrice (symbol : String)
  | getPositions (symbol : Option String)
  | placeMarketOrder (symbol : String) (side : Side) (quantity : ℚ)
      (reduceOnly : Bool) (clientOrderId : String)
  | setStopLoss (symbol : String) (positionSide : Side) (stopPrice quantity : ℚ)
  | setTakeProfit (symbol : String) (positionSide : Side) (tpPrice quantity : ℚ)
  | cancelAllOrders (symbol : String)
  | getOrderRealizedPnl (symbol : String) (orderId : Option String)
  | getAccount
  deriving DecidableEq, Repr

@[reducible] def CryptoOp.Ans : CryptoOp → Type
  | .getSymbolFilter _ => SymbolFilter
  | .getMarkPrice _ => ℚ
  | .getPositions _ => List ExchangePosition
  | .placeMarketOrder .. => TradeResult
  | .setStopLoss .. => TradeResult
  | .setTakeProfit .. => TradeResult
  | .cancelAllOrders _ => Unit
  | .getOrderRealizedPnl .. => Option ℚ
  | .getAccount => Option Account

/-! ## The process around the worker -/

inductive CycleOutcome where
  | filled | failed | rejected | forceClosed | unprotectedClosed
  | adminFlat | reconciled | platformClosed
  deriving DecidableEq, Repr

structure CycleEvent where
  action : String
  outcome : CycleOutcome
  timestamp : ℚ
  price : Option ℚ := none
  volume : Option ℚ := none
  sl : Option ℚ := none
  tp1 : Option ℚ := none
  tp2 : Option ℚ := none
  riskPercent : Option ℚ := none
  riskCustom : Bool := false
  autoVolume : Bool := false
  tp1Percent : Option ℚ := none
  isScalePosition : Bool := false
  profit : Option ℚ := none
  profitLabel : String := "PnL"
  refId : Option String := none
  refSourceId : Option String := none
  gatewayReturnCode : Option Int := none
  reason : Option String := none
  deriving DecidableEq, Repr

/-- `CycleStatusEnum`: `FAILED`, or the status the position row is in. -/
inductive CycleStatus where
  | failed
  | position (s : PositionStatus)
  deriving DecidableEq, Repr

/-- What a notification says: the presenter method and its arguments. -/
inductive Report where
  | signalRejected (reason : String)
  | orderRejected (signal : Signal) (reason : String)
  | orderFilled (signal : Signal) (result : TradeResult) (ticket : Option String)
  | orderFailed (signal : Signal) (result : TradeResult)
  | positionUnprotectedClosed (signal : Signal) (result : TradeResult)
  | forceClosed (symbol strategy : String) (fc : ForcedClosed)
  | exchangeClosed (event : ExchangeCloseEvent)
  | terminalClosed (event : CloseDetector.TerminalClosedEvent)
  | adminFlatClosed (row : Row) (result : TradeResult)
  | reconcileClosed (row : Row) (closePrice profit : Option ℚ)
  | importedManual (pos : ExchangePosition) (refSourceId : String)

/-- The process around the signal path: the block flag, the connection check, the
clock, notifications. `handling` is the line
`SignalHandler.handle` logs when it takes a signal. -/
inductive HostOp where
  | signalsBlocked
  | ensureConnected
  | now
  | uuidHex
  | currentFooter
  | handling (signal : Signal)
  | notify (report : Report)
  | notifyChannel (report : Report)
  | recordCycle (signalUxid : Option String) (strategy symbol : String)
      (event : CycleEvent) (status : Option CycleStatus)

@[reducible] def HostOp.Ans : HostOp → Type
  | .signalsBlocked => Bool
  | .ensureConnected => Bool
  | .now => ℚ
  | .uuidHex => String
  | .currentFooter => String
  | .handling _ => Unit
  | .notify _ => Unit
  | .notifyChannel _ => Unit
  | .recordCycle .. => Bool

/-! ## Programs -/

inductive WorkerOp where
  | db (o : DbOp)
  | fx (o : ForexOp)
  | cx (o : CryptoOp)
  | host (o : HostOp)

@[reducible] def WorkerOp.Ans : WorkerOp → Type
  | .db o => o.Ans
  | .fx o => o.Ans
  | .cx o => o.Ans
  | .host o => o.Ans

/-- A program of the worker. -/
abbrev Work (α : Type) := Prog WorkerOp WorkerOp.Ans Exn α

def sql (o : DbOp) : Work o.Ans := Prog.perform (WorkerOp.db o)

def platform (o : ForexOp) : Work o.Ans := Prog.perform (WorkerOp.fx o)

def exchange (o : CryptoOp) : Work o.Ans := Prog.perform (WorkerOp.cx o)

def host (o : HostOp) : Work o.Ans := Prog.perform (WorkerOp.host o)

/-! ## `PositionRepository`

The reads and the log swallow an error and answer as if nothing were stored;
inserts and updates raise it. -/

def getOpenPositionsByStrategy (strategy symbol : String)
    (signalUxid : Option String := none) : Work (List Row) :=
  Prog.tryCatch (sql (.selectActiveByStrategy strategy symbol signalUxid)) fun _ =>
    pure []

def getOpenPositionsForFlat (strategy symbol refId : Option String := none) :
    Work (List Row) :=
  Prog.tryCatch (sql (.selectActiveForFlat strategy symbol refId)) fun _ => pure []

/-- `signal_exists`: an empty id was never seen, and a failed read counts as
seen. -/
def signalExists (signalId : String) : Work Bool :=
  if signalId = "" then pure false
  else Prog.tryCatch (sql (.selectLogged signalId)) fun _ => pure true

def getPosition (refSourceId : String) : Work (Option Row) :=
  Prog.tryCatch (sql (.selectPosition refSourceId)) fun _ => pure none

def logPosition (l : LogRow) : Work Unit :=
  Prog.tryCatch (sql (.insertLog l)) fun _ => pure ()

def insertPosition (r : NewRow) : Work Unit :=
  sql (.insertRow { r with status := .opened })

def insertRejectedPosition (r : NewRow) : Work Unit :=
  Prog.tryCatch (sql (.insertRow { r with status := .rejected })) fun _ => pure ()

def updatePositionStatus (u : StatusUpdate) : Work Unit :=
  sql (.updateStatus u)

/-- A loop of updates; the first that raises ends it. -/
def updateEach : List StatusUpdate → Work Unit
  | [] => pure ()
  | u :: us => do
      updatePositionStatus u
      updateEach us

end TradeWorker
