import TradeWorker.CloseDetector
import TradeWorker.ExchangeClose
import TradeWorker.MarketFootprint
import TradeWorker.ReconcileJob

/-!
# Closes that no signal asked for

Three more writers of the position rows, beside the signal path: the handler of the MT5
close event, the exchange close of `ExchangeClose`, and the reconcile handlers with the
scan that calls them. Each reads a row, and writes its status later by the row's
reference.
-/

namespace TradeWorker

/-! ## The terminal's close event -/

def terminalComment (event : CloseDetector.TerminalClosedEvent) : String :=
  s!"Terminal close [{event.closeReason.value}]"

/-- What `MT5EventJob` logs of a close. -/
def terminalLog (strategy : String) (event : CloseDetector.TerminalClosedEvent) : LogRow where
  strategy
  refId := some event.dealTicket
  refSourceId := some event.sourceTicket
  signalId := none
  signalUxid := none
  symbol := event.symbol
  action := event.closeReason.value
  volume := some event.closeVolume
  price := some event.closePrice
  sl := event.sl
  tp1 := event.tp
  gatewayReturnCode := some event.dealReason
  comment := terminalComment event
  message := none
  author := "terminal"
  marketType := none

def terminalUpdate (event : CloseDetector.TerminalClosedEvent) : StatusUpdate where
  refSourceId := some event.sourceTicket
  status := .terminalClosed
  refId := some event.dealTicket
  closedPrice := some event.closePrice
  gatewayReturnCode := some event.dealReason
  comment := some (terminalComment event)

/-- `MT5EventJob._handle`: the row is looked up by its reference, in whatever status. -/
def handleTerminalClose (event : CloseDetector.TerminalClosedEvent) : Work Unit := do
  let position ← getPosition event.sourceTicket
  match position with
  | none => pure ()
  | some row => do
      logPosition (terminalLog row.strategy event)
      updatePositionStatus (terminalUpdate event)
      host (.notifyChannel (.terminalClosed event))

/-- The loop over the events of a scan: each is isolated from the rest. -/
def handleTerminalCloses : List CloseDetector.TerminalClosedEvent → Work Unit
  | [] => pure ()
  | event :: rest => do
      Prog.tryCatch (handleTerminalClose event) fun _ => pure ()
      handleTerminalCloses rest

/-! ## The reconcile handlers -/

def missedLog (author : String) (marketType : MarketType) (comment : String) (row : Row)
    (closePrice : Option ℚ) : LogRow where
  strategy := row.strategy
  refId := none
  refSourceId := some row.refSourceId
  signalId := none
  signalUxid := none
  symbol := row.symbol
  action := "TERMINAL_CLOSED"
  volume := some row.volume
  price := closePrice
  sl := none
  tp1 := none
  gatewayReturnCode := some 0
  comment
  message := none
  author
  marketType := some marketType.value

def missedUpdate (comment : String) (row : Row) (closePrice : Option ℚ) : StatusUpdate where
  refSourceId := some row.refSourceId
  status := .terminalClosed
  closedPrice := closePrice
  gatewayReturnCode := some 0
  comment := some comment

namespace ForexExecutor

/-- `_best_effort_price`: the middle of the quote, if there is one. -/
def bestEffortPrice (symbol : String) : Work (Option ℚ) :=
  Prog.tryCatch
    (do
      let resolved : String ← platform (.resolveSymbol symbol)
      let tick ← platform (.getTick resolved)
      pure (Option.map (fun t : Tick => (t.bid + t.ask) / 2) tick))
    fun _ => pure none

def reconciledPnl (positionTicket : String) : Work (Option ℚ) :=
  if positionTicket = "" then pure none
  else Prog.tryCatch (platform (.getPositionRealizedPnl positionTicket)) fun _ => pure none

def onMissedClose (row : Row) : Work Unit := do
  let closePrice ← bestEffortPrice row.symbol
  let comment := "Reconciled: closed on broker (close event missed)"
  logPosition (missedLog "terminal" .forex comment row closePrice)
  updatePositionStatus (missedUpdate comment row closePrice)
  let _footer ← host .currentFooter
  let profit ← reconciledPnl row.refSourceId
  host (.notifyChannel (.reconcileClosed row closePrice profit))

end ForexExecutor

namespace CryptoExecutor

variable (ex : CryptoExecutor)

/-- `_best_effort_price`: the mark price, if it can be read. -/
def bestEffortPrice (resolved : String) : Work (Option ℚ) :=
  Prog.tryCatch
    (do
      let price : ℚ ← exchange (.getMarkPrice resolved)
      pure (some price))
    fun _ => pure none

/-- The side a row was opened on; an unknown one gives no profit. -/
def rowSide (row : Row) : Option Side :=
  if upper row.action = Side.long.value then some .long
  else if upper row.action = Side.short.value then some .short
  else none

def reconciledPnl (row : Row) (closePrice : Option ℚ) : Option ℚ :=
  (rowSide row).bind fun side =>
    linearRealizedPnl side (some row.openedPrice) closePrice (some row.volume)

def onMissedClose (row : Row) : Work Unit := do
  let closePrice ← bestEffortPrice (ex.getSymbol row.symbol)
  let comment := "Reconciled: closed on exchange (fill event missed)"
  logPosition (missedLog "exchange" .crypto comment row closePrice)
  updatePositionStatus (missedUpdate comment row closePrice)
  let _footer ← host .currentFooter
  host (.notifyChannel (.reconcileClosed row closePrice (reconciledPnl row closePrice)))

end CryptoExecutor

def Market.onMissedClose : Market → Row → Work Unit
  | .forex _ => ForexExecutor.onMissedClose
  | .crypto ex => ex.onMissedClose

/-! ## The scan that calls them -/

namespace ReconcileJob

variable {Pos Key Id : Type} [DecidableEq Key] [DecidableEq Id]

/-- The loop of `_reconcile_missed_closes`: a failing handler leaves its row open. -/
def closeEach (handler : Row → Work Unit) : List Row → Work Unit
  | [] => pure ()
  | row :: rest => do
      Prog.tryCatch (handler row) fun _ => pure ()
      closeEach handler rest

/-- The rows a scan closes, given those it read. -/
def confirmedRows (suspected : Finset String) (s : Scan Pos Key Id) (live : List Pos)
    (rows : List Row) : List Row :=
  Confirm.confirmed suspected (staleRows { s with dbRows := rows } live)

/-- The first direction of `_scan`, with the store's reads and the handler's calls. -/
def closeMissed (handler : Row → Work Unit) (suspected : Finset String)
    (s : Scan Pos Key Id) : Work Unit :=
  match livePositions s with
  | none => pure ()
  | some live => do
      let dbRows ← getOpenPositionsForFlat
      closeEach handler (confirmedRows suspected s live dbRows)

end ReconcileJob

end TradeWorker
