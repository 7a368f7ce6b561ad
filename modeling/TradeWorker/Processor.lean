import TradeWorker.Guard

/-!
# The signal processor

`BaseSignalProcessor`: a live signal and a replayed one end in the same
`_process_signal`, which checks the block flag and the strategy, runs the entry
guards, hands the signal to the handler, and then logs, persists and reports
what came back. Only the replay looks the signal's id up first.
-/

namespace TradeWorker

/-- A processor: its market, settings, market tag and `_magic_for` hook. -/
structure Processor (Pos : Type) where
  market : ExecutorBackedMarket Pos
  settings : WorkerSettings
  marketType : String
  magicFor : String → Except Exn (Option Int)

namespace Processor

variable {Pos : Type} [LivePosition Pos] (P : Processor Pos)

/-! ## Reports -/

/-- `_notify_cycle_or_send`: the channel gets the report when no cycle owns it. -/
def notifyTrade (signal : Signal) (report : Report) (event : CycleEvent)
    (status : Option CycleStatus) : Work Unit := do
  let owned : Bool ← host (.recordCycle signal.signalUxid signal.strategy signal.symbol event
    status)
  if owned then pure () else host (.notifyChannel report)

/-- `_resolve_risk_info`. -/
def riskInfo (signal : Signal) : Option (ℚ × Bool) :=
  let config := P.market.config
  if !signal.action.isEntry || config.usesPayloadQuantity signal.useEquitySizing then none
  else if config.useCustomRiskPercentage then some (config.riskPercentage, true)
  else
    match signal.riskPercent with
    | some r => some (if 0 < r then r else config.riskPercentage, false)
    | none => some (config.riskPercentage, false)

def cycleTp1Percent (signal : Signal) : Option ℚ :=
  if signal.action ≠ .tp1 ∨ ¬ P.settings.volumeDecisionEnabled then none
  else if P.settings.useCustomPositionTp1Percent then P.settings.positionTp1Percent
  else signal.tp1Percent <|> P.settings.positionTp1Percent

/-- The reference a result names: its source ticket, else its ticket. -/
def resultTicket (result : TradeResult) : Option String :=
  text? result.sourceTicket <|> result.ticket

def cycleEvent (signal : Signal) (result : TradeResult) (outcome : CycleOutcome) :
    CycleEvent :=
  { action := signal.action.value
    outcome
    timestamp := signal.timestamp
    price := result.price
    volume := result.volume
    sl := signal.sl
    tp1 := signal.tp1
    tp2 := signal.tp2
    riskPercent := (P.riskInfo signal).map (·.1)
    riskCustom := ((P.riskInfo signal).map (·.2)).getD false
    autoVolume := !P.market.config.usesPayloadQuantity signal.useEquitySizing
    tp1Percent := P.cycleTp1Percent signal
    isScalePosition := signal.isScalePosition.getD false
    profit := if signal.action.isEntry then none else result.profit
    refId := result.ticket
    refSourceId := resultTicket result
    gatewayReturnCode := result.retcode
    reason := text? (some result.comment) }

/-- `_CLOSE_STATUS_MAP`. -/
def closeStatus : SignalAction → Option PositionStatus
  | .tp1 => some .tp1
  | .tp2 => some .tp2
  | .sl => some .sl
  | .rSl => some .rSl
  | .flat => some .flatted
  | .long | .short => none

/-- Whether the failsafe of a TP1 flattened the position. -/
def failsafeClosed (result : TradeResult) : Bool :=
  result.slFailsafeClose.any (·.success)

def cycleStatus (signal : Signal) (result : TradeResult) : Option CycleStatus :=
  if !result.success then some .failed
  else if signal.action.isEntry then some (.position .opened)
  else if failsafeClosed result then some (.position .forcedClosed)
  else (closeStatus signal.action).map .position

/-! ## Persistence -/

def resultLog (signal : Signal) (result : TradeResult) : LogRow :=
  { strategy := signal.strategy
    refId := result.ticket
    refSourceId := resultTicket result
    signalId := signal.signalId
    signalUxid := signal.signalUxid
    symbol := signal.symbol
    action := signal.action.value
    volume := result.volume
    price := result.price
    sl := num? result.sl <|> signal.sl
    tp1 := signal.tp1
    gatewayReturnCode := result.retcode
    comment := result.comment
    message := some (.signal signal)
    author := "broker"
    marketType := some P.marketType }

def rowAction : SignalAction → String
  | .short => "short"
  | _ => "long"

/-- The row `insert_position` is given for a filled entry. -/
def entryRow (signal : Signal) (result : TradeResult) (magic : Option Int) : NewRow :=
  { refId := resultTicket result
    signalId := signal.signalId
    signalUxid := signal.signalUxid
    strategy := signal.strategy
    symbol := signal.symbol
    action := rowAction signal.action
    volume := result.volume
    openedPrice := result.price
    status := .opened
    gatewayReturnCode := result.retcode
    comment := some result.comment
    message := some (.signal signal)
    strategyCode := magic
    marketType := some P.marketType }

/-- The update a successful exit writes: the mapped status, or `FORCED_CLOSED`
when the failsafe flattened the position. -/
def exitUpdate (signal : Signal) (result : TradeResult) (status : PositionStatus) :
    StatusUpdate :=
  { refSourceId := resultTicket result
    status := if failsafeClosed result then .forcedClosed else status
    refId := result.ticket
    closedPrice :=
      if failsafeClosed result then
        num? (result.slFailsafeClose.bind (·.price)) <|> result.price
      else result.price
    gatewayReturnCode := result.retcode
    comment := some result.comment
    message := some (.signal signal) }

/-- The reports of the rows an entry force-closed. -/
def notifyForcedClosed (signal : Signal) : List ForcedClosed → Work Unit
  | [] => pure ()
  | fc :: rest => do
      notifyTrade signal (.forceClosed signal.symbol signal.strategy fc)
        { action := signal.action.value
          outcome := .forceClosed
          timestamp := signal.timestamp
          price := fc.price
          volume := fc.volume
          profit := fc.profit
          refId := some fc.refId
          refSourceId := some fc.refSourceId
          reason := some "Closed to make room for a new entry" }
        none
      notifyForcedClosed signal rest

def persistSuccess (signal : Signal) (result : TradeResult) : Work Unit := do
  notifyForcedClosed signal result.forcedClosed
  match closeStatus signal.action with
  | none => do
      let magic ← Prog.ofExcept (P.magicFor signal.strategy)
      insertPosition (P.entryRow signal result magic)
  | some status => updatePositionStatus (exitUpdate signal result status)

/-! ## Guards -/

/-- `_entry_quote`: a failed read is no quote. -/
def entryQuote (signal : Signal) : Work (Option ℚ) :=
  Prog.tryCatch (P.market.entryPrice signal) fun _ => pure none

/-- `_entry_rejection`: the first reason, cheapest guard first. -/
def entryRejection (signal : Signal) : Work (Option String) := do
  let reason ← Guard.symbolOpenRejection signal P.market.allowsMultiStrategyPerSymbol
    P.market.allowsMultiPositionsPerSymbol
  match reason with
  | some reason => pure (some reason)
  | none => do
      let reason ← Guard.maxOpenOrdersRejection P.settings signal
        P.market.allowsMultiPositionsPerSymbol
      match reason with
      | some reason => pure (some reason)
      | none => do
          let quote ← P.entryQuote signal
          pure (Guard.staleSignalRejection signal quote P.settings)

/-- The reference a rejected entry is recorded under. -/
def rejectedRef (signal : Signal) : String :=
  (text? signal.signalId).getD
    ("REJECTED-" ++ signal.strategy ++ "-" ++ signal.symbol ++ "-" ++
      toString ⌊signal.timestamp⌋)

def rejectSignal (signal : Signal) (reason : String) : Work Unit := do
  let _footer ← host .currentFooter
  let ref := some (rejectedRef signal)
  let volume := some (signal.quantity.getD 0)
  let price := some (signal.price.getD 0)
  logPosition
    { strategy := signal.strategy, refId := ref, refSourceId := ref
      signalId := signal.signalId, signalUxid := signal.signalUxid
      symbol := signal.symbol, action := signal.action.value, volume, price
      sl := signal.sl, tp1 := signal.tp1, gatewayReturnCode := some (-1)
      comment := reason, message := some (.signal signal), author := "broker"
      marketType := some P.marketType }
  let magic ← Prog.ofExcept (P.magicFor signal.strategy)
  insertRejectedPosition
    { refId := ref, signalId := signal.signalId, signalUxid := signal.signalUxid
      strategy := signal.strategy, symbol := signal.symbol
      action := rowAction signal.action, volume, openedPrice := price
      status := .rejected, gatewayReturnCode := some (-1), comment := some reason
      message := some (.signal signal), strategyCode := magic
      marketType := some P.marketType }
  notifyTrade signal (.orderRejected signal reason)
    { action := signal.action.value, outcome := .rejected, timestamp := signal.timestamp
      price := signal.price, volume := signal.quantity, sl := signal.sl
      tp1 := signal.tp1, tp2 := signal.tp2, gatewayReturnCode := some (-1)
      reason := some reason }
    (some (.position .rejected))

/-! ## The pipeline -/

/-- A filled order priced at zero takes the signal's price. -/
def repairPrice (signal : Signal) (result : TradeResult) : TradeResult :=
  if result.success ∧ num? result.price = none then
    { result with price := num? signal.price <|> result.price }
  else result

@[simp] theorem repairPrice_success (signal : Signal) (result : TradeResult) :
    (repairPrice signal result).success = result.success := by
  unfold repairPrice
  split <;> rfl

@[simp] theorem repairPrice_slFailsafeClose (signal : Signal) (result : TradeResult) :
    (repairPrice signal result).slFailsafeClose = result.slFailsafeClose := by
  unfold repairPrice
  split <;> rfl

@[simp] theorem resultTicket_repairPrice (signal : Signal) (result : TradeResult) :
    resultTicket (repairPrice signal result) = resultTicket result := by
  unfold repairPrice
  split <;> rfl

/-- What the channel is told about a handled signal. -/
def outcomeReport (signal : Signal) (result : TradeResult) : Report × CycleOutcome :=
  if result.success then
    if result.slFailsafeClose.isSome then
      (.positionUnprotectedClosed signal result, .unprotectedClosed)
    else (.orderFilled signal result (resultTicket result), .filled)
  else (.orderFailed signal result, .failed)

/-- What follows the handler: log, rows, report. -/
def recordResult (signal : Signal) (result : TradeResult) : Work Unit := do
  let _footer ← host .currentFooter
  logPosition (P.resultLog signal result)
  if result.success then P.persistSuccess signal result else pure ()
  let outcome := outcomeReport signal result
  notifyTrade signal outcome.1 (P.cycleEvent signal result outcome.2)
    (cycleStatus signal result)

/-- The handler and what follows it. -/
def executeSignal (signal : Signal) : Work Unit := do
  let result ← SignalHandler.handle P.market signal
  P.recordResult signal (repairPrice signal result)

def processSignal (signal : Signal) : Work Unit := do
  let blocked : Bool ← host .signalsBlocked
  if blocked then pure ()
  else
    match P.magicFor signal.strategy with
    | .error (.keyError _) | .error (.valueError _) => do
        let _footer ← host .currentFooter
        host (.notify (.signalRejected
          s!"Unknown strategy '{signal.strategy}' — no strategy_magic_map entry."))
    | .error e => .raise e
    | .ok _ =>
        if signal.action.isEntry then do
          let reason ← P.entryRejection signal
          match reason with
          | some reason => P.rejectSignal signal reason
          | none => P.executeSignal signal
        else P.executeSignal signal

/-- The signal branch of `_process_message`, once the message is parsed. -/
def processMessage (signal : Signal) : Work Unit := do
  let connected : Bool ← host .ensureConnected
  if connected then P.processSignal signal else pure ()

/-! ## Replay -/

/-- `MAX_RETRY_TIMEOUT`, in seconds. -/
def maxRetryTimeout : ℚ := 60

/-- One signal of the replay: logged ids and stale signals are skipped, and an
exception does not end the batch. -/
def retrySignal (now : ℚ) (signal : Signal) : Work Unit := do
  let seen ← match text? signal.signalId with
    | some id => signalExists id
    | none => pure false
  if seen then pure ()
  else if maxRetryTimeout < now - signal.timestamp then pure ()
  else Prog.tryCatch (P.processSignal signal) fun _ => pure ()

/-- The loop of `_apply_retry_signals`. -/
def retryEach (now : ℚ) : List Signal → Work Unit
  | [] => pure ()
  | signal :: rest => do
      P.retrySignal now signal
      retryEach now rest

def applyRetrySignals (signals : List Signal) : Work Unit :=
  match signals with
  | [] => pure ()
  | _ :: _ => do
      let now : ℚ ← host .now
      P.retryEach now signals

/-- The listener's loop over messages: an exception skips the message. -/
def runMessages : List Signal → Work Unit
  | [] => pure ()
  | signal :: rest => do
      Prog.tryCatch (P.processMessage signal) fun _ => pure ()
      runMessages rest

end Processor

/-! ## The two processors -/

/-- `ForexSignalProcessor`: the magic of the strategy is the executor's. -/
def forexProcessor (ex : ForexExecutor) (settings : WorkerSettings) :
    Processor PlatformPosition where
  market := forexMarket ex
  settings
  marketType := "FOREX"
  magicFor strategy := (ex.magicFor (some strategy)).map some

/-- `CryptoSignalProcessor`: there are no magics. -/
def cryptoProcessor (ex : CryptoExecutor) (settings : WorkerSettings) :
    Processor ExchangePosition where
  market := cryptoMarket ex
  settings
  marketType := "CRYPTO"
  magicFor _ := .ok none

end TradeWorker
