import TradeWorker.MarketStrategy

/-!
# The signal handler

`SignalHandler` turns a signal into market calls: an entry clears the
strategy's stale position and opens a fresh one, TP1 closes a part, the full
closes close what is left, and FLAT closes first and looks at the store
afterwards. Exits find their position through its row; the row's ticket scopes
the market calls only when a `signal_uxid` is in play.
-/

namespace TradeWorker.SignalHandler

variable {Pos : Type} [LivePosition Pos] (market : ExecutorBackedMarket Pos)

/-! ## Row lookup -/

def uxidScope (signal : Signal) : Option String :=
  if market.allowsMultiPositionsPerSymbol then text? signal.signalUxid else none

def healDuplicate (row : Row) : StatusUpdate :=
  { refSourceId := some row.refSourceId
    status := .forcedClosed
    comment := some "Duplicate active position — healed by signal handler" }

/-- `_get_db_position`: the first active row of the key, the rest marked
`FORCED_CLOSED`. -/
def getDbPosition (strategy symbol : String) (signalUxid : Option String) :
    Work (Option Row) := do
  let positions ← getOpenPositionsByStrategy strategy symbol signalUxid
  match positions with
  | [] => pure none
  | kept :: duplicates => do
      updateEach (duplicates.map healDuplicate)
      pure (some kept)

/-! ## The exit skeleton -/

/-- `_execute_exit`: row, live guard, the market's exit, and the row's reference
on a success. -/
def executeExit (signal : Signal)
    (strategyFn : Signal → Option String → Work TradeResult)
    (noDbComment noMt5Comment : String) : Work TradeResult := do
  let uxid := uxidScope market signal
  let dbPos ← getDbPosition signal.strategy signal.symbol uxid
  match dbPos with
  | none => pure (.fail noDbComment)
  | some dbPos => do
      let positionTicket := if uxid.isSome then some dbPos.refSourceId else none
      let live ←
        market.getOpenPositions signal.symbol (some signal.strategy) positionTicket
      if live.isEmpty then pure (.fail noMt5Comment)
      else do
        let result ← strategyFn signal positionTicket
        if result.success then
          pure { result with sourceTicket := some dbPos.refSourceId }
        else pure result

/-! ## Entries -/

/-- The cleanup report with one more close in it: the last price and code, the
profits summed. -/
def bookCleanup (report cleanup : TradeResult) : TradeResult :=
  { report with
    price := cleanup.price
    retcode := cleanup.retcode
    profit :=
      match cleanup.profit with
      | some booked => some (report.profit.getD 0 + booked)
      | none => report.profit }

/-- The loop of `_force_close_stale`, from the values the closes so far
reported. The first failure is returned. -/
def forceCloseEach (symbol strategy : String) :
    List (Option String) → TradeResult → Work TradeResult
  | [], report => pure report
  | ticket :: rest, report => do
      let cleanup ←
        market.closeAllPositions symbol "STALE_CLEANUP" (some strategy) ticket
      if cleanup.success then
        forceCloseEach symbol strategy rest (bookCleanup report cleanup)
      else pure cleanup

def forceCloseStale (symbol strategy : String) (tickets : List (Option String)) :
    Work TradeResult :=
  forceCloseEach market symbol strategy tickets { success := true, retcode := none }

/-- The positions the entry finds under its stale tickets. -/
def collectStale (symbol strategy : String) : List (Option String) → Work (List Pos)
  | [] => pure []
  | ticket :: rest => do
      let found ← market.getOpenPositions symbol (some strategy) ticket
      let others ← collectStale symbol strategy rest
      pure (found ++ others)

/-- The tickets an entry cleans up: one for each tracked row when a uxid is in
play, the single unscoped close otherwise. -/
def staleTickets (uxid : Option String) (dbStale : List Row) : List (Option String) :=
  if uxid.isSome then
    (dbStale.filter (·.refSourceId ≠ "")).map fun r => some r.refSourceId
  else [none]

/-- The update an entry makes to each active row of its own key. -/
def clearStale (stale : Bool) (cleanup : TradeResult) (row : Row) : StatusUpdate :=
  { refSourceId := some row.refSourceId
    status := .forcedClosed
    closedPrice := cleanup.price
    gatewayReturnCode := cleanup.retcode
    comment := some (if stale then "Force-closed by new entry signal"
      else "Orphaned DB row cleared by new entry (not live on broker)") }

def forcedClosedEntry (cleanup : TradeResult) (row : Row) : ForcedClosed :=
  { refSourceId := row.refSourceId
    refId := row.refId
    price := cleanup.price
    volume := some row.volume
    retcode := cleanup.retcode
    profit := cleanup.profit }

def nettingRefusal (symbol : String) (holders : List String) : TradeResult :=
  .fail ("Netting conflict: " ++ symbol ++ " already held by [" ++
    joinText ", " (holders.map quoted) ++
    "]. Parallel strategies on one symbol are FOREX-only " ++
    "(FOREX_ALLOW_MULTI_STRATEGY_PER_SYMBOL).")

/-- The rest of `_handle_entry` once the stale positions are closed: the rows
are cleared whether or not the broker still held anything. -/
def enterFresh (signal : Signal) (dbStale : List Row) (stale : Bool)
    (cleanup : TradeResult) : Work TradeResult := do
  updateEach (dbStale.map (clearStale stale cleanup))
  let result ← market.entry signal
  if dbStale.isEmpty then pure result
  else pure { result with forcedClosed := dbStale.map (forcedClosedEntry cleanup) }

/-- The cleanup report of an entry that found nothing to close. -/
def noCleanup : TradeResult := { success := true, retcode := none }

/-- `_handle_entry` after the netting guard. -/
def replaceStale (signal : Signal) : Work TradeResult := do
  let uxid := uxidScope market signal
  let dbStale ← getOpenPositionsByStrategy signal.strategy signal.symbol uxid
  let tickets := staleTickets uxid dbStale
  let stale ← collectStale market signal.symbol signal.strategy tickets
  if stale.isEmpty then enterFresh market signal dbStale false noCleanup
  else do
    let cleanup ← forceCloseStale market signal.symbol signal.strategy tickets
    if cleanup.success then enterFresh market signal dbStale true cleanup
    else
      pure { TradeResult.fail s!"Stale position cleanup failed: {cleanup.comment}" with
        retcode := cleanup.retcode }

def handleEntry (signal : Signal) : Work TradeResult := do
  let holders ← getOpenPositionsForFlat none (some signal.symbol) none
  let others := ((holders.map (·.strategy)).filter (· ≠ signal.strategy)).dedup
  if others ≠ [] ∧ ¬ market.allowsMultiStrategyPerSymbol then
    pure (nettingRefusal signal.symbol (others.mergeSort (· ≤ ·)))
  else replaceStale market signal

/-! ## Exits -/

def handleTp1 (signal : Signal) : Work TradeResult :=
  executeExit market signal market.handleTp1
    s!"No tracked opening position in DB for {signal.symbol}"
    "No open position — likely SL already triggered."

def handleFullClose (signal : Signal) : Work TradeResult :=
  executeExit market signal market.handleFullClose
    s!"No tracked opening position in DB for {signal.symbol} [{signal.action.value}]"
    s!"No open positions to close [{signal.action.value}]"

/-- The write-off FLAT makes when nothing was closed. -/
def flatSynced (signal : Signal) (row : Row) : StatusUpdate :=
  { refSourceId := some row.refSourceId
    status := .flatted
    comment := some "FLAT signal: position not found in MT5 — DB synced"
    message := some (.signal signal) }

/-- The row FLAT settles on: the one it owned before the close, else looked up
again. -/
def flatRow (signal : Signal) (owned : Option Row) : Work (Option Row) :=
  match owned with
  | some row => pure (some row)
  | none =>
      getDbPosition signal.strategy signal.symbol (uxidScope market signal)

/-- The close FLAT sends: scoped, then once more without the strategy where no
one else may hold the symbol. -/
def flatClose (signal : Signal) (positionTicket : Option String) : Work TradeResult := do
  let result ←
    market.closeAllPositions signal.symbol "FLAT" (some signal.strategy) positionTicket
  if result.success ∨ market.allowsMultiStrategyPerSymbol ∨
      market.allowsMultiPositionsPerSymbol then pure result
  else market.closeAllPositions signal.symbol "FLAT" none none

/-- What FLAT does with the row once the closes are done. -/
def flatSettle (signal : Signal) (owned : Option Row) (result : TradeResult) :
    Work TradeResult := do
  let dbPos ← flatRow market signal owned
  match dbPos with
  | none => pure result
  | some row =>
      if result.success then pure { result with sourceTicket := some row.refSourceId }
      else do
        updatePositionStatus (flatSynced signal row)
        pure result

def handleFlat (signal : Signal) : Work TradeResult := do
  let uxid := uxidScope market signal
  let owned ← getDbPosition signal.strategy signal.symbol uxid
  match uxid, owned with
  | some u, none =>
      pure (.fail s!"No tracked position for {signal.symbol} signal {u} [FLAT]")
  | _, _ => do
      let positionTicket := if uxid.isSome then owned.map (·.refSourceId) else none
      let result ← flatClose market signal positionTicket
      flatSettle market signal owned result

def handle (signal : Signal) : Work TradeResult := do
  host (.handling signal)
  match signal.action with
  | .long | .short => handleEntry market signal
  | .tp1 => handleTp1 market signal
  | .tp2 | .sl | .rSl => handleFullClose market signal
  | .flat => handleFlat market signal

end TradeWorker.SignalHandler
