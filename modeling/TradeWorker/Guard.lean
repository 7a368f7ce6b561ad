import TradeWorker.SignalHandler

/-!
# Entry guards

The policy checks run before an entry is sent: one open order per symbol, the
account-wide cap, and staleness against a live quote. Each answers with a
reason, or lets the entry pass.
-/

namespace TradeWorker

/-- The worker settings the guards and the reports read. -/
structure WorkerSettings where
  maxOpenOrders : Option Int := none
  maxEntryDriftRPercent : Option ℚ := none
  maxEntryDriftPercent : Option ℚ := none
  volumeDecisionEnabled : Bool := false
  useCustomPositionTp1Percent : Bool := false
  positionTp1Percent : Option ℚ := none
  deriving DecidableEq, Repr

namespace Guard

/-! ## Open positions -/

/-- A row blocks a fresh entry: another strategy's unless strategies may share
the symbol, the strategy's own unless its uxid differs and uxids count. -/
def blocks (signal : Signal) (allowMultiStrategy matchUxid : Bool) (row : Row) : Bool :=
  if row.strategy ≠ signal.strategy then !allowMultiStrategy
  else !(matchUxid && row.signalUxid ≠ signal.signalUxid)

/-- The text of `symbol_open_rejection`. -/
def openReason (signal : Signal) (matchUxid : Bool) (blocking : List Row) : String :=
  let holders := (((blocking.map (·.strategy)).filter (· ≠ "")).dedup).mergeSort (· ≤ ·)
  let heldBy := if holders = [] then "" else " (held by " ++ joinText ", " holders ++ ")"
  if matchUxid ∧ blocking.all (·.strategy = signal.strategy) then
    signal.symbol ++ " already has an open order for signal " ++
      signal.signalUxid.getD "None" ++ heldBy ++
      "; entry not placed (open position on symbol+strategy+signal_uxid)."
  else
    signal.symbol ++ " already has an open order" ++ heldBy ++
      "; entry not placed (open position on symbol)."

def symbolOpenRejection (signal : Signal) (allowMultiStrategy allowMultiPositions : Bool) :
    Work (Option String) := do
  let openPositions ← getOpenPositionsForFlat none (some signal.symbol) none
  let matchUxid := allowMultiPositions && (text? signal.signalUxid).isSome
  let blocking := openPositions.filter (blocks signal allowMultiStrategy matchUxid)
  if blocking = [] then pure none else pure (some (openReason signal matchUxid blocking))

/-- The re-entry exemption of the cap. -/
def alreadyHeld (signal : Signal) (allowMultiPositions : Bool) (row : Row) : Bool :=
  row.strategy = signal.strategy && row.symbol = signal.symbol &&
    (!allowMultiPositions || row.signalUxid = signal.signalUxid)

def maxOpenOrdersRejection (settings : WorkerSettings) (signal : Signal)
    (allowMultiPositions : Bool) : Work (Option String) :=
  match settings.maxOpenOrders with
  | none => pure none
  | some maxOrders =>
      if maxOrders ≤ 0 then pure none
      else do
        let openPositions ← getOpenPositionsForFlat none none none
        if openPositions.any (alreadyHeld signal allowMultiPositions) then pure none
        else if (openPositions.length : Int) < maxOrders then pure none
        else pure (some (s!"Max open orders reached ({openPositions.length}/{maxOrders}); " ++
          "entry not placed (MAX_OPEN_ORDERS)."))

/-! ## Staleness -/

def threshold (setting : Option ℚ) (default : ℚ) : ℚ := setting.getD default

def defaultDriftRPercent : ℚ := 50

def defaultDriftPercent : ℚ := 1 / 2

def driftReason (signal : Signal) (livePrice price : ℚ) (quoteLabel tail : String) :
    String :=
  signal.symbol ++ " " ++ signal.action.value ++ " rejected: price moved too far since " ++
    "the signal was generated — " ++ quoteLabel ++ " " ++ numText livePrice ++
    " vs signal price " ++ numText price ++ " is a drift of " ++
    generalText |livePrice - price| ++ tail ++ " Entering here would take a materially worse " ++
    "price than the signal planned for."

/-- `_drift_rejection`: in units of the planned risk where the signal has one,
in percent of the price otherwise. -/
def driftRejection (signal : Signal) (livePrice : ℚ) (settings : WorkerSettings)
    (quoteLabel : String) : Option String :=
  match signal.price with
  | none => none
  | some price =>
      if price ≤ 0 then none
      else
        let drift := |livePrice - price|
        let riskDistance := ((num? signal.sl).map fun sl => |price - sl|).getD 0
        if 0 < riskDistance then
          let maxR := threshold settings.maxEntryDriftRPercent defaultDriftRPercent
          let driftR := drift / riskDistance * 100
          if maxR ≤ 0 ∨ driftR ≤ maxR then none
          else some (driftReason signal livePrice price quoteLabel
            (" (" ++ fixedText 1 driftR ++ "% of the " ++ generalText riskDistance ++
              " entry-to-SL risk), over the " ++ generalText maxR ++
              "% MAX_ENTRY_DRIFT_R_PERCENT limit."))
        else
          let maxPercent := threshold settings.maxEntryDriftPercent defaultDriftPercent
          let driftPercent := drift / price * 100
          if maxPercent ≤ 0 ∨ driftPercent ≤ maxPercent then none
          else some (driftReason signal livePrice price quoteLabel
            (" (" ++ fixedText 2 driftPercent ++ "%), over the " ++ generalText maxPercent ++
              "% MAX_ENTRY_DRIFT_PERCENT limit (signal carries no SL, so the drift is " ++
              "measured against price)."))

/-- The market has reached a target or a stop. -/
def passed (isLong : Bool) (livePrice level : ℚ) : Bool :=
  if isLong then level ≤ livePrice else livePrice ≤ level

def staleSignalRejection (signal : Signal) (livePrice : Option ℚ)
    (settings : WorkerSettings) : Option String :=
  match livePrice with
  | none => none
  | some livePrice =>
      if livePrice ≤ 0 then none
      else
        let isLong : Bool := signal.action = .long
        let quoteLabel := if isLong then "ask" else "bid"
        let beyond := if isLong then "above" else "below"
        if (num? signal.tp2).any (passed isLong livePrice) then
          some (signal.symbol ++ " " ++ signal.action.value ++ " rejected: the market has " ++
            "already reached its take-profit — " ++ quoteLabel ++ " is " ++
            numText livePrice ++ " and tp2 is " ++ optNumText signal.tp2 ++
            ". Opening now would put the entry " ++ beyond ++ " its own target, so the " ++
            "position would start in loss with no profit left to take.")
        else if (num? signal.sl).any (passed (!isLong) livePrice) then
          some (signal.symbol ++ " " ++ signal.action.value ++ " rejected: the market has " ++
            "already reached its stop-loss — " ++ quoteLabel ++ " is " ++
            numText livePrice ++ " and sl is " ++ optNumText signal.sl ++
            ". Opening now would put the entry at or past its own stop, so the position " ++
            "would be stopped out immediately.")
        else driftRejection signal livePrice settings quoteLabel

end Guard

end TradeWorker
