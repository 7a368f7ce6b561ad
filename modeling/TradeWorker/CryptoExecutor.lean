import TradeWorker.ForexSizing

/-!
# The crypto executor

`CryptoExecutor` over the exchange contract. An exchange nets a symbol into one
position and knows no strategy, so every query is by resolved symbol alone and
every resting order of the symbol is cancelled at once. Moving a stop and
closing a position both begin with that cancellation.
-/

namespace TradeWorker

def workerOrderPrefix : String := "awkr_"

/-- `linear_realized_pnl`: unknown when an input is missing or not positive. -/
def linearRealizedPnl (side : Side) (entryPrice closePrice volume : Option ℚ) :
    Option ℚ :=
  match entryPrice, closePrice, volume with
  | some entry, some close, some volume =>
      if entry ≤ 0 ∨ close ≤ 0 ∨ volume ≤ 0 then none
      else
        match side with
        | .long => some ((close - entry) * volume)
        | .short => some (-((close - entry) * volume))
  | _, _, _ => none

/-- `CryptoExecutor`'s configuration; `quoteAsset` is upper-cased on
construction. -/
structure CryptoExecutor where
  config : ExecutionConfig
  quoteAsset : String := "USDT"

namespace CryptoExecutor

variable (ex : CryptoExecutor)

/-! ## Symbols and quantities -/

def getSymbol (baseSymbol : String) : String :=
  let s := eraseChar '/' (lastSegment ':' (upper baseSymbol))
  let s := if endsWith s ".P" then dropEnd 2 s else s
  let quote := upper ex.quoteAsset
  if endsWith s quote then s
  else if endsWith s "USD" then dropEnd 3 s ++ quote
  else s ++ quote

/-- `normalize_volume` under a filter: down to the step, or to eight decimals
where the exchange states none. -/
def normalizeWith (f : SymbolFilter) (volume : ℚ) : ℚ :=
  if f.stepSize ≤ 0 then pyRoundTo volume 8
  else
    pyRoundTo (⌊volume / f.stepSize + 1 / 10 ^ 9⌋ * f.stepSize)
      (decimalsForStep f.stepSize)

def normalizeVolume (symbol : String) (volume : ℚ) : Work ℚ := do
  let f : SymbolFilter ← exchange (.getSymbolFilter (ex.getSymbol symbol))
  pure (normalizeWith f volume)

def minQty (symbol : String) : Work ℚ := do
  let f : SymbolFilter ← exchange (.getSymbolFilter symbol)
  pure f.minQty

def calculateQuantity (symbol : String) (entryPrice slPrice riskPercent capital : ℚ) :
    Work ℚ :=
  let perUnitRisk := |entryPrice - slPrice|
  if perUnitRisk ≤ 0 then do
    let f : SymbolFilter ← exchange (.getSymbolFilter (ex.getSymbol symbol))
    pure f.minQty
  else ex.normalizeVolume symbol (capital * (riskPercent / 100) / perUnitRisk)

/-! ## Queries -/

/-- `get_open_positions`: the strategy argument cannot isolate anything. -/
def getOpenPositions (symbol : String) : Work (List ExchangePosition) := do
  let positions ← exchange (.getPositions (some (ex.getSymbol symbol)))
  pure (positions.filter (0 < ·.volume))

/-- `get_entry_price`: a failed read is no quote. -/
def getEntryPrice (signal : Signal) : Work (Option ℚ) :=
  Prog.tryCatch
    (do
      let price : ℚ ← exchange (.getMarkPrice (ex.getSymbol signal.symbol))
      pure (if 0 < price then some price else none))
    fun _ => pure none

/-- `_entry_price_from_db`: the first stored entry price that is not zero. -/
def entryPriceFromDb (symbol : String) (strategy : Option String) : Work (Option ℚ) :=
  match text? strategy with
  | none => pure none
  | some strategy => do
      let rows ← getOpenPositionsByStrategy strategy symbol
      pure (rows.findSome? fun r => num? (some r.openedPrice))

/-- `_recover_entry_tp2`: the first stored entry signal with a TP2. -/
def recoverEntryTp2 (symbol : String) (strategy : Option String) : Work (Option ℚ) :=
  match text? strategy with
  | none => pure none
  | some strategy => do
      let rows ← getOpenPositionsByStrategy strategy symbol
      pure (rows.findSome? fun r => num? (r.gatewayMessage.bind (·.tp2)))

/-! ## Order ids -/

def clientOrderId (strategy : String) (signalId : Option String) : String :=
  let safe := String.ofList (strategy.toList.map fun c =>
    if isWord c || c = '.' || c = ':' || c = '/' || c = '-' then c else '_')
  takeText 36 (stripChar '-' (takeText 20 safe ++ "-" ++ takeEnd 6 (signalId.getD "")))

def closeClientOrderId : Work String := do
  let hex : String ← host .uuidHex
  pure (workerOrderPrefix ++ takeText 16 hex)

/-! ## Realized PnL -/

/-- `_exchange_realized_pnl`: a failed lookup is an unknown figure. -/
def exchangeRealizedPnl (pos : ExchangePosition) (orderId : Option String) :
    Work (Option ℚ) :=
  Prog.tryCatch (exchange (.getOrderRealizedPnl pos.symbol orderId)) fun _ => pure none

/-- `_attach_realized_pnl`: from the fill, else from the signal's price, else
from the exchange. -/
def attachRealizedPnl (result : TradeResult) (pos : ExchangePosition)
    (fallbackClosePrice fallbackEntryPrice : Option ℚ) : Work TradeResult :=
  match linearRealizedPnl pos.side (some pos.priceOpen) result.price result.volume with
  | some profit => pure { result with profit := some profit }
  | none =>
      let valued := (num? fallbackClosePrice).bind fun close =>
        linearRealizedPnl pos.side (num? fallbackEntryPrice <|> some pos.priceOpen)
          (some close) result.volume
      match valued with
      | some profit => pure { result with profit := some profit }
      | none => do
          let profit ← exchangeRealizedPnl pos result.ticket
          pure { result with profit := profit }

/-! ## Entry -/

def riskCapital (equitySizing : Option Bool) : Work (Option ℚ) :=
  if equitySizing = some true then do
    let account ← exchange .getAccount
    pure (num? (account.bind (·.equity)))
  else pure (some ex.config.capital)

/-- The risk percent an entry is sized with, scale-in factor applied. -/
def entryRisk (signal : Signal) : ℚ :=
  let risk :=
    if ex.config.useCustomRiskPercentage then ex.config.riskPercentage
    else
      match signal.riskPercent with
      | some r => if 0 < r then r else ex.config.riskPercentage
      | none => ex.config.riskPercentage
  risk * signal.scaleQuantityFactor

/-- `_resolve_entry_qty`. The caller guarantees a quantity in payload mode. -/
def resolveEntryQty (signal : Signal) (symbol : String) : Work ℚ :=
  let equitySizing := ex.config.resolveEquitySizing signal.useEquitySizing
  if ex.config.usesPayloadQuantity signal.useEquitySizing then
    ex.normalizeVolume symbol (signal.quantity.getD 0)
  else
    match num? signal.sl with
    | none => minQty symbol
    | some sl => do
        let capital ← ex.riskCapital equitySizing
        match capital with
        | none => minQty symbol
        | some capital => do
            let price ← exchange (.getMarkPrice symbol)
            ex.calculateQuantity symbol price sl (ex.entryRisk signal) capital

def enforceMinNotional (symbol : String) (qty : ℚ) : Work (Option ℚ) := do
  let f : SymbolFilter ← exchange (.getSymbolFilter symbol)
  if f.minNotional ≤ 0 then pure (some qty)
  else do
    let price ← Prog.tryCatch
      (do
        let price : ℚ ← exchange (.getMarkPrice symbol)
        pure (some price))
      fun _ => pure none
    match price with
    | none => pure none
    | some price =>
        if price ≤ 0 ∨ f.minNotional ≤ qty * price then pure (some qty)
        else do
          let bumped ← ex.normalizeVolume symbol (f.minNotional / price)
          if bumped ≤ qty ∧ 0 < f.stepSize then do
            let higher ← ex.normalizeVolume symbol (bumped + f.stepSize)
            pure (some higher)
          else pure (some bumped)

def nettingConflict (signal : Signal) (symbol : String) : Work (Option TradeResult) :=
  if ex.config.allowMultiStrategyPerSymbol then pure none
  else do
    let openRows ← getOpenPositionsForFlat none (some signal.symbol) none
    let others := ((openRows.map (·.strategy)).filter (· ≠ signal.strategy)).dedup
    if others = [] then pure none
    else pure (some (.fail ("Netting conflict: " ++ symbol ++ " already held by \x7b" ++
      joinText ", " (others.map quoted) ++
      "\x7d. Set CRYPTO_ALLOW_MULTI_STRATEGY_PER_SYMBOL=true to override.")))

def rollbackUnprotectedEntry (symbol : String) (side : Side) (entry slRes : TradeResult)
    (qty : ℚ) : Work TradeResult := do
  let closeQty := (num? entry.volume).getD qty
  let orderId ← closeClientOrderId
  let closeRes : TradeResult ←
    exchange (.placeMarketOrder symbol side closeQty true orderId)
  let comment :=
    if closeRes.success then s!"Entry rolled back: stop-loss failed ({slRes.comment})"
    else "UNPROTECTED POSITION: stop-loss failed (" ++ slRes.comment ++
      ") and rollback close failed (" ++ closeRes.comment ++ ") — close manually"
  pure { TradeResult.fail comment with
    retcode := slRes.retcode, slUpdate := some slRes, rollback := some closeRes }

/-- The take-profit half of `_attach_entry_orders`. -/
def attachTakeProfit (symbol : String) (side : Side) (qty : ℚ) (signal : Signal)
    (result : TradeResult) : Work TradeResult :=
  match num? signal.tp2 with
  | none => pure result
  | some tp2 => do
      let tpRes : TradeResult ← exchange (.setTakeProfit symbol side tp2 qty)
      pure { result with
        tpUpdate := some tpRes, tp := if tpRes.success then some tp2 else result.tp }

def attachEntryOrders (symbol : String) (side : Side) (qty : ℚ) (signal : Signal)
    (result : TradeResult) : Work TradeResult :=
  let withVolume (r : TradeResult) : TradeResult :=
    { r with volume := r.volume <|> some qty }
  match num? signal.sl with
  | none => do
      let result ← attachTakeProfit symbol side qty signal result
      pure (withVolume result)
  | some sl => do
      let slRes : TradeResult ← exchange (.setStopLoss symbol side sl qty)
      let result := { result with slUpdate := some slRes }
      if slRes.success then do
        let result ← attachTakeProfit symbol side qty signal { result with sl := some sl }
        pure (withVolume result)
      else rollbackUnprotectedEntry symbol side result slRes qty

def openPosition (signal : Signal) : Work TradeResult :=
  match signal.action.side? with
  | none => pure (.fail "Action Mapping Failed")
  | some side =>
      let symbol := ex.getSymbol signal.symbol
      if ex.config.usesPayloadQuantity signal.useEquitySizing ∧ signal.quantity = none then
        pure (.fail "Missing quantity")
      else do
        let resolved ← ex.resolveEntryQty signal symbol
        let qty ← ex.normalizeVolume symbol resolved
        if qty ≤ 0 then pure (.fail "Computed quantity is zero")
        else do
          let qty ← ex.enforceMinNotional symbol qty
          match qty with
          | none =>
              pure (.fail "Computed quantity below MIN_NOTIONAL and cannot be bumped")
          | some qty => do
              let conflict ← ex.nettingConflict signal symbol
              match conflict with
              | some conflict => pure conflict
              | none => do
                  let result : TradeResult ← exchange (.placeMarketOrder symbol side qty
                    false (clientOrderId signal.strategy signal.signalId))
                  if result.success then
                    attachEntryOrders symbol side qty signal result
                  else pure result

/-! ## Exits -/

def partialClosePosition (symbol : String) (closeVolume : ℚ) (positionTicket : Nat)
    (strategy : Option String) (fallbackClosePrice : Option ℚ) : Work TradeResult := do
  let positions ← ex.getOpenPositions symbol
  match positions with
  | [] => pure (.fail "No Positions Found")
  | first :: rest => do
      let pos := pickPosition first rest positionTicket
      let safeVolume ← ex.normalizeVolume symbol (min closeVolume pos.volume)
      if safeVolume ≤ 0 then pure (.fail "Close volume rounds to zero")
      else do
        let orderId ← closeClientOrderId
        let result : TradeResult ← exchange
          (.placeMarketOrder (ex.getSymbol symbol) pos.side safeVolume true orderId)
        if result.success then do
          let entryPrice ← entryPriceFromDb symbol strategy
          attachRealizedPnl { result with sourceTicket := some (ticketText pos.ticket) }
            pos fallbackClosePrice entryPrice
        else pure result

/-- `update_position_sl`: every resting order of the symbol goes before the new
stop is placed; the take-profit is then put back. -/
def updatePositionSl (symbol : String) (newSl : ℚ) (positionTicket : Nat)
    (strategy : Option String) : Work TradeResult := do
  let resolved := ex.getSymbol symbol
  let positions ← ex.getOpenPositions symbol
  match positions with
  | [] => pure (.fail "No Positions Found")
  | first :: rest => do
      let pos := pickPosition first rest positionTicket
      exchange (.cancelAllOrders resolved)
      let result : TradeResult ← exchange (.setStopLoss resolved pos.side newSl pos.volume)
      if result.success then do
        let result := { result with
          newSl := some newSl, ticket := some (ticketText pos.ticket) }
        let tp2 ← recoverEntryTp2 symbol strategy
        match tp2 with
        | none => pure result
        | some tp2 => do
            let tpRes ← exchange (.setTakeProfit resolved pos.side tp2 pos.volume)
            pure { result with tpUpdate := some tpRes }
      else pure result

/-- The loop of `close_all_positions`: the results of the closes that
succeeded, in order. -/
def closeEach (resolved : String) (fallbackClosePrice fallbackEntryPrice : Option ℚ) :
    List ExchangePosition → Work (List TradeResult)
  | [] => pure []
  | pos :: rest => do
      let orderId ← closeClientOrderId
      let result : TradeResult ← exchange
        (.placeMarketOrder resolved pos.side pos.volume true orderId)
      if result.success then do
        let result ←
          attachRealizedPnl result pos fallbackClosePrice fallbackEntryPrice
        let closed ← closeEach resolved fallbackClosePrice fallbackEntryPrice rest
        pure (result :: closed)
      else closeEach resolved fallbackClosePrice fallbackEntryPrice rest

/-- What `close_all_positions` reports for the closes that succeeded. -/
def closeReport (reason : String) (first : ExchangePosition)
    (closed : List TradeResult) : TradeResult :=
  match closed.getLast? with
  | some last =>
      { success := true
        retcode := some 0
        ticket := last.ticket
        sourceTicket := some (ticketText first.ticket)
        price := last.price
        volume := last.volume
        comment := s!"Closed {closed.length} position(s) [{reason}]"
        profit := totalProfit closed }
  | none => .fail s!"Failed to close [{reason}]"

/-- `close_all_positions`: the resting orders go before the closes are sent. -/
def closeAllPositions (symbol reason : String) (strategy : Option String)
    (fallbackClosePrice : Option ℚ) (positionTicket : Option String) :
    Work TradeResult := do
  let resolved := ex.getSymbol symbol
  let positions ← ex.getOpenPositions symbol
  match filterByTicket positions positionTicket with
  | [] => pure (.fail "No Positions Found")
  | first :: rest => do
      exchange (.cancelAllOrders resolved)
      let fallbackEntryPrice ← entryPriceFromDb symbol strategy
      let closed ←
        closeEach resolved fallbackClosePrice fallbackEntryPrice (first :: rest)
      pure (closeReport reason first closed)

@[simp] theorem closeReport_success (reason : String) (first : ExchangePosition)
    (closed : List TradeResult) :
    (closeReport reason first closed).success = true ↔ closed ≠ [] := by
  cases closed using List.reverseRecOn with
  | nil => simp [closeReport]
  | append_singleton init last => simp [closeReport]

/-- A success names the first position of the request, whatever became of it. -/
theorem closeReport_sourceTicket {reason : String} {first : ExchangePosition}
    {closed : List TradeResult} (h : (closeReport reason first closed).success = true) :
    (closeReport reason first closed).sourceTicket = some (ticketText first.ticket) := by
  unfold closeReport at h ⊢
  split <;> simp_all

theorem closeReport_ticket (reason : String) (first : ExchangePosition)
    (closed : List TradeResult) :
    (closeReport reason first closed).ticket = (closed.map (·.ticket)).getLast?.join := by
  cases closed using List.reverseRecOn with
  | nil => rfl
  | append_singleton init last => simp [closeReport]

@[simp] theorem closeReport_slFailsafeClose (reason : String) (first : ExchangePosition)
    (closed : List TradeResult) :
    (closeReport reason first closed).slFailsafeClose = none := by
  unfold closeReport
  split <;> rfl

@[simp] theorem closeReport_forcedClosed (reason : String) (first : ExchangePosition)
    (closed : List TradeResult) : (closeReport reason first closed).forcedClosed = [] := by
  unfold closeReport
  split <;> rfl

end CryptoExecutor

end TradeWorker
