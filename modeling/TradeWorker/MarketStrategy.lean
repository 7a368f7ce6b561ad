import TradeWorker.CryptoExecutor
import TradeWorker.ForexExecutor

/-!
# Market strategies

`ExecutorBackedMarket`: the entry, TP1 and full-close logic every market
shares, over any executor with the `TradeExecutorProtocol` operations. A market
differs in its executor and in the capabilities it reports; only `ForexMarket`
ever reports any.
-/

namespace TradeWorker

/-- `TradeExecutorProtocol`, over the market's kind of position. -/
structure TradeExecutor (Pos : Type) where
  openPosition : Signal → Work TradeResult
  getEntryPrice : Signal → Work (Option ℚ)
  normalizeVolume : String → ℚ → Work ℚ
  convertQuantityToLots : String → ℚ → Work ℚ
  getOpenPositions : String → Option String → Work (List Pos)
  /-- Symbol, volume, ticket, strategy, the price to value the close at. -/
  partialClosePosition : String → ℚ → Nat → Option String → Option ℚ → Work TradeResult
  /-- Symbol, new stop, ticket, strategy. -/
  updatePositionSl : String → ℚ → Nat → Option String → Work TradeResult
  /-- Symbol, reason, strategy, the price to value the close at, ticket. -/
  closeAllPositions : String → String → Option String → Option ℚ → Option String →
    Work TradeResult

structure ExecutorBackedMarket (Pos : Type) where
  executor : TradeExecutor Pos
  config : ExecutionConfig
  allowsMultiPositionsPerSymbol : Bool
  allowsMultiStrategyPerSymbol : Bool

namespace ExecutorBackedMarket

variable {Pos : Type} [LivePosition Pos] (market : ExecutorBackedMarket Pos)

/-! ## Position helpers -/

def getOpenPositions (symbol : String) (strategy positionTicket : Option String) :
    Work (List Pos) := do
  let positions ← market.executor.getOpenPositions symbol strategy
  pure (filterByTicket positions positionTicket)

def closeAllPositions (symbol reason : String) (strategy positionTicket : Option String) :
    Work TradeResult :=
  market.executor.closeAllPositions symbol reason strategy none positionTicket

/-! ## TP1 -/

def resolveTp1Params (signal : Signal) : Option ℚ × Bool :=
  (if market.config.useCustomPositionTp1Percent then market.config.positionTp1Percent
    else signal.tp1Percent <|> market.config.positionTp1Percent,
   (market.config.tp1MoveSlToBreakeven <|> signal.moveSlToBe).getD false)

/-- `_resolve_tp1_volume`: a failure the caller returns as it is, or the close
volume. -/
def resolveTp1Volume (signal : Signal) (pos : Pos) (tp1Percent : Option ℚ) :
    Work (Except TradeResult ℚ) :=
  if market.config.volumeDecisionEnabled then
    match tp1Percent with
    | none => pure (.error (.fail ("No TP1 percent available — set POSITION_TP1_PERCENT " ++
        "or include tp1_percent in the signal.")))
    | some percent => do
        let volume ← market.executor.normalizeVolume signal.symbol
          (LivePosition.volume pos * (percent / 100))
        pure (.ok volume)
  else
    match signal.quantity with
    | none => pure (.error (.fail "Missing quantity in TP1 signal"))
    | some quantity => do
        let volume ← market.executor.convertQuantityToLots signal.symbol quantity
        pure (.ok volume)

def failsafeReport (closeResult slResult failsafe : TradeResult) : TradeResult :=
  let closeResult := { closeResult with slFailsafeClose := some failsafe }
  if failsafe.success then
    { closeResult with
      comment := s!"TP1 partial filled but breakeven SL failed ({slResult.comment}) — " ++
        "unprotected position emergency-closed" }
  else
    { closeResult with
      positionUnprotected := true
      comment := "UNPROTECTED POSITION: breakeven SL failed (" ++ slResult.comment ++
        ") AND emergency close failed (" ++ failsafe.comment ++ ") — close manually" }

/-- The breakeven half of `handle_tp1`. The failsafe close names the strategy
and no ticket. -/
def moveSlToBreakeven (signal : Signal) (pos : Pos) (closeResult : TradeResult) :
    Work TradeResult := do
  let slResult ← market.executor.updatePositionSl signal.symbol
    (LivePosition.priceOpen pos) (LivePosition.ticket pos) (some signal.strategy)
  let closeResult := { closeResult with slUpdate := some slResult }
  if slResult.success then pure closeResult
  else do
    let failsafe ← market.executor.closeAllPositions signal.symbol "SL_FAILSAFE"
      (some signal.strategy) signal.price none
    pure (failsafeReport closeResult slResult failsafe)

def handleTp1 (signal : Signal) (positionTicket : Option String) : Work TradeResult := do
  let positions ←
    market.getOpenPositions signal.symbol (some signal.strategy) positionTicket
  match positions with
  | [] => pure (.fail "No open position — likely SL already triggered.")
  | pos :: _ => do
      let params := market.resolveTp1Params signal
      let volume ← market.resolveTp1Volume signal pos params.1
      match volume with
      | .error failure => pure failure
      | .ok closeVolume => do
          let closeResult ← market.executor.partialClosePosition signal.symbol
            closeVolume (LivePosition.ticket pos) (some signal.strategy) signal.price
          if closeResult.success ∧ params.2 then
            market.moveSlToBreakeven signal pos closeResult
          else pure closeResult

/-! ## Full exits and entries -/

def handleFullClose (signal : Signal) (positionTicket : Option String) :
    Work TradeResult :=
  market.executor.closeAllPositions signal.symbol signal.action.value
    (some signal.strategy) signal.price positionTicket

def entry (signal : Signal) : Work TradeResult :=
  market.executor.openPosition signal

def entryPrice (signal : Signal) : Work (Option ℚ) :=
  market.executor.getEntryPrice signal

end ExecutorBackedMarket

/-! ## The two markets -/

/-- `ForexExecutor` behind the protocol; it values no close at a signal's price. -/
def ForexExecutor.protocol (ex : ForexExecutor) : TradeExecutor PlatformPosition where
  openPosition := ex.openPosition
  getEntryPrice := ForexExecutor.getEntryPrice
  normalizeVolume := ForexExecutor.normalize
  convertQuantityToLots := ForexExecutor.convertQuantity
  getOpenPositions := ex.getOpenPositions
  partialClosePosition symbol volume ticket strategy _ :=
    ex.partialClosePosition symbol volume ticket strategy
  updatePositionSl := ex.updatePositionSl
  closeAllPositions symbol reason strategy _ ticket :=
    ex.closeAllPositions symbol reason strategy ticket

/-- `CryptoExecutor` behind the protocol; quantities are base units already. -/
def CryptoExecutor.protocol (ex : CryptoExecutor) : TradeExecutor ExchangePosition where
  openPosition := ex.openPosition
  getEntryPrice := ex.getEntryPrice
  normalizeVolume := ex.normalizeVolume
  convertQuantityToLots := ex.normalizeVolume
  getOpenPositions symbol _ := ex.getOpenPositions symbol
  partialClosePosition := ex.partialClosePosition
  updatePositionSl := ex.updatePositionSl
  closeAllPositions := ex.closeAllPositions

def forexMarket (ex : ForexExecutor) : ExecutorBackedMarket PlatformPosition where
  executor := ex.protocol
  config := ex.config
  allowsMultiPositionsPerSymbol := ex.config.allowMultiPositionsPerSymbol
  allowsMultiStrategyPerSymbol := ex.config.allowMultiStrategyPerSymbol

/-- `CryptoMarket` keeps the base capabilities. -/
def cryptoMarket (ex : CryptoExecutor) : ExecutorBackedMarket ExchangePosition where
  executor := ex.protocol
  config := ex.config
  allowsMultiPositionsPerSymbol := false
  allowsMultiStrategyPerSymbol := false

end TradeWorker
