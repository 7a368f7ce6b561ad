import TradeWorker.ExchangeClose
import TradeWorker.Rounding

/-!
# The Binance adapter

`BinanceFuturesGateway`, which serves the exchange contract by requests to the exchange. Every
request goes through `_send`: a signed one carries the local time plus an offset measured
against the exchange, and when the exchange refuses that timestamp the offset is measured anew
and the request is sent once more. What the adapter remembers between calls, the offset and the
trading rules, is on the far side of a call too.
-/

namespace TradeWorker

namespace Binance

/-! ## Requests -/

/-- `BUY` and `SELL`. -/
inductive WireSide where
  | buy | sell
  deriving DecidableEq, Repr

/-- The payload of `POST /fapi/v1/order`. -/
structure MarketOrder where
  symbol : String
  side : WireSide
  type : String := "MARKET"
  quantity : ℚ
  newOrderRespType : String := "RESULT"
  positionSide : Option Side := none
  reduceOnly : Bool := false
  newClientOrderId : Option String := none
  deriving DecidableEq, Repr

/-- The payload of `POST /fapi/v1/algoOrder`. -/
structure AlgoOrder where
  algoType : String := "CONDITIONAL"
  symbol : String
  side : WireSide
  type : String
  triggerPrice : ℚ
  closePosition : Bool := true
  positionSide : Option Side := none
  deriving DecidableEq, Repr

/-- `_API_Endpoints`, with the payload of each. -/
inductive Request where
  | time
  | balance
  | exchangeInfo
  | premiumIndex (symbol : String)
  | positionRisk (symbol : Option String)
  | order (payload : MarketOrder)
  | algoOrder (payload : AlgoOrder)
  | algoOpenOrders (symbol : String)
  | allOpenOrders (symbol : String)
  | account
  | userTrades (symbol orderId : String)
  | positionMode (dualSidePosition : Bool)
  deriving DecidableEq, Repr

/-! ## Responses -/

/-- An entry of `filters`. Numbers come as text. -/
structure FilterRow where
  filterType : Option String
  stepSize : Option String := none
  minQty : Option String := none
  tickSize : Option String := none
  minNotional : Option String := none

/-- An entry of `symbols` in the `exchangeInfo` body. -/
structure SymbolRow where
  symbol : Option String
  filters : List FilterRow := []

structure PositionRow where
  symbol : Option String
  positionAmt : Option String
  entryPrice : Option String
  unRealizedProfit : Option String

/-- The body an order is answered by. -/
structure OrderReply where
  orderId : Option Nat := none
  algoId : Option Nat := none
  avgPrice : Option String := none
  executedQty : Option String := none
  cumQuote : Option String := none
  status : Option String := none

/-- The body of `account`. -/
structure AccountReply where
  totalWalletBalance : Option String
  totalMarginBalance : Option String
  availableBalance : Option String

@[reducible] def Request.Body : Request → Type
  | .time => Option Int
  | .balance => Unit
  | .exchangeInfo => List SymbolRow
  | .premiumIndex _ => Option String
  | .positionRisk _ => List PositionRow
  | .order _ => OrderReply
  | .algoOrder _ => OrderReply
  | .algoOpenOrders _ => Unit
  | .allOpenOrders _ => Unit
  | .account => AccountReply
  | .userTrades .. => List (Option String)
  | .positionMode _ => Unit

/-! ## Calls -/

/-- What a signed request carries besides its payload. -/
structure Signature where
  timestamp : Int
  recvWindow : Int
  deriving DecidableEq, Repr

/-- The calls of the adapter: `time.time`, `send_request`, and reads and writes of
`_TIME_OFFSET_MS` and of `_filters`. -/
inductive WireOp where
  | time
  | submit (request : Request) (signature : Option Signature)
  | timeOffset
  | setTimeOffset (offset : Int)
  | filters
  | setFilters (filters : List (String × SymbolFilter))

@[reducible] def WireOp.Ans : WireOp → Type
  | .time => ℚ
  | .submit request _ => request.Body
  | .timeOffset => Int
  | .setTimeOffset _ => Unit
  | .filters => Option (List (String × SymbolFilter))
  | .setFilters _ => Unit

abbrev WireWork (α : Type) := Prog WireOp WireOp.Ans Exn α

def wire (o : WireOp) : WireWork o.Ans := Prog.perform o

/-- What the adapter takes from Python and from the transport: `float` of a text, the
`status_code` of an exception, `str` of it, and `hash`. -/
structure Runtime where
  float : String → Except Exn ℚ
  statusCode : Exn → Option Int
  str : Exn → String
  hash : String → Int

/-- `int(x)`: toward zero. -/
def truncate (x : ℚ) : Int := x.num.tdiv x.den

def openSide : Side → WireSide
  | .long => .buy
  | .short => .sell

def closeSide : Side → WireSide
  | .long => .sell
  | .short => .buy

def timestampCode : Int := -1021

def positionModeNoChangeCode : Int := -4059

end Binance

structure BinanceFuturesGateway where
  runtime : Binance.Runtime
  recvWindow : Int := 5000
  hedgeMode : Bool := false

namespace BinanceFuturesGateway

open Binance

variable (gateway : BinanceFuturesGateway)

/-! ## Transport -/

/-- `_call` of `_send`, with the timestamp `_offset_timestamp` gives a signed request. -/
def call (request : Request) (signed : Bool) : WireWork request.Body :=
  if signed then do
    let now : ℚ ← wire .time
    let offset : Int ← wire .timeOffset
    wire (.submit request
      (some { timestamp := truncate (now * 1000) + offset, recvWindow := gateway.recvWindow }))
  else wire (.submit request none)

theorem call_signed (request : Request) :
    gateway.call request true =
      (do
        let now : ℚ ← wire .time
        let offset : Int ← wire .timeOffset
        wire (.submit request
          (some { timestamp := truncate (now * 1000) + offset
                  recvWindow := gateway.recvWindow }))) := rfl

/-- The measurement of `_sync_time`. -/
def measure : WireWork Unit := do
  let t0 : ℚ ← wire .time
  let data : Option Int ← wire (.submit .time none)
  let t1 : ℚ ← wire .time
  match data with
  | none => .raise (.keyError "serverTime")
  | some serverTime =>
      wire (.setTimeOffset (truncate (serverTime - (t0 * 1000 + t1 * 1000) / 2)))

def syncTime : WireWork Unit := Prog.tryCatch measure fun _ => pure ()

def send (request : Request) (signed : Bool) : WireWork request.Body :=
  Prog.tryCatch (gateway.call request signed) fun exc =>
    if signed = true ∧ gateway.runtime.statusCode exc = some timestampCode then do
      syncTime
      gateway.call request signed
    else .raise exc

def connect : WireWork Bool :=
  Prog.tryCatch
    (do
      syncTime
      let _ : Unit ← gateway.send .balance true
      pure true)
    fun _ => pure false

def setPositionMode (hedgeMode : Bool) : WireWork Bool :=
  Prog.tryCatch
    (do
      let _ : Unit ← gateway.send (.positionMode hedgeMode) true
      pure true)
    fun exc => pure (gateway.runtime.statusCode exc = some positionModeNoChangeCode)

/-! ## Market data and rules -/

/-- `float(x or 0)`. -/
def number (text : Option String) : Except Exn ℚ := wireNumber gateway.runtime.float text none

/-- The entry of `filters` under a type: the last one given. -/
def filterOf (filters : List FilterRow) (filterType : String) : Option FilterRow :=
  filters.reverse.find? (·.filterType = some filterType)

/-- A `SymbolFilter` from the entries of one symbol. -/
def readRules (row : SymbolRow) : Except Exn (String × SymbolFilter) := do
  if row.filters.any (·.filterType = none) then throw (.keyError "filterType")
  let lot := filterOf row.filters "LOT_SIZE"
  let price := filterOf row.filters "PRICE_FILTER"
  let notional := (filterOf row.filters "MIN_NOTIONAL").orElse fun _ =>
    filterOf row.filters "NOTIONAL"
  match row.symbol with
  | none => throw (.keyError "symbol")
  | some symbol => do
      let stepSize ← gateway.number (lot.bind FilterRow.stepSize)
      let minQty ← gateway.number (lot.bind FilterRow.minQty)
      let tickSize ← gateway.number (price.bind FilterRow.tickSize)
      let minNotional ← gateway.number (notional.bind FilterRow.minNotional)
      pure (symbol, { stepSize, minQty, tickSize, minNotional })

/-- The loop of `_load_filters`: an exception leaves what it has built. The last entry of a
symbol is first in the list. -/
def readEach : List SymbolRow → List (String × SymbolFilter) → List (String × SymbolFilter)
  | [], out => out
  | row :: rows, out =>
      match gateway.readRules row with
      | .ok rules => readEach rows (rules :: out)
      | .error _ => out

def loadFilters : WireWork (List (String × SymbolFilter)) :=
  Prog.tryCatch
    (do
      let rows : List SymbolRow ← gateway.send .exchangeInfo false
      pure (gateway.readEach rows []))
    fun _ => pure []

def getSymbolFilter (symbol : String) : WireWork SymbolFilter := do
  let known : Option (List (String × SymbolFilter)) ← wire .filters
  match known with
  | some filters => pure ((filters.lookup symbol).getD {})
  | none => do
      let filters ← gateway.loadFilters
      let _ : Unit ← wire (.setFilters filters)
      pure ((filters.lookup symbol).getD {})

def getMarkPrice (symbol : String) : WireWork ℚ := do
  let markPrice : Option String ← gateway.send (.premiumIndex symbol) false
  match markPrice with
  | none => .raise (.keyError "markPrice")
  | some markPrice => Prog.ofExcept (gateway.runtime.float markPrice)

/-- `_round_to_tick`, by the tick size of the symbol. -/
def snap (tick price : ℚ) : ℚ :=
  if tick ≤ 0 then price
  else pyRoundTo (pyRound (price / tick) * tick) (decimalsForStep tick)

def roundToTick (symbol : String) (price : ℚ) : WireWork ℚ := do
  let rules ← gateway.getSymbolFilter symbol
  pure (snap rules.tickSize price)

/-! ## Positions -/

/-- `get_positions` on one row; a row with no amount is no position. -/
def readPosition (row : PositionRow) : Except Exn (Option ExchangePosition) := do
  let amt ← gateway.number row.positionAmt
  if amt = 0 then pure none
  else
    match row.symbol with
    | none => throw (.keyError "symbol")
    | some symbol => do
        let entryPrice ← gateway.number row.entryPrice
        let _ ← gateway.number row.unRealizedProfit
        pure (some
          { symbol
            side := if 0 < amt then .long else .short
            quantity := amt
            entryPrice
            ticket := (gateway.runtime.hash symbol).natAbs % 10 ^ 9 })

def getPositions (symbol : Option String) : WireWork (List ExchangePosition) := do
  let rows : List PositionRow ← gateway.send (.positionRisk (text? symbol)) true
  let positions ← Prog.ofExcept (rows.mapM gateway.readPosition)
  pure (positions.filterMap id)

/-! ## Orders -/

def orderResult (data : OrderReply) : Except Exn TradeResult := do
  let orderId := (data.orderId.filter (· ≠ 0)).orElse fun _ => data.algoId
  let avgPrice ← gateway.number data.avgPrice
  let execQty ← gateway.number data.executedQty
  let cumQuote ← if avgPrice = 0 ∧ 0 < execQty then gateway.number data.cumQuote else pure 0
  pure
    { success := true
      retcode := some 0
      ticket := orderId.map toString
      price := some (if 0 < cumQuote then cumQuote / execQty else avgPrice)
      volume := some execQty
      comment := data.status.getD "NEW" }

/-- A result is a success of the quantity executed. -/
theorem orderResult_reports {data : OrderReply} {r : TradeResult}
    (h : gateway.orderResult data = .ok r) :
    r.success = true ∧ gateway.number data.executedQty = .ok (r.volume.getD 0) := by
  unfold orderResult at h
  cases hprice : gateway.number data.avgPrice with
  | error e =>
      rw [hprice] at h
      cases h
  | ok avgPrice =>
      cases hqty : gateway.number data.executedQty with
      | error e =>
          rw [hprice, hqty] at h
          cases h
      | ok execQty =>
          rw [hprice, hqty] at h
          change (if avgPrice = 0 ∧ 0 < execQty then _ else _) = _ at h
          split at h
          · cases hquote : gateway.number data.cumQuote with
            | error e =>
                rw [hquote] at h
                cases h
            | ok cumQuote =>
                rw [hquote] at h
                cases h
                exact ⟨rfl, rfl⟩
          · cases h
            exact ⟨rfl, rfl⟩

/-- The end of the order methods: a response is read, an exception is a failure. -/
def answer (reply : WireWork OrderReply) : WireWork TradeResult :=
  Prog.tryCatch (reply >>= fun data => Prog.ofExcept (gateway.orderResult data)) fun exc =>
    pure (TradeResult.fail (gateway.runtime.str exc))

/-- The payload of `place_market_order`. -/
def marketOrder (symbol : String) (side : Side) (quantity : ℚ) (reduceOnly : Bool)
    (clientOrderId : Option String) : MarketOrder where
  symbol
  side := if reduceOnly then closeSide side else openSide side
  quantity
  positionSide := if gateway.hedgeMode then some side else none
  reduceOnly := !gateway.hedgeMode && reduceOnly
  newClientOrderId := text? clientOrderId

def placeMarketOrder (symbol : String) (side : Side) (quantity : ℚ) (reduceOnly : Bool)
    (clientOrderId : Option String) : WireWork TradeResult :=
  gateway.answer
    (gateway.send (.order (gateway.marketOrder symbol side quantity reduceOnly clientOrderId)) true)

/-- The payload of `set_stop_loss` and of `set_take_profit`. -/
def conditional (type symbol : String) (positionSide : Side) (triggerPrice : ℚ) : AlgoOrder where
  symbol
  side := closeSide positionSide
  type
  triggerPrice
  positionSide := if gateway.hedgeMode then some positionSide else none

/-- A conditional order at a price snapped to the tick size. -/
def setConditional (type symbol : String) (positionSide : Side) (price : ℚ) :
    WireWork TradeResult := do
  let triggerPrice ← gateway.roundToTick symbol price
  gateway.answer
    (gateway.send (.algoOrder (gateway.conditional type symbol positionSide triggerPrice)) true)

def setStopLoss (symbol : String) (positionSide : Side) (stopPrice _quantity : ℚ) :
    WireWork TradeResult :=
  gateway.setConditional "STOP_MARKET" symbol positionSide stopPrice

def setTakeProfit (symbol : String) (positionSide : Side) (tpPrice _quantity : ℚ) :
    WireWork TradeResult :=
  gateway.setConditional "TAKE_PROFIT_MARKET" symbol positionSide tpPrice

/-- `cancel_all_orders`: one system after the other, whatever the first says. -/
def cancelAllOrders (symbol : String) : WireWork Unit := do
  let _ : Unit ← Prog.tryCatch (gateway.send (.allOpenOrders symbol) true) fun _ => pure ()
  Prog.tryCatch (gateway.send (.algoOpenOrders symbol) true) fun _ => pure ()

/-! ## Account -/

def getOrderRealizedPnl (symbol : String) (orderId : Option String) : WireWork (Option ℚ) :=
  match text? orderId with
  | none => pure none
  | some orderId => do
      let rows : List (Option String) ←
        Prog.tryCatch (gateway.send (.userTrades symbol orderId) true) fun _ => pure []
      if rows = [] then pure none
      else do
        let profits ← Prog.ofExcept (rows.mapM gateway.number)
        pure (some profits.sum)

def getAccount : WireWork (Option Account) :=
  Prog.tryCatch
    (do
      let data : AccountReply ← gateway.send .account true
      let balance ← Prog.ofExcept (gateway.number data.totalWalletBalance)
      let equity ← Prog.ofExcept (gateway.number data.totalMarginBalance)
      let _ ← Prog.ofExcept (gateway.number data.availableBalance)
      pure (some { balance := some balance, equity := some equity }))
    fun _ => pure none

/-- The exchange contract. -/
def contract : (o : CryptoOp) → WireWork o.Ans
  | .getSymbolFilter symbol => gateway.getSymbolFilter symbol
  | .getMarkPrice symbol => gateway.getMarkPrice symbol
  | .getPositions symbol => gateway.getPositions symbol
  | .placeMarketOrder symbol side quantity reduceOnly clientOrderId =>
      gateway.placeMarketOrder symbol side quantity reduceOnly (some clientOrderId)
  | .setStopLoss symbol positionSide stopPrice quantity =>
      gateway.setStopLoss symbol positionSide stopPrice quantity
  | .setTakeProfit symbol positionSide tpPrice quantity =>
      gateway.setTakeProfit symbol positionSide tpPrice quantity
  | .cancelAllOrders symbol => gateway.cancelAllOrders symbol
  | .getOrderRealizedPnl symbol orderId => gateway.getOrderRealizedPnl symbol orderId
  | .getAccount => gateway.getAccount

/-! ## What a call sends -/

/-- Requests of a kind, beside the measurement of the clock; no rules are stored. -/
def Within (G : Request → Prop) : WireOp → Prop
  | .submit request _ => request = .time ∨ G request
  | .setFilters _ => False
  | _ => True

def only (G : Request → Prop) : Prog.Contract WireOp WireOp.Ans Exn where
  guard := Within G
  answers _ _ := True

section Only

variable {G : Request → Prop}

theorem only_pure {α : Type} (a : α) : Prog.Sends (only G) (fun _ => True) (pure a : WireWork α) :=
  Prog.sends_ret.mpr trivial

theorem only_ofExcept {α : Type} (x : Except Exn α) :
    Prog.Sends (only G) (fun _ => True) (Prog.ofExcept x : WireWork α) :=
  Prog.sends_ofExcept.mpr fun _ _ => trivial

theorem only_wire {o : WireOp} (h : Within G o) :
    Prog.Sends (only G) (fun _ => True) (wire o) :=
  Prog.sends_perform h fun _ _ => trivial

theorem only_syncTime : Prog.Sends (only G) (fun _ => True) syncTime := by
  refine Prog.Sends.tryCatch ?_ fun _ => only_pure _
  refine (only_wire (o := .time) trivial).bind fun t0 _ => ?_
  refine (only_wire (o := .submit .time none) (.inl rfl)).bind fun data _ => ?_
  refine (only_wire (o := .time) trivial).bind fun t1 _ => ?_
  cases data with
  | none => exact Prog.sends_raise.mpr trivial
  | some serverTime => exact only_wire trivial

theorem only_call {request : Request} (h : G request) (signed : Bool) :
    Prog.Sends (only G) (fun _ => True) (gateway.call request signed) := by
  unfold call
  split
  · refine (only_wire (o := .time) trivial).bind fun now _ => ?_
    refine (only_wire (o := .timeOffset) trivial).bind fun offset _ => ?_
    exact only_wire (.inr h)
  · exact only_wire (.inr h)

theorem only_send {request : Request} (h : G request) (signed : Bool) :
    Prog.Sends (only G) (fun _ => True) (gateway.send request signed) := by
  refine Prog.Sends.tryCatch (gateway.only_call h signed) fun exc => ?_
  split
  · exact only_syncTime.bind fun _ _ => gateway.only_call h signed
  · exact Prog.sends_raise.mpr trivial

theorem only_answer {reply : WireWork OrderReply}
    (h : Prog.Sends (only G) (fun _ => True) reply) :
    Prog.Sends (only G) (fun _ => True) (gateway.answer reply) :=
  Prog.Sends.tryCatch (h.bind fun _ _ => only_ofExcept _) fun _ => only_pure _

theorem only_getMarkPrice (symbol : String) (h : G (.premiumIndex symbol)) :
    Prog.Sends (only G) (fun _ => True) (gateway.getMarkPrice symbol) := by
  refine (gateway.only_send h false).bind fun markPrice _ => ?_
  cases markPrice with
  | none => exact Prog.sends_raise.mpr trivial
  | some markPrice => exact only_ofExcept _

theorem only_getPositions (symbol : Option String) (h : G (.positionRisk (text? symbol))) :
    Prog.Sends (only G) (fun _ => True) (gateway.getPositions symbol) :=
  (gateway.only_send h true).bind fun _ _ => (only_ofExcept _).bind fun _ _ => only_pure _

theorem only_cancelAllOrders (symbol : String) (hregular : G (.allOpenOrders symbol))
    (halgo : G (.algoOpenOrders symbol)) :
    Prog.Sends (only G) (fun _ => True) (gateway.cancelAllOrders symbol) := by
  have hfirst := Prog.Sends.tryCatch (gateway.only_send hregular true) fun _ => only_pure ()
  exact hfirst.bind fun _ _ =>
    Prog.Sends.tryCatch (gateway.only_send halgo true) fun _ => only_pure _

theorem only_getOrderRealizedPnl (symbol : String) (orderId : Option String)
    (h : ∀ id, G (.userTrades symbol id)) :
    Prog.Sends (only G) (fun _ => True) (gateway.getOrderRealizedPnl symbol orderId) := by
  unfold getOrderRealizedPnl
  split
  · exact only_pure _
  rename_i id _
  have hrows := Prog.Sends.tryCatch (gateway.only_send (h id) true) fun _ => only_pure []
  refine hrows.bind fun rows _ => ?_
  split
  · exact only_pure _
  · exact (only_ofExcept _).bind fun _ _ => only_pure _

theorem only_getAccount (h : G .account) :
    Prog.Sends (only G) (fun _ => True) gateway.getAccount := by
  refine Prog.Sends.tryCatch ?_ fun _ => only_pure _
  refine (gateway.only_send h true).bind fun data _ => ?_
  refine (only_ofExcept _).bind fun balance _ => ?_
  refine (only_ofExcept _).bind fun equity _ => ?_
  exact (only_ofExcept _).bind fun _ _ => only_pure _

end Only

end BinanceFuturesGateway

end TradeWorker
