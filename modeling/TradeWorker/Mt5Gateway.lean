import TradeWorker.Chars
import TradeWorker.CloseDetector
import TradeWorker.Implement
import TradeWorker.Work

/-!
# The MetaTrader 5 adapter

`MT5Gateway` answers the platform contract by calls of the terminal's interface. A trade
request that meets a busy trade context is sent again, four times at most. The profit of a
close is read out of the deal history, six times at most. A symbol is resolved once and
remembered.
-/

namespace Chars

/-- Digits of a number as `int` reads them: an underscore may stand between two. -/
def ungrouped : List Char → Option (List Char)
  | [] => none
  | [c] => if isDigit c then some [c] else none
  | c :: '_' :: rest => if isDigit c then (ungrouped rest).map (c :: ·) else none
  | c :: rest => if isDigit c then (ungrouped rest).map (c :: ·) else none

/-- `int(s)`, where that raises nothing. -/
def int? (s : List Char) : Option Int :=
  match strip isSpace s with
  | '-' :: rest => unsigned rest |>.map fun n => -(n : Int)
  | '+' :: rest => unsigned rest |>.map fun n => (n : Int)
  | rest => unsigned rest |>.map fun n => (n : Int)
where
  unsigned (rest : List Char) : Option Nat :=
    (ungrouped rest).bind fun digits =>
      if digits.length ≤ 4300 then some (natOf digits) else none

end Chars

namespace TradeWorker

namespace Mt5

/-! ## The terminal's interface -/

/-- `ORDER_TYPE_BUY` and `ORDER_TYPE_SELL`. -/
inductive TradeOrderType where
  | buy | sell
  deriving DecidableEq, Repr

/-- A request of `TRADE_ACTION_DEAL`, always `ORDER_TIME_GTC` and `ORDER_FILLING_IOC`. -/
structure DealRequest where
  symbol : String
  volume : ℚ
  type : TradeOrderType
  position : Option Nat := none
  price : ℚ
  deviation : Int
  magic : Int
  comment : String
  sl : Option ℚ := none
  tp : Option ℚ := none
  deriving DecidableEq, Repr

/-- The argument of `order_send`. -/
inductive TradeRequest where
  | deal (request : DealRequest)
  | sltp (symbol : String) (position : Nat) (sl tp : ℚ)
  deriving DecidableEq, Repr

structure OrderSendResult where
  retcode : Int
  order : Nat
  price : ℚ
  volume : ℚ
  comment : String
  deriving DecidableEq, Repr

structure LastError where
  code : Int
  description : String
  deriving DecidableEq, Repr

structure SymbolInfo where
  name : String
  point : ℚ
  digits : Nat
  volumeMin : ℚ
  volumeStep : ℚ
  volumeMax : ℚ
  tradeTickValue : ℚ
  tradeTickSize : ℚ
  tradeContractSize : ℚ
  tradeStopsLevel : Int
  tradeMode : Int
  visible : Bool
  deriving DecidableEq, Repr

/-- `TradePosition`; a position without a stop or a target has a zero there. -/
structure TradePosition where
  ticket : Nat
  magic : Int
  type : TradeOrderType
  volume : ℚ
  priceOpen : ℚ
  sl : ℚ
  tp : ℚ
  symbol : String
  deriving DecidableEq, Repr

structure OrderDeal extends CloseDetector.Deal where
  order : Nat
  deriving DecidableEq

structure AccountInfo where
  balance : ℚ
  equity : ℚ
  marginFree : ℚ
  deriving DecidableEq, Repr

/-- The MetaTrader5 module, the clock it is waited on by, and the resolver's cache. -/
inductive TerminalOp where
  | orderSend (request : TradeRequest)
  | lastError
  | symbolInfo (symbol : String)
  | symbolInfoTick (symbol : String)
  | symbolsGet (group : String)
  | symbolSelect (name : String)
  | positionsGet (symbol : Option String)
  | historyDealsGet (position : Int)
  | orderCalcMargin (type : TradeOrderType) (symbol : String) (volume price : ℚ)
  | accountInfo
  | monotonic
  | sleep (seconds : ℚ)
  | recall (baseSymbol : String)
  | remember (baseSymbol name : String)
  deriving DecidableEq, Repr

@[reducible] def TerminalOp.Ans : TerminalOp → Type
  | .orderSend _ => Option OrderSendResult
  | .lastError => LastError
  | .symbolInfo _ => Option SymbolInfo
  | .symbolInfoTick _ => Option Tick
  | .symbolsGet _ => Option (List SymbolInfo)
  | .symbolSelect _ => Unit
  | .positionsGet _ => Option (List TradePosition)
  | .historyDealsGet _ => Option (List OrderDeal)
  | .orderCalcMargin .. => Option ℚ
  | .accountInfo => Option AccountInfo
  | .monotonic => ℚ
  | .sleep _ => Unit
  | .recall _ => Option String
  | .remember .. => Unit

abbrev TerminalWork (α : Type) := Prog TerminalOp TerminalOp.Ans Exn α

def terminal (o : TerminalOp) : TerminalWork o.Ans := Prog.perform o

/-! ## Sending an order -/

/-- `TRADE_RETCODE_DONE`. -/
def retcodeDone : Int := 10009

def busyRetcodes : List Int := [10024]

def busySendAttempts : Nat := 4

def busySendDelay : ℚ := 3 / 10

/-- `"busy" in text.lower()`. -/
def saysBusy (text : String) : Bool :=
  (text.toList.map Char.toLower).tails.any ("busy".toList.isPrefixOf ·)

def LastError.text (error : LastError) : String :=
  "(" ++ toString error.code ++ ", " ++ quoted error.description ++ ")"

/-- `result.retcode == TRADE_RETCODE_DONE`, of a result there is. -/
def isDone (result : Option OrderSendResult) : Bool :=
  result.any fun r => r.retcode = retcodeDone

def isTradeContextBusy : Option OrderSendResult → Option LastError → Bool
  | none, error => saysBusy ((error.map LastError.text).getD "None")
  | some r, _ => busyRetcodes.contains r.retcode || saysBusy r.comment

/-- The rounds of `_send_order_request` that are left; `attempt` counts them from one. -/
def sendFrom (request : TradeRequest) : Nat → Nat → TerminalWork (Option OrderSendResult)
  | 0, _ => pure none
  | left + 1, attempt => do
      let result : Option OrderSendResult ← terminal (.orderSend request)
      if isDone result then pure result
      else do
        let error : Option LastError ←
          if result.isNone then some <$> terminal .lastError else pure none
        if !isTradeContextBusy result error then pure result
        else if attempt = busySendAttempts then pure result
        else do
          let _ : Unit ← terminal (.sleep (busySendDelay * 2 ^ (attempt - 1)))
          sendFrom request left (attempt + 1)

def sendOrderRequest (request : TradeRequest) : TerminalWork (Option OrderSendResult) :=
  sendFrom request busySendAttempts 1

/-- What the order methods report when `order_send` returned nothing. -/
def notSent (comment : String) : TerminalWork TradeResult := do
  let _ : LastError ← terminal .lastError
  let error : LastError ← terminal .lastError
  pure { success := false, comment, retcode := some error.code }

/-! ## Realized profit -/

def dealLookupAttempts : Nat := 6

def dealLookupDelay : ℚ := 1 / 4

def dealsRealizedPnl (deals : List OrderDeal) : Option ℚ :=
  if deals = [] then none
  else some (deals.map fun d => CloseDetector.dealRealizedPnl d.toDeal).sum

/-- `_history_deals`: `None` where the read failed. -/
def historyDeals (ticket : Option Int) : TerminalWork (Option (List OrderDeal)) :=
  match ticket with
  | none => pure none
  | some ticketId =>
      Prog.tryCatch
        (do
          let deals : Option (List OrderDeal) ← terminal (.historyDealsGet ticketId)
          pure (some (deals.getD [])))
        fun _ => pure none

/-- The rounds of the lookup in `_closing_deal_pnl` that are left. -/
def lookupFrom (order position : Nat) : Nat → TerminalWork (Option ℚ)
  | 0 => pure none
  | left + 1 => do
      let found ← historyDeals (some (position : Int))
      match found with
      | none => pure none
      | some deals =>
          let mine := deals.filter (·.order = order)
          if mine ≠ [] then pure (dealsRealizedPnl mine)
          else if left = 0 then pure none
          else do
            let _ : Unit ← terminal (.sleep dealLookupDelay)
            lookupFrom order position left

def closingDealPnl (result : OrderSendResult) (position : Nat) : TerminalWork (Option ℚ) :=
  if result.order = 0 then pure none
  else lookupFrom result.order position dealLookupAttempts

/-- `get_position_realized_pnl`. -/
def positionRealizedPnl (ticket : String) : TerminalWork (Option ℚ) := do
  let deals ← historyDeals (Chars.int? ticket.toList)
  pure (deals.bind dealsRealizedPnl)

/-! ## Symbols -/

/-- `SYMBOL_TRADE_MODE_DISABLED`. -/
def tradeModeDisabled : Int := 0

/-- The symbol the loop of `get_symbol` stops at. -/
def tradeable (baseSymbol : String) (sym : SymbolInfo) : Bool :=
  baseSymbol.toList.isPrefixOf sym.name.toList && sym.tradeMode != tradeModeDisabled

/-- A quote: `symbol_info_tick` may return zeros. -/
def live (tick : Option Tick) : Bool := tick.any fun t => 0 < t.bid && 0 < t.ask

end Mt5

/-- An `MT5Gateway`. The wait for a first tick ends by the clock; `waitRounds` is more than
the clock lets it take. -/
structure Mt5Gateway where
  deviation : Int := 20
  tickWaitTimeout : ℚ := 2
  tickWaitInterval : ℚ := 1 / 10
  waitRounds : Nat := 100

namespace Mt5Gateway

open Mt5

variable (gateway : Mt5Gateway)

/-- The rounds of `_await_first_tick` that are left. -/
def awaitFrom (name : String) (deadline : ℚ) : Nat → TerminalWork Unit
  | 0 => .raise (.other "still waiting")
  | left + 1 => do
      let tick : Option Tick ← terminal (.symbolInfoTick name)
      if live tick then pure ()
      else do
        let now : ℚ ← terminal .monotonic
        if deadline ≤ now then pure ()
        else do
          let _ : Unit ← terminal (.sleep gateway.tickWaitInterval)
          awaitFrom name deadline left

def awaitFirstTick (name : String) : TerminalWork Unit := do
  let now : ℚ ← terminal .monotonic
  gateway.awaitFrom name (now + gateway.tickWaitTimeout) gateway.waitRounds

def resolveSymbol (baseSymbol : String) : TerminalWork String := do
  let cached : Option String ← terminal (.recall baseSymbol)
  match cached with
  | some name => pure name
  | none => do
      let symbols : Option (List SymbolInfo) ← terminal (.symbolsGet ("*" ++ baseSymbol ++ "*"))
      match (symbols.getD []).find? (tradeable baseSymbol) with
      | none => pure baseSymbol
      | some sym => do
          if sym.visible then pure ()
          else do
            let _ : Unit ← terminal (.symbolSelect sym.name)
            gateway.awaitFirstTick sym.name
          let _ : Unit ← terminal (.remember baseSymbol sym.name)
          pure sym.name

def getSymbolSpec (symbol : String) : TerminalWork (Option SymbolSpec) := do
  let info : Option SymbolInfo ← terminal (.symbolInfo symbol)
  pure (info.map fun si =>
    { resolvedName := si.name
      point := si.point
      digits := si.digits
      volumeMin := si.volumeMin
      volumeStep := si.volumeStep
      volumeMax := si.volumeMax
      tickValue := si.tradeTickValue
      tickSize := si.tradeTickSize
      contractSize := si.tradeContractSize
      stopsLevel := si.tradeStopsLevel })

def getTick (symbol : String) : TerminalWork (Option Tick) := do
  let tick : Option Tick ← terminal (.symbolInfoTick symbol)
  pure (if live tick then tick else none)

/-- `SIDE_LONG if type == ORDER_TYPE_BUY else SIDE_SHORT`. -/
def sideOf : TradeOrderType → Side
  | .buy => .long
  | .sell => .short

/-- `ORDER_TYPE_BUY if side == SIDE_LONG else ORDER_TYPE_SELL`. -/
def orderType : Side → TradeOrderType
  | .long => .buy
  | .short => .sell

@[simp] theorem sideOf_orderType (side : Side) : sideOf (orderType side) = side := by
  cases side <;> rfl

/-- A position in the contract's terms. -/
def position (p : TradePosition) : PlatformPosition where
  ticket := p.ticket
  magic := p.magic
  side := sideOf p.type
  volume := p.volume
  priceOpen := p.priceOpen
  sl := p.sl
  tp := p.tp
  symbol := p.symbol

def getPositions (symbol : Option String) : TerminalWork (List PlatformPosition) := do
  let raw : Option (List TradePosition) ← terminal (.positionsGet symbol)
  pure ((raw.getD []).map position)

def getAccount : TerminalWork (Option Account) :=
  Prog.tryCatch
    (do
      let info : Option AccountInfo ← terminal .accountInfo
      match info with
      | none => do
          let _ : LastError ← terminal .lastError
          pure none
      | some info =>
          pure (some
            { balance := some info.balance
              equity := some info.equity
              marginFree := some info.marginFree }))
    fun _ => pure none

def calcMargin (symbol : String) (side : Side) (volume price : ℚ) :
    TerminalWork (Option ℚ) := do
  let margin : Option (Option ℚ) ←
    Prog.tryCatch (some <$> terminal (.orderCalcMargin (orderType side) symbol volume price))
      fun _ => pure none
  match margin with
  | none => pure none
  | some none => do
      let _ : LastError ← terminal .lastError
      pure none
  | some (some margin) => pure (some margin)

def fitComment (comment : String) : String :=
  String.ofList ((comment.toList.take 29).rdropWhile Chars.isSpace)

def placeOrder (req : OrderRequest) : TerminalWork TradeResult := do
  let request : DealRequest :=
    { symbol := req.symbol
      volume := req.volume
      type := orderType req.side
      price := req.price
      deviation := gateway.deviation
      magic := req.magic
      comment := fitComment req.comment
      sl := req.sl
      tp := req.tp }
  let result ← sendOrderRequest (.deal request)
  match result with
  | none => notSent "Send Failed"
  | some r =>
      if r.retcode ≠ retcodeDone then
        pure
          { success := false
            comment := r.comment
            retcode := some r.retcode
            volume := some req.volume }
      else
        pure
          { success := true
            retcode := some r.retcode
            ticket := some (ticketText r.order)
            price := some r.price
            volume := some r.volume
            sl := req.sl
            tp := req.tp }

/-- The request of `close_position`, at the quote it is priced by. -/
def closeRequest (pos : PlatformPosition) (volume : Option ℚ) (comment : String) (tick : Tick) :
    DealRequest where
  symbol := pos.symbol
  volume := volume.getD pos.volume
  type := if pos.side = .long then .sell else .buy
  position := some pos.ticket
  price := if pos.side = .long then tick.bid else tick.ask
  deviation := gateway.deviation
  magic := pos.magic
  comment := fitComment comment

def closePosition (pos : PlatformPosition) (volume : Option ℚ) (comment : String) :
    TerminalWork TradeResult := do
  let tick ← getTick pos.symbol
  match tick with
  | none => pure (TradeResult.fail "No tick / market data unavailable")
  | some tick => do
      let result ← sendOrderRequest (.deal (gateway.closeRequest pos volume comment tick))
      match result with
      | none => notSent "Close Failed"
      | some r =>
          if r.retcode ≠ retcodeDone then
            pure { success := false, comment := r.comment, retcode := some r.retcode }
          else do
            let profit ← closingDealPnl r pos.ticket
            pure
              { success := true
                retcode := some r.retcode
                ticket := some (ticketText r.order)
                price := some r.price
                volume := some r.volume
                profit }

def modifySl (pos : PlatformPosition) (newSl : ℚ) : TerminalWork TradeResult := do
  let result ← sendOrderRequest (.sltp pos.symbol pos.ticket newSl pos.tp)
  match result with
  | none => notSent "SL Update Failed"
  | some r =>
      if r.retcode ≠ retcodeDone then
        pure { success := false, comment := r.comment, retcode := some r.retcode }
      else
        pure
          { success := true
            retcode := some r.retcode
            ticket := some (ticketText pos.ticket)
            newSl := some newSl }

/-- The platform contract. -/
def platform : (o : ForexOp) → TerminalWork o.Ans
  | .resolveSymbol baseSymbol => gateway.resolveSymbol baseSymbol
  | .getSymbolSpec symbol => getSymbolSpec symbol
  | .getTick symbol => getTick symbol
  | .getPositions symbol => getPositions symbol
  | .getAccount => getAccount
  | .calcMargin symbol side volume price => calcMargin symbol side volume price
  | .placeOrder req => gateway.placeOrder req
  | .closePosition pos volume comment => gateway.closePosition pos volume comment
  | .modifySl pos newSl => modifySl pos newSl
  | .getPositionRealizedPnl ticket => positionRealizedPnl ticket

end Mt5Gateway

end TradeWorker
