import TradeWorker.Text

/-!
# Signals, configuration, positions and results

The values every layer passes around: the broker's signal, the execution
configuration read once at start-up, live positions on the two kinds of
market, and the `TradeResult` every operation returns.
-/

namespace TradeWorker

/-! ## Signals -/

inductive SignalAction where
  | long | short | tp1 | tp2 | rSl | sl | flat
  deriving DecidableEq, Repr

def SignalAction.value : SignalAction → String
  | .long => "LONG"
  | .short => "SHORT"
  | .tp1 => "TP1"
  | .tp2 => "TP2"
  | .rSl => "R_SL"
  | .sl => "SL"
  | .flat => "FLAT"

/-- `_ENTRY_ACTIONS`. -/
def SignalAction.isEntry : SignalAction → Bool
  | .long | .short => true
  | _ => false

/-- `ScalingSchema`: multipliers the broker already applied. -/
structure Scaling where
  tp : Option ℚ := none
  sl : Option ℚ := none
  quantity : Option ℚ := none
  deriving DecidableEq, Repr

/-- `SignalSchema`. The timestamp is in seconds. -/
structure Signal where
  strategy : String
  timestamp : ℚ
  action : SignalAction
  symbol : String
  signalId : Option String := none
  signalUxid : Option String := none
  price : Option ℚ := none
  quantity : Option ℚ := none
  sl : Option ℚ := none
  tp1 : Option ℚ := none
  tp2 : Option ℚ := none
  riskPercent : Option ℚ := none
  isScalePosition : Option Bool := none
  scaling : Option Scaling := none
  tp1Percent : Option ℚ := none
  moveSlToBe : Option Bool := none
  useEquitySizing : Option Bool := none
  deriving DecidableEq, Repr

def Signal.scaleQuantityFactor (signal : Signal) : ℚ :=
  if signal.isScalePosition = some true then
    ((signal.scaling.bind (·.quantity)).getD 1)
  else 1

/-! ## Configuration -/

inductive MarketType where
  | forex | crypto
  deriving DecidableEq, Repr

def MarketType.value : MarketType → String
  | .forex => "FOREX"
  | .crypto => "CRYPTO"

structure ExecutionConfig where
  volumeDecisionEnabled : Bool := true
  capital : ℚ := 1000
  riskPercentage : ℚ := 1
  useAccountEquity : Option Bool := none
  useCustomPositionTp1Percent : Bool := false
  positionTp1Percent : Option ℚ := none
  tp1MoveSlToBreakeven : Option Bool := none
  allowMultiStrategyPerSymbol : Bool := false
  allowMultiPositionsPerSymbol : Bool := false
  useCustomRiskPercentage : Bool := false
  deriving DecidableEq, Repr

/-- `ExecutionConfig.resolve_equity_sizing`: the environment wins, then the
payload, then no opinion. -/
def ExecutionConfig.resolveEquitySizing (config : ExecutionConfig)
    (signalFlag : Option Bool) : Option Bool :=
  match config.useAccountEquity with
  | some b => some b
  | none => signalFlag

def ExecutionConfig.usesPayloadQuantity (config : ExecutionConfig)
    (signalFlag : Option Bool) : Bool :=
  match config.resolveEquitySizing signalFlag with
  | some equitySizing => !equitySizing
  | none => !config.volumeDecisionEnabled

/-! ## Live positions -/

/-- `SIDE_LONG` / `SIDE_SHORT`. -/
inductive Side where
  | long | short
  deriving DecidableEq, Repr

def Side.value : Side → String
  | .long => "LONG"
  | .short => "SHORT"

/-- `_ACTION_SIDE`. -/
def SignalAction.side? : SignalAction → Option Side
  | .long => some .long
  | .short => some .short
  | _ => none

/-- `PlatformPosition`: a ticket on a forex platform. -/
structure PlatformPosition where
  ticket : Nat
  magic : Int
  side : Side
  volume : ℚ
  priceOpen : ℚ
  sl : ℚ := 0
  tp : ℚ := 0
  symbol : String := ""
  deriving DecidableEq, Repr

/-- `ExchangePosition`: the net position (one-way) or one leg (hedge mode) on
an exchange. The ticket is synthetic. -/
structure ExchangePosition where
  symbol : String
  side : Side
  quantity : ℚ
  entryPrice : ℚ
  ticket : Nat
  deriving DecidableEq, Repr

def ExchangePosition.volume (p : ExchangePosition) : ℚ := |p.quantity|

def ExchangePosition.priceOpen (p : ExchangePosition) : ℚ := p.entryPrice

/-- What the broker-neutral market logic reads of a position. -/
class LivePosition (Pos : Type) where
  ticket : Pos → Nat
  volume : Pos → ℚ
  priceOpen : Pos → ℚ

instance : LivePosition PlatformPosition where
  ticket := PlatformPosition.ticket
  volume := PlatformPosition.volume
  priceOpen := PlatformPosition.priceOpen

instance : LivePosition ExchangePosition where
  ticket := ExchangePosition.ticket
  volume := ExchangePosition.volume
  priceOpen := ExchangePosition.priceOpen

/-- `filter_by_ticket`: no ticket leaves the list untouched. -/
def filterByTicket {Pos : Type} [LivePosition Pos] (positions : List Pos) :
    Option String → List Pos
  | none => positions
  | some ticket => positions.filter fun p => sameTicket (LivePosition.ticket p) ticket

@[simp] theorem filterByTicket_none {Pos : Type} [LivePosition Pos] (ps : List Pos) :
    filterByTicket ps none = ps := rfl

theorem mem_filterByTicket_some {Pos : Type} [LivePosition Pos] {ps : List Pos}
    {t : String} {p : Pos} :
    p ∈ filterByTicket ps (some t) ↔ p ∈ ps ∧ sameTicket (LivePosition.ticket p) t := by
  simp [filterByTicket]

theorem filterByTicket_sublist {Pos : Type} [LivePosition Pos] {ps : List Pos}
    {t : Option String} : (filterByTicket ps t).Sublist ps := by
  cases t with
  | none => exact List.Sublist.refl _
  | some t => exact List.filter_sublist

theorem mem_of_mem_filterByTicket {Pos : Type} [LivePosition Pos] {ps : List Pos}
    {t : Option String} {p : Pos} (h : p ∈ filterByTicket ps t) : p ∈ ps :=
  filterByTicket_sublist.subset h

/-- The position an exit by integer ticket addresses: the ticket's own, else
the first of the (non-empty) list. -/
def pickPosition {Pos : Type} [LivePosition Pos] (first : Pos) (rest : List Pos)
    (ticket : Nat) : Pos :=
  if ticket = 0 then first
  else ((first :: rest).find? (LivePosition.ticket · = ticket)).getD first

theorem pickPosition_mem {Pos : Type} [LivePosition Pos] (first : Pos)
    (rest : List Pos) (ticket : Nat) : pickPosition first rest ticket ∈ first :: rest := by
  unfold pickPosition
  split
  · exact List.mem_cons_self
  · cases h : (first :: rest).find? (LivePosition.ticket · = ticket) with
    | none => exact List.mem_cons_self
    | some p => exact List.mem_of_find?_eq_some h

/-! ## Results -/

/-- One entry of the `forced_closed` list an entry reports. -/
structure ForcedClosed where
  refSourceId : String
  refId : String
  price : Option ℚ
  volume : Option ℚ
  retcode : Option Int
  profit : Option ℚ
  deriving DecidableEq, Repr

/-- `TradeResult`, with the ad-hoc keys its callers set as fields. -/
structure TradeResult where
  success : Bool
  retcode : Option Int := some (-1)
  comment : String := ""
  ticket : Option String := none
  price : Option ℚ := none
  volume : Option ℚ := none
  sourceTicket : Option String := none
  sl : Option ℚ := none
  tp : Option ℚ := none
  newSl : Option ℚ := none
  slUpdate : Option TradeResult := none
  forcedClosed : List ForcedClosed := []
  profit : Option ℚ := none
  tpUpdate : Option TradeResult := none
  slFailsafeClose : Option TradeResult := none
  rollback : Option TradeResult := none
  positionUnprotected : Bool := false
  requestedVolume : Option ℚ := none
  deriving Repr

/-- `TradeResult.fail` with its default code. -/
def TradeResult.fail (comment : String) : TradeResult :=
  { success := false, comment }

@[simp] theorem TradeResult.fail_success (comment : String) :
    (TradeResult.fail comment).success = false := rfl

@[simp] theorem TradeResult.fail_positionUnprotected (comment : String) :
    (TradeResult.fail comment).positionUnprotected = false := rfl

/-- A result that says the position runs without a stop. -/
def TradeResult.Flagged (result : TradeResult) : Prop :=
  result.positionUnprotected = true ∨
    "UNPROTECTED".toList.isPrefixOf result.comment.toList = true

/-- `total_profit`: the known figures summed, unknown when none is known. -/
def totalProfit (results : List TradeResult) : Option ℚ :=
  match results.filterMap (·.profit) with
  | [] => none
  | known => some known.sum

/-! ## Closes from outside -/

inductive ExchangeCloseReason where
  | sl | tp | liquidation | manual
  deriving DecidableEq, Repr

def ExchangeCloseReason.value : ExchangeCloseReason → String
  | .sl => "SL"
  | .tp => "TP"
  | .liquidation => "LIQUIDATION"
  | .manual => "MANUAL"

/-- `ExchangeCloseEvent`: a position-closing fill that came from the exchange. -/
structure ExchangeCloseEvent where
  symbol : String
  reason : ExchangeCloseReason
  closePrice : ℚ
  closeVolume : ℚ
  orderId : String
  clientOrderId : String
  realizedPnl : ℚ := 0
  deriving DecidableEq, Repr

namespace CloseDetector

/-- `TerminalCloseReason`: why the terminal closed a position on its own. -/
inductive TerminalCloseReason where
  | sl | tp | stopOut | manual
  deriving DecidableEq, Repr

def TerminalCloseReason.value : TerminalCloseReason → String
  | .sl => "SL"
  | .tp => "TP"
  | .stopOut => "STOP_OUT"
  | .manual => "MANUAL"

structure AccountSnapshot where
  login : Int
  name : String
  balance : ℚ
  equity : ℚ
  leverage : Int
  margin : ℚ
  freeMargin : ℚ
  marginLevel : ℚ
  server : String
  deriving DecidableEq

structure TerminalClosedEvent where
  sourceTicket : String
  dealTicket : String
  symbol : String
  closeReason : TerminalCloseReason
  dealReason : Int
  closePrice : ℚ
  closeVolume : ℚ
  closeTime : Int
  entryPrice : ℚ
  sl : Option ℚ
  tp : Option ℚ
  account : Option AccountSnapshot
  profit : Option ℚ
  deriving DecidableEq

end CloseDetector

/-- The exceptions the modelled code tells apart. -/
inductive Exn where
  | keyError (msg : String)
  | valueError (msg : String)
  | typeError (msg : String)
  | zeroDivision
  | sqlite (msg : String)
  | gateway (msg : String)
  | other (msg : String)
  deriving DecidableEq, Repr

end TradeWorker
