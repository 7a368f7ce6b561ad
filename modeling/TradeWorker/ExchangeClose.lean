import TradeWorker.Broker
import TradeWorker.CryptoExecutor

/-!
# Closes that come from the exchange

The user data stream turns an `ORDER_TRADE_UPDATE` into a close event by the order's type
and status, and the handler closes every row that stands for the symbol. Neither looks at
how much of the position is left: a fill of any size counts as the close of the whole.
What may be left is the exchange's own account of its legs, kept here next to the store.
-/

namespace TradeWorker

/-! ## The frame -/

/-- The order of a frame, under the names of the keys read: `X`, `ot`, `o`, `c`, `R`, `s`,
`ap`, `L`, `z`, `q`, `i`, `rp`. Numbers come as text. -/
structure OrderUpdate where
  status : Option String := none
  originalType : Option String := none
  orderType : Option String := none
  clientId : Option String := none
  reduceOnly : Option Bool := none
  symbol : Option String := none
  averagePrice : Option String := none
  lastPrice : Option String := none
  filledVolume : Option String := none
  quantity : Option String := none
  orderId : Option Nat := none
  realizedPnl : Option String := none
  deriving DecidableEq, Repr

/-- A frame of the stream: `e` and `o`. -/
structure UserEvent where
  event : Option String
  order : Option OrderUpdate
  deriving DecidableEq, Repr

def startsWith (text pre : String) : Bool := pre.toList.isPrefixOf text.toList

def stopTypes : List String := ["STOP_MARKET", "STOP"]

def tpTypes : List String := ["TAKE_PROFIT_MARKET", "TAKE_PROFIT"]

def liquidationTypes : List String := ["LIQUIDATION"]

def liquidationPrefixes : List String := ["autoclose-", "adl_autoclose", "settlement_autoclose"]

/-- Why an order closes a position, if it does; the worker's own closes are told by their
prefix. -/
def OrderUpdate.closeReason (o : OrderUpdate) : Option ExchangeCloseReason :=
  let originalType := (text? o.originalType <|> o.orderType).getD ""
  let clientId := o.clientId.getD ""
  if originalType ∈ stopTypes then some .sl
  else if originalType ∈ tpTypes then some .tp
  else if originalType ∈ liquidationTypes then some .liquidation
  else if originalType = "MARKET" ∧ o.reduceOnly = some true then
    if startsWith clientId workerOrderPrefix then none
    else if liquidationPrefixes.any (startsWith clientId ·) then some .liquidation
    else some .manual
  else none

section Frame

variable (float : String → Except Exn ℚ)

/-- `float(a or b or 0)`. -/
def wireNumber (a b : Option String) : Except Exn ℚ :=
  (text? a <|> text? b).elim (.ok 0) float

def parseOrderTradeUpdate (msg : UserEvent) : Except Exn (Option ExchangeCloseEvent) :=
  let o := msg.order.getD {}
  if msg.event ≠ some "ORDER_TRADE_UPDATE" then .ok none
  else if o.status ≠ some "FILLED" then .ok none
  else
    match o.closeReason with
    | none => .ok none
    | some reason => do
        let symbol := o.symbol.getD ""
        let closePrice ← wireNumber float o.averagePrice o.lastPrice
        let closeVolume ← wireNumber float o.filledVolume o.quantity
        if symbol = "" ∨ closePrice ≤ 0 ∨ closeVolume ≤ 0 then pure none
        else do
          let realizedPnl ← wireNumber float o.realizedPnl none
          pure (some
            { symbol, reason, closePrice, closeVolume
              orderId := (o.orderId.filter (· ≠ 0)).elim "" toString
              clientOrderId := o.clientId.getD ""
              realizedPnl })

end Frame

/-! ## The handler -/

/-- `_EXCHANGE_CLOSE_STATUS`. -/
def ExchangeCloseReason.status : ExchangeCloseReason → PositionStatus
  | .sl => .sl
  | .tp => .tp2
  | .liquidation => .forcedClosed
  | .manual => .terminalClosed

namespace ExchangeCloseEvent

variable (event : ExchangeCloseEvent)

/-- The comment of a close, with a note when several rows share it. -/
def comment (shared : Bool) : String :=
  if shared then s!"Exchange close [{event.reason.value}] (shared fill — netting mode)"
  else s!"Exchange close [{event.reason.value}]"

/-- What is logged of a row's close: the volume is the fill's, not the row's. -/
def closeLog (comment : String) (row : Row) : LogRow where
  strategy := row.strategy
  refId := some event.orderId
  refSourceId := some row.refSourceId
  signalId := none
  signalUxid := none
  symbol := row.symbol
  action := event.reason.value
  volume := some event.closeVolume
  price := some event.closePrice
  sl := none
  tp1 := none
  gatewayReturnCode := some 0
  comment
  message := none
  author := "exchange"
  marketType := some MarketType.crypto.value

def closeUpdate (comment : String) (row : Row) : StatusUpdate where
  refSourceId := some row.refSourceId
  status := event.reason.status
  refId := some event.orderId
  closedPrice := some event.closePrice
  gatewayReturnCode := some 0
  comment := some comment

/-- The loop over the rows. -/
def closeEach (comment : String) : List Row → Work Unit
  | [] => pure ()
  | row :: rest => do
      logPosition (event.closeLog comment row)
      updatePositionStatus (event.closeUpdate comment row)
      closeEach comment rest

/-- The rest of the handler, once the rows are matched. -/
def closeMatched (matched : List Row) : Work Unit :=
  if matched = [] then pure ()
  else do
    event.closeEach (event.comment (1 < matched.length)) matched
    let _footer ← host .currentFooter
    host (.notifyChannel (.exchangeClosed event))

end ExchangeCloseEvent

namespace CryptoExecutor

variable (ex : CryptoExecutor)

def onExchangeClose (event : ExchangeCloseEvent) : Work Unit := do
  let openRows ← getOpenPositionsForFlat
  event.closeMatched (openRows.filter fun row => ex.getSymbol row.symbol = event.symbol)

/-- `_on_message`: a frame that cannot be read is dropped, and so is what the handler
raises. -/
def onMessage (float : String → Except Exn ℚ) (msg : UserEvent) : Work Unit :=
  match parseOrderTradeUpdate float msg with
  | .error _ => pure ()
  | .ok none => pure ()
  | .ok (some event) => Prog.tryCatch (ex.onExchangeClose event) fun _ => pure ()

end CryptoExecutor

/-! ## What is left at the exchange -/

def Side.rowText : Side → String
  | .long => "long"
  | .short => "short"

def CryptoExecutor.Tracks (ex : CryptoExecutor) (row : Row) (p : ExchangePosition) : Prop :=
  p.symbol = ex.getSymbol row.symbol ∧ p.side.rowText = row.action

/-- A fill the exchange reports: its frame, the leg's side, and the volume it takes. -/
structure ExchangeFill where
  msg : UserEvent
  side : Side
  quantity : ℚ
  positive : 0 < quantity

def ExchangeFill.leg (f : ExchangeFill) : String × Side :=
  ((f.msg.order.bind (·.symbol)).getD "", f.side)

def ExchangeBook.take (book : ExchangeBook) (f : ExchangeFill) : ExchangeBook :=
  { book with
    positions := reduceLeg f.leg f.quantity book.positions
    distinct := (reduceLeg_legs f.leg f.quantity book.positions).nodup book.distinct }

/-- The position the row tracks has no volume left. -/
def CryptoExecutor.Emptied (ex : CryptoExecutor) (book : ExchangeBook) (row : Row) : Prop :=
  ∀ p ∈ book.positions, ex.Tracks row p → p.volume = 0

/-- The fill is for at least the volume the row's leg has. -/
def CryptoExecutor.Exhausts (ex : CryptoExecutor) (book : ExchangeBook) (f : ExchangeFill)
    (row : Row) : Prop :=
  ∀ p ∈ book.positions, ex.Tracks row p →
    p.volume = 0 ∨ p.leg = f.leg ∧ p.volume ≤ f.quantity

theorem mem_reduceLeg {leg : String × Side} {quantity : ℚ} {positions : List ExchangePosition}
    {q : ExchangePosition} :
    q ∈ reduceLeg leg quantity positions ↔
      ∃ p ∈ positions, (if p.leg = leg then p.reduce quantity else some p) = some q := by
  simp [reduceLeg]

/-- What a fill leaves of a position it does not exhaust. -/
theorem ExchangePosition.volume_reduce {p q : ExchangePosition} {quantity : ℚ}
    (h : p.reduce quantity = some q) : q.volume = p.volume - quantity ∧ 0 < q.volume := by
  unfold ExchangePosition.reduce at h
  split at h
  swap
  · cases h
  rename_i hless
  cases h
  unfold ExchangePosition.volume at hless ⊢
  dsimp only
  split
  · rename_i hneg
    rw [abs_of_neg hneg] at hless ⊢
    rw [abs_of_neg (by linarith)]
    constructor <;> linarith
  · rename_i hpos
    rw [abs_of_nonneg (not_lt.mp hpos)] at hless ⊢
    rw [abs_of_pos (by linarith)]
    constructor <;> linarith

/-- A fill that exhausts the leg empties it, and no other does. -/
theorem emptied_take_iff (ex : CryptoExecutor) (book : ExchangeBook) (f : ExchangeFill)
    (row : Row) : ex.Emptied (book.take f) row ↔ ex.Exhausts book f row := by
  constructor
  · intro hempty p hp htracks
    by_cases hleg : p.leg = f.leg
    · rcases le_or_gt p.volume f.quantity with hle | hless
      · exact Or.inr ⟨hleg, hle⟩
      · obtain ⟨q, hq⟩ : ∃ q, p.reduce f.quantity = some q := by
          unfold ExchangePosition.reduce
          rw [if_pos hless]
          exact ⟨_, rfl⟩
        have hmem : q ∈ (book.take f).positions :=
          mem_reduceLeg.mpr ⟨p, hp, by rw [if_pos hleg, hq]⟩
        have hsame := ExchangePosition.reduce_leg hq
        have hzero := hempty q hmem
          ⟨(congrArg Prod.fst hsame).trans htracks.1,
            (congrArg Side.rowText (congrArg Prod.snd hsame)).trans htracks.2⟩
        have hpos := (ExchangePosition.volume_reduce hq).2
        exact absurd hzero hpos.ne'
    · exact Or.inl (hempty p (mem_reduceLeg.mpr ⟨p, hp, if_neg hleg⟩) htracks)
  · intro hexhausts q hq htracks
    obtain ⟨p, hp, hstep⟩ := mem_reduceLeg.mp hq
    split at hstep
    · have hsame := ExchangePosition.reduce_leg hstep
      have hvolume := ExchangePosition.volume_reduce hstep
      have hpos := f.positive
      rcases hexhausts p hp ⟨(congrArg Prod.fst hsame).symm.trans htracks.1,
        (congrArg Side.rowText (congrArg Prod.snd hsame)).symm.trans htracks.2⟩ with
        hzero | ⟨-, hle⟩
      · linarith [hvolume.1, hvolume.2]
      · linarith [hvolume.1, hvolume.2]
    · rename_i hleg
      rw [← Option.some.inj hstep] at htracks ⊢
      rcases hexhausts p hp htracks with hzero | ⟨hsame, -⟩
      · exact hzero
      · exact absurd hsame hleg

/-! ## The handler's run -/

theorem ExchangeCloseReason.status_isActive (reason : ExchangeCloseReason) :
    reason.status.isActive = false := by
  cases reason <;> rfl

section Handler

variable {β : Type} (B : Backend β) (w : World β) (ex : CryptoExecutor)

theorem closeEach_run (event : ExchangeCloseEvent) (comment : String) (rows : List Row) :
    ∃ db, Prog.run B.serve (event.closeEach comment rows) w = (.ok (), { w with db }) ∧
      db.rows = w.db.rows.map
        (·.updateEach (rows.map (event.closeUpdate comment)) w.db.clock) := by
  induction rows generalizing w with
  | nil => exact ⟨w.db, rfl, by simp⟩
  | cons row rest ih =>
      have hlog := run_logPosition B w (event.closeLog comment row)
      have hmark := run_updatePositionStatus_inactive B
        { w with db := w.db.insertLog (event.closeLog comment row) }
        (u := event.closeUpdate comment row) event.reason.status_isActive
      obtain ⟨db, hrest, hrows⟩ := ih { w with
        db := (w.db.insertLog (event.closeLog comment row)).close
          (event.closeUpdate comment row) event.reason.status_isActive }
      refine ⟨db, ?_, ?_⟩
      · rw [ExchangeCloseEvent.closeEach, Prog.run_bind_ok _ hlog, Prog.run_bind_ok _ hmark]
        exact hrest
      · rw [hrows]
        simp [Db.close, Db.insertLog, updateRows, Function.comp_def]

def CryptoExecutor.matchedRows (db : Db) (event : ExchangeCloseEvent) : List Row :=
  (db.activeForFlat none none none).filter fun row => ex.getSymbol row.symbol = event.symbol

/-- Notifying leaves the store alone, whether it raises or not. -/
theorem closeMatched_rows (event : ExchangeCloseEvent) (matched : List Row) : ∃ comment,
    (Prog.run B.serve (event.closeMatched matched) w).2.db.rows = w.db.rows.map
      (·.updateEach (matched.map (event.closeUpdate comment)) w.db.clock) := by
  refine ⟨event.comment (1 < matched.length), ?_⟩
  unfold ExchangeCloseEvent.closeMatched
  split
  · rename_i hnone
    simp [hnone]
  · obtain ⟨db, hclose, hrows⟩ :=
      closeEach_run B w event (event.comment (1 < matched.length)) matched
    rw [Prog.run_bind_ok _ hclose, Prog.run_bind, run_host, ← hrows]
    cases (B.host .currentFooter w.rest).1 with
    | error e => rfl
    | ok footer =>
        dsimp only
        rw [run_host]

/-- The updates of an event close the rows they reach, and no other. -/
theorem updateEach_closed_iff (event : ExchangeCloseEvent) (comment : String)
    (matched : List Row) (row : Row) (now : Int) :
    (row.updateEach (matched.map (event.closeUpdate comment)) now).isActive = false ↔
      row.isActive = false ∨ ∃ m ∈ matched, m.refSourceId = row.refSourceId := by
  have hstatus : ∀ u ∈ matched.map (event.closeUpdate comment), u.status = event.reason.status := by
    simp [ExchangeCloseEvent.closeUpdate]
  have hreached : (matched.map (event.closeUpdate comment)).any
      (fun u => u.refSourceId = some row.refSourceId) = true ↔
        ∃ m ∈ matched, m.refSourceId = row.refSourceId := by
    simp [ExchangeCloseEvent.closeUpdate]
  unfold Row.isActive
  rw [Row.updateEach_status row hstatus]
  split
  · rename_i hany
    exact iff_of_true event.reason.status_isActive (Or.inr (hreached.mp hany))
  · rename_i hany
    exact ⟨Or.inl, fun h => h.resolve_right fun hmatched => hany (hreached.mpr hmatched)⟩

/-- What a frame does to the rows: nothing, or what its event does to those it matches. -/
theorem onMessage_rows (float : String → Except Exn ℚ) (msg : UserEvent) :
    (∀ event, parseOrderTradeUpdate float msg = .ok (some event) → ∃ comment,
      (Prog.run B.serve (ex.onMessage float msg) w).2.db.rows = w.db.rows.map
        (·.updateEach ((ex.matchedRows w.db event).map (event.closeUpdate comment))
          w.db.clock)) ∧
      ((∀ event, parseOrderTradeUpdate float msg ≠ .ok (some event)) →
        (Prog.run B.serve (ex.onMessage float msg) w).2.db.rows = w.db.rows) := by
  unfold CryptoExecutor.onMessage
  constructor
  · intro event hparsed
    rw [hparsed]
    dsimp only
    rw [Prog.run_swallow]
    exact closeMatched_rows B w event (ex.matchedRows w.db event)
  · intro hnone
    split
    · rfl
    · rfl
    · rename_i event hparsed
      exact absurd hparsed (hnone event)

end Handler

/-! ## Runs -/

/-- The worker's world, and the exchange's own account of its legs. -/
structure Venue (β : Type) where
  world : World β
  book : ExchangeBook

/-- A fill and the handling of its frame, or whatever else happens between two fills. -/
inductive VenueStep (β : Type) where
  | fill (f : ExchangeFill)
  | elsewhere (venue : Venue β)

section Runs

variable {β : Type} (B : Backend β) (ex : CryptoExecutor) (float : String → Except Exn ℚ)

namespace Venue

def step (v : Venue β) : VenueStep β → Venue β
  | .fill f =>
      { world := (Prog.run B.serve (ex.onMessage float f.msg) v.world).2, book := v.book.take f }
  | .elsewhere v' => v'

def run (v : Venue β) (steps : List (VenueStep β)) : Venue β := steps.foldl (step B ex float) v

/-- Something holds at every fill of a run, of the state before and the fill. -/
def AtEachFill (P : Venue β → ExchangeFill → Prop) (v : Venue β)
    (steps : List (VenueStep β)) : Prop :=
  ∀ before f after, steps = before ++ .fill f :: after → P (run B ex float v before) f

/-- A row the fill closes tracks a position that the fill has emptied. -/
def ClosesEmptied (v : Venue β) (f : ExchangeFill) : Prop :=
  ∀ (i : Nat) (row row' : Row), v.world.db.rows[i]? = some row →
    (step B ex float v (.fill f)).world.db.rows[i]? = some row' →
      row.isActive = true → row'.isActive = false →
        ex.Emptied (step B ex float v (.fill f)).book row

/-- A row the event reaches: active, under a reference of one that matches. -/
def Reaches (v : Venue β) (event : ExchangeCloseEvent) (row : Row) : Prop :=
  row ∈ v.world.db.rows ∧ row.isActive = true ∧
    ∃ m ∈ ex.matchedRows v.world.db event, m.refSourceId = row.refSourceId

/-- The fill gives no event, or exhausts the leg of every row the event reaches. -/
def FillExhausts (v : Venue β) (f : ExchangeFill) : Prop :=
  ∀ event, parseOrderTradeUpdate float f.msg = .ok (some event) →
    ∀ row, Reaches ex v event row → ex.Exhausts v.book f row

theorem closesEmptied_iff (v : Venue β) (f : ExchangeFill) :
    ClosesEmptied B ex float v f ↔ FillExhausts ex float v f := by
  obtain ⟨hevent, hnone⟩ := onMessage_rows B v.world ex float f.msg
  constructor
  · intro hcloses event hparsed row ⟨hmem, hactive, hmatched⟩
    obtain ⟨comment, hrows⟩ := hevent event hparsed
    obtain ⟨i, hi⟩ := List.mem_iff_getElem?.mp hmem
    have hclosed := (updateEach_closed_iff event comment (ex.matchedRows v.world.db event) row
      v.world.db.clock).mpr (Or.inr hmatched)
    refine (emptied_take_iff ex v.book f row).mp (hcloses i row _ hi ?_ hactive hclosed)
    show (Prog.run B.serve (ex.onMessage float f.msg) v.world).2.db.rows[i]? = _
    rw [hrows, List.getElem?_map, hi]
    rfl
  · intro hexhausts i row row' hrow hrow' hactive hclosed
    change (Prog.run B.serve (ex.onMessage float f.msg) v.world).2.db.rows[i]? = _ at hrow'
    refine (emptied_take_iff ex v.book f row).mpr ?_
    by_cases hparsed : ∃ event, parseOrderTradeUpdate float f.msg = .ok (some event)
    · obtain ⟨event, hparsed⟩ := hparsed
      obtain ⟨comment, hrows⟩ := hevent event hparsed
      rw [hrows, List.getElem?_map, hrow] at hrow'
      obtain rfl := Option.some.inj hrow'
      rcases (updateEach_closed_iff ..).mp hclosed with hinactive | hmatched
      · rw [hactive] at hinactive
        cases hinactive
      · exact hexhausts event hparsed row
          ⟨List.mem_of_getElem? hrow, hactive, hmatched⟩
    · rw [hnone fun event h => hparsed ⟨event, h⟩, hrow] at hrow'
      obtain rfl := Option.some.inj hrow'
      rw [hactive] at hclosed
      cases hclosed

end Venue

end Runs

/-- Whatever a run starts from and whatever happens between its fills, each of them closes
only rows whose position it leaves without volume, exactly if each that yields an event
exhausts the leg of every row the event reaches. -/
theorem exchangeFills_closeEmptied_iff {β : Type} (B : Backend β) (ex : CryptoExecutor)
    (float : String → Except Exn ℚ) (v : Venue β) (steps : List (VenueStep β)) :
    Venue.AtEachFill B ex float (Venue.ClosesEmptied B ex float) v steps ↔
      Venue.AtEachFill B ex float (Venue.FillExhausts ex float) v steps := by
  unfold Venue.AtEachFill
  simp only [Venue.closesEmptied_iff]

/-! ## A third of a position -/

/-- `float` on the numbers of the frame below. -/
def plainFloat (text : String) : Except Exn ℚ :=
  if text = "1" then .ok 1
  else if text = "60000" then .ok 60000
  else .error (.valueError "could not convert string to float")

/-- One of three bitcoin, sold by hand with a reduce-only order. -/
def sellOne : ExchangeFill where
  msg :=
    { event := some "ORDER_TRADE_UPDATE"
      order := some
        { status := some "FILLED", originalType := some "MARKET", clientId := some "web_1"
          reduceOnly := some true, symbol := some "BTCUSDT", averagePrice := some "60000"
          filledVolume := some "1", orderId := some 7 } }
  side := .long
  quantity := 1
  positive := one_pos

def longThree : Venue Unit where
  world :=
    { db :=
        { rows := [{ id := 1, refSourceId := "R1", refId := "R1", strategy := "TREND"
                     symbol := "BTCUSDT", action := "long", volume := 3
                     openedPrice := 50000, status := .opened }]
          oneActive := List.pairwise_singleton _ _ }
      rest := () }
  book :=
    { positions := [{ symbol := "BTCUSDT", side := .long, quantity := 3
                      entryPrice := 50000, ticket := 1 }]
      distinct := List.nodup_singleton _ }

/-- An exchange that only sends frames. -/
def quietExchange : Backend Unit where
  fx _ s := (.error (.other "no platform"), s)
  cx _ s := (.error (.other "no reply"), s)
  host _ s := (.error (.other "no channel"), s)

/-- The row is closed with two thirds of its position open. -/
theorem sellOne_closes : ¬Venue.AtEachFill quietExchange { config := {} } plainFloat
    (Venue.ClosesEmptied quietExchange { config := {} } plainFloat) longThree [.fill sellOne] := by
  intro h
  have hempty := h [] sellOne [] rfl 0 _ _ rfl rfl (by decide +kernel) (by decide +kernel)
    { symbol := "BTCUSDT", side := .long, quantity := 2, entryPrice := 50000, ticket := 1 }
    (by decide +kernel) ⟨by decide +kernel, rfl⟩
  exact absurd hempty (by decide +kernel)

end TradeWorker
