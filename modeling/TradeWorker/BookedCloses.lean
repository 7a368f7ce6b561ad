import TradeWorker.EntryMessage
import TradeWorker.Ghost

/-!
# Closes written down as they are made

What a cycle books is made up of what the single closes at the broker report. A full close
sends several, an entry several full closes, and of each the caller sees a sum. To speak of
the single ones the executors are written out once more with a ghost call behind each close
that succeeded, and one behind each entry. Erasing them gives the executors, the handler and
the pipeline back.
-/

namespace TradeWorker

/-! ## The ghost calls -/

/-- The reports no one sends: `_notify_trade` sends its own to the channel. -/
def bookings : Prog.Ghosts WorkerOp WorkerOp.Ans
  | .host (.notify (.forceClosed ..)) => some ()
  | .host (.notify (.orderFilled ..)) => some ()
  | _ => none

/-- Write down what a close reported. -/
def bookProfit (key : String) (result : TradeResult) : Work Unit :=
  host (.notify (.forceClosed key "" {
    refSourceId := result.sourceTicket.getD ""
    refId := result.ticket.getD ""
    price := result.price
    volume := result.volume
    retcode := result.retcode
    profit := result.profit }))

/-- Write down what a close reported, if it succeeded. -/
def bookClose (key : String) (result : TradeResult) : Work Unit :=
  if result.success then bookProfit key result else pure ()

/-- Write down how an entry went, and the close that took it back. -/
def bookEntry (signal : Signal) (result : TradeResult) : Work Unit := do
  host (.notify (.orderFilled signal result none))
  match result.rollback with
  | some closed => bookClose signal.symbol closed
  | none => pure ()

/-! ## The executors with their closes written down -/

/-- The loop of `close_all_positions` on the platform. -/
def ForexExecutor.closeEachBooked (comment : String) :
    List PlatformPosition → Work (List TradeResult)
  | [] => pure []
  | pos :: rest => do
      let result ← platform (.closePosition pos none comment)
      bookClose (ticketText pos.ticket) result
      let closed ← closeEachBooked comment rest
      pure (if result.success then result :: closed else closed)

def ForexExecutor.closeAllBooked (ex : ForexExecutor) (symbol reason : String)
    (strategy positionTicket : Option String) : Work TradeResult := do
  let positions ← ex.getOpenPositions symbol strategy
  match filterByTicket positions positionTicket with
  | [] => pure (.fail "No Positions Found")
  | first :: rest => do
      let closed ← closeEachBooked s!"Full Close {reason}" (first :: rest)
      pure (closeReport reason first closed)

/-- The loop of `close_all_positions` on the exchange. -/
def CryptoExecutor.closeEachBooked (resolved : String)
    (fallbackClosePrice fallbackEntryPrice : Option ℚ) :
    List ExchangePosition → Work (List TradeResult)
  | [] => pure []
  | pos :: rest => do
      let orderId ← closeClientOrderId
      let result : TradeResult ← exchange
        (.placeMarketOrder resolved pos.side pos.volume true orderId)
      if result.success then do
        let result ←
          attachRealizedPnl result pos fallbackClosePrice fallbackEntryPrice
        bookProfit resolved result
        let closed ← closeEachBooked resolved fallbackClosePrice fallbackEntryPrice rest
        pure (result :: closed)
      else closeEachBooked resolved fallbackClosePrice fallbackEntryPrice rest

def CryptoExecutor.closeAllBooked (ex : CryptoExecutor) (symbol reason : String)
    (strategy : Option String) (fallbackClosePrice : Option ℚ)
    (positionTicket : Option String) : Work TradeResult := do
  let resolved := ex.getSymbol symbol
  let positions ← ex.getOpenPositions symbol
  match filterByTicket positions positionTicket with
  | [] => pure (.fail "No Positions Found")
  | first :: rest => do
      exchange (.cancelAllOrders resolved)
      let fallbackEntryPrice ← entryPriceFromDb symbol strategy
      let closed ←
        closeEachBooked resolved fallbackClosePrice fallbackEntryPrice (first :: rest)
      pure (closeReport reason first closed)

/-- An executor with the reports of its entries and partial closes written down, and its
full close replaced. -/
def TradeExecutor.booked {Pos : Type} (E : TradeExecutor Pos)
    (closeAll : String → String → Option String → Option ℚ → Option String → Work TradeResult) :
    TradeExecutor Pos :=
  { E with
    openPosition := fun signal => do
      let result ← E.openPosition signal
      bookEntry signal result
      pure result
    partialClosePosition := fun symbol volume ticket strategy closePrice => do
      let result ← E.partialClosePosition symbol volume ticket strategy closePrice
      bookClose symbol result
      pure result
    closeAllPositions := closeAll }

namespace Market

def closeAllBooked : Market → String → String → Option String → Option ℚ → Option String →
    Work TradeResult
  | .forex ex => fun symbol reason strategy _ ticket =>
      ex.closeAllBooked symbol reason strategy ticket
  | .crypto ex => ex.closeAllBooked

/-- The market with its closes written down. -/
def booked (m : Market) : ExecutorBackedMarket m.Pos :=
  { m.strategy with executor := m.strategy.executor.booked m.closeAllBooked }

def bookedProcessor (m : Market) (settings : WorkerSettings) : Processor m.Pos :=
  { m.processor settings with market := m.booked }

end Market

/-- A desk with its closes written down under the keys rows are matched by. -/
def AdminDesk.booked {Pos : Type} (desk : AdminDesk Pos) : AdminDesk Pos :=
  { desk with
    closeSinglePosition := fun pos reason => do
      let result ← desk.closeSinglePosition pos reason
      bookClose (desk.flatMatchKey pos) result
      pure result }

/-! ## Erasing them -/

section Erase

theorem erase_bind_of {α γ : Type} {p q : Work α} {f g : α → Work γ}
    (hp : Prog.erase bookings p = q) (hf : ∀ a, Prog.erase bookings (f a) = g a) :
    Prog.erase bookings (p >>= f) = q >>= g := by
  rw [Prog.erase_bind, hp]
  exact bind_congr hf

theorem erase_ite {α : Type} {c : Prop} [Decidable c] {p p' q q' : Work α}
    (hp : Prog.erase bookings p = p') (hq : Prog.erase bookings q = q') :
    Prog.erase bookings (if c then p else q) = if c then p' else q' := by
  subst hp hq
  split <;> rfl

theorem erase_bookProfit (key : String) (result : TradeResult) :
    Prog.erase bookings (bookProfit key result) = pure () :=
  Prog.erase_perform_ghost rfl

theorem erase_bookClose (key : String) (result : TradeResult) :
    Prog.erase bookings (bookClose key result) = pure () := by
  unfold bookClose
  split
  · exact erase_bookProfit key result
  · rfl

theorem erase_bookEntry (signal : Signal) (result : TradeResult) :
    Prog.erase bookings (bookEntry signal result) = pure () := by
  refine erase_bind_of (q := pure ()) (g := fun _ => pure ())
    (Prog.erase_perform_ghost rfl) fun _ => ?_
  cases result.rollback with
  | none => rfl
  | some closed => exact erase_bookClose signal.symbol closed

def ghostless : Prog.Contract WorkerOp WorkerOp.Ans Exn where
  guard o := bookings o = none
  answers _ _ := True

theorem erase_of_ghostless {α : Type} {Q : α → Prop} {p : Work α}
    (hp : Prog.Sends ghostless Q p) : Prog.erase bookings p = p :=
  hp.erase (fun _ ho => ho) fun _ _ => trivial

theorem ghostless_perform {o : WorkerOp} (ho : bookings o = none) :
    Prog.Sends ghostless (fun _ => True) (Prog.perform o) :=
  Prog.sends_perform ho fun _ _ => trivial

theorem ghostless_of_brokering {α : Type} {Q : α → Prop} {p : Work α}
    (hp : Prog.Sends brokering Q p) : Prog.Sends ghostless Q p := by
  refine hp.relax (fun o ho => ?_) fun _ _ _ => trivial
  cases o with
  | db | fx | cx => rfl
  | host o =>
      cases o with
      | uuidHex => rfl
      | signalsBlocked | ensureConnected | now | currentFooter | handling | notify
      | notifyChannel | recordCycle => cases ho

theorem erase_of_brokering {α : Type} {Q : α → Prop} {p : Work α}
    (hp : Prog.Sends brokering Q p) : Prog.erase bookings p = p :=
  erase_of_ghostless (ghostless_of_brokering hp)

theorem ForexExecutor.erase_closeEachBooked (comment : String) (ps : List PlatformPosition) :
    Prog.erase bookings (closeEachBooked comment ps) = closeEach comment ps := by
  induction ps with
  | nil => rfl
  | cons pos rest ih =>
      refine erase_bind_of (Prog.erase_perform rfl) fun result => ?_
      rw [Prog.erase_bind, erase_bookClose]
      exact erase_bind_of ih fun _ => rfl

theorem CryptoExecutor.erase_closeEachBooked (X : String) (closePrice entryPrice : Option ℚ)
    (ps : List ExchangePosition) :
    Prog.erase bookings (closeEachBooked X closePrice entryPrice ps) =
      closeEach X closePrice entryPrice ps := by
  induction ps with
  | nil => rfl
  | cons pos rest ih =>
      refine erase_bind_of (erase_of_brokering (brokering_of_consulting
        closeClientOrderId_consults)) fun orderId => ?_
      refine erase_bind_of (Prog.erase_perform rfl) fun result => ?_
      split
      · refine erase_bind_of (erase_of_brokering (brokering_of_consulting
          (attachRealizedPnl_consults ..))) fun result => ?_
        rw [Prog.erase_bind, erase_bookProfit]
        exact erase_bind_of ih fun _ => rfl
      · exact ih

namespace Market

variable (m : Market)

theorem erase_closeAllBooked (symbol reason : String) (strategy : Option String)
    (closePrice : Option ℚ) (ticket : Option String) :
    Prog.erase bookings (m.closeAllBooked symbol reason strategy closePrice ticket) =
      m.strategy.executor.closeAllPositions symbol reason strategy closePrice ticket := by
  cases m with
  | forex ex =>
      refine erase_bind_of (erase_of_brokering
        ((forex_atBroker ex).getOpenPositions symbol strategy)) fun positions => ?_
      generalize filterByTicket positions ticket = matching
      cases matching with
      | nil => rfl
      | cons first rest =>
          exact erase_bind_of (ForexExecutor.erase_closeEachBooked ..) fun _ => rfl
  | crypto ex =>
      refine erase_bind_of (erase_of_brokering
        ((crypto_atBroker ex).getOpenPositions symbol strategy)) fun positions => ?_
      generalize filterByTicket positions ticket = matching
      cases matching with
      | nil => rfl
      | cons first rest =>
          refine erase_bind_of (Prog.erase_perform rfl) fun _ => ?_
          refine erase_bind_of (erase_of_brokering (brokering_of_consulting
            (CryptoExecutor.entryPriceFromDb_consults ..))) fun entryPrice => ?_
          exact erase_bind_of (CryptoExecutor.erase_closeEachBooked ..) fun _ => rfl

theorem erase_getOpenPositions (symbol : String) (strategy ticket : Option String) :
    Prog.erase bookings (m.booked.getOpenPositions symbol strategy ticket) =
      m.strategy.getOpenPositions symbol strategy ticket :=
  erase_bind_of (erase_of_brokering (m.atBroker.getOpenPositions symbol strategy)) fun _ => rfl

theorem erase_resolveTp1Volume (signal : Signal) (pos : m.Pos) (percent : Option ℚ) :
    Prog.erase bookings (m.booked.resolveTp1Volume signal pos percent) =
      m.strategy.resolveTp1Volume signal pos percent := by
  refine erase_ite ?_ ?_
  · cases percent with
    | none => rfl
    | some percent =>
        exact erase_bind_of (erase_of_brokering (m.atBroker.normalizeVolume ..)) fun _ => rfl
  · split
    · rfl
    · exact erase_bind_of (erase_of_brokering (m.atBroker.convertQuantityToLots ..)) fun _ => rfl

theorem erase_openPosition (signal : Signal) :
    Prog.erase bookings (m.booked.executor.openPosition signal) =
      m.strategy.executor.openPosition signal := by
  rw [← bind_pure (m.strategy.executor.openPosition signal)]
  refine erase_bind_of (erase_of_brokering (m.atBroker.openPosition signal)) fun result => ?_
  rw [Prog.erase_bind, erase_bookEntry]
  rfl

theorem erase_partialClosePosition (symbol : String) (volume : ℚ) (ticket : Nat)
    (strategy : Option String) (closePrice : Option ℚ) :
    Prog.erase bookings
        (m.booked.executor.partialClosePosition symbol volume ticket strategy closePrice) =
      m.strategy.executor.partialClosePosition symbol volume ticket strategy closePrice := by
  rw [← bind_pure (m.strategy.executor.partialClosePosition ..)]
  refine erase_bind_of (erase_of_brokering (m.atBroker.partialClosePosition ..)) fun result => ?_
  rw [Prog.erase_bind, erase_bookClose]
  rfl

end Market

/-! ### The handler -/

theorem updateEach_ghostless (us : List StatusUpdate) :
    Prog.Sends ghostless (fun _ => True) (updateEach us) := by
  induction us with
  | nil => simp [updateEach]
  | cons u us ih => exact Prog.Sends.bind (ghostless_perform rfl) fun _ _ => ih

namespace SignalHandler

variable (m : Market) (signal : Signal)

theorem getDbPosition_ghostless (strategy symbol : String) (uxid : Option String) :
    Prog.Sends ghostless (fun _ => True) (getDbPosition strategy symbol uxid) := by
  refine Prog.Sends.bind (ghostless_of_brokering (brokering_of_consulting
    (getOpenPositionsByStrategy_consults ..))) fun found _ => ?_
  cases found with
  | nil => simp
  | cons kept duplicates => exact Prog.Sends.bind (updateEach_ghostless _) fun _ _ => by simp

theorem erase_executeExit {exit exit' : Signal → Option String → Work TradeResult}
    (hexit : ∀ signal ticket, Prog.erase bookings (exit signal ticket) = exit' signal ticket)
    (noDbComment noMt5Comment : String) :
    Prog.erase bookings (executeExit m.booked signal exit noDbComment noMt5Comment) =
      executeExit m.strategy signal exit' noDbComment noMt5Comment := by
  refine erase_bind_of (erase_of_ghostless (getDbPosition_ghostless ..)) fun found => ?_
  cases found with
  | none => rfl
  | some row =>
      refine erase_bind_of (m.erase_getOpenPositions ..) fun live => ?_
      split
      · rfl
      · refine erase_bind_of (hexit signal _) fun result => ?_
        split <;> rfl

theorem erase_forceCloseEach (symbol strategy : String) (tickets : List (Option String))
    (report : TradeResult) :
    Prog.erase bookings (forceCloseEach m.booked symbol strategy tickets report) =
      forceCloseEach m.strategy symbol strategy tickets report := by
  induction tickets generalizing report with
  | nil => rfl
  | cons ticket rest ih =>
      refine erase_bind_of (m.erase_closeAllBooked ..) fun cleanup => ?_
      split
      · exact ih _
      · rfl

theorem erase_collectStale (symbol strategy : String) (tickets : List (Option String)) :
    Prog.erase bookings (collectStale m.booked symbol strategy tickets) =
      collectStale m.strategy symbol strategy tickets := by
  induction tickets with
  | nil => rfl
  | cons ticket rest ih =>
      refine erase_bind_of (m.erase_getOpenPositions ..) fun found => ?_
      exact erase_bind_of ih fun others => rfl

theorem erase_enterFresh (found : List Row) (stale : Bool) (cleanup : TradeResult) :
    Prog.erase bookings (enterFresh m.booked signal found stale cleanup) =
      enterFresh m.strategy signal found stale cleanup := by
  refine erase_bind_of (erase_of_ghostless (updateEach_ghostless _)) fun _ => ?_
  refine erase_bind_of (m.erase_openPosition signal) fun result => ?_
  split <;> rfl

theorem erase_handleEntry : Prog.erase bookings (handleEntry m.booked signal) =
    handleEntry m.strategy signal := by
  refine erase_bind_of (erase_of_brokering (brokering_of_consulting
    (getOpenPositionsForFlat_consults ..))) fun holders => ?_
  refine erase_ite rfl ?_
  refine erase_bind_of (erase_of_brokering (brokering_of_consulting
    (getOpenPositionsByStrategy_consults ..))) fun found => ?_
  refine erase_bind_of (erase_collectStale ..) fun stale => ?_
  refine erase_ite (erase_enterFresh ..) ?_
  refine erase_bind_of (erase_forceCloseEach ..) fun cleanup => ?_
  exact erase_ite (erase_enterFresh ..) rfl

theorem erase_handleTp1 : Prog.erase bookings (handleTp1 m.booked signal) =
    handleTp1 m.strategy signal := by
  refine erase_executeExit m signal (fun signal ticket => ?_) _ _
  refine erase_bind_of (m.erase_getOpenPositions ..) fun live => ?_
  cases live with
  | nil => rfl
  | cons pos rest =>
      refine erase_bind_of (m.erase_resolveTp1Volume ..) fun volume => ?_
      cases volume with
      | error failure => rfl
      | ok volume =>
          refine erase_bind_of (m.erase_partialClosePosition ..) fun closed => ?_
          refine erase_ite ?_ rfl
          refine erase_bind_of (erase_of_brokering (m.atBroker.updatePositionSl ..))
            fun moved => ?_
          exact erase_ite rfl (erase_bind_of (m.erase_closeAllBooked ..) fun _ => rfl)

theorem erase_handleFullClose : Prog.erase bookings (handleFullClose m.booked signal) =
    handleFullClose m.strategy signal :=
  erase_executeExit m signal (fun _ _ => m.erase_closeAllBooked ..) _ _

theorem erase_flatClose (ticket : Option String) :
    Prog.erase bookings (flatClose m.booked signal ticket) =
      flatClose m.strategy signal ticket := by
  refine erase_bind_of (m.erase_closeAllBooked ..) fun result => ?_
  exact erase_ite rfl (m.erase_closeAllBooked ..)

theorem erase_handleFlat : Prog.erase bookings (handleFlat m.booked signal) =
    handleFlat m.strategy signal := by
  refine erase_bind_of (erase_of_ghostless (getDbPosition_ghostless ..)) fun owned => ?_
  have hflat : Prog.erase bookings (do
      let ticket := if (uxidScope m.booked signal).isSome then owned.map (·.refSourceId) else none
      let result ← flatClose m.booked signal ticket
      flatSettle m.booked signal owned result) = (do
      let ticket :=
        if (uxidScope m.strategy signal).isSome then owned.map (·.refSourceId) else none
      let result ← flatClose m.strategy signal ticket
      flatSettle m.strategy signal owned result) := by
    refine erase_bind_of (erase_flatClose ..) fun result => ?_
    refine erase_bind_of (q := flatRow m.strategy signal owned) ?_ fun row => ?_
    · cases owned with
      | none => exact erase_of_ghostless (getDbPosition_ghostless ..)
      | some row => rfl
    · cases row with
      | none => rfl
      | some row =>
          refine erase_ite rfl ?_
          exact erase_bind_of (Prog.erase_perform rfl) fun _ => rfl
  have hscope : uxidScope m.booked signal = uxidScope m.strategy signal := rfl
  cases hu : uxidScope m.strategy signal with
  | none => 
      simp only [hscope, hu] at hflat ⊢
      exact hflat
  | some u =>
      cases owned with
      | none => simp [hscope, hu]
      | some row =>
          simp only [hscope, hu] at hflat ⊢
          exact hflat

theorem erase_handle : Prog.erase bookings (handle m.booked signal) = handle m.strategy signal := by
  refine erase_bind_of (Prog.erase_perform rfl) fun _ => ?_
  cases signal.action with
  | long | short => exact erase_handleEntry ..
  | tp1 => exact erase_handleTp1 ..
  | tp2 | sl | rSl => exact erase_handleFullClose ..
  | flat => exact erase_handleFlat ..

end SignalHandler

/-! ### The pipeline -/

section Pipeline

variable (m : Market) (settings : WorkerSettings) (signal : Signal)

theorem logPosition_ghostless (l : LogRow) :
    Prog.Sends ghostless (fun _ => True) (logPosition l) :=
  Prog.Sends.tryCatch (ghostless_perform rfl) fun _ => by simp

theorem notifyTrade_ghostless (report : Report) (event : CycleEvent)
    (status : Option CycleStatus) :
    Prog.Sends ghostless (fun _ => True) (Processor.notifyTrade signal report event status) := by
  refine Prog.Sends.bind (ghostless_perform rfl) fun owned _ => ?_
  split
  · simp
  · exact ghostless_perform rfl

theorem notifyForcedClosed_ghostless (forced : List ForcedClosed) :
    Prog.Sends ghostless (fun _ => True) (Processor.notifyForcedClosed signal forced) := by
  induction forced with
  | nil => simp [Processor.notifyForcedClosed]
  | cons fc rest ih => exact Prog.Sends.bind (notifyTrade_ghostless ..) fun _ _ => ih

theorem recordResult_ghostless (P : Processor m.Pos) (result : TradeResult) :
    Prog.Sends ghostless (fun _ => True) (P.recordResult signal result) := by
  refine Prog.Sends.bind (ghostless_perform rfl) fun _ _ => ?_
  refine Prog.Sends.bind (logPosition_ghostless _) fun _ _ => ?_
  split
  · refine Prog.Sends.bind (Q := fun _ => True) ?_ fun _ _ => notifyTrade_ghostless ..
    refine Prog.Sends.bind (notifyForcedClosed_ghostless ..) fun _ _ => ?_
    cases Processor.closeStatus signal.action with
    | none => exact Prog.Sends.bind (Q := fun _ => True) (by simp) fun _ _ => ghostless_perform rfl
    | some status => exact ghostless_perform rfl
  · exact notifyTrade_ghostless ..

theorem recordResult_booked (result : TradeResult) :
    (m.bookedProcessor settings).recordResult signal result =
      (m.processor settings).recordResult signal result := by
  cases m <;> rfl

theorem rejectSignal_ghostless (reason : String) :
    Prog.Sends ghostless (fun _ => True) ((m.processor settings).rejectSignal signal reason) := by
  refine Prog.Sends.bind (ghostless_perform rfl) fun _ _ => ?_
  refine Prog.Sends.bind (logPosition_ghostless _) fun _ _ => ?_
  refine Prog.Sends.bind (Q := fun _ => True) (by simp) fun magic _ => ?_
  refine Prog.Sends.bind (Prog.Sends.tryCatch (ghostless_perform rfl) fun _ => by simp)
    fun _ _ => notifyTrade_ghostless ..

theorem admits_ghostless :
    Prog.Sends ghostless (fun _ => True) ((m.processor settings).admits signal) := by
  refine Prog.Sends.bind (ghostless_perform rfl) fun connected _ => ?_
  split
  swap
  · simp
  refine Prog.Sends.bind (ghostless_perform rfl) fun blocked _ => ?_
  split
  · simp
  have hunknown : ∀ reason, Prog.Sends ghostless (fun _ => True) (do
      let _footer ← host .currentFooter
      host (.notify (.signalRejected reason))
      pure false) := fun reason =>
    Prog.Sends.bind (ghostless_perform rfl) fun _ _ =>
      Prog.Sends.bind (ghostless_perform rfl) fun _ _ => by simp
  split
  · exact hunknown _
  · exact hunknown _
  · simp
  split
  · refine Prog.Sends.bind (ghostless_of_brokering (brokering_of_consulting
      (entryRejection_consults ..))) fun reason _ => ?_
    cases reason with
    | none => simp
    | some reason => exact Prog.Sends.bind (rejectSignal_ghostless ..) fun _ _ => by simp
  · simp

theorem admits_booked :
    (m.bookedProcessor settings).admits signal = (m.processor settings).admits signal := by
  cases m <;> rfl

theorem erase_executeSignal :
    Prog.erase bookings ((m.bookedProcessor settings).executeSignal signal) =
      (m.processor settings).executeSignal signal := by
  refine erase_bind_of ?_ fun result => ?_
  · rw [Market.processor_market]
    exact SignalHandler.erase_handle m signal
  · rw [recordResult_booked]
    exact erase_of_ghostless (recordResult_ghostless m signal _ _)

theorem erase_processMessage :
    Prog.erase bookings ((m.bookedProcessor settings).processMessage signal) =
      (m.processor settings).processMessage signal := by
  rw [Processor.processMessage_eq, Processor.processMessage_eq, admits_booked]
  refine erase_bind_of (erase_of_ghostless (admits_ghostless ..)) fun cleared => ?_
  exact erase_ite (erase_executeSignal ..) rfl

end Pipeline

/-! ### ADMIN FLAT -/

namespace AdminDesk

variable {Pos : Type} {desk : AdminDesk Pos}

theorem erase_closeEach (hdesk : desk.AtBroker) (positions : List Pos) (tally : FlatTally) :
    Prog.erase bookings (desk.booked.closeEach positions tally) =
      desk.closeEach positions tally := by
  induction positions generalizing tally with
  | nil => rfl
  | cons pos rest ih =>
      refine erase_bind_of (q := desk.closeSinglePosition pos "FLAT") ?_ fun result => ih _
      rw [← bind_pure (desk.closeSinglePosition pos "FLAT")]
      refine erase_bind_of (erase_of_brokering (hdesk.closeSinglePosition ..)) fun result => ?_
      rw [Prog.erase_bind, erase_bookClose]
      rfl

theorem erase_closeLivePositionsForFlat (hdesk : desk.AtBroker) (admin : AdminFlat) :
    Prog.erase bookings (desk.booked.closeLivePositionsForFlat admin) =
      desk.closeLivePositionsForFlat admin := by
  refine erase_bind_of (q := desk.fetchForFlat admin) ?_ fun fetched => ?_
  · refine erase_of_brokering (Q := fun _ => True) ?_
    unfold fetchForFlat
    split
    · exact hdesk.getOpenPositions ..
    · exact hdesk.getAllOpenPositions _
  refine erase_bind_of (q := desk.narrowByRef admin fetched) ?_ fun positions =>
    erase_closeEach hdesk positions {}
  refine erase_of_brokering (Q := fun _ => True) ?_
  unfold narrowByRef
  split
  · simp
  · exact Prog.Sends.bind (brokering_of_consulting (getOpenPositionsForFlat_consults ..))
      fun _ _ => by simp

theorem reconcileFlatDb_ghostless (admin : AdminFlat) (tally : FlatTally) (raw : String) :
    Prog.Sends ghostless (fun _ => True) (desk.reconcileFlatDb admin tally raw) := by
  have hrow : ∀ row, Prog.Sends ghostless (fun _ => True) (desk.settleRow tally raw row) := by
    intro row
    unfold settleRow
    split
    · refine Prog.Sends.bind (logPosition_ghostless _) fun _ _ => ?_
      refine Prog.Sends.bind (ghostless_perform rfl) fun _ _ => ?_
      refine Prog.Sends.bind (ghostless_perform rfl) fun now _ => ?_
      refine Prog.Sends.bind (ghostless_perform rfl) fun owned _ => ?_
      split
      · simp
      · exact ghostless_perform rfl
    · split
      · exact Prog.Sends.bind (logPosition_ghostless _) fun _ _ => ghostless_perform rfl
      · simp
  refine Prog.Sends.bind (ghostless_of_brokering (brokering_of_consulting
    (getOpenPositionsForFlat_consults ..))) fun rows _ => ?_
  refine Prog.Sends.bind (ghostless_perform rfl) fun _ _ => ?_
  induction rows with
  | nil => simp [settleEach]
  | cons row rest ih => exact Prog.Sends.bind (hrow row) fun _ _ => ih

theorem reconcileFlatDb_booked (admin : AdminFlat) (tally : FlatTally) (raw : String) :
    desk.booked.reconcileFlatDb admin tally raw = desk.reconcileFlatDb admin tally raw := by
  refine bind_congr fun rows => bind_congr fun _ => ?_
  induction rows with
  | nil => rfl
  | cons row rest ih => exact congrArg (desk.settleRow tally raw row >>= ·) (funext fun _ => ih)

theorem erase_handleAdminFlat (hdesk : desk.AtBroker) (admin : AdminFlat) (isPrivate : Bool)
    (raw : String) : Prog.erase bookings (desk.booked.handleAdminFlat admin isPrivate raw) =
      desk.handleAdminFlat admin isPrivate raw := by
  refine erase_ite (erase_bind_of (erase_closeLivePositionsForFlat hdesk admin) fun tally => ?_) rfl
  rw [reconcileFlatDb_booked]
  exact erase_of_ghostless (reconcileFlatDb_ghostless admin tally raw)

end AdminDesk

/-- The desk of a market, with its closes written down. -/
def Market.bookedAdminFlat (m : Market) (gateway accountId : String) (admin : AdminFlat)
    (isPrivate : Bool) (raw : String) : Work Unit :=
  match m with
  | .forex ex => (forexDesk ex gateway accountId).booked.handleAdminFlat admin isPrivate raw
  | .crypto ex => (cryptoDesk ex gateway accountId).booked.handleAdminFlat admin isPrivate raw

theorem erase_handleAdminFlat (m : Market) (gateway accountId : String) (admin : AdminFlat)
    (isPrivate : Bool) (raw : String) :
    Prog.erase bookings (m.bookedAdminFlat gateway accountId admin isPrivate raw) =
      m.handleAdminFlat gateway accountId admin isPrivate raw := by
  cases m with
  | forex ex => exact AdminDesk.erase_handleAdminFlat (forexDesk_atBroker ..) admin isPrivate raw
  | crypto ex => exact AdminDesk.erase_handleAdminFlat (cryptoDesk_atBroker ..) admin isPrivate raw

end Erase

end TradeWorker
