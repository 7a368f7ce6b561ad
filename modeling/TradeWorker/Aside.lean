import TradeWorker.EntryTracking

/-!
# What the pipeline does beside the rows

Guards, refusals and reports send no order, hand no signal to the handler and write the
status of no row. A refused entry inserts a row of its own, as `REJECTED`.
-/

namespace TradeWorker

/-- A call that sends no order, hands no signal on, and leaves no row in a final status. -/
def WorkerOp.isAside : WorkerOp → Bool
  | .db (.updateStatus _) => false
  | .db (.insertRow n) => !n.status.isTerminal
  | .fx (.placeOrder _) | .fx (.closePosition ..) => false
  | .cx (.placeMarketOrder ..) => false
  | .host (.handling _) => false
  | _ => true

def aside : Prog.Contract WorkerOp WorkerOp.Ans Exn where
  guard o := o.isAside = true
  answers _ _ := True

theorem aside_sql {o : DbOp} (ho : WorkerOp.isAside (.db o) = true) :
    Prog.Sends aside (fun _ => True) (sql o) :=
  Prog.sends_perform ho fun _ _ => trivial

theorem aside_host {o : HostOp} (ho : WorkerOp.isAside (.host o) = true) :
    Prog.Sends aside (fun _ => True) (host o) :=
  Prog.sends_perform ho fun _ _ => trivial

theorem aside_fx {o : ForexOp} (ho : WorkerOp.isAside (.fx o) = true) :
    Prog.Sends aside (fun _ => True) (platform o) :=
  Prog.sends_perform ho fun _ _ => trivial

theorem aside_cx {o : CryptoOp} (ho : WorkerOp.isAside (.cx o) = true) :
    Prog.Sends aside (fun _ => True) (exchange o) :=
  Prog.sends_perform ho fun _ _ => trivial

theorem aside_swallow {α : Type} {p : Work α} (a : α)
    (hp : Prog.Sends aside (fun _ => True) p) :
    Prog.Sends aside (fun _ => True) (Prog.tryCatch p fun _ => pure a) :=
  Prog.Sends.tryCatch hp fun _ => by simp

theorem logPosition_aside (l : LogRow) : Prog.Sends aside (fun _ => True) (logPosition l) :=
  aside_swallow _ (aside_sql rfl)

theorem aside_of_consulting {α : Type} {Q : α → Prop} {p : Work α}
    (hp : Prog.Sends consulting Q p) : Prog.Sends aside Q p := by
  refine hp.relax (fun o ho => ?_) fun _ _ _ => trivial
  cases o with
  | db o =>
      cases o with
      | insertLog | insertRow | updateStatus => cases ho
      | selectActiveByStrategy | selectActiveForFlat | selectLogged | selectPosition => rfl
  | fx o =>
      cases o with
      | placeOrder | closePosition => cases ho
      | resolveSymbol | getSymbolSpec | getTick | getPositions | getAccount | calcMargin
      | modifySl | getPositionRealizedPnl => rfl
  | cx o =>
      cases o with
      | placeMarketOrder => cases ho
      | getSymbolFilter | getMarkPrice | getPositions | setStopLoss | setTakeProfit
      | cancelAllOrders | getOrderRealizedPnl | getAccount => rfl
  | host o =>
      cases o with
      | uuidHex => rfl
      | signalsBlocked | ensureConnected | now | currentFooter | handling | notify
      | notifyChannel | recordCycle => cases ho

section Pipeline

variable (m : Market) (settings : WorkerSettings) (signal : Signal)

theorem notifyTrade_aside (report : Report) (event : CycleEvent) (status : Option CycleStatus) :
    Prog.Sends aside (fun _ => True) (Processor.notifyTrade signal report event status) := by
  refine Prog.Sends.bind (aside_host rfl) fun owned _ => ?_
  split
  · simp
  · exact aside_host rfl

theorem notifyForcedClosed_aside (forced : List ForcedClosed) :
    Prog.Sends aside (fun _ => True) (Processor.notifyForcedClosed signal forced) := by
  induction forced with
  | nil => simp [Processor.notifyForcedClosed]
  | cons fc rest ih => exact Prog.Sends.bind (notifyTrade_aside ..) fun _ _ => ih

theorem rejectSignal_aside (reason : String) :
    Prog.Sends aside (fun _ => True) ((m.processor settings).rejectSignal signal reason) := by
  refine Prog.Sends.bind (aside_host rfl) fun _ _ => ?_
  refine Prog.Sends.bind (logPosition_aside _) fun _ _ => ?_
  refine Prog.Sends.bind (Q := fun _ => True) (by simp) fun magic _ => ?_
  refine Prog.Sends.bind (aside_swallow _ (aside_sql rfl)) fun _ _ => ?_
  exact notifyTrade_aside ..

theorem entryRejection_consults :
    Prog.Sends consulting (fun _ => True) ((m.processor settings).entryRejection signal) := by
  have hrows : ∀ strategy symbol refId, Prog.Sends consulting (fun _ => True)
      (getOpenPositionsForFlat strategy symbol refId) := getOpenPositionsForFlat_consults
  refine Prog.Sends.bind (Q := fun _ => True) ?_ fun reason _ => ?_
  · refine Prog.Sends.bind (hrows ..) fun rows _ => ?_
    dsimp only
    split <;> simp
  cases reason with
  | some reason => simp
  | none =>
      refine Prog.Sends.bind (Q := fun _ => True) ?_ fun reason _ => ?_
      · unfold Guard.maxOpenOrdersRejection
        split
        · simp
        · split
          · simp
          · refine Prog.Sends.bind (hrows ..) fun rows _ => ?_
            split
            · simp
            · split <;> simp
      cases reason with
      | some reason => simp
      | none =>
          refine Prog.Sends.bind (Prog.Sends.tryCatch (Q := fun _ => True) ?_ fun _ => by simp)
            fun quote _ => by simp
          rw [Market.processor_market]
          exact m.consults.getEntryPrice signal

theorem entryRejection_aside :
    Prog.Sends aside (fun _ => True) ((m.processor settings).entryRejection signal) :=
  aside_of_consulting (entryRejection_consults m settings signal)

end Pipeline

/-! ## Up to the handler -/

section Admission

variable {Pos : Type} [LivePosition Pos] (P : Processor Pos) (signal : Signal)

/-- `_process_signal` up to the handler: whether the signal goes on to it. What stops it is
reported here. -/
def Processor.clears : Work Bool := do
  let blocked : Bool ← host .signalsBlocked
  if blocked then pure false
  else
    match P.magicFor signal.strategy with
    | .error (.keyError _) | .error (.valueError _) => do
        let _footer ← host .currentFooter
        host (.notify (.signalRejected
          s!"Unknown strategy '{signal.strategy}' — no strategy_magic_map entry."))
        pure false
    | .error e => .raise e
    | .ok _ =>
        if signal.action.isEntry then do
          let reason ← P.entryRejection signal
          match reason with
          | some reason => do
              P.rejectSignal signal reason
              pure false
          | none => pure true
        else pure true

/-- The part of `_process_message` before `_execute_signal`. -/
def Processor.admits : Work Bool := do
  let connected : Bool ← host .ensureConnected
  if connected then P.clears signal else pure false

/-- A signal that goes on is executed. -/
def Processor.goOn (cleared : Bool) : Work Unit :=
  if cleared then P.executeSignal signal else pure ()

theorem Processor.processSignal_eq :
    P.processSignal signal = P.clears signal >>= P.goOn signal := by
  unfold Processor.processSignal Processor.clears
  rw [bind_assoc]
  refine bind_congr fun blocked => ?_
  split
  · simp [goOn]
  cases hmagic : P.magicFor signal.strategy with
  | error e =>
      cases e with
      | keyError | valueError =>
          simp only [bind_assoc, pure_bind]
          exact bind_congr fun _ => (bind_pure _).symm
      | _ => rfl
  | ok magic =>
      dsimp only
      split
      · rw [bind_assoc]
        refine bind_congr fun reason => ?_
        cases reason with
        | none => simp [goOn]
        | some reason =>
            simp only [bind_assoc, pure_bind]
            exact (bind_pure _).symm
      · simp [goOn]

theorem Processor.processMessage_eq :
    P.processMessage signal = P.admits signal >>= P.goOn signal := by
  unfold Processor.processMessage Processor.admits
  rw [bind_assoc]
  refine bind_congr fun connected => ?_
  split
  · exact P.processSignal_eq signal
  · simp [goOn]

end Admission

/-! ## What an entry calls -/

def WorkerOp.enters : WorkerOp → Bool
  | .db (.updateStatus u) => decide (u.status = .forcedClosed) && u.message.isNone
  | o => o.atBroker

def entering : Prog.Contract WorkerOp WorkerOp.Ans Exn where
  guard o := o.enters = true
  answers _ _ := True

theorem entering_of_brokering {α : Type} {Q : α → Prop} {p : Work α}
    (hp : Prog.Sends brokering Q p) : Prog.Sends entering Q p := by
  refine hp.relax (fun o ho => ?_) fun _ _ _ => trivial
  cases o with
  | fx | cx => rfl
  | host => exact ho
  | db o =>
      cases o with
      | insertLog | insertRow | updateStatus => cases ho
      | selectActiveByStrategy | selectActiveForFlat | selectLogged | selectPosition => rfl

namespace SignalHandler

variable (m : Market)

theorem handleEntry_enters (signal : Signal) :
    Prog.Sends entering (fun _ => True) (handleEntry m.strategy signal) := by
  have hclear : ∀ (found : List Row) stale cleanup, Prog.Sends entering (fun _ => True)
      (updateEach (found.map (clearStale stale cleanup))) := by
    intro found stale cleanup
    induction found with
    | nil => simp [updateEach]
    | cons row rest ih =>
        exact Prog.Sends.bind (Prog.sends_perform rfl fun _ _ => trivial) fun _ _ => ih
  have hfresh : ∀ found stale cleanup, Prog.Sends entering (fun _ => True)
      (enterFresh m.strategy signal found stale cleanup) := by
    intro found stale cleanup
    refine Prog.Sends.bind (hclear ..) fun _ _ => ?_
    refine Prog.Sends.bind (entering_of_brokering (m.atBroker.openPosition signal))
      fun result _ => ?_
    split <;> simp
  refine Prog.Sends.bind (entering_of_brokering (brokering_of_consulting
    (getOpenPositionsForFlat_consults ..))) fun holders _ => ?_
  dsimp only
  split
  · simp
  · refine Prog.Sends.bind (entering_of_brokering (brokering_of_consulting
      (getOpenPositionsByStrategy_consults ..))) fun found _ => ?_
    refine Prog.Sends.bind (entering_of_brokering (collectStale_brokering m ..))
      fun stale _ => ?_
    split
    · exact hfresh ..
    · refine Prog.Sends.bind (entering_of_brokering (forceCloseStale_brokering m ..))
        fun cleanup _ => ?_
      split
      · exact hfresh ..
      · simp

/-- A partial exit is work at the broker. -/
theorem handleTp1_brokering (signal : Signal) (ticket : Option String) :
    Prog.Sends brokering (fun _ => True) (m.strategy.handleTp1 signal ticket) := by
  refine Prog.Sends.bind (Q := fun _ => True)
    (Prog.Sends.bind (m.atBroker.getOpenPositions ..) fun _ _ => by simp) fun positions _ => ?_
  cases positions with
  | nil => simp
  | cons pos rest =>
      refine Prog.Sends.bind (Q := fun _ => True) ?_ fun volume _ => ?_
      · unfold ExecutorBackedMarket.resolveTp1Volume
        split
        · split
          · simp
          · exact Prog.Sends.bind (m.atBroker.normalizeVolume ..) fun _ _ => by simp
        · split
          · simp
          · exact Prog.Sends.bind (m.atBroker.convertQuantityToLots ..) fun _ _ => by simp
      · cases volume with
        | error failure => simp
        | ok volume =>
            refine Prog.Sends.bind (m.atBroker.partialClosePosition ..) fun closed _ => ?_
            split
            · refine Prog.Sends.bind (m.atBroker.updatePositionSl ..) fun moved _ => ?_
              dsimp only
              split
              · simp
              · exact Prog.Sends.bind (m.atBroker.closeAllPositions ..) fun _ _ => by simp
            · simp

end SignalHandler

end TradeWorker
