import TradeWorker.Footprint

/-!
# What a crypto entry can reach

On an exchange the symbol is all that tells positions apart: an entry's cleanup
closes whatever is live on the resolved symbol. This module follows the reduce-only
orders and the writes of an entry up the call tree, whatever the exchange answers.
`reducing X W` allows a reduce-only order on `X` alone and, beyond reads, only the
statements in `W`.
-/

namespace TradeWorker

def WorkerOp.reducedLeg : WorkerOp → Option (String × Side)
  | .cx (.placeMarketOrder symbol side _ true _) => some (symbol, side)
  | _ => none

def Reduces (X : String) : WorkerOp → Prop
  | .cx (.placeMarketOrder symbol _ _ true _) => symbol = X
  | .fx (.closePosition ..) => False
  | _ => True

def WritesOnly (W : DbOp → Prop) : WorkerOp → Prop
  | .db o => o.isRead = true ∨ W o
  | _ => True

def reducing (X : String) (W : DbOp → Prop) : Prog.Contract WorkerOp WorkerOp.Ans Exn where
  guard o := Reduces X o ∧ WritesOnly W o
  answers _ _ := True

/-- An executor's calls, with reduce-only orders on `X` alone. -/
def onExchange (X : String) : Prog.Contract WorkerOp WorkerOp.Ans Exn where
  guard o := o.atBroker = true ∧ Reduces X o
  answers _ _ := True

theorem Reduces.symbol_eq {X : String} {o : WorkerOp} (h : Reduces X o) {leg : String × Side}
    (hleg : o.reducedLeg = some leg) : leg.1 = X := by
  unfold WorkerOp.reducedLeg at hleg
  split at hleg
  · cases hleg
    exact h
  · cases hleg

section Reach

variable {X : String} {W : DbOp → Prop}

/-! ## Single calls -/

/-- An executor's program, among the statements of its caller. -/
theorem reducing_of_onExchange {α : Type} {Q : α → Prop} {p : Work α}
    (hp : Prog.Sends (onExchange X) Q p) : Prog.Sends (reducing X W) Q p := by
  refine hp.relax ?_ fun _ _ _ => trivial
  rintro o ⟨hbroker, hreduces⟩
  refine ⟨hreduces, ?_⟩
  cases o with
  | db o => exact Or.inl hbroker
  | fx o => trivial
  | cx o => trivial
  | host o => trivial

theorem onExchange_exchange {o : CryptoOp} (ho : Reduces X (.cx o)) :
    Prog.Sends (onExchange X) (fun _ => True) (exchange o) :=
  Prog.sends_perform ⟨rfl, ho⟩ fun _ _ => trivial

/-- What only asks reduces nothing. -/
theorem onExchange_of_consulting {α : Type} {Q : α → Prop} {p : Work α}
    (hp : Prog.Sends consulting Q p) : Prog.Sends (onExchange X) Q p := by
  refine hp.relax (fun o ho => ⟨atBroker_of_consults ho, ?_⟩) fun _ _ _ => trivial
  cases o with
  | db | host => trivial
  | fx o =>
      cases o with
      | closePosition => cases ho
      | resolveSymbol | getSymbolSpec | getTick | getPositions | getAccount | calcMargin
      | placeOrder | modifySl | getPositionRealizedPnl => trivial
  | cx o =>
      cases o with
      | placeMarketOrder => cases ho
      | getSymbolFilter | getMarkPrice | getPositions | setStopLoss | setTakeProfit
      | cancelAllOrders | getOrderRealizedPnl | getAccount => trivial

theorem onExchange_after {α γ : Type} {Q : α → Prop} {R : γ → Prop} {p : Work α}
    {f : α → Work γ} (hp : Prog.Sends consulting Q p)
    (hf : ∀ a, Q a → Prog.Sends (onExchange X) R (f a)) :
    Prog.Sends (onExchange X) R (p >>= f) :=
  Prog.Sends.bind (onExchange_of_consulting hp) hf

theorem reducing_host (o : HostOp) :
    Prog.Sends (reducing X W) (fun _ => True) (host o) :=
  Prog.sends_perform ⟨trivial, trivial⟩ fun _ _ => trivial

/-! ## The executor -/

namespace CryptoExecutor

variable {ex : CryptoExecutor}

theorem normalizeVolume_consults (symbol : String) (volume : ℚ) :
    Prog.Sends consulting (fun _ => True) (ex.normalizeVolume symbol volume) :=
  Prog.Sends.bind (consulting_cx rfl) fun _ _ => by simp

theorem minQty_consults (symbol : String) :
    Prog.Sends consulting (fun _ => True) (minQty symbol) :=
  Prog.Sends.bind (consulting_cx rfl) fun _ _ => by simp

theorem calculateQuantity_consults (symbol : String) (entryPrice slPrice risk capital : ℚ) :
    Prog.Sends consulting (fun _ => True)
      (ex.calculateQuantity symbol entryPrice slPrice risk capital) := by
  unfold calculateQuantity
  dsimp only
  split
  · exact Prog.Sends.bind (consulting_cx rfl) fun _ _ => by simp
  · exact normalizeVolume_consults ..

theorem riskCapital_consults (equitySizing : Option Bool) :
    Prog.Sends consulting (fun _ => True) (ex.riskCapital equitySizing) := by
  unfold riskCapital
  split
  · exact Prog.Sends.bind (consulting_cx rfl) fun _ _ => by simp
  · simp

theorem resolveEntryQty_consults (signal : Signal) (symbol : String) :
    Prog.Sends consulting (fun _ => True) (ex.resolveEntryQty signal symbol) := by
  unfold resolveEntryQty
  dsimp only
  split
  · exact normalizeVolume_consults ..
  · cases num? signal.sl with
    | none => exact minQty_consults symbol
    | some sl =>
        refine Prog.Sends.bind (riskCapital_consults _) fun capital _ => ?_
        cases capital with
        | none => exact minQty_consults symbol
        | some capital =>
            refine Prog.Sends.bind (consulting_cx rfl) fun price _ => ?_
            exact calculateQuantity_consults ..

theorem enforceMinNotional_consults (symbol : String) (qty : ℚ) :
    Prog.Sends consulting (fun _ => True) (ex.enforceMinNotional symbol qty) := by
  refine Prog.Sends.bind (consulting_cx rfl) fun f _ => ?_
  split
  · simp
  · refine Prog.Sends.bind (Q := fun _ => True) ?_ fun price _ => ?_
    · refine Prog.Sends.tryCatch ?_ fun _ => by simp
      exact Prog.Sends.bind (consulting_cx rfl) fun _ _ => by simp
    · cases price with
      | none => simp
      | some price =>
          dsimp only
          split
          · simp
          · refine Prog.Sends.bind (normalizeVolume_consults ..) fun bumped _ => ?_
            split
            · exact Prog.Sends.bind (normalizeVolume_consults ..) fun _ _ => by simp
            · simp

theorem nettingConflict_consults (signal : Signal) (symbol : String) :
    Prog.Sends consulting (fun conflict => ∀ r, conflict = some r → r.success = false)
      (ex.nettingConflict signal symbol) := by
  unfold nettingConflict
  split
  · exact Prog.sends_ret.mpr nofun
  · refine Prog.Sends.bind (getOpenPositionsForFlat_consults ..) fun rows _ => ?_
    dsimp only
    split
    · exact Prog.sends_ret.mpr nofun
    · exact Prog.sends_ret.mpr fun r h => by cases h; rfl

theorem closeClientOrderId_consults :
    Prog.Sends consulting (fun _ => True) closeClientOrderId :=
  Prog.Sends.bind (Prog.sends_perform rfl fun _ _ => trivial) fun _ _ => by simp

theorem rollbackUnprotectedEntry_reduces (side : Side) (entry slRes : TradeResult) (qty : ℚ) :
    Prog.Sends (onExchange X) (fun _ => True)
      (rollbackUnprotectedEntry X side entry slRes qty) := by
  refine onExchange_after closeClientOrderId_consults fun orderId _ => ?_
  exact Prog.Sends.bind (onExchange_exchange rfl) fun _ _ => by simp

theorem attachTakeProfit_reduces (symbol : String) (side : Side) (qty : ℚ) (signal : Signal)
    (result : TradeResult) :
    Prog.Sends (onExchange X) (fun _ => True)
      (attachTakeProfit symbol side qty signal result) := by
  unfold attachTakeProfit
  cases num? signal.tp2 with
  | none => simp
  | some tp2 => exact Prog.Sends.bind (onExchange_exchange trivial) fun _ _ => by simp

theorem attachEntryOrders_reduces (side : Side) (qty : ℚ) (signal : Signal)
    (result : TradeResult) :
    Prog.Sends (onExchange X) (fun _ => True)
      (attachEntryOrders X side qty signal result) := by
  unfold attachEntryOrders
  cases num? signal.sl with
  | none =>
      exact Prog.Sends.bind (attachTakeProfit_reduces ..) fun _ _ => by simp
  | some sl =>
      refine Prog.Sends.bind (onExchange_exchange trivial) fun slRes _ => ?_
      dsimp only
      split
      · exact Prog.Sends.bind (attachTakeProfit_reduces ..) fun _ _ => by simp
      · exact rollbackUnprotectedEntry_reduces ..

/-- Only the rollback of an entry reduces, and it is on the entry's own symbol. -/
theorem openPosition_reduces (signal : Signal) :
    Prog.Sends (onExchange (ex.getSymbol signal.symbol)) (fun _ => True)
      (ex.openPosition signal) := by
  unfold openPosition
  split
  · simp
  · dsimp only
    split
    · simp
    · refine onExchange_after (resolveEntryQty_consults ..) fun resolved _ => ?_
      refine onExchange_after (normalizeVolume_consults ..) fun qty _ => ?_
      split
      · simp
      · refine onExchange_after (enforceMinNotional_consults ..) fun qty _ => ?_
        cases qty with
        | none => simp
        | some qty =>
            refine onExchange_after (nettingConflict_consults ..) fun conflict _ => ?_
            cases conflict with
            | some conflict => simp
            | none =>
                refine Prog.Sends.bind (onExchange_exchange trivial) fun result _ => ?_
                split
                · exact attachEntryOrders_reduces ..
                · simp

theorem getOpenPositions_consults (symbol : String) :
    Prog.Sends consulting (fun _ => True) (ex.getOpenPositions symbol) :=
  Prog.Sends.bind (consulting_cx rfl) fun _ _ => by simp

theorem entryPriceFromDb_consults (symbol : String) (strategy : Option String) :
    Prog.Sends consulting (fun _ => True) (entryPriceFromDb symbol strategy) := by
  unfold entryPriceFromDb
  cases text? strategy with
  | none => simp
  | some strategy =>
      exact Prog.Sends.bind (getOpenPositionsByStrategy_consults ..) fun _ _ => by simp

theorem attachRealizedPnl_consults (result : TradeResult) (pos : ExchangePosition)
    (closePrice entryPrice : Option ℚ) :
    Prog.Sends consulting (fun _ => True)
      (attachRealizedPnl result pos closePrice entryPrice) := by
  unfold attachRealizedPnl
  split
  · simp
  · dsimp only
    split
    · simp
    · refine Prog.Sends.bind (Q := fun _ => True) ?_ fun _ _ => by simp
      exact Prog.Sends.tryCatch (consulting_cx rfl) fun _ => by simp

theorem closeEach_reduces (closePrice entryPrice : Option ℚ) (ps : List ExchangePosition) :
    Prog.Sends (onExchange X) (fun _ => True) (closeEach X closePrice entryPrice ps) := by
  induction ps with
  | nil => simp [closeEach]
  | cons pos rest ih =>
      refine onExchange_after closeClientOrderId_consults fun orderId _ => ?_
      refine Prog.Sends.bind (onExchange_exchange rfl) fun result _ => ?_
      split
      · refine onExchange_after (attachRealizedPnl_consults ..) fun result _ => ?_
        exact Prog.Sends.bind ih fun _ _ => by simp
      · exact ih

theorem closeAllPositions_reduces (symbol reason : String) (strategy : Option String)
    (closePrice : Option ℚ) (ticket : Option String) :
    Prog.Sends (onExchange (ex.getSymbol symbol)) (fun _ => True)
      (ex.closeAllPositions symbol reason strategy closePrice ticket) := by
  refine onExchange_after (getOpenPositions_consults symbol) fun positions _ => ?_
  generalize filterByTicket positions ticket = matching
  cases matching with
  | nil => simp
  | cons first rest =>
      refine Prog.Sends.bind (onExchange_exchange trivial) fun _ _ => ?_
      refine onExchange_after (entryPriceFromDb_consults ..) fun entryPrice _ => ?_
      exact Prog.Sends.bind (closeEach_reduces ..) fun _ _ => by simp

/-! ## Exits -/

theorem recoverEntryTp2_consults (symbol : String) (strategy : Option String) :
    Prog.Sends consulting (fun _ => True) (recoverEntryTp2 symbol strategy) := by
  unfold recoverEntryTp2
  cases text? strategy with
  | none => simp
  | some strategy =>
      exact Prog.Sends.bind (getOpenPositionsByStrategy_consults ..) fun _ _ => by simp

theorem partialClosePosition_reduces (symbol : String) (volume : ℚ) (ticket : Nat)
    (strategy : Option String) (closePrice : Option ℚ) :
    Prog.Sends (onExchange (ex.getSymbol symbol)) (fun _ => True)
      (ex.partialClosePosition symbol volume ticket strategy closePrice) := by
  refine onExchange_after (getOpenPositions_consults symbol) fun positions _ => ?_
  cases positions with
  | nil => simp
  | cons first rest =>
      refine onExchange_after (normalizeVolume_consults ..) fun safeVolume _ => ?_
      split
      · simp
      · refine onExchange_after closeClientOrderId_consults fun orderId _ => ?_
        refine Prog.Sends.bind (onExchange_exchange rfl) fun result _ => ?_
        split
        · refine onExchange_after (entryPriceFromDb_consults ..) fun entryPrice _ => ?_
          exact onExchange_of_consulting (attachRealizedPnl_consults ..)
        · simp

theorem updatePositionSl_reduces (symbol : String) (newSl : ℚ) (ticket : Nat)
    (strategy : Option String) :
    Prog.Sends (onExchange X) (fun _ => True)
      (ex.updatePositionSl symbol newSl ticket strategy) := by
  refine onExchange_after (getOpenPositions_consults symbol) fun positions _ => ?_
  cases positions with
  | nil => simp
  | cons first rest =>
      refine Prog.Sends.bind (onExchange_exchange trivial) fun _ _ => ?_
      refine Prog.Sends.bind (onExchange_exchange trivial) fun result _ => ?_
      split
      · refine onExchange_after (recoverEntryTp2_consults ..) fun tp2 _ => ?_
        cases tp2 with
        | none => simp
        | some tp2 => exact Prog.Sends.bind (onExchange_exchange trivial) fun _ _ => by simp
      · simp

theorem getEntryPrice_consults (signal : Signal) :
    Prog.Sends consulting (fun _ => True) (ex.getEntryPrice signal) := by
  refine Prog.Sends.tryCatch ?_ fun _ => by simp
  exact Prog.Sends.bind (consulting_cx rfl) fun _ _ => by simp

end CryptoExecutor

/-! ## The handler -/

namespace SignalHandler

variable {ex : CryptoExecutor}

theorem collectStale_reduces (symbol strategy : String) (tickets : List (Option String)) :
    Prog.Sends (reducing X W) (fun _ => True)
      (collectStale (cryptoMarket ex) symbol strategy tickets) := by
  induction tickets with
  | nil => simp [collectStale]
  | cons ticket rest ih =>
      refine Prog.Sends.bind (Q := fun _ => True) ?_ fun found _ => ?_
      · exact Prog.Sends.bind
          (reducing_of_onExchange
            (onExchange_of_consulting (CryptoExecutor.getOpenPositions_consults symbol)))
          fun _ _ => by simp
      · exact Prog.Sends.bind ih fun _ _ => by simp

theorem forceCloseEach_reduces (symbol strategy : String) (tickets : List (Option String))
    (report : TradeResult) :
    Prog.Sends (reducing (ex.getSymbol symbol) W) (fun _ => True)
      (forceCloseEach (cryptoMarket ex) symbol strategy tickets report) := by
  induction tickets generalizing report with
  | nil => simp [forceCloseEach]
  | cons ticket rest ih =>
      refine Prog.Sends.bind (reducing_of_onExchange (CryptoExecutor.closeAllPositions_reduces ..))
        fun cleanup _ => ?_
      split
      · exact ih _
      · simp

theorem updateEach_reduces (hW : ∀ u : StatusUpdate, u.status = .forcedClosed → W (.updateStatus u))
    (dbStale : List Row) (stale : Bool) (cleanup : TradeResult) :
    Prog.Sends (reducing X W) (fun _ => True)
      (updateEach (dbStale.map (clearStale stale cleanup))) := by
  induction dbStale with
  | nil => simp [updateEach]
  | cons row rest ih =>
      refine Prog.Sends.bind (Q := fun _ => True) ?_ fun _ _ => ih
      exact Prog.sends_perform ⟨trivial, Or.inr (hW _ rfl)⟩ fun _ _ => trivial

theorem enterFresh_reduces (hW : ∀ u : StatusUpdate, u.status = .forcedClosed → W (.updateStatus u))
    (signal : Signal) (dbStale : List Row) (stale : Bool) (cleanup : TradeResult) :
    Prog.Sends (reducing (ex.getSymbol signal.symbol) W) (fun _ => True)
      (enterFresh (cryptoMarket ex) signal dbStale stale cleanup) := by
  refine Prog.Sends.bind (updateEach_reduces hW dbStale stale cleanup) fun _ _ => ?_
  refine Prog.Sends.bind (reducing_of_onExchange (CryptoExecutor.openPosition_reduces signal))
    fun _ _ => ?_
  split <;> simp

/-- An entry reduces positions of its own resolved symbol. -/
theorem handleEntry_reduces
    (hW : ∀ u : StatusUpdate, u.status = .forcedClosed → W (.updateStatus u))
    (signal : Signal) :
    Prog.Sends (reducing (ex.getSymbol signal.symbol) W) (fun _ => True)
      (handleEntry (cryptoMarket ex) signal) := by
  refine Prog.Sends.bind (reducing_of_onExchange
    (onExchange_of_consulting (getOpenPositionsForFlat_consults ..))) fun holders _ => ?_
  dsimp only
  split
  · simp
  · refine Prog.Sends.bind (reducing_of_onExchange
      (onExchange_of_consulting (getOpenPositionsByStrategy_consults ..))) fun rows _ => ?_
    refine Prog.Sends.bind (collectStale_reduces ..) fun stale _ => ?_
    split
    · exact enterFresh_reduces hW ..
    · refine Prog.Sends.bind (forceCloseEach_reduces ..) fun cleanup _ => ?_
      split
      · exact enterFresh_reduces hW ..
      · simp

theorem handle_reduces (ex : CryptoExecutor)
    (hW : ∀ u : StatusUpdate, u.status = .forcedClosed → W (.updateStatus u)) {signal : Signal}
    (hentry : signal.action.isEntry = true) :
    Prog.Sends (reducing (ex.getSymbol signal.symbol) W) (fun _ => True)
      (handle (cryptoMarket ex) signal) := by
  refine Prog.Sends.bind (reducing_host _) fun _ _ => ?_
  cases haction : signal.action with
  | long | short => exact handleEntry_reduces hW signal
  | tp1 | tp2 | sl | rSl | flat => simp [haction, SignalAction.isEntry] at hentry

end SignalHandler

end Reach

end TradeWorker
