import TradeWorker.World

/-!
# What an executor may call

Under the processor and the handler, an executor works at the broker: it asks and
orders there, reads the store, and draws an id for an order. It writes no row, and
it hands no signal on.
-/

namespace TradeWorker

/-- The calls an executor makes. -/
def WorkerOp.atBroker : WorkerOp → Bool
  | .fx _ | .cx _ => true
  | .db o => o.isRead
  | .host .uuidHex => true
  | .host _ => false

def brokering : Prog.Contract WorkerOp WorkerOp.Ans Exn where
  guard o := o.atBroker = true
  answers _ _ := True

/-- Calls at the broker that only ask: they order nothing and move no stop. -/
def WorkerOp.consults : WorkerOp → Bool
  | .fx (.placeOrder _) | .fx (.closePosition ..) | .fx (.modifySl ..) => false
  | .cx (.placeMarketOrder ..) | .cx (.setStopLoss ..) | .cx (.setTakeProfit ..)
  | .cx (.cancelAllOrders _) => false
  | .fx _ | .cx _ => true
  | .db o => o.isRead
  | .host .uuidHex => true
  | .host _ => false

def consulting : Prog.Contract WorkerOp WorkerOp.Ans Exn where
  guard o := o.consults = true
  answers _ _ := True

section Consults

theorem atBroker_of_consults {o : WorkerOp} (ho : o.consults = true) : o.atBroker = true := by
  cases o with
  | fx | cx => rfl
  | db o => exact ho
  | host o =>
      cases o with
      | uuidHex => rfl
      | signalsBlocked | ensureConnected | now | currentFooter | handling | notify
      | notifyChannel | recordCycle => cases ho

theorem brokering_of_consulting {α : Type} {Q : α → Prop} {p : Work α}
    (hp : Prog.Sends consulting Q p) : Prog.Sends brokering Q p :=
  hp.relax (fun _ ho => atBroker_of_consults ho) fun _ _ _ => trivial

theorem consulting_fx {o : ForexOp} (ho : WorkerOp.consults (.fx o) = true) :
    Prog.Sends consulting (fun _ => True) (platform o) :=
  Prog.sends_perform ho fun _ _ => trivial

theorem consulting_cx {o : CryptoOp} (ho : WorkerOp.consults (.cx o) = true) :
    Prog.Sends consulting (fun _ => True) (exchange o) :=
  Prog.sends_perform ho fun _ _ => trivial

theorem getOpenPositionsForFlat_consults (strategy symbol refId : Option String) :
    Prog.Sends consulting (fun _ => True) (getOpenPositionsForFlat strategy symbol refId) :=
  Prog.Sends.tryCatch (Prog.sends_perform rfl fun _ _ => trivial) fun _ => by simp

theorem getOpenPositionsByStrategy_consults (strategy symbol : String) (uxid : Option String) :
    Prog.Sends consulting (fun _ => True) (getOpenPositionsByStrategy strategy symbol uxid) :=
  Prog.Sends.tryCatch (Prog.sends_perform rfl fun _ _ => trivial) fun _ => by simp

end Consults

/-- A read leaves the store as it was. -/
theorem Db.serve_of_isRead {o : DbOp} (ho : o.isRead = true) (db : Db) :
    (Db.serve o db).2 = db := by
  cases o with
  | selectActiveByStrategy | selectActiveForFlat | selectLogged | selectPosition => rfl
  | insertLog | insertRow | updateStatus => cases ho

/-- So does whatever an executor does. -/
theorem run_brokering {α β : Type} {Q : α → Prop} {p : Work α}
    (hp : Prog.Sends brokering Q p) (B : Backend β) (w : World β) :
    (Prog.run B.serve p w).2.db = w.db := by
  refine hp.keeps (S := B.serve) (I := fun w' => w'.db = w.db) ?_ rfl
  intro o w' hw' ho
  refine ⟨trivial, ?_⟩
  cases o with
  | db o => exact (Db.serve_of_isRead ho w'.db).trans hw'
  | fx o => exact hw'
  | cx o => exact hw'
  | host o => exact hw'

/-- After it the program goes on from the same store. -/
theorem run_bind_brokering {α γ β : Type} {Q : α → Prop} {p : Work α} {f : α → Work γ}
    (hp : Prog.Sends brokering Q p) {B : Backend β} {w w' : World β} {c : γ}
    (hrun : Prog.run B.serve (p >>= f) w = (.ok c, w')) :
    ∃ a w₁, w₁.db = w.db ∧ Prog.run B.serve (f a) w₁ = (.ok c, w') := by
  obtain ⟨a, w₁, hfirst, hrest⟩ := Prog.run_bind_inv _ hrun
  have hdb := run_brokering hp B w
  rw [hfirst] at hdb
  exact ⟨a, w₁, hdb, hrest⟩

/-- The reads of the executor only ask. -/
structure TradeExecutor.Consults {Pos : Type} (ex : TradeExecutor Pos) : Prop where
  getEntryPrice : ∀ signal, Prog.Sends consulting (fun _ => True) (ex.getEntryPrice signal)
  normalizeVolume : ∀ symbol volume,
    Prog.Sends consulting (fun _ => True) (ex.normalizeVolume symbol volume)
  convertQuantityToLots : ∀ symbol quantity,
    Prog.Sends consulting (fun _ => True) (ex.convertQuantityToLots symbol quantity)
  getOpenPositions : ∀ symbol strategy,
    Prog.Sends consulting (fun _ => True) (ex.getOpenPositions symbol strategy)

structure TradeExecutor.AtBroker {Pos : Type} (ex : TradeExecutor Pos) : Prop where
  openPosition : ∀ signal, Prog.Sends brokering (fun _ => True) (ex.openPosition signal)
  getEntryPrice : ∀ signal, Prog.Sends brokering (fun _ => True) (ex.getEntryPrice signal)
  normalizeVolume : ∀ symbol volume,
    Prog.Sends brokering (fun _ => True) (ex.normalizeVolume symbol volume)
  convertQuantityToLots : ∀ symbol quantity,
    Prog.Sends brokering (fun _ => True) (ex.convertQuantityToLots symbol quantity)
  getOpenPositions : ∀ symbol strategy,
    Prog.Sends brokering (fun _ => True) (ex.getOpenPositions symbol strategy)
  partialClosePosition : ∀ symbol volume ticket strategy closePrice, Prog.Sends brokering
    (fun _ => True) (ex.partialClosePosition symbol volume ticket strategy closePrice)
  updatePositionSl : ∀ symbol newSl ticket strategy,
    Prog.Sends brokering (fun _ => True) (ex.updatePositionSl symbol newSl ticket strategy)
  closeAllPositions : ∀ symbol reason strategy closePrice ticket, Prog.Sends brokering
    (fun _ => True) (ex.closeAllPositions symbol reason strategy closePrice ticket)

end TradeWorker
