import TradeWorker.EntryGuard
import TradeWorker.EntryPolicy

/-!
# The exposure cap

`MAX_OPEN_ORDERS` bounds the rows that are open at once. The cap lets an entry pass that
replaces a row of its own key, full or not; the guard before it has already turned such
an entry away, so what reaches the broker always finds room. A signal adds one row at
most, and the bound carries along every run.
-/

namespace TradeWorker

def Db.exposure (db : Db) : Nat := (db.rows.filter (·.isActive)).length

/-! ## What a program adds -/

/-- Served with an exposure of at most `n`, the program ends with at most `k`. -/
def Bounded {α β : Type} (B : Backend β) (n k : Nat) (p : Work α) : Prop :=
  ∀ w : World β, w.db.exposure ≤ n → (Prog.run B.serve p w).2.db.exposure ≤ k

namespace Bounded

variable {α γ β : Type} {B : Backend β} {n k l : Nat} {p : Work α}

theorem ret (a : α) (h : n ≤ k) : Bounded B n k (.ret a : Work α) :=
  fun _ hw => hw.trans h

theorem raise (e : Exn) (h : n ≤ k) : Bounded B n k (.raise e : Work α) :=
  fun _ hw => hw.trans h

/-- Bounds of a sequence chain; it may end after its first half. -/
theorem bind {f : α → Work γ} (hp : Bounded B n k p) (hf : ∀ a, Bounded B k l (f a))
    (h : k ≤ l) : Bounded B n l (p >>= f) := by
  intro w hw
  have hfirst := hp w hw
  rw [Prog.run_bind]
  rcases hrun : Prog.run B.serve p w with ⟨e | a, w₁⟩
  · rw [hrun] at hfirst
    exact hfirst.trans h
  · rw [hrun] at hfirst
    exact hf a w₁ hfirst

theorem swallow (hp : Bounded B n k p) (a : α) :
    Bounded B n k (Prog.tryCatch p fun _ => pure a) := by
  intro w hw
  rw [Prog.run_swallow]
  exact hp w hw

/-- Reads, logs and rejected rows open nothing. -/
theorem of_meek {W : DbOp → Prop} {Q : α → Prop} (hp : Prog.Sends (meek W) Q p)
    (hW : ∀ o db, W o → (Db.serve o db).2.exposure = db.exposure) (h : n ≤ k) :
    Bounded B n k p := by
  intro w hw
  have hkeeps := hp.keeps (S := B.serve) (s := w)
    (I := fun w' => w'.db.exposure = w.db.exposure) ?_ rfl
  · omega
  · rintro o w' hw' ⟨-, hwrites⟩
    refine ⟨trivial, ?_⟩
    cases o with
    | db o =>
        rcases hwrites with hread | hallowed
        · show (Db.serve o w'.db).2.exposure = _
          rw [Db.serve_of_isRead hread]
          exact hw'
        · exact (hW o w'.db hallowed).trans hw'
    | fx o => exact hw'
    | cx o => exact hw'
    | host o => exact hw'

end Bounded

def OpensNone : DbOp → Prop
  | .insertLog _ => True
  | .insertRow n => n.status = .rejected
  | _ => False

theorem OpensNone.exposure {o : DbOp} (h : OpensNone o) (db : Db) :
    (Db.serve o db).2.exposure = db.exposure := by
  cases o with
  | insertLog l => rfl
  | insertRow n =>
      rcases Db.serve_insertRow n db with hsame | ⟨r, hr, hrows⟩
      · rw [hsame]
      · have hstatus : r.status = .rejected := (NewRow.toRow?_status hr).trans h
        unfold Db.exposure
        rw [hrows, List.filter_append]
        simp [Row.isActive, hstatus, PositionStatus.isActive]
  | selectActiveByStrategy | selectActiveForFlat | selectLogged | selectPosition
  | updateStatus => exact h.elim

theorem Db.exposure_insertRow_le (n : NewRow) (db : Db) :
    (Db.serve (.insertRow n) db).2.exposure ≤ db.exposure + 1 := by
  rcases Db.serve_insertRow n db with hsame | ⟨r, -, hrows⟩
  · rw [hsame]
    omega
  · unfold Db.exposure
    rw [hrows, List.filter_append, List.length_append]
    have hone := List.length_filter_le (·.isActive) [r]
    simp only [List.length_singleton] at hone
    omega

/-! ## An entry behind its guards -/

section Entry

variable (m : Market) (settings : WorkerSettings) {β : Type} (B : Backend β) {n : Nat}

theorem notifyTrade_bounded (signal : Signal) (report : Report) (event : CycleEvent)
    (status : Option CycleStatus) :
    Bounded B n n (Processor.notifyTrade signal report event status) :=
  .of_meek (Processor.notifyTrade_meek (W := OpensNone) ..) (fun _ db h => h.exposure db) le_rfl

theorem host_bounded (o : HostOp) : Bounded B n n (host o) :=
  .of_meek (meek_host (W := OpensNone) o) (fun _ db h => h.exposure db) le_rfl

/-- A rejected entry opens nothing. -/
theorem rejectSignal_bounded (signal : Signal) (reason : String) :
    Bounded B n n ((m.processor settings).rejectSignal signal reason) :=
  .of_meek (Processor.rejectSignal_meek _ (W := OpensNone) (fun _ => trivial)
    (fun _ h => h) signal reason) (fun _ db h => h.exposure db) le_rfl

/-- A filled one opens its row. -/
theorem persistSuccess_bounded {signal : Signal} (hentry : signal.action.isEntry = true)
    (result : TradeResult) :
    Bounded B n (n + 1) ((m.processor settings).persistSuccess signal result) := by
  have hforced : Bounded B n n (Processor.notifyForcedClosed signal result.forcedClosed) :=
    .of_meek (Processor.notifyForcedClosed_meek (W := OpensNone) ..)
      (fun _ db h => h.exposure db) le_rfl
  refine hforced.bind (fun _ => ?_) (by omega)
  have hnone : Processor.closeStatus signal.action = none := by
    cases haction : signal.action with
    | long | short => rfl
    | tp1 | tp2 | sl | rSl | flat => simp [haction, SignalAction.isEntry] at hentry
  rw [hnone]
  intro w hw
  dsimp only
  cases (m.processor settings).magicFor signal.strategy with
  | error e =>
      show w.db.exposure ≤ n + 1
      omega
  | ok magic =>
      have hinsert := Db.exposure_insertRow_le
        { (m.processor settings).entryRow signal result magic with status := .opened } w.db
      rw [Prog.ofExcept_ok, Prog.ret_bind]
      unfold insertPosition
      rw [run_sql]
      exact hinsert.trans (by omega)

/-- What follows the handler opens one row at most. -/
theorem recordResult_bounded {signal : Signal} (hentry : signal.action.isEntry = true)
    (result : TradeResult) :
    Bounded B n (n + 1) ((m.processor settings).recordResult signal result) := by
  refine (host_bounded B _).bind (fun _ => ?_) (by omega)
  have hlog : Bounded B n n (logPosition ((m.processor settings).resultLog signal result)) :=
    .of_meek (meek_logPosition (W := OpensNone) (fun _ => trivial) _)
      (fun _ db h => h.exposure db) le_rfl
  refine hlog.bind (fun _ => ?_) (by omega)
  split
  · refine (persistSuccess_bounded m settings B hentry result).bind (fun _ => ?_) le_rfl
    exact notifyTrade_bounded B signal _ _ _
  · intro w hw
    exact (notifyTrade_bounded B signal _ _ _ w hw).trans (by omega)

/-- What the first guard lets pass is no re-entry, so the cap counts it. -/
theorem maxOpenOrdersRejection_run {cap : Int} {w : World β} {signal : Signal}
    (hadmits : Admits m.strategy w.db signal) (hcap : settings.maxOpenOrders = some cap)
    (hpos : 0 < cap) : ∃ reason,
      Prog.run B.serve (Guard.maxOpenOrdersRejection settings signal
        m.strategy.allowsMultiPositionsPerSymbol) w = (.ok reason, w) ∧
      (reason = none → (w.db.exposure : Int) < cap) := by
  have hheld : (w.db.activeForFlat none none none).any
      (Guard.alreadyHeld signal m.strategy.allowsMultiPositionsPerSymbol) = false := by
    rw [List.any_eq_false]
    intro row hrow hheld
    rw [Db.activeForFlat_none] at hrow
    obtain ⟨hrow, hactive⟩ := List.mem_filter.mp hrow
    simp only [Guard.alreadyHeld, Bool.and_eq_true, decide_eq_true_eq] at hheld
    obtain ⟨⟨hstrategy, hsymbol⟩, hsame⟩ := hheld
    obtain ⟨hmulti, -, hne⟩ := hadmits.own_row hrow hactive hstrategy hsymbol
    simp [hmulti, hne] at hsame
  unfold Guard.maxOpenOrdersRejection
  rw [hcap]
  dsimp only
  rw [if_neg (not_le.mpr hpos), Prog.run_bind_ok _ (run_getOpenPositionsForFlat ..), hheld,
    Db.activeForFlat_none]
  by_cases hroom : ((w.db.rows.filter (·.isActive)).length : Int) < cap
  · exact ⟨none, by simp [hroom], fun _ => hroom⟩
  · exact ⟨some _, by simp only [hroom]; rfl, fun h => by cases h⟩

/-- Where the cap is on and the guards pass an entry, its key is free and there is room. -/
theorem entryRejection_room {cap : Int} (hcap : settings.maxOpenOrders = some cap)
    (hpos : 0 < cap) (w : World β) (signal : Signal) : ∃ reason w',
      Prog.run B.serve ((m.processor settings).entryRejection signal) w = (.ok reason, w') ∧
        w'.db = w.db ∧
        (reason = none → Admits m.strategy w.db signal ∧ (w.db.exposure : Int) < cap) := by
  obtain ⟨reason, hopen, hadmits⟩ := Guard.symbolOpenRejection_run B w signal
    m.strategy.allowsMultiStrategyPerSymbol m.strategy.allowsMultiPositionsPerSymbol
  unfold Processor.entryRejection
  rw [Market.processor_market, Market.processor_settings, Prog.run_bind_ok _ hopen]
  cases reason with
  | some reason => exact ⟨some reason, w, rfl, rfl, fun h => by cases h⟩
  | none =>
      have hadmits : Admits m.strategy w.db signal := hadmits.mp rfl
      obtain ⟨reason, hmax, hroom⟩ := maxOpenOrdersRejection_run m settings B hadmits hcap hpos
      dsimp only
      rw [Prog.run_bind_ok _ hmax]
      cases reason with
      | some reason => exact ⟨some reason, w, rfl, rfl, fun h => by cases h⟩
      | none =>
          have hquote : Prog.Sends brokering (fun _ => True)
              ((m.processor settings).entryQuote signal) := by
            refine Prog.Sends.tryCatch ?_ fun _ => by simp
            rw [Market.processor_market]
            exact m.atBroker.getEntryPrice signal
          have hdb := run_brokering hquote B w
          dsimp only
          rw [Prog.run_bind]
          unfold Processor.entryQuote at hdb ⊢
          rw [Prog.run_tryCatch] at hdb ⊢
          rcases hrun : Prog.run B.serve ((m.processor settings).market.entryPrice signal) w with
            ⟨e | quote, w'⟩
          · rw [hrun] at hdb
            exact ⟨_, w', rfl, hdb, fun _ => ⟨hadmits, hroom rfl⟩⟩
          · rw [hrun] at hdb
            exact ⟨_, w', rfl, hdb, fun _ => ⟨hadmits, hroom rfl⟩⟩

/-! ## One signal -/

/-- An entry with a free key, and room for one row, keeps to the cap. -/
theorem executeSignal_bound {cap : Nat} {w : World β} {signal : Signal}
    (hentry : signal.action.isEntry = true) (hadmits : Admits m.strategy w.db signal)
    (hroom : w.db.exposure < cap) :
    (Prog.run B.serve ((m.processor settings).executeSignal signal) w).2.db.exposure ≤ cap := by
  have hhandle : Prog.run B.serve (SignalHandler.handle m.strategy signal) w =
      Prog.run B.serve
        (host (.handling signal) >>= fun _ => SignalHandler.handleEntry m.strategy signal) w := by
    unfold SignalHandler.handle
    cases haction : signal.action with
    | long | short => rfl
    | tp1 | tp2 | sl | rSl | flat => simp [haction, SignalAction.isEntry] at hentry
  have hdb : (Prog.run B.serve (SignalHandler.handle m.strategy signal) w).2.db = w.db := by
    rw [hhandle, Prog.run_bind, run_host]
    rcases B.host (.handling signal) w.rest with ⟨e | u, rest⟩
    · rfl
    · exact SignalHandler.handleEntry_db_of_admits m B { w with rest } hadmits
  unfold Processor.executeSignal
  rw [Market.processor_market, Prog.run_bind]
  rcases hrun : Prog.run B.serve (SignalHandler.handle m.strategy signal) w with ⟨e | result, w₁⟩
  · rw [hrun] at hdb
    show w₁.db.exposure ≤ cap
    rw [hdb]
    omega
  · rw [hrun] at hdb
    have hbound := recordResult_bounded m settings B (n := cap - 1) hentry
      (Processor.repairPrice signal result) w₁ (by rw [hdb]; omega)
    exact hbound.trans (by omega)

/-- So does every entry, whatever its guards say of it. -/
theorem processSignal_bounded {cap : Nat} (hcap : settings.maxOpenOrders = some (cap : Int))
    (hpos : 0 < cap) {signal : Signal} (hentry : signal.action.isEntry = true) :
    Bounded B cap cap ((m.processor settings).processSignal signal) := by
  refine (host_bounded B _).bind (fun blocked => ?_) le_rfl
  split
  · exact .ret () le_rfl
  have hunknown : ∀ report, Bounded B cap cap (do
      let _footer ← host .currentFooter
      host (.notify report)) := fun report =>
    (host_bounded B _).bind (fun _ => host_bounded B _) le_rfl
  split
  · exact hunknown _
  · exact hunknown _
  · exact .raise _ le_rfl
  intro w hw
  obtain ⟨reason, w₁, hrun, hdb, hnone⟩ :=
    entryRejection_room m settings B hcap (by omega) w signal
  rw [Prog.run_bind_ok _ hrun]
  cases reason with
  | some reason => exact rejectSignal_bounded m settings B signal reason w₁ (by rw [hdb]; exact hw)
  | none =>
      obtain ⟨hadmits, hroom⟩ := hnone rfl
      refine executeSignal_bound m settings B hentry (hdb ▸ hadmits) ?_
      rw [hdb]
      omega

/-- Live or replayed. -/
theorem deliver_bounded {cap : Nat} (hcap : settings.maxOpenOrders = some (cap : Int))
    (hpos : 0 < cap) {signal : Signal} (hentry : signal.action.isEntry = true)
    (d : Processor.Delivery) :
    Bounded B cap cap ((m.processor settings).deliver d signal) := by
  have hprocess := processSignal_bounded m settings B hcap hpos hentry
  cases d with
  | live =>
      refine (host_bounded B _).bind (fun connected => ?_) le_rfl
      split
      · exact hprocess
      · exact .ret () le_rfl
  | replay now =>
      have hseen : ∀ id, Bounded B cap cap (signalExists id) := fun id =>
        .of_meek (signalExists_meek (W := OpensNone) id) (fun _ db h => h.exposure db) le_rfl
      show Bounded B cap cap ((m.processor settings).retrySignal now signal)
      have hfresh : ∀ seen : Bool, Bounded B cap cap
          (if seen then pure ()
          else if Processor.maxRetryTimeout < now - signal.timestamp then pure ()
          else Prog.tryCatch ((m.processor settings).processSignal signal) fun _ => pure ()) := by
        intro seen
        split
        · exact .ret () le_rfl
        split
        · exact .ret () le_rfl
        · exact hprocess.swallow ()
      unfold Processor.retrySignal
      dsimp only
      split
      · exact (hseen _).bind hfresh le_rfl
      · exact hfresh false

end Entry

/-! ## A run of signals -/

/-- One signal after the other: an entry is delivered to the worker as it is set up at
the time; an exit or a close opens nothing. -/
inductive ExposureStep (cap : Nat) : Db → Db → Prop where
  | entry (m : Market) (settings : WorkerSettings) {β : Type} (B : Backend β) (w : World β)
      (d : Processor.Delivery) (signal : Signal)
      (hcap : settings.maxOpenOrders = some (cap : Int))
      (hentry : signal.action.isEntry = true) :
      ExposureStep cap w.db ((m.processor settings).handleOne B.serve d signal w).after.db
  | closing (db db' : Db) (hless : db'.exposure ≤ db.exposure) : ExposureStep cap db db'

theorem ExposureStep.exposure_le {cap : Nat} (hpos : 0 < cap) {db db' : Db}
    (h : ExposureStep cap db db') (hdb : db.exposure ≤ cap) : db'.exposure ≤ cap := by
  cases h with
  | entry m settings B w d signal hcap hentry =>
      rw [((m.processor settings).handleOne_becomes B.serve d signal w).1]
      exact deliver_bounded m settings B hcap hpos hentry d w hdb
  | closing _ _ hless => omega

/-- Under a cap, no run of signals opens more rows than it allows. -/
theorem exposure_le_cap {cap : Nat} (hpos : 0 < cap) {start db : Db}
    (hstart : start.exposure ≤ cap)
    (hrun : Relation.ReflTransGen (ExposureStep cap) start db) : db.exposure ≤ cap := by
  induction hrun with
  | refl => exact hstart
  | tail _ hstep ih => exact hstep.exposure_le hpos ih

/-- A live entry at a worker whose cap is one. -/
def cappedEntry (signal : Signal) (db : Db) : Db :=
  ((multiPositions.processor { maxOpenOrders := some 1 }).handleOne fillingPlatform.serve
    .live signal { db, rest := () }).after.db

theorem cappedEntries_exposure :
    (cappedEntry secondSignal (cappedEntry reentry Db.empty)).exposure ≤ 1 :=
  exposure_le_cap (by decide) (by decide +kernel)
    (.tail
      (.tail .refl
        (.entry multiPositions { maxOpenOrders := some 1 } fillingPlatform
          { db := Db.empty, rest := () } .live reentry rfl rfl))
      (.entry multiPositions { maxOpenOrders := some 1 } fillingPlatform
        { db := cappedEntry reentry Db.empty, rest := () } .live secondSignal rfl rfl))

end TradeWorker
