import TradeWorker.DuplicateHeal
import TradeWorker.ExecutedOrders

/-!
# What was executed is recorded

Between an order and the rows it should leave stand the market strategy, the handler, the
footer and the log. Each may raise, and nothing behind the exception is written then; and an
order may be executed that the gateway reports as a failure. What a handling leaves is told by
the answers it met from its first order on.
-/

namespace TradeWorker

variable {β : Type} {B : Backend β}

/-! ## The handler writes no row of its own -/

def WorkerOp.inserts : WorkerOp → Bool
  | .db (.insertLog _) | .db (.insertRow _) => true
  | _ => false

/-- Neither a log row nor a position row is added. -/
def uninserted : Prog.Contract WorkerOp WorkerOp.Ans Exn where
  guard o := o.inserts = false
  answers _ _ := True

theorem uninserted_of_brokering {α : Type} {Q : α → Prop} {p : Work α}
    (hp : Prog.Sends brokering Q p) : Prog.Sends uninserted Q p := by
  refine hp.relax (fun o ho => ?_) fun _ _ _ => trivial
  cases o with
  | db o => cases o <;> first | rfl | cases ho
  | fx | cx | host => rfl

theorem uninserted_of_entering {α : Type} {Q : α → Prop} {p : Work α}
    (hp : Prog.Sends entering Q p) : Prog.Sends uninserted Q p := by
  refine hp.relax (fun o ho => ?_) fun _ _ _ => trivial
  cases o with
  | db o => cases o <;> first | rfl | cases ho
  | fx | cx | host => rfl

theorem run_uninserted {α : Type} {Q : α → Prop} {p : Work α} (hp : Prog.Sends uninserted Q p)
    (w : World β) : (Prog.run B.serve p w).2.db.logs = w.db.logs ∧
      (Prog.run B.serve p w).2.db.rows.length = w.db.rows.length := by
  refine hp.keeps (S := B.serve)
    (I := fun w' => w'.db.logs = w.db.logs ∧ w'.db.rows.length = w.db.rows.length) ?_ ⟨rfl, rfl⟩
  rintro o w' ⟨hlogs, hrows⟩ ho
  refine ⟨trivial, ?_⟩
  cases o with
  | fx | cx | host => exact ⟨hlogs, hrows⟩
  | db o =>
      cases o with
      | insertLog | insertRow => cases ho
      | selectActiveByStrategy | selectActiveForFlat | selectLogged | selectPosition =>
          exact ⟨hlogs, hrows⟩
      | updateStatus u =>
          cases hup : w'.db.updateStatus u with
          | error e =>
              simp only [Backend.serve, Db.serve, hup]
              exact ⟨hlogs, hrows⟩
          | ok db =>
              obtain ⟨hrows', hlogs'⟩ := Db.updateStatus_ok hup
              simp only [Backend.serve, Db.serve, hup]
              refine ⟨hlogs'.trans hlogs, ?_⟩
              rw [hrows', updateRows, List.length_map, hrows]

namespace SignalHandler

variable (m : Market) (signal : Signal)

theorem getDbPosition_uninserted (strategy symbol : String) (uxid : Option String) :
    Prog.Sends uninserted (fun _ => True) (getDbPosition strategy symbol uxid) := by
  have heach : ∀ us, Prog.Sends uninserted (fun _ => True) (updateEach us) := by
    intro us
    induction us with
    | nil => simp [updateEach]
    | cons u us ih =>
        exact Prog.Sends.bind (Prog.sends_perform rfl fun _ _ => trivial) fun _ _ => ih
  refine Prog.Sends.bind (uninserted_of_brokering (brokering_of_consulting
    (getOpenPositionsByStrategy_consults ..))) fun rows _ => ?_
  cases rows with
  | nil => simp
  | cons kept duplicates => exact Prog.Sends.bind (heach _) fun _ _ => by simp

theorem executeExit_uninserted {exit : Signal → Option String → Work TradeResult}
    (c₁ c₂ : String)
    (hexit : ∀ ticket, Prog.Sends brokering (fun _ => True) (exit signal ticket)) :
    Prog.Sends uninserted (fun _ => True) (executeExit m.strategy signal exit c₁ c₂) := by
  refine Prog.Sends.bind (getDbPosition_uninserted ..) fun row? _ => ?_
  cases row? with
  | none => simp
  | some row =>
      refine Prog.Sends.bind (Q := fun _ => True) (uninserted_of_brokering
        (Prog.Sends.bind (m.atBroker.getOpenPositions ..) fun _ _ => by simp)) fun live _ => ?_
      split
      · simp
      · refine Prog.Sends.bind (uninserted_of_brokering (hexit _)) fun result _ => ?_
        split <;> simp

theorem flatClose_brokering (ticket : Option String) :
    Prog.Sends brokering (fun _ => True) (flatClose m.strategy signal ticket) := by
  refine Prog.Sends.bind (m.atBroker.closeAllPositions ..) fun result _ => ?_
  split
  · simp
  · exact m.atBroker.closeAllPositions ..

theorem handleFlat_uninserted :
    Prog.Sends uninserted (fun _ => True) (handleFlat m.strategy signal) := by
  have hrow : ∀ owned, Prog.Sends uninserted (fun _ => True)
      (flatRow m.strategy signal owned) := by
    intro owned
    cases owned with
    | some row => simp [flatRow]
    | none => exact getDbPosition_uninserted ..
  refine Prog.Sends.bind (getDbPosition_uninserted ..) fun owned _ => ?_
  split
  · simp
  · refine Prog.Sends.bind (uninserted_of_brokering (flatClose_brokering ..)) fun result _ => ?_
    refine Prog.Sends.bind (hrow _) fun row? _ => ?_
    cases row? with
    | none => simp
    | some row =>
        dsimp only
        split
        · simp
        · exact Prog.Sends.bind (Prog.sends_perform rfl fun _ _ => trivial) fun _ _ => by simp

/-- The handler updates rows, and adds none. -/
theorem handle_uninserted :
    Prog.Sends uninserted (fun _ => True) (handle m.strategy signal) := by
  refine Prog.Sends.bind (Prog.sends_perform rfl fun _ _ => trivial) fun _ _ => ?_
  cases signal.action with
  | long | short => exact uninserted_of_entering (handleEntry_enters m signal)
  | tp1 => exact executeExit_uninserted m signal _ _ (handleTp1_brokering m signal)
  | tp2 | sl | rSl =>
      exact executeExit_uninserted m signal _ _ fun ticket => m.atBroker.closeAllPositions ..
  | flat => exact handleFlat_uninserted m signal

end SignalHandler

/-! ## What an exit leaves of its row -/

/-- The row an exit is about: the first active one under the signal's key. -/
def trackedRow (m : Market) (db : Db) (signal : Signal) : Option Row :=
  (db.activeByStrategy signal.strategy signal.symbol
    (SignalHandler.uxidScope m.strategy signal)).head?

def healedRow (m : Market) (db : Db) (signal : Signal) (row : Row) : Row :=
  row.updateEach ((db.activeByStrategy signal.strategy signal.symbol
    (SignalHandler.uxidScope m.strategy signal)).tail.map SignalHandler.healDuplicate) db.clock

namespace SignalHandler

variable {m : Market} {signal : Signal}

variable (m signal) in
/-- The lookup finds the first row, and heals the others. -/
theorem run_getDbPosition (w : World β) :
    ∃ db, Prog.run B.serve (getDbPosition signal.strategy signal.symbol
        (uxidScope m.strategy signal)) w = (.ok (trackedRow m w.db signal), { w with db }) ∧
      db.rows = w.db.rows.map (healedRow m w.db signal) := by
  unfold trackedRow healedRow
  cases hrows : w.db.activeByStrategy signal.strategy signal.symbol
      (uxidScope m.strategy signal) with
  | nil =>
      have hrun := getDbPosition_of_length_le_one B w signal.strategy signal.symbol
        (uxidScope m.strategy signal) (by simp [hrows])
      rw [hrows] at hrun
      exact ⟨w.db, hrun, by simp⟩
  | cons kept duplicates =>
      obtain ⟨db, hrun, hhealed, -⟩ := getDbPosition_of_cons B w signal.strategy signal.symbol
        (uxidScope m.strategy signal) hrows
      exact ⟨db, hrun, hhealed⟩

/-- Behind its lookup an exit works at the broker, and a success names the row. -/
theorem executeExit_ends {exit : Signal → Option String → Work TradeResult} (c₁ c₂ : String)
    (hexit : ∀ ticket, Prog.Sends brokering (fun _ => True) (exit signal ticket))
    {w : World β} {row : Row} (hrow : trackedRow m w.db signal = some row) :
    (Prog.run B.serve (executeExit m.strategy signal exit c₁ c₂) w).2.db.rows =
        w.db.rows.map (healedRow m w.db signal) ∧
      ∀ result, (Prog.run B.serve (executeExit m.strategy signal exit c₁ c₂) w).1 = .ok result →
        result.success = true → result.sourceTicket = some row.refSourceId := by
  obtain ⟨db, hlookup, hhealed⟩ := run_getDbPosition (B := B) m signal w
  rw [executeExit, Prog.run_bind_ok _ hlookup, hrow]
  dsimp only
  constructor
  · refine (congrArg Db.rows (run_brokering (Q := fun _ => True) ?_ B _)).trans hhealed
    refine Prog.Sends.bind (Q := fun _ => True)
      (Prog.Sends.bind (m.atBroker.getOpenPositions ..) fun _ _ => by simp) fun live _ => ?_
    split
    · simp
    · refine Prog.Sends.bind (hexit _) fun result _ => ?_
      split <;> simp
  · intro result hrun hsuccess
    obtain ⟨live, w₂, -, hrun⟩ := Prog.run_bind_inv _ (Prod.ext hrun rfl)
    split at hrun
    · cases hrun
      cases hsuccess
    · obtain ⟨closed, w₃, -, hrun⟩ := Prog.run_bind_inv _ hrun
      split at hrun
      · cases hrun
        rfl
      · rename_i hfailed
        cases hrun
        exact absurd hsuccess hfailed

/-- FLAT writes its row off when nothing was closed, and names it otherwise. -/
def FlatEnds (signal : Signal) (row : Row) (rows : List Row)
    (out : Except Exn TradeResult × World β) : Prop :=
  (∃ result now, out.1 = .ok result ∧ result.success = false ∧
    out.2.db.rows = updateRows (flatSynced signal row) now rows) ∨
  out.2.db.rows = rows ∧ ∀ result, out.1 = .ok result →
    result.success = true ∧ result.sourceTicket = some row.refSourceId

theorem handleFlat_ends {w : World β} {row : Row}
    (hrow : trackedRow m w.db signal = some row) :
    FlatEnds signal row (w.db.rows.map (healedRow m w.db signal))
      (Prog.run B.serve (handleFlat m.strategy signal) w) := by
  obtain ⟨db, hlookup, hhealed⟩ := run_getDbPosition (B := B) m signal w
  rw [hrow] at hlookup
  rw [handleFlat, Prog.run_bind_ok _ hlookup, ← hhealed]
  have hsettled : ∀ ticket, FlatEnds signal row db.rows
      (Prog.run B.serve (flatClose m.strategy signal ticket >>=
        flatSettle m.strategy signal (some row)) { w with db }) := by
    intro ticket
    have hdb := run_brokering (flatClose_brokering m signal ticket) B { w with db }
    rcases hclose : Prog.run B.serve (flatClose m.strategy signal ticket) { w with db } with
      ⟨e | closed, w₁⟩
    · rw [hclose] at hdb
      rw [Prog.run_bind_error _ hclose]
      exact Or.inr ⟨congrArg Db.rows hdb, fun _ h => nomatch h⟩
    · rw [hclose] at hdb
      have hdb : w₁.db = db := hdb
      rw [Prog.run_bind_ok _ hclose, flatSettle, flatRow, Prog.pure_eq, Prog.ret_bind]
      dsimp only
      split
      · rename_i hsuccess
        refine Or.inr ⟨congrArg Db.rows hdb, ?_⟩
        rintro _ ⟨⟩
        exact ⟨hsuccess, rfl⟩
      · rename_i hfailed
        have hwrite := run_updatePositionStatus_inactive B w₁ (u := flatSynced signal row) rfl
        rw [Prog.run_bind_ok _ hwrite]
        refine Or.inl ⟨closed, w₁.db.clock, rfl, by simpa using hfailed, ?_⟩
        rw [← hdb]
        rfl
  split
  · rename_i hnone
    cases hnone
  · exact hsettled _

/-- No failsafe has closed anything, as far as the result says. -/
abbrev Failsafeless (result : TradeResult) : Prop := result.slFailsafeClose = none

variable (m signal) in
theorem closeAllPositions_failsafeless (symbol reason : String) (strategy : Option String)
    (closePrice : Option ℚ) (ticket : Option String) :
    Prog.Sends Prog.anyCalls Failsafeless
      (m.strategy.executor.closeAllPositions symbol reason strategy closePrice ticket) := by
  cases m with
  | forex ex =>
      refine Prog.Sends.bind (Prog.sends_anyCalls _) fun positions _ => ?_
      split
      · exact Prog.sends_ret.mpr rfl
      · exact Prog.Sends.bind (Prog.sends_anyCalls _) fun closed _ =>
          Prog.sends_ret.mpr (ForexExecutor.closeReport_slFailsafeClose ..)
  | crypto ex =>
      refine Prog.Sends.bind (Prog.sends_anyCalls _) fun positions _ => ?_
      split
      · exact Prog.sends_ret.mpr rfl
      · refine Prog.Sends.bind (Prog.sends_anyCalls _) fun _ _ => ?_
        refine Prog.Sends.bind (Prog.sends_anyCalls _) fun entryPrice _ => ?_
        exact Prog.Sends.bind (Prog.sends_anyCalls _) fun closed _ =>
          Prog.sends_ret.mpr (CryptoExecutor.closeReport_slFailsafeClose ..)

theorem handle_failsafeless (htp1 : signal.action ≠ .tp1) (hexit : signal.action.isEntry = false) :
    Prog.Sends Prog.anyCalls Failsafeless (handle m.strategy signal) := by
  have hclose : ∀ ticket, Prog.Sends Prog.anyCalls Failsafeless
      (m.strategy.handleFullClose signal ticket) :=
    fun ticket => closeAllPositions_failsafeless m ..
  have hfull : Prog.Sends Prog.anyCalls Failsafeless (handleFullClose m.strategy signal) := by
    refine Prog.Sends.bind (Prog.sends_anyCalls _) fun row? _ => ?_
    cases row? with
    | none => exact Prog.sends_ret.mpr rfl
    | some row =>
        refine Prog.Sends.bind (Prog.sends_anyCalls _) fun live _ => ?_
        split
        · exact Prog.sends_ret.mpr rfl
        · refine Prog.Sends.bind (hclose _) fun result hresult => ?_
          split <;> exact Prog.sends_ret.mpr hresult
  have hflat : Prog.Sends Prog.anyCalls Failsafeless (handleFlat m.strategy signal) := by
    refine Prog.Sends.bind (Prog.sends_anyCalls _) fun owned _ => ?_
    split
    · exact Prog.sends_ret.mpr rfl
    · refine Prog.Sends.bind (Q := Failsafeless) ?_ fun result hresult => ?_
      · refine Prog.Sends.bind (closeAllPositions_failsafeless m ..) fun result hresult => ?_
        split
        · exact Prog.sends_ret.mpr hresult
        · exact closeAllPositions_failsafeless m ..
      · refine Prog.Sends.bind (Prog.sends_anyCalls _) fun row? _ => ?_
        cases row? with
        | none => exact Prog.sends_ret.mpr hresult
        | some row =>
            dsimp only
            split
            · exact Prog.sends_ret.mpr hresult
            · exact Prog.Sends.bind (Prog.sends_anyCalls _) fun _ _ => Prog.sends_ret.mpr hresult
  refine Prog.Sends.bind (Prog.sends_anyCalls _) fun _ _ => ?_
  cases haction : signal.action with
  | long | short => simp [haction, SignalAction.isEntry] at hexit
  | tp1 => exact absurd haction htp1
  | tp2 | sl | rSl => exact hfull
  | flat => exact hflat

end SignalHandler

/-! ## What follows the handler -/

namespace Processor

variable {Pos : Type} (P : Processor Pos) {signal : Signal} {result : TradeResult}

/-- How the writes behind the handler end: with a call that raises before the log row, with
one that raises between it and the row of the position, or with both writes done. -/
inductive Ending where
  | silenced | unsettled | done

def Ending.told (t : Told) : Ending → Told
  | .silenced => t.raise
  | .unsettled => t.log.raise
  | .done => t.log

/-- The rows after the write of a success. -/
def Persisted (signal : Signal) (result : TradeResult) (before after : Db) : Prop :=
  match closeStatus signal.action with
  | none => ∃ magic, after.rows = (Db.serve (.insertRow (P.entryRow signal result magic))
      (before.insertLog (P.resultLog signal result))).2.rows
  | some status => after.rows =
      updateRows (exitUpdate signal result status) before.clock before.rows

/-- What is stored by then. -/
def Leaves (signal : Signal) (result : TradeResult) (before after : Db) : Ending → Prop
  | .silenced => after = before
  | .unsettled => result.success = true ∧ after = before.insertLog (P.resultLog signal result)
  | .done => after.logs = before.logs ++ [P.resultLog signal result] ∧
      (result.success = false → after.rows = before.rows) ∧
        (result.success = true → P.Persisted signal result before after)

theorem repairPrice_volume (signal : Signal) (result : TradeResult) :
    (repairPrice signal result).volume = result.volume := by
  unfold repairPrice
  split <;> rfl

theorem repairPrice_sourceTicket (signal : Signal) (result : TradeResult) :
    (repairPrice signal result).sourceTicket = result.sourceTicket := by
  unfold repairPrice
  split <;> rfl

/-- The report of an outcome is not listened to. -/
theorem notifyTrade_unheard {report : Report} {event : CycleEvent}
    (hreport : WorkerOp.spared (.host (.notifyChannel report)) = true)
    (hevent : event.outcome ≠ .forceClosed) (status : Option CycleStatus) :
    Prog.Sends unheard (fun _ => True) (notifyTrade signal report event status) := by
  refine Prog.Sends.bind (Q := fun _ => True) ?_ fun owned _ => ?_
  · exact Prog.sends_perform ⟨by simpa [WorkerOp.spared] using hevent, rfl⟩ fun _ _ => trivial
  · split
    · simp
    · exact Prog.sends_perform ⟨hreport, rfl⟩ fun _ _ => trivial

/-- What writes nothing leaves the store as it was. -/
theorem run_unwriting {α : Type} {Q : α → Prop} {p : Work α}
    (hp : Prog.Sends (meek fun _ => False) Q p) (w : World β) :
    (Prog.run B.serve p w).2.db = w.db := by
  refine hp.keeps (S := B.serve) (I := fun w' => w'.db = w.db) ?_ rfl
  intro o w' hw' ho
  refine ⟨trivial, ?_⟩
  cases o with
  | db o => exact (Db.serve_of_isRead (ho.2.resolve_right id) w'.db).trans hw'
  | fx | cx | host => exact hw'

/-- A call of the host that is listened to: an exception is heard of. -/
theorem heard_host {o : HostOp} (hspared : WorkerOp.spared (.host o) = false) (w : World β)
    (t : Told) : heard B.serve signal (host o) w t =
      if (Prog.run B.serve (host o) w).1.isOk then t else t.raise := by
  have howns : signal.owns (.host o) = false := owns_of_orders rfl
  rw [host, heard_perform, Prog.run_perform]
  rcases B.serve (.host o) w with ⟨e | a, w'⟩
  · exact hear_error howns hspared rfl e t
  · exact hear_ok howns rfl rfl t

/-- What is heard of both halves, each of which ends with its first exception. -/
theorem heard_bind_of {α γ : Type} {p : Work α} {f : α → Work γ} {w : World β} {t : Told}
    (hp : heard B.serve signal p w t =
      if (Prog.run B.serve p w).1.isOk then t else t.raise)
    (hf : ∀ a w', heard B.serve signal (f a) w' t =
      if (Prog.run B.serve (f a) w').1.isOk then t else t.raise) :
    heard B.serve signal (p >>= f) w t =
      if (Prog.run B.serve (p >>= f) w).1.isOk then t else t.raise := by
  rcases hrun : Prog.run B.serve p w with ⟨e | a, w'⟩
  · rw [heard_bind_error hrun, Prog.run_bind_error _ hrun, hp, hrun]
    rfl
  · rw [heard_bind_ok hrun, Prog.run_bind_ok _ hrun, hp, hrun]
    exact hf a w'

/-- The reports of the rows an entry closed. -/
theorem heard_notifyForcedClosed (signal : Signal) (forced : List ForcedClosed) (w : World β)
    (t : Told) :
    heard B.serve signal (notifyForcedClosed signal forced) w t =
      if (Prog.run B.serve (notifyForcedClosed signal forced) w).1.isOk then t else t.raise := by
  induction forced generalizing w with
  | nil => rfl
  | cons fc rest ih =>
      refine heard_bind_of (heard_bind_of (heard_host rfl w t) fun owned w' => ?_)
        fun _ w' => ih w'
      split
      · rfl
      · exact heard_host rfl w' t

/-- The log row, which is asked for whether or not it is written. -/
theorem heard_logPosition (l : LogRow) (w : World β) {t : Told} :
    heard B.serve signal (logPosition l) w t = t.log := by
  have hdialogue := Prog.dialogue_swallow B.serve (sql (.insertLog l)) () w
  show (listener signal).after t (Prog.dialogue B.serve (logPosition l) w) = t.log
  rw [logPosition, hdialogue]
  show heard B.serve signal (sql (.insertLog l)) w t = t.log
  rw [sql, heard_perform]
  have howns : signal.owns (.db (.insertLog l)) = false := owns_of_orders rfl
  unfold Told.hear Told.log
  cases t with
  | mk sent confirmed refused logged silenced unsettled =>
      cases sent <;>
        simp [howns, Signal.confirms, Signal.refuses, WorkerOp.logs, Backend.serve, Db.serve,
          Except.isOk, Except.toBool]

theorem insertRow_logs (n : NewRow) (db : Db) : (Db.serve (.insertRow n) db).2.logs = db.logs := by
  cases hins : db.insertRow n with
  | error e => simp only [Db.serve, hins]
  | ok db' =>
      obtain ⟨-, -, -, hlogs⟩ := Db.insertRow_ok hins
      simp only [Db.serve, hins, hlogs]

/-- The row of a success is written, or a call raises that is heard of. A refused insert is not:
it goes by the columns of the row. -/
theorem persistSuccess_ends {w : World β} (signal : Signal) (result : TradeResult)
    (hmagic : ∃ magic, P.magicFor signal.strategy = .ok magic) {before : Db}
    (hdb : w.db = before.insertLog (P.resultLog signal result)) (t : Told) :
    (heard B.serve signal (P.persistSuccess signal result) w t = t.raise ∧
      (∃ e, (Prog.run B.serve (P.persistSuccess signal result) w).1 = .error e) ∧
        (Prog.run B.serve (P.persistSuccess signal result) w).2.db = w.db) ∨
    (heard B.serve signal (P.persistSuccess signal result) w t = t ∧
      (Prog.run B.serve (P.persistSuccess signal result) w).2.db.logs = w.db.logs ∧
        P.Persisted signal result before
          (Prog.run B.serve (P.persistSuccess signal result) w).2.db) := by
  have hheard := heard_notifyForcedClosed (B := B) signal result.forcedClosed w t
  have hsame := run_unwriting (B := B) (notifyForcedClosed_meek signal result.forcedClosed) w
  unfold persistSuccess
  rcases hforced : Prog.run B.serve (notifyForcedClosed signal result.forcedClosed) w with
    ⟨e | u, w₁⟩
  · rw [hforced] at hheard hsame
    rw [heard_bind_error hforced, Prog.run_bind_error _ hforced]
    exact Or.inl ⟨hheard, ⟨e, rfl⟩, hsame⟩
  rw [hforced] at hheard hsame
  have hheard : heard B.serve signal (notifyForcedClosed signal result.forcedClosed) w t = t :=
    hheard
  have hsame : w₁.db = w.db := hsame
  rw [heard_bind_ok hforced, Prog.run_bind_ok _ hforced, hheard]
  unfold Persisted
  cases hstatus : closeStatus signal.action with
  | none =>
      obtain ⟨magic, hmagic⟩ := hmagic
      simp only [hmagic, Prog.ofExcept_ok, Prog.ret_bind]
      refine Or.inr ⟨?_, ?_, magic, ?_⟩
      · rw [insertPosition, sql, heard_perform]
        exact hear_unheard rfl rfl _ t
      · rw [insertPosition, run_sql, insertRow_logs, hsame]
      · rw [insertPosition, run_sql, hsame, hdb]
        rfl
  | some status =>
      dsimp only
      rw [updatePositionStatus, run_sql, sql, heard_perform]
      have howns : signal.owns (.db (.updateStatus (exitUpdate signal result status))) = false :=
        owns_of_orders rfl
      cases hup : w₁.db.updateStatus (exitUpdate signal result status) with
      | error e =>
          simp only [Backend.serve, Db.serve, hup]
          exact Or.inl ⟨hear_error howns rfl rfl e t, ⟨e, rfl⟩, hsame⟩
      | ok db =>
          obtain ⟨hrows, hlogs⟩ := Db.updateStatus_ok hup
          simp only [Backend.serve, Db.serve, hup]
          refine Or.inr ⟨hear_ok howns rfl rfl t, hlogs.trans (congrArg Db.logs hsame), ?_⟩
          rw [hrows, hsame, hdb]
          rfl

/-- What is stored at the end of a handling goes with what was told. -/
theorem recordResult_ends (signal : Signal) (result : TradeResult)
    (hmagic : ∃ magic, P.magicFor signal.strategy = .ok magic) (w : World β) (t : Told) :
    ∃ e : Ending, heard B.serve signal (P.recordResult signal result) w t = e.told t ∧
      P.Leaves signal result w.db (Prog.run B.serve (P.recordResult signal result) w).2.db e := by
  have hnotify : ∀ w' t', heard B.serve signal (notifyTrade signal
      (outcomeReport signal result).1 (P.cycleEvent signal result (outcomeReport signal result).2)
      (cycleStatus signal result)) w' t' = t' := by
    intro w' t'
    refine heard_of_unheard (notifyTrade_unheard ?_ ?_ _) w' t'
    · unfold outcomeReport
      split
      · split <;> rfl
      · rfl
    · unfold outcomeReport
      split
      · split <;> exact fun h => nomatch h
      · exact fun h => nomatch h
  unfold recordResult
  rcases hfooter : Prog.run B.serve (host .currentFooter) w with ⟨e | footer, w₁⟩
  · refine ⟨.silenced, ?_, ?_⟩
    · rw [heard_bind_error hfooter, heard_host rfl, hfooter]
      rfl
    · rw [Prog.run_bind_error _ hfooter]
      rw [run_host] at hfooter
      exact (congrArg World.db (Prod.ext_iff.mp hfooter).2).symm
  have hdb₁ : w₁.db = w.db := by
    rw [run_host] at hfooter
    exact (congrArg World.db (Prod.ext_iff.mp hfooter).2).symm
  have hheard₁ : heard B.serve signal (host .currentFooter) w t = t := by
    rw [heard_host rfl, hfooter]
    rfl
  have hlog := run_logPosition B w₁ (P.resultLog signal result)
  rw [heard_bind_ok hfooter, Prog.run_bind_ok _ hfooter, hheard₁, heard_bind_ok hlog,
    Prog.run_bind_ok _ hlog, heard_logPosition, hdb₁]
  split
  · rename_i hsuccess
    let w₂ : World β := { w₁ with db := w.db.insertLog (P.resultLog signal result) }
    have hpersist := P.persistSuccess_ends (B := B) (w := w₂) signal result hmagic rfl t.log
    rcases hrun : Prog.run B.serve (P.persistSuccess signal result) w₂ with ⟨e | u, w₃⟩
    · rw [hrun] at hpersist
      rw [heard_bind_error hrun, Prog.run_bind_error _ hrun]
      rcases hpersist with ⟨hraised, -, hsame⟩ | ⟨hsilent, hlogs, hrows⟩
      · exact ⟨.unsettled, hraised, hsuccess, hsame⟩
      · exact ⟨.done, hsilent, hlogs, fun h => absurd hsuccess (by simp [h]), fun _ => hrows⟩
    · rw [hrun] at hpersist
      rw [heard_bind_ok hrun, Prog.run_bind_ok _ hrun, hnotify]
      have hsame := run_unwriting (B := B) (notifyTrade_meek signal
        (outcomeReport signal result).1 (P.cycleEvent signal result
          (outcomeReport signal result).2) (cycleStatus signal result)) w₃
      rcases hpersist with ⟨-, ⟨e, hraised⟩, -⟩ | ⟨hsilent, hlogs, hrows⟩
      · cases hraised
      · refine ⟨.done, hsilent, ?_⟩
        rw [hsame]
        exact ⟨hlogs, fun h => absurd hsuccess (by simp [h]), fun _ => hrows⟩
  · rename_i hfailed
    refine ⟨.done, hnotify _ _, ?_⟩
    dsimp only
    rw [run_unwriting (B := B) (notifyTrade_meek ..)]
    exact ⟨rfl, fun _ => rfl, fun h => absurd h hfailed⟩

end Processor

/-! ## What is to be recorded -/

/-- The broker executed an order of the run. What it executes is its own affair: no answer has
to say so. -/
def Executes (B : Backend β) (fills : WorkerOp → β → Prop) {α : Type} (p : Work α)
    (w : World β) : Prop :=
  Prog.Reaches B.serve (fun o w => o.orders = true ∧ fills o w.rest) p w

/-- The status an exit puts its row in. The failsafe of a TP1 may have closed the rest. -/
def Reflects (action : SignalAction) (status : PositionStatus) : Prop :=
  Processor.closeStatus action = some status ∨ action = .tp1 ∧ status = .forcedClosed

instance (action : SignalAction) (status : PositionStatus) : Decidable (Reflects action status) :=
  inferInstanceAs (Decidable (_ ∨ _))

/-- The log holds a new row carrying the signal, and the positions table reflects what was
executed: a new `OPENED` row for an entry, and for an exit the status on the row it was about. -/
structure Recorded (m : Market) (signal : Signal) (before after : Db) : Prop where
  logged : ∃ l ∈ after.logs.drop before.logs.length, l.message = some (.signal signal)
  opened : signal.action.isEntry = true → ∃ row ∈ after.rows.drop before.rows.length,
    row.status = .opened ∧ row.gatewayMessage = some (.signal signal)
  settled : signal.action.isEntry = false → ∀ (i : Nat) (row : Row), before.rows[i]? = some row →
    trackedRow m before signal = some row → row.refSourceId ≠ "" →
      ∃ row', after.rows[i]? = some row' ∧ Reflects signal.action row'.status

/-- From its first order on the handling was heard out: no call raised before the log row. An
entry was confirmed, its stop not refused, and no call raised before its row was written; so
with a close of an exit, unless FLAT writes its row off anyway, or the row stands there already. -/
structure Heard (m : Market) (signal : Signal) (before : Db) (t : Told) : Prop where
  logged : t.silenced = false
  opened : signal.action.isEntry = true →
    t.confirmed = true ∧ t.refused = false ∧ t.unsettled = false
  settled : signal.action.isEntry = false → ∀ row, trackedRow m before signal = some row →
    row.refSourceId ≠ "" → Reflects signal.action (healedRow m before signal row).status ∨
      t.unsettled = false ∧ (signal.action = .flat ∨ t.confirmed = true)

/-- Rows written one by one, as an exit does it. -/
theorem settled_iff_of_map {m : Market} {signal : Signal} {before after : Db} {f : Row → Row}
    (hrows : after.rows = before.rows.map f) :
    (∀ (i : Nat) (row : Row), before.rows[i]? = some row → trackedRow m before signal = some row →
      row.refSourceId ≠ "" → ∃ row', after.rows[i]? = some row' ∧
        Reflects signal.action row'.status) ↔
    ∀ row, trackedRow m before signal = some row → row.refSourceId ≠ "" →
      Reflects signal.action (f row).status := by
  constructor
  · intro h row hrow href
    have hmem : row ∈ before.rows := (List.mem_filter.mp (List.mem_of_mem_head? hrow)).1
    obtain ⟨i, hi⟩ := List.mem_iff_getElem?.mp hmem
    obtain ⟨row', hi', hstatus⟩ := h i row hi hrow href
    rw [hrows, List.getElem?_map, hi] at hi'
    cases hi'
    exact hstatus
  · intro h i row hi hrow href
    exact ⟨f row, by rw [hrows, List.getElem?_map, hi]; rfl, h row hrow href⟩

theorem logged_iff {signal : Signal} {before after : Db} {logs : List LogRow}
    (hlogs : after.logs = before.logs ++ logs) :
    (∃ l ∈ after.logs.drop before.logs.length, l.message = some (.signal signal)) ↔
      ∃ l ∈ logs, l.message = some (.signal signal) := by
  rw [hlogs, List.drop_left]

theorem healedRow_refSourceId (m : Market) (db : Db) (signal : Signal) (row : Row) :
    (healedRow m db signal row).refSourceId = row.refSourceId :=
  Row.updateEach_refSourceId ..

/-! ## Entries -/

section Handling

variable (m : Market) (settings : WorkerSettings) {signal : Signal} (w : World β)

theorem listening_empty : ({} : Told).Listening := ⟨rfl, rfl, rfl, nofun⟩

theorem toRow?_isSome (n : NewRow) (id : Nat) (now : Int) : (n.toRow? id now).isSome =
    (n.refId.isSome && n.volume.isSome && n.openedPrice.isSome) := by
  unfold NewRow.toRow?
  cases n.refId <;> cases n.volume <;> cases n.openedPrice <;> rfl

theorem toRow?_message {n : NewRow} {id : Nat} {now : Int} {r : Row}
    (h : n.toRow? id now = some r) : r.gatewayMessage = n.message := by
  unfold NewRow.toRow? at h
  split at h
  · cases h
    rfl
  · cases h

variable (signal) in
/-- The row of an entry that stands goes in; another's does not. -/
theorem opened_iff_stands (result : TradeResult) {b a : Db}
    (hfree : result.success = true → ¬ HoldsKey b signal.rowKey)
    (hfailed : result.success = false → a.rows = b.rows)
    (hpersisted : result.success = true → ∃ magic, a.rows = (Db.serve (.insertRow
      ((m.processor settings).entryRow signal (Processor.repairPrice signal result) magic))
        b).2.rows) :
    (∃ row ∈ a.rows.drop b.rows.length,
      row.status = .opened ∧ row.gatewayMessage = some (.signal signal)) ↔
        Stands signal result := by
  cases hsuccess : result.success with
  | false => simp [hfailed hsuccess, Stands, hsuccess]
  | true =>
      obtain ⟨magic, hrows⟩ := hpersisted hsuccess
      let n := (m.processor settings).entryRow signal (Processor.repairPrice signal result) magic
      have hstorable : (n.toRow? (b.rows.length + 1) b.clock).isSome =
          signal.storable result := by
        rw [toRow?_isSome]
        show ((Processor.resultTicket (Processor.repairPrice signal result)).isSome &&
          (Processor.repairPrice signal result).volume.isSome && _) = _
        rw [Processor.resultTicket_repairPrice, Processor.repairPrice_volume]
        rfl
      cases hr : n.toRow? (b.rows.length + 1) b.clock with
      | none =>
          have hsame : a.rows = b.rows := by
            rw [hrows]
            simp only [Db.serve, Db.insertRow, n, hr]
          rw [hr] at hstorable
          simp [hsame, Stands, ← hstorable]
      | some r =>
          rw [Db.serve_insertRow_of_free hr (hfree hsuccess)] at hrows
          rw [hr] at hstorable
          have hopened : r.status = .opened := NewRow.toRow?_status hr
          have hmessage : r.gatewayMessage = some (.signal signal) := toRow?_message hr
          simp [hrows, Stands, hsuccess, ← hstorable, hopened, hmessage]

theorem closeStatus_of_isEntry {action : SignalAction} (h : action.isEntry = true) :
    Processor.closeStatus action = none := by
  cases action with
  | long | short => rfl
  | tp1 | tp2 | sl | rSl | flat => cases h

/-- The key of a successful entry is free. -/
theorem handle_frees (hentry : signal.action.isEntry = true) {w w' : World β}
    {result : TradeResult}
    (hrun : Prog.run B.serve (SignalHandler.handle m.strategy signal) w = (.ok result, w'))
    (hsuccess : result.success = true) : ¬ HoldsKey w'.db signal.rowKey := by
  obtain ⟨u, w₁, -, hrun⟩ := Prog.run_bind_inv _ hrun
  cases haction : signal.action with
  | long | short =>
      rw [haction] at hrun
      exact SignalHandler.handleEntry_frees m B hrun hsuccess
  | tp1 | tp2 | sl | rSl | flat => simp [haction, SignalAction.isEntry] at hentry

/-- The row of an exit, once the log row is written. -/
theorem recorded_iff_of_settled {before after : Db} {t : Told} {l : LogRow}
    (hexit : signal.action.isEntry = false) (hlogs : after.logs = before.logs ++ [l])
    (hmessage : l.message = some (.signal signal)) (hsilenced : t.silenced = false)
    (hsettled : ∀ row, trackedRow m before signal = some row → row.refSourceId ≠ "" →
      ∃ f, after.rows = before.rows.map f ∧ (Reflects signal.action (f row).status ↔
        Reflects signal.action (healedRow m before signal row).status ∨
          t.unsettled = false ∧ (signal.action = .flat ∨ t.confirmed = true))) :
    Recorded m signal before after ↔ Heard m signal before t := by
  constructor
  · intro h
    refine ⟨hsilenced, fun hentry => by simp [hexit] at hentry, fun _ row hrow href => ?_⟩
    obtain ⟨f, hrows, hiff⟩ := hsettled row hrow href
    exact hiff.mp ((settled_iff_of_map hrows).mp (h.settled hexit) row hrow href)
  · intro h
    refine ⟨(logged_iff hlogs).mpr ⟨l, List.mem_singleton_self l, hmessage⟩,
      fun hentry => by simp [hexit] at hentry, fun _ i row hi hrow href => ?_⟩
    obtain ⟨f, hrows, hiff⟩ := hsettled row hrow href
    exact ⟨f row, by rw [hrows, List.getElem?_map, hi]; rfl,
      hiff.mpr (h.settled hexit row hrow href)⟩

theorem closeStatus_of_not_isEntry {action : SignalAction} (h : action.isEntry = false) :
    ∃ status, Processor.closeStatus action = some status := by
  cases action with
  | long | short => cases h
  | tp1 | tp2 | sl | rSl | flat => exact ⟨_, rfl⟩

/-- The update of an exit reaches the row its result names. -/
theorem reflects_exitUpdate {result : TradeResult} {status : PositionStatus} {row : Row}
    {now : Int} (hstatus : Processor.closeStatus signal.action = some status)
    (hsource : result.sourceTicket = some row.refSourceId) (href : row.refSourceId ≠ "")
    (hfailsafe : signal.action ≠ .tp1 → SignalHandler.Failsafeless result) :
    Reflects signal.action
      (row.update (Processor.exitUpdate signal result status) now).status := by
  have hticket : (Processor.exitUpdate signal result status).refSourceId =
      some row.refSourceId := by
    show Processor.resultTicket result = _
    rw [Processor.resultTicket, hsource]
    simp [text?, href]
  rw [Row.update_status, if_pos hticket]
  show Reflects signal.action (if Processor.failsafeClosed result then .forcedClosed else status)
  split
  · rename_i hclosed
    refine Or.inr ⟨?_, rfl⟩
    by_contra htp1
    simp [Processor.failsafeClosed, hfailsafe htp1] at hclosed
  · exact Or.inl hstatus

/-- A handler that raises leaves nothing of its signal. -/
theorem not_recorded_of_logs {before after : Db} (h : after.logs = before.logs) :
    ¬ Recorded m signal before after := by
  rintro ⟨⟨l, hl, -⟩, -, -⟩
  simp [h] at hl

/-- Where the handling was silenced, neither is the case. -/
theorem recorded_iff_of_silenced {before after : Db} {t : Told} (hlogs : after.logs = before.logs)
    (hsilenced : (signal.action.isEntry = true → t.confirmed = true) → t.silenced = true) :
    Recorded m signal before after ↔ Heard m signal before t := by
  refine iff_of_false (not_recorded_of_logs m hlogs) fun hheard => ?_
  have hraised := hsilenced fun hentry => (hheard.opened hentry).1
  rw [hheard.logged] at hraised
  cases hraised

/-- A FLAT that closed nothing writes its row off. -/
theorem reflects_flatSynced (before : Db) (row : Row) (now : Int)
    (hflat : signal.action = .flat) :
    Reflects signal.action ((healedRow m before signal row).update
      (SignalHandler.flatSynced signal row) now).status := by
  rw [Row.update_status, if_pos (by rw [healedRow_refSourceId]; rfl), hflat]
  exact Or.inl rfl

/-- The row an exit that returns was about: written off by a FLAT that closed nothing, else as
the lookup left it. -/
theorem handle_exit_ends (hexit : signal.action.isEntry = false) {w w₂ : World β}
    {result : TradeResult} {row : Row} (hrow : trackedRow m w.db signal = some row)
    (hrun : Prog.run B.serve (SignalHandler.handle m.strategy signal) w = (.ok result, w₂)) :
    (signal.action = .flat ∧ result.success = false ∧ ∃ now, w₂.db.rows =
      updateRows (SignalHandler.flatSynced signal row) now
        (w.db.rows.map (healedRow m w.db signal))) ∨
    w₂.db.rows = w.db.rows.map (healedRow m w.db signal) ∧
      (signal.action = .flat → result.success = true) ∧
        (result.success = true → result.sourceTicket = some row.refSourceId) := by
  obtain ⟨u, w₁, hhandling, hrun⟩ := Prog.run_bind_inv _ hrun
  have hdb : w₁.db = w.db := by
    rw [run_host] at hhandling
    exact (congrArg World.db (Prod.ext_iff.mp hhandling).2).symm
  rw [← hdb] at hrow ⊢
  have hexits : ∀ (exit : Signal → Option String → Work TradeResult) c₁ c₂,
      (∀ ticket, Prog.Sends brokering (fun _ => True) (exit signal ticket)) →
      Prog.run B.serve (SignalHandler.executeExit m.strategy signal exit c₁ c₂)
        w₁ = (.ok result, w₂) →
      w₂.db.rows = w₁.db.rows.map (healedRow m w₁.db signal) ∧
        (result.success = true → result.sourceTicket = some row.refSourceId) := by
    intro exit c₁ c₂ hbroker hexitRun
    obtain ⟨hrows, hsource⟩ := SignalHandler.executeExit_ends (B := B) c₁ c₂
      hbroker (w := w₁) hrow
    rw [hexitRun] at hrows hsource
    exact ⟨hrows, fun h => hsource result rfl h⟩
  cases haction : signal.action with
  | long | short => simp [haction, SignalAction.isEntry] at hexit
  | tp1 | tp2 | sl | rSl =>
      rw [haction] at hrun
      obtain ⟨hrows, hsource⟩ := hexits _ _ _ (fun ticket => by
        first
        | exact SignalHandler.handleTp1_brokering m signal ticket
        | exact m.atBroker.closeAllPositions ..) hrun
      exact Or.inr ⟨hrows, fun h => (by cases h), hsource⟩
  | flat =>
      rw [haction] at hrun
      have hflat := SignalHandler.handleFlat_ends (B := B) (w := w₁) hrow
      rw [hrun] at hflat
      rcases hflat with ⟨r, now, hr, hfailed, hrows⟩ | ⟨hrows, hnamed⟩
      · cases hr
        exact Or.inl ⟨rfl, hfailed, now, hrows⟩
      · exact Or.inr ⟨hrows, fun _ => (hnamed result rfl).1, fun _ => (hnamed result rfl).2⟩

variable (hmagic : ∃ magic, (m.processor settings).magicFor signal.strategy = .ok magic)
include hmagic

/-- An entry is recorded when it was heard out. -/
theorem entry_recorded_iff (hentry : signal.action.isEntry = true) :
    Recorded m signal w.db
        (Prog.run B.serve ((m.processor settings).executeSignal signal) w).2.db ↔
      Heard m signal w.db
        (heard B.serve signal ((m.processor settings).executeSignal signal) w {}) := by
  obtain ⟨hlogs₂, hrows₂⟩ := run_uninserted (B := B) (SignalHandler.handle_uninserted m signal) w
  have hends := (SignalHandler.handle_entry_tells m hentry).run listening_empty rfl B.serve w
  unfold Processor.executeSignal
  rw [Market.processor_market]
  rcases hhandle : Prog.run B.serve (SignalHandler.handle m.strategy signal) w with
    ⟨e | result, w₂⟩
  · rw [hhandle] at hlogs₂ hends
    rw [Prog.run_bind_error _ hhandle, heard_bind_error hhandle]
    exact recorded_iff_of_silenced m hlogs₂ fun hconfirmed =>
      hends.2.2.2 (hends.2.2.1 (hconfirmed hentry))
  rw [hhandle] at hlogs₂ hrows₂ hends
  have hlogs₂ : w₂.db.logs = w.db.logs := hlogs₂
  have hrows₂ : w₂.db.rows.length = w.db.rows.length := hrows₂
  rw [Prog.run_bind_ok _ hhandle, heard_bind_ok hhandle]
  generalize heard B.serve signal (SignalHandler.handle m.strategy signal) w {} = t at hends ⊢
  obtain ⟨ht, hopens⟩ := hends
  obtain ⟨e, htold, hleaves⟩ := (m.processor settings).recordResult_ends (B := B) signal
    (Processor.repairPrice signal result) hmagic w₂ t
  rw [htold]
  generalize (Prog.run B.serve ((m.processor settings).recordResult signal
    (Processor.repairPrice signal result)) w₂).2.db = after at hleaves ⊢
  have hsent (hconfirmed : (e.told t).confirmed = true) : t.sent = true := by
    refine ht.sent ?_
    cases e <;> simpa [Processor.Ending.told] using hconfirmed
  cases e with
  | silenced =>
      obtain rfl : after = w₂.db := hleaves
      exact recorded_iff_of_silenced m hlogs₂ fun hconfirmed =>
        Told.raise_silenced (hsent (hconfirmed hentry)) ht.logged
  | unsettled =>
      -- the log row is there, and the row of the position is not
      obtain ⟨-, rfl⟩ := hleaves
      refine iff_of_false (fun hrecorded => ?_) fun hheard => ?_
      · obtain ⟨row, hrow, -⟩ := hrecorded.opened hentry
        rw [Db.insertLog, ← hrows₂, List.drop_length] at hrow
        cases hrow
      · obtain ⟨hconfirmed, -, hunsettled⟩ := hheard.opened hentry
        have hraised := (Told.log_raise (hsent hconfirmed)).2
        exact absurd hunsettled (by simp [Processor.Ending.told, hraised])
  | done =>
      obtain ⟨hlogs, hfailed, hpersisted⟩ := hleaves
      have hopened := opened_iff_stands m settings signal result
        (b := w₂.db.insertLog ((m.processor settings).resultLog signal
          (Processor.repairPrice signal result))) (a := after)
        (fun hsuccess => handle_frees m hentry hhandle hsuccess)
        (fun h => hfailed (by simpa using h))
        (fun h => by simpa [Processor.Persisted, closeStatus_of_isEntry hentry]
          using hpersisted (by simpa using h))
      have hlength : (w₂.db.insertLog ((m.processor settings).resultLog signal
          (Processor.repairPrice signal result))).rows.length = w.db.rows.length := hrows₂
      rw [hlength] at hopened
      have hconfirmed := hopened.trans hopens
      constructor
      · intro hrecorded
        obtain ⟨hconfirmed, hrefused⟩ := hconfirmed.mp (hrecorded.opened hentry)
        exact ⟨by simp [Processor.Ending.told, ht.silenced], fun _ =>
          ⟨by simpa [Processor.Ending.told] using hconfirmed,
            by simpa [Processor.Ending.told] using hrefused,
            by simp [Processor.Ending.told, ht.unsettled]⟩, fun hexit => by simp [hentry] at hexit⟩
      · intro hheard
        obtain ⟨hconf, hrefused, -⟩ := hheard.opened hentry
        refine ⟨?_, fun _ => hconfirmed.mpr ⟨by simpa [Processor.Ending.told] using hconf,
          by simpa [Processor.Ending.told] using hrefused⟩, fun hexit => by simp [hentry] at hexit⟩
        rw [hlogs₂] at hlogs
        exact (logged_iff hlogs).mpr ⟨_, List.mem_singleton_self _, rfl⟩

/-- An exit of which an order went out is recorded when it was heard out. -/
theorem exit_recorded_iff (hexit : signal.action.isEntry = false)
    (hsent : (heard B.serve signal (SignalHandler.handle m.strategy signal) w {}).sent = true) :
    Recorded m signal w.db
        (Prog.run B.serve ((m.processor settings).executeSignal signal) w).2.db ↔
      Heard m signal w.db
        (heard B.serve signal ((m.processor settings).executeSignal signal) w {}) := by
  obtain ⟨hlogs₂, -⟩ := run_uninserted (B := B) (SignalHandler.handle_uninserted m signal) w
  have hends := (SignalHandler.handle_exit_tells (m.tellsExits settings hexit hmagic) hexit).run
    listening_empty rfl B.serve w
  unfold Processor.executeSignal
  rw [Market.processor_market]
  rcases hhandle : Prog.run B.serve (SignalHandler.handle m.strategy signal) w with
    ⟨e | result, w₂⟩
  · rw [hhandle] at hlogs₂ hends
    rw [Prog.run_bind_error _ hhandle, heard_bind_error hhandle]
    exact recorded_iff_of_silenced m hlogs₂ fun _ => hends.2.2.2 hsent
  rw [hhandle] at hlogs₂ hends
  have hlogs₂ : w₂.db.logs = w.db.logs := hlogs₂
  rw [Prog.run_bind_ok _ hhandle, heard_bind_ok hhandle]
  generalize heard B.serve signal (SignalHandler.handle m.strategy signal) w {} = t
    at hends hsent ⊢
  obtain ⟨ht, hcounts⟩ := hends
  have hcounts : t.confirmed = result.success := by simpa [Counts] using hcounts
  obtain ⟨e, htold, hleaves⟩ := (m.processor settings).recordResult_ends (B := B) signal
    (Processor.repairPrice signal result) hmagic w₂ t
  rw [htold]
  generalize (Prog.run B.serve ((m.processor settings).recordResult signal
    (Processor.repairPrice signal result)) w₂).2.db = after at hleaves ⊢
  cases e with
  | silenced =>
      obtain rfl : after = w₂.db := hleaves
      exact recorded_iff_of_silenced m hlogs₂ fun _ => Told.raise_silenced hsent ht.logged
  | unsettled =>
      obtain ⟨hsuccess, rfl⟩ := hleaves
      rw [Processor.repairPrice_success] at hsuccess
      obtain ⟨hsilenced, hunsettled⟩ := Told.log_raise hsent
      refine recorded_iff_of_settled m hexit (congrArg (· ++ _) hlogs₂) rfl
        (hsilenced.trans ht.silenced) fun row hrow href => ?_
      rcases handle_exit_ends m hexit hrow hhandle with ⟨-, hfailed, -⟩ | ⟨hrows, -⟩
      · rw [hsuccess] at hfailed
        cases hfailed
      · exact ⟨_, hrows, by simp [Processor.Ending.told, hunsettled]⟩
  | done =>
      obtain ⟨hlogs, hfailed, hpersisted⟩ := hleaves
      rw [hlogs₂] at hlogs
      rw [Processor.repairPrice_success] at hfailed hpersisted
      have htold : (Processor.Ending.done.told t).unsettled = false ∧
          (Processor.Ending.done.told t).confirmed = result.success := by
        simp [Processor.Ending.told, ht.unsettled, hcounts]
      refine recorded_iff_of_settled m hexit hlogs rfl
        (by simp [Processor.Ending.told, ht.silenced]) fun row hrow href => ?_
      rw [htold.1, htold.2]
      rcases handle_exit_ends m hexit hrow hhandle with
        ⟨hflat, hnone, now, hrows⟩ | ⟨hrows, hflat, hsource⟩
      · -- FLAT closed nothing, and wrote its row off
        refine ⟨fun r => (healedRow m w.db signal r).update
          (SignalHandler.flatSynced signal row) now, ?_, ?_⟩
        · rw [hfailed hnone, hrows, updateRows, List.map_map]
          rfl
        · exact iff_of_true (reflects_flatSynced m w.db row now hflat)
            (Or.inr ⟨rfl, Or.inl hflat⟩)
      · cases hsuccess : result.success with
        | false =>
            have hnotFlat : signal.action ≠ .flat := fun h => by simp [hflat h] at hsuccess
            exact ⟨_, (hfailed hsuccess).trans hrows, by simp [hnotFlat]⟩
        | true =>
            obtain ⟨status, hstatus⟩ := closeStatus_of_not_isEntry hexit
            have hpersisted := hpersisted hsuccess
            simp only [Processor.Persisted, hstatus] at hpersisted
            have hreflects : Reflects signal.action ((healedRow m w.db signal row).update
                (Processor.exitUpdate signal (Processor.repairPrice signal result) status)
                w₂.db.clock).status := by
              refine reflects_exitUpdate hstatus ?_ (by rwa [healedRow_refSourceId]) fun htp1 => ?_
              · rw [Processor.repairPrice_sourceTicket, healedRow_refSourceId]
                exact hsource hsuccess
              · exact (Processor.repairPrice_slFailsafeClose signal result).trans
                  ((SignalHandler.handle_failsafeless htp1 hexit).run_ok (fun _ _ => trivial)
                    hhandle)
            refine ⟨fun r => (healedRow m w.db signal r).update (Processor.exitUpdate signal
              (Processor.repairPrice signal result) status) w₂.db.clock, ?_, ?_⟩
            · rw [hpersisted, hrows, updateRows, List.map_map]
              rfl
            · exact iff_of_true hreflects (Or.inr ⟨rfl, Or.inr rfl⟩)

end Handling

/-! ## The whole handling -/

section Admission

variable (m : Market) (settings : WorkerSettings) {signal : Signal}

theorem orderless_host (o : HostOp) : Prog.Sends orderless (fun _ => True) (host o) :=
  Prog.sends_perform rfl fun _ _ => trivial

/-- Before the handler no order is sent. -/
theorem clears_orderless :
    Prog.Sends orderless (fun _ => True) ((m.processor settings).clears signal) := by
  refine Prog.Sends.bind (orderless_host _) fun blocked _ => ?_
  split
  · simp
  split
  · exact Prog.Sends.bind (orderless_host _) fun _ _ =>
      Prog.Sends.bind (orderless_host _) fun _ _ => by simp
  · exact Prog.Sends.bind (orderless_host _) fun _ _ =>
      Prog.Sends.bind (orderless_host _) fun _ _ => by simp
  · simp
  · split
    · refine Prog.Sends.bind (orderless_of_aside (entryRejection_aside m settings signal))
        fun reason _ => ?_
      cases reason with
      | none => simp
      | some reason =>
          exact Prog.Sends.bind (orderless_of_aside (rejectSignal_aside m settings signal reason))
            fun _ _ => by simp
    · simp

/-- What lets a signal on has only asked, and knows its strategy. -/
theorem clears_inv {w w' : World β}
    (hrun : Prog.run B.serve ((m.processor settings).clears signal) w = (.ok true, w')) :
    w'.db = w.db ∧ ∃ magic, (m.processor settings).magicFor signal.strategy = .ok magic := by
  obtain ⟨blocked, w₁, hblocked, hrun⟩ := Prog.run_bind_inv _ hrun
  have hdb : w₁.db = w.db := by
    rw [run_host] at hblocked
    exact (congrArg World.db (Prod.ext_iff.mp hblocked).2).symm
  rw [← hdb]
  split at hrun
  · cases hrun
  split at hrun
  · obtain ⟨-, w₂, -, hrun⟩ := Prog.run_bind_inv _ hrun
    obtain ⟨-, w₃, -, hrun⟩ := Prog.run_bind_inv _ hrun
    cases hrun
  · obtain ⟨-, w₂, -, hrun⟩ := Prog.run_bind_inv _ hrun
    obtain ⟨-, w₃, -, hrun⟩ := Prog.run_bind_inv _ hrun
    cases hrun
  · cases hrun
  · rename_i magic hmagic
    refine ⟨?_, magic, hmagic⟩
    split at hrun
    · obtain ⟨reason, w₂, hguard, hrun⟩ := Prog.run_bind_inv _ hrun
      have hguarded := run_brokering
        (brokering_of_consulting (entryRejection_consults m settings signal)) B w₁
      rw [hguard] at hguarded
      cases reason with
      | none =>
          cases hrun
          exact hguarded
      | some reason =>
          obtain ⟨-, w₃, -, hrun⟩ := Prog.run_bind_inv _ hrun
          cases hrun
    · cases hrun
      rfl

/-- Behind the handler none is sent either. -/
theorem recordResult_orderless (result : TradeResult) :
    Prog.Sends orderless (fun _ => True) ((m.processor settings).recordResult signal result) := by
  refine Prog.Sends.bind (orderless_host _) fun _ _ => ?_
  refine Prog.Sends.bind (orderless_of_aside (logPosition_aside _)) fun _ _ => ?_
  split
  · refine Prog.Sends.bind (Q := fun _ => True) ?_ fun _ _ =>
      orderless_of_aside (notifyTrade_aside ..)
    refine Prog.Sends.bind (orderless_of_aside (notifyForcedClosed_aside ..)) fun _ _ => ?_
    split
    · exact Prog.Sends.bind (Q := fun _ => True) (by simp) fun _ _ =>
        Prog.sends_perform rfl fun _ _ => trivial
    · exact Prog.sends_perform rfl fun _ _ => trivial
  · exact orderless_of_aside (notifyTrade_aside ..)

variable {fills : WorkerOp → β → Prop}

theorem not_executes_of_orderless {α : Type} {Q : α → Prop} {p : Work α}
    (hp : Prog.Sends orderless Q p) (w : World β) : ¬ Executes B fills p w := by
  refine hp.not_reaches (fun _ _ => trivial) (fun o w' ho hmade => ?_) B.serve w
  have hnone : o.orders = false := ho
  rw [hnone] at hmade
  exact Bool.false_ne_true hmade.1

/-- Whatever the broker executes of the orders a signal is handled with: the log carries the
signal and the positions table reflects the execution, however `_process_signal` ends, if and
only if the handling was heard out. -/
theorem executions_recorded_iff (m : Market) (settings : WorkerSettings) (B : Backend β)
    (fills : WorkerOp → β → Prop) (w : World β) (signal : Signal) :
    (Executes B fills ((m.processor settings).processSignal signal) w →
      Recorded m signal w.db
        (Prog.run B.serve ((m.processor settings).processSignal signal) w).2.db) ↔
    (Executes B fills ((m.processor settings).processSignal signal) w →
      Heard m signal w.db
        (heard B.serve signal ((m.processor settings).processSignal signal) w {})) := by
  refine imp_congr_right fun hexecutes => ?_
  rw [Processor.processSignal_eq] at hexecutes ⊢
  have hadmitted : Prog.Sends orderless (fun _ => True) ((m.processor settings).clears signal) :=
    clears_orderless m settings
  obtain hbefore | ⟨cleared, w₁, hclears, hexecutes⟩ := Prog.reaches_bind.mp hexecutes
  · exact absurd hbefore (not_executes_of_orderless hadmitted w)
  rw [Prog.run_bind_ok _ hclears, heard_bind_ok hclears,
    heard_of_unowned (unowned_of_orderless hadmitted)]
  cases cleared with
  | false => exact hexecutes.elim
  | true =>
      obtain ⟨hdb, hmagic⟩ := clears_inv m settings hclears
      rw [← hdb]
      cases haction : signal.action.isEntry with
      | true => exact entry_recorded_iff m settings w₁ hmagic haction
      | false =>
          refine exit_recorded_iff m settings w₁ hmagic haction ?_
          rcases Prog.reaches_bind.mp hexecutes with hhandled | ⟨result, w₂, -, hrecorded⟩
          · rw [Market.processor_market] at hhandled
            refine sent_of_reaches hhandled (fun o w' hmade => ?_) {}
            simp [Signal.owns, haction, hmade.1]
          · exact absurd hrecorded
              (not_executes_of_orderless (recordResult_orderless m settings _) w₂)

end Admission

def emptyBooks : World Unit where
  db := { rows := [], oneActive := by decide }
  rest := ()

/-- An exchange that fills every order, and does not answer to a stop. -/
def stopLost : Backend Unit where
  fx _ s := (.error (.other "no platform"), s)
  cx
    | .getSymbolFilter _, s => (.ok {}, s)
    | .getPositions _, s => (.ok [], s)
    | .placeMarketOrder _ _ qty _ _, s =>
        (.ok { success := true, ticket := some "7", price := some 2000, volume := some qty }, s)
    | _, s => (.error (.gateway "timeout"), s)
  host o s := (.ok (HostOp.quiet o), s)

/-- Crypto, trading the quantities it is sent. -/
def payloadCrypto : Market := .crypto { config := { volumeDecisionEnabled := false } }

def stoppedEntry : Signal :=
  { strategy := "GOLD", timestamp := 0, action := .long, symbol := "ETHUSD"
    signalUxid := some "a", quantity := some 1, sl := some 1900 }

/-- An entry is filled, the stop raises, and nothing is recorded of it. -/
theorem stoppedEntry_unrecorded :
    Executes stopLost (fun _ _ => True) ((payloadCrypto.processor {}).processSignal stoppedEntry)
        emptyBooks ∧
      ¬ Recorded payloadCrypto stoppedEntry emptyBooks.db (Prog.run stopLost.serve
        ((payloadCrypto.processor {}).processSignal stoppedEntry) emptyBooks).2.db := by
  have hlogs : (Prog.run stopLost.serve ((payloadCrypto.processor {}).processSignal stoppedEntry)
      emptyBooks).2.db.logs = emptyBooks.db.logs := by decide +kernel
  exact ⟨by unfold Executes; decide +kernel, not_recorded_of_logs _ hlogs⟩

end TradeWorker
