import TradeWorker.ClosingMarkets
import TradeWorker.DuplicateHeal

/-!
# What a successful full close leaves behind

`close_all_positions` reports success as soon as one close was filled. The
callers act on that one boolean: a full exit marks its row closed, an entry
clears the strategy's rows and opens anew. All three leave nothing of the
request behind exactly when the orders of the request agree.
-/

namespace TradeWorker

section Closing

variable {Pos β : Type} [LivePosition Pos] [DecidableEq Pos] (M : ClosingMarket Pos β)

/-! ## The close itself -/

/-- A close that reports success leaves no position of its request live. -/
def CloseLeavesNothing (w : World β) (r : CloseRequest) (reason : String)
    (price : Option ℚ) : Prop :=
  ∀ res w', Prog.run M.backend.serve
      (M.market.executor.closeAllPositions r.symbol reason r.strategy price r.ticket) w =
        (.ok res, w') →
    res.success = true →
      ∀ p ∈ M.script.matched (M.view w.rest) r, p ∉ (M.view w'.rest).live

theorem closeLeavesNothing_iff (w : World β) (r : CloseRequest) (reason : String)
    (price : Option ℚ) :
    CloseLeavesNothing M w r reason price ↔ M.script.Settles (M.view w.rest) r := by
  have hsub := ClosingMarket.matched_sublist (M := M) (M.view w.rest) r
  rw [CloseScript.settles_iff (hsub.nodup (M.live_nodup _))]
  obtain ⟨w', out, hrun, hcloses⟩ := M.closes w r reason price
  constructor
  · intro h hfault hclosed p hp
    obtain ⟨res, rfl, hreport⟩ := hcloses.report hfault
    have hgone := h res w' hrun (hreport.success.mpr hclosed) p hp
    rw [ClosingMarket.live_after hcloses, not_and_not_right] at hgone
    exact hgone (hsub.subset hp)
  · intro h res w'' hrun' hres p hp
    cases hrun.symm.trans hrun'
    cases hfault : M.script.fault (M.view w.rest) r with
    | some e => cases hcloses.raised e hfault
    | none =>
        obtain ⟨_, hres', hreport⟩ := hcloses.report hfault
        cases hres'
        rw [ClosingMarket.live_after hcloses]
        exact fun hlive => hlive.2 (h hfault (hreport.success.mp hres) p hp)

/-! ## A full exit -/

def exitRequest (signal : Signal) (row : Row) : CloseRequest where
  symbol := signal.symbol
  strategy := some signal.strategy
  ticket := if (SignalHandler.uxidScope M.market signal).isSome then some row.refSourceId
    else none

def exitRow (w : World β) (signal : Signal) : Option Row :=
  (w.db.activeByStrategy signal.strategy signal.symbol
    (SignalHandler.uxidScope M.market signal)).head?

/-- A full exit that succeeds and is persisted leaves no position of its request
live. -/
def ExitLeavesNothing (P : Processor Pos) (w : World β) (signal : Signal) : Prop :=
  ∀ row, exitRow M w signal = some row → ∀ res w₁ w₂,
    Prog.run M.backend.serve (SignalHandler.handleFullClose M.market signal) w =
      (.ok res, w₁) →
    res.success = true →
    Prog.run M.backend.serve (P.persistSuccess signal (Processor.repairPrice signal res)) w₁ =
      (.ok (), w₂) →
    ∀ p ∈ M.script.matched (M.view w.rest) (exitRequest M signal row),
      p ∉ (M.view w₂.rest).live

/-- An exit that finds a row: the guard's query, and the close on what it lists. -/
theorem handleFullClose_run {w : World β} {signal : Signal} {row : Row}
    (hrow : exitRow M w signal = some row) :
    ∃ w₁ : World β, M.view w₁.rest = M.view w.rest ∧
      Prog.run M.backend.serve (SignalHandler.handleFullClose M.market signal) w =
        match M.script.batch (M.view w.rest) (exitRequest M signal row) with
        | .error e => (.error e, w₁)
        | .ok [] =>
            (.ok (.fail s!"No open positions to close [{signal.action.value}]"), w₁)
        | .ok (_ :: _) =>
            match Prog.run M.backend.serve (M.market.executor.closeAllPositions signal.symbol
                signal.action.value (some signal.strategy) signal.price
                (exitRequest M signal row).ticket) w₁ with
            | (.ok res, w') =>
                (.ok (if res.success then { res with sourceTicket := some row.refSourceId }
                  else res), w')
            | (.error e, w') => (.error e, w') := by
  obtain ⟨duplicates, hrows⟩ := List.head?_eq_some_iff.mp hrow
  obtain ⟨db, hlookup, -, -⟩ := getDbPosition_of_cons M.backend w _ _ _ hrows
  obtain ⟨s, hguard, hview⟩ :=
    M.getOpenPositions_run { w with db } (exitRequest M signal row)
  refine ⟨{ w with db, rest := s }, hview, ?_⟩
  unfold SignalHandler.handleFullClose SignalHandler.executeExit
  generalize M.script.batch (M.view w.rest) (exitRequest M signal row) = batch at hguard ⊢
  dsimp only [exitRequest] at hguard ⊢
  rw [Prog.run_bind_ok _ hlookup]
  dsimp only
  rw [Prog.run_bind, hguard]
  cases batch with
  | error e => rfl
  | ok ps =>
      cases ps with
      | nil => rfl
      | cons p ps =>
          simp only [List.isEmpty_cons, Bool.false_eq_true, if_false, Prog.run_bind]
          unfold ExecutorBackedMarket.handleFullClose
          split
          · rename_i res w' hclose
            rw [hclose]
            by_cases hs : res.success = true <;> simp [hs]
          · rename_i e w' hclose
            rw [hclose]

theorem run_notifyTrade (w : World β) (signal : Signal) (report : Report)
    (event : CycleEvent) (status : Option CycleStatus) :
    Prog.run M.backend.serve (Processor.notifyTrade signal report event status) w =
      (.ok (), w) := by
  obtain ⟨owned, howned⟩ := run_host_ok M.host_answers w
    (.recordCycle signal.signalUxid signal.strategy signal.symbol event status)
  obtain ⟨u, hu⟩ := run_host_ok M.host_answers w (.notifyChannel report)
  rw [Processor.notifyTrade, Prog.run_bind_ok _ howned]
  split
  · rfl
  · exact hu

theorem run_notifyForcedClosed (w : World β) (signal : Signal) (fcs : List ForcedClosed) :
    Prog.run M.backend.serve (Processor.notifyForcedClosed signal fcs) w = (.ok (), w) := by
  induction fcs with
  | nil => rfl
  | cons fc rest ih =>
      rw [Processor.notifyForcedClosed, Prog.run_bind_ok _ (run_notifyTrade M w signal _ _ _)]
      exact ih

/-- The persistence of an exit to a closed status goes through and only writes the
rows under the result's reference. -/
theorem persistSuccess_run (P : Processor Pos) (w : World β) {signal : Signal}
    {status : PositionStatus} (hstatus : Processor.closeStatus signal.action = some status)
    (hclosed : status.isActive = false) (res : TradeResult) :
    ∃ hu, Prog.run M.backend.serve (P.persistSuccess signal res) w =
      (.ok (), { w with db := w.db.close (Processor.exitUpdate signal res status) hu }) := by
  have hu : (Processor.exitUpdate signal res status).status.isActive = false := by
    unfold Processor.exitUpdate
    dsimp only
    split
    · rfl
    · exact hclosed
  refine ⟨hu, ?_⟩
  rw [Processor.persistSuccess, Prog.run_bind_ok _ (run_notifyForcedClosed M w signal _)]
  simp only [hstatus]
  exact run_updatePositionStatus_inactive M.backend w hu

def IsFullExit (action : SignalAction) : Prop :=
  action = .tp2 ∨ action = .sl ∨ action = .rSl

theorem IsFullExit.closeStatus {action : SignalAction} (h : IsFullExit action) :
    ∃ status, Processor.closeStatus action = some status ∧ status.isActive = false := by
  rcases h with rfl | rfl | rfl
  · exact ⟨.tp2, rfl, rfl⟩
  · exact ⟨.sl, rfl, rfl⟩
  · exact ⟨.rSl, rfl, rfl⟩

theorem exitLeavesNothing_iff (P : Processor Pos) (w : World β) {signal : Signal}
    (hexit : IsFullExit signal.action) :
    ExitLeavesNothing M P w signal ↔ ∀ row, exitRow M w signal = some row →
      M.script.Settles (M.view w.rest) (exitRequest M signal row) := by
  refine forall_congr' fun row => imp_congr_right fun hrow => ?_
  obtain ⟨status, hstatus, hclosed⟩ := hexit.closeStatus
  obtain ⟨w₁, hview, hrun⟩ := handleFullClose_run M hrow
  have hpersist := fun w' res => persistSuccess_run M P w' hstatus hclosed res
  cases hbatch : M.script.batch (M.view w.rest) (exitRequest M signal row) with
  | error e => simp [CloseScript.Settles, CloseScript.matched, hbatch]
  | ok ps =>
      have hmatched := CloseScript.matched_of_batch hbatch
      cases ps with
      | nil => simp [CloseScript.Settles, hmatched]
      | cons p ps =>
          have hclose := closeLeavesNothing_iff M w₁ (exitRequest M signal row)
            signal.action.value signal.price
          rw [hview] at hclose
          rw [← hclose]
          obtain ⟨w₂, out, hout, -⟩ := M.closes w₁ (exitRequest M signal row)
            signal.action.value signal.price
          have hout' : Prog.run M.backend.serve (M.market.executor.closeAllPositions
              signal.symbol signal.action.value (some signal.strategy) signal.price
              (exitRequest M signal row).ticket) w₁ = (out, w₂) := hout
          rw [hbatch] at hrun
          simp only [hout'] at hrun
          constructor
          · intro h res w' hres hsuccess
            cases hout.symm.trans hres
            simp only [if_pos hsuccess] at hrun
            obtain ⟨_, hdone⟩ := hpersist w₂
              (Processor.repairPrice signal { res with sourceTicket := some row.refSourceId })
            have hgone := h _ w₂ _ hrun hsuccess hdone
            rw [hview]
            exact hgone
          · intro h res w' w'' hres hsuccess hdone
            obtain ⟨_, hdone'⟩ := hpersist w' (Processor.repairPrice signal res)
            cases hdone.symm.trans hdone'
            cases out with
            | error e => cases hrun.symm.trans hres
            | ok closed =>
                cases hrun.symm.trans hres
                have hsuccess' : closed.success = true := by
                  split at hsuccess
                  · assumption
                  · exact hsuccess
                rw [← hview]
                exact h closed w₂ hout hsuccess'

/-! ## The stale cleanup -/

/-- The tickets an entry cleans up before it opens. -/
def cleanupTickets (w : World β) (signal : Signal) : List (Option String) :=
  let uxid := SignalHandler.uxidScope M.market signal
  SignalHandler.staleTickets uxid
    (w.db.activeByStrategy signal.strategy signal.symbol uxid)

/-- A stale cleanup that lets the entry proceed leaves none of its positions live. -/
def CleanupLeavesNothing (w : World β) (signal : Signal) : Prop :=
  ∀ res w', Prog.run M.backend.serve (SignalHandler.forceCloseStale M.market signal.symbol
      signal.strategy (cleanupTickets M w signal)) w = (.ok res, w') →
    res.success = true → ∀ ticket ∈ cleanupTickets M w signal,
      ∀ p ∈ M.script.matched (M.view w.rest) ⟨signal.symbol, some signal.strategy, ticket⟩,
        p ∉ (M.view w'.rest).live

/-- Under the index an entry has at most one close to make. -/
theorem cleanupTickets_length (w : World β) (signal : Signal) :
    (cleanupTickets M w signal).length ≤ 1 := by
  unfold cleanupTickets SignalHandler.staleTickets
  cases hscope : SignalHandler.uxidScope M.market signal with
  | none => simp
  | some u =>
      have hrows : (w.db.activeByStrategy signal.strategy signal.symbol (some u)).length ≤ 1 :=
        activeByStrategy_length_le_one (hscope ▸ uxidScope_text? hscope)
      simp only [Option.isSome_some, if_true, List.length_map]
      exact (List.length_filter_le _ _).trans hrows

/-- A cleanup of one ticket is one close, reported with its success. -/
theorem forceCloseStale_run {w w' : World β} {symbol strategy : String}
    {ticket : Option String} {out : Except Exn TradeResult}
    (hout : Prog.run M.backend.serve (M.market.executor.closeAllPositions symbol
      "STALE_CLEANUP" (some strategy) none ticket) w = (out, w')) :
    ∃ report : TradeResult → TradeResult, (∀ c, (report c).success = c.success) ∧
      Prog.run M.backend.serve
        (SignalHandler.forceCloseStale M.market symbol strategy [ticket]) w =
          (out.map report, w') := by
  refine ⟨fun c => if c.success then
      SignalHandler.bookCleanup { success := true, retcode := none } c else c,
    fun c => ?_, ?_⟩
  · by_cases hc : c.success = true <;> simp [hc, SignalHandler.bookCleanup]
  · unfold SignalHandler.forceCloseStale SignalHandler.forceCloseEach
      ExecutorBackedMarket.closeAllPositions
    rw [Prog.run_bind, hout]
    cases out with
    | error e => rfl
    | ok c => by_cases hc : c.success = true <;> simp [hc, SignalHandler.forceCloseEach, Except.map]

theorem cleanupLeavesNothing_iff (w : World β) (signal : Signal) :
    CleanupLeavesNothing M w signal ↔ ∀ ticket ∈ cleanupTickets M w signal,
      M.script.Settles (M.view w.rest) ⟨signal.symbol, some signal.strategy, ticket⟩ := by
  unfold CleanupLeavesNothing
  match cleanupTickets M w signal, cleanupTickets_length M w signal with
  | [], _ => simp
  | [ticket], _ =>
      simp only [List.mem_singleton, forall_eq]
      rw [← closeLeavesNothing_iff M w _ "STALE_CLEANUP" none]
      obtain ⟨w₁, out, hout, -⟩ :=
        M.closes w ⟨signal.symbol, some signal.strategy, ticket⟩ "STALE_CLEANUP" none
      obtain ⟨report, hreport, hrun⟩ := forceCloseStale_run M hout
      constructor
      · intro h res w' hres hsuccess
        cases hout.symm.trans hres
        exact h _ w₁ hrun ((hreport res).trans hsuccess)
      · intro h res w' hres hsuccess
        cases out with
        | error e => cases hrun.symm.trans hres
        | ok cleanup =>
            cases hrun.symm.trans hres
            exact h cleanup w₁ hout ((hreport cleanup).symm.trans hsuccess)

/-- Where a successful full close, a persisted full exit and a stale cleanup that
lets the entry proceed leave nothing behind: exactly where the answers to the
orders of the request agree, or one of them is an exception. -/
structure FullCloseLaw : Prop where
  close : ∀ w r reason price, CloseLeavesNothing M w r reason price ↔
    M.script.Settles (M.view w.rest) r
  exit : ∀ (P : Processor Pos) w signal, IsFullExit signal.action →
    (ExitLeavesNothing M P w signal ↔ ∀ row, exitRow M w signal = some row →
      M.script.Settles (M.view w.rest) (exitRequest M signal row))
  cleanup : ∀ w signal, CleanupLeavesNothing M w signal ↔
    ∀ ticket ∈ cleanupTickets M w signal,
      M.script.Settles (M.view w.rest) ⟨signal.symbol, some signal.strategy, ticket⟩

theorem ClosingMarket.fullCloseLaw : FullCloseLaw M where
  close := closeLeavesNothing_iff M
  exit P w _ hexit := exitLeavesNothing_iff M P w hexit
  cleanup := cleanupLeavesNothing_iff M

end Closing

/-- Both markets obey it, on every account. -/
theorem fullClose_leavesNothing_iff (forex : ForexExecutor) (account : ForexAccount)
    (crypto : CryptoExecutor) (exchange : ExchangeAccount) :
    FullCloseLaw (forexClosing forex account) ∧ FullCloseLaw (cryptoClosing crypto exchange) :=
  ⟨ClosingMarket.fullCloseLaw _, ClosingMarket.fullCloseLaw _⟩

/-! ## A close filled for one ticket of two -/

/-- Strategy `GOLD` trades under magic 7. -/
def goldExecutor : ForexExecutor where
  config := {}
  strategyMagicMap := [("GOLD", 7)]

/-- An account that fills its first close and refuses the next. -/
def halfFilled : ForexAccount where
  resolve := id
  close n := .ok (if n = 0 then { success := true, retcode := some 10009 }
    else .fail "Requote")
  other _ := .error (.gateway "not connected")
  host := HostOp.quiet

def twoLots : World ForexBook where
  db := .empty
  rest := { positions := [goldPosition 101, goldPosition 102], distinct := by decide }

/-- The close of `GOLD` succeeds with ticket 102 still live. -/
theorem halfFilled_leaves_lot :
    ¬ CloseLeavesNothing (forexClosing goldExecutor halfFilled) twoLots
      ⟨"XAUUSD", some "GOLD", none⟩ "SL" none := by
  rw [closeLeavesNothing_iff]
  have hmatched : (forexClosing goldExecutor halfFilled).script.matched
      ((forexClosing goldExecutor halfFilled).view twoLots.rest)
      ⟨"XAUUSD", some "GOLD", none⟩ = [goldPosition 101, goldPosition 102] := by decide
  rintro (hnone | hopening | ⟨i, -, e, he⟩ | hrefused | hfilled)
  · rw [hmatched] at hnone
    cases hnone
  · cases hopening
  · cases he
  · obtain ⟨r, hr, hdone⟩ := hrefused 0 (by rw [hmatched]; decide)
    cases hr
    cases hdone
  · obtain ⟨r, hr, hdone⟩ := hfilled 1 (by rw [hmatched]; decide)
    cases hr
    cases hdone

end TradeWorker
