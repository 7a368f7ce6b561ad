import TradeWorker.Broker
import TradeWorker.DuplicateHeal
import TradeWorker.MarketFootprint

/-!
# An accepted entry can be stored

The unique index tells active rows apart by strategy, symbol and `signal_uxid`,
whatever the toggles say. An entry clears the rows it finds under its own strategy
and symbol, and under its uxid where uxids count; it finds at least those of the key
its own row is about to take. So when the broker has filled it, the row goes in.
-/

namespace TradeWorker

/-- Whether a row keeps the key from being used again. -/
def HoldsKey (db : Db) (key : String × String × String) : Prop :=
  ∃ row ∈ db.rows, row.isActive = true ∧ row.key = key

theorem OneActive.append {rows : List Row} (h : OneActive rows) {r : Row}
    (hfree : ∀ row ∈ rows, row.isActive = true → row.key ≠ r.key) : OneActive (rows ++ [r]) := by
  refine List.pairwise_append.mpr ⟨h, List.pairwise_singleton _ _, ?_⟩
  intro row hrow r' hr' hconflict
  obtain rfl := List.mem_singleton.mp hr'
  exact hfree row hrow hconflict.1 hconflict.2.2

theorem Db.oneActive_append {db : Db} {n : NewRow} {id : Nat} {now : Int} {r : Row}
    (hr : n.toRow? id now = some r)
    (hfree : ¬ HoldsKey db (n.strategy, n.symbol, n.signalUxid.getD "")) :
    OneActive (db.rows ++ [r]) := by
  have hkey := (NewRow.toRow?_key hr).1
  refine db.oneActive.append fun row hrow hactive hrowkey => hfree ?_
  exact ⟨row, hrow, hactive, hrowkey.trans hkey⟩

/-- An insert under a free key that names its columns is taken. -/
theorem Db.serve_insertRow_of_free {db : Db} {n : NewRow} {r : Row}
    (hr : n.toRow? (db.rows.length + 1) db.clock = some r)
    (hfree : ¬ HoldsKey db (n.strategy, n.symbol, n.signalUxid.getD "")) :
    (Db.serve (.insertRow n) db).2.rows = db.rows ++ [r] := by
  simp [Db.serve, Db.insertRow, hr, Db.oneActive_append hr hfree]

theorem Db.insertRow_of_free {db : Db} {n : NewRow}
    (hfree : ¬ HoldsKey db (n.strategy, n.symbol, n.signalUxid.getD "")) :
    db.insertRow n ≠ .error (.sqlite "UNIQUE constraint failed") := by
  unfold Db.insertRow
  cases hr : n.toRow? (db.rows.length + 1) db.clock with
  | none => simp
  | some r => simp [Db.oneActive_append hr hfree]

namespace SignalHandler

/-! ## What an entry finds -/

/-- The lookup of an entry finds every active row under the key of the signal. -/
theorem mem_activeByStrategy_of_rowKey {Pos : Type} {market : ExecutorBackedMarket Pos}
    {signal : Signal} {db : Db} {row : Row} (hrow : row ∈ db.rows)
    (hactive : row.isActive = true) (hkey : row.key = signal.rowKey) :
    row ∈ db.activeByStrategy signal.strategy signal.symbol (uxidScope market signal) := by
  obtain ⟨hstrategy, hsymbol, huxid⟩ : row.strategy = signal.strategy ∧
      row.symbol = signal.symbol ∧ row.signalUxid.getD "" = signal.signalUxid.getD "" := by
    simpa [Row.key, Signal.rowKey] using hkey
  refine List.mem_filter.mpr ⟨hrow, ?_⟩
  cases hu : uxidScope market signal with
  | none => simp [Row.matchesStrategy, hstrategy, hsymbol, hactive]
  | some u =>
      have hscope := uxidScope_text? hu
      have hu' : text? signal.signalUxid = some u := by
        unfold uxidScope at hu
        split at hu
        · exact hu
        · cases hu
      obtain ⟨hsignal, hne⟩ := text?_eq_some.mp hu'
      have hrowUxid : row.signalUxid = some u := by
        rw [hsignal, Option.getD_some] at huxid
        cases hr : row.signalUxid with
        | none =>
            rw [hr] at huxid
            exact absurd huxid.symm hne
        | some v =>
            rw [hr] at huxid
            exact congrArg some huxid
      rw [hu] at hscope
      simp [Row.matchesStrategy, hstrategy, hsymbol, hactive, hscope, hrowUxid]

variable (m : Market)

/-- Looking for stale positions is work at the broker. -/
theorem collectStale_brokering (symbol strategy : String) (tickets : List (Option String)) :
    Prog.Sends brokering (fun _ => True)
      (collectStale m.strategy symbol strategy tickets) := by
  induction tickets with
  | nil => simp [collectStale]
  | cons ticket rest ih =>
      refine Prog.Sends.bind (Q := fun _ => True) ?_ fun found _ => ?_
      · exact Prog.Sends.bind (m.atBroker.getOpenPositions ..) fun _ _ => by simp
      · exact Prog.Sends.bind ih fun _ _ => by simp

theorem forceCloseStale_brokering (symbol strategy : String) (tickets : List (Option String)) :
    Prog.Sends brokering (fun _ => True)
      (forceCloseStale m.strategy symbol strategy tickets) := by
  unfold forceCloseStale
  generalize ({ success := true, retcode := none } : TradeResult) = report
  induction tickets generalizing report with
  | nil => simp [forceCloseEach]
  | cons ticket rest ih =>
      refine Prog.Sends.bind (m.atBroker.closeAllPositions ..) fun cleanup _ => ?_
      split
      · exact ih _
      · simp

/-! ## What it leaves -/

def Cleared (before : Db) (found : List Row) (after : Db) : Prop :=
  ∀ row ∈ after.rows, row.isActive = true →
    row ∈ before.rows ∧ row.refSourceId ∉ found.map (·.refSourceId)

theorem cleared_of_updateEach {before after : Db} {found : List Row} {stale : Bool}
    {cleanup : TradeResult}
    (hrows : after.rows =
      before.rows.map (·.updateEach (found.map (clearStale stale cleanup)) before.clock)) :
    Cleared before found after := by
  intro row hrow hactive
  rw [hrows] at hrow
  obtain ⟨r, hr, rfl⟩ := List.mem_map.mp hrow
  have hnot : r.refSourceId ∉ found.map (·.refSourceId) := by
    intro hmem
    obtain ⟨f, hf, href⟩ := List.mem_map.mp hmem
    have hforced : ∀ u ∈ found.map (clearStale stale cleanup), u.status = .forcedClosed :=
      List.forall_mem_map.mpr fun _ _ => rfl
    have hstatus := r.updateEach_status hforced before.clock
    rw [if_pos] at hstatus
    · rw [Row.isActive, hstatus] at hactive
      cases hactive
    · exact List.any_eq_true.mpr ⟨_, List.mem_map_of_mem hf, by simp [clearStale, href]⟩
  have hsame : r.updateEach (found.map (clearStale stale cleanup)) before.clock = r := by
    refine Row.updateEach_of_ne ?_ _
    intro u hu href
    obtain ⟨f, hf, rfl⟩ := List.mem_map.mp hu
    exact hnot (List.mem_map.mpr ⟨f, hf, Option.some.inj href⟩)
  rw [hsame]
  exact ⟨hr, hnot⟩

variable {β : Type} (B : Backend β) {w : World β}

/-- The second half of an entry clears the rows it was given, and places the order. -/
theorem enterFresh_cleared (w : World β) (signal : Signal) (found : List Row) (stale : Bool)
    (cleanup : TradeResult) :
    Cleared w.db found
      (Prog.run B.serve (enterFresh m.strategy signal found stale cleanup) w).2.db := by
  have hclosed : ∀ u ∈ found.map (clearStale stale cleanup), u.status.isActive = false :=
    List.forall_mem_map.mpr fun _ _ => rfl
  obtain ⟨db, hrun, hrows, -, -⟩ := run_updateEach_inactive B w hclosed
  have hentry : Prog.Sends brokering (fun _ => True) (do
      let result ← m.strategy.entry signal
      if found.isEmpty then pure result
      else pure { result with forcedClosed := found.map (forcedClosedEntry cleanup) }) := by
    refine Prog.Sends.bind (m.atBroker.openPosition signal) fun result _ => ?_
    split <;> simp
  unfold enterFresh
  rw [Prog.run_bind_ok _ hrun, run_brokering hentry]
  exact cleared_of_updateEach hrows

/-- A successful entry has cleared every row its lookup found. -/
theorem handleEntry_cleared {signal : Signal} {result : TradeResult} {w' : World β}
    (hrun : Prog.run B.serve (handleEntry m.strategy signal) w = (.ok result, w'))
    (hsuccess : result.success = true) :
    Cleared w.db (w.db.activeByStrategy signal.strategy signal.symbol
      (uxidScope m.strategy signal)) w'.db := by
  unfold handleEntry at hrun
  rw [Prog.run_bind_ok _ (run_getOpenPositionsForFlat ..)] at hrun
  dsimp only at hrun
  split at hrun
  · -- the netting guard: a refusal is no success
    obtain ⟨rfl, -⟩ : nettingRefusal _ _ = result ∧ w = w' := by simpa using hrun
    cases hsuccess
  unfold replaceStale at hrun
  rw [Prog.run_bind_ok _ (run_getOpenPositionsByStrategy ..)] at hrun
  generalize w.db.activeByStrategy signal.strategy signal.symbol
    (uxidScope m.strategy signal) = found at hrun ⊢
  obtain ⟨stale, w₁, hdb₁, hrun⟩ :=
    run_bind_brokering (collectStale_brokering m signal.symbol signal.strategy _) hrun
  split at hrun
  · have hcleared := enterFresh_cleared m B w₁ signal found false noCleanup
    rwa [hrun, hdb₁] at hcleared
  obtain ⟨cleanup, w₂, hdb₂, hrun⟩ :=
    run_bind_brokering (forceCloseStale_brokering m signal.symbol signal.strategy _) hrun
  split at hrun
  · have hcleared := enterFresh_cleared m B w₂ signal found true cleanup
    rwa [hrun, hdb₂, hdb₁] at hcleared
  · -- a failed cleanup is no success either
    have hresult := congrArg (·.1) hrun
    simp only [Prog.pure_eq, Prog.run_ret, Except.ok.injEq] at hresult
    rw [← hresult] at hsuccess
    cases hsuccess

/-- So the key of its own row is free. -/
theorem handleEntry_frees {signal : Signal} {result : TradeResult} {w' : World β}
    (hrun : Prog.run B.serve (handleEntry m.strategy signal) w = (.ok result, w'))
    (hsuccess : result.success = true) : ¬ HoldsKey w'.db signal.rowKey := by
  rintro ⟨row, hrow, hactive, hkey⟩
  obtain ⟨hbefore, hnot⟩ := handleEntry_cleared m B hrun hsuccess row hrow hactive
  refine hnot (List.mem_map.mpr ⟨row, ?_, rfl⟩)
  exact mem_activeByStrategy_of_rowKey hbefore hactive hkey

end SignalHandler

/-! ## The row goes in -/

/-- The operation came back with a success. -/
def succeeded : Except Exn TradeResult → Bool
  | .ok result => result.success
  | .error _ => false

/-- When an entry succeeds, the key its row is stored under is free, and the index takes
the row. -/
theorem acceptedEntry_isStored (m : Market) (settings : WorkerSettings) {β : Type}
    (B : Backend β) (w : World β) (signal : Signal)
    (hsuccess : succeeded
      (Prog.run B.serve (SignalHandler.handleEntry m.strategy signal) w).1 = true) :
    ¬ HoldsKey (Prog.run B.serve (SignalHandler.handleEntry m.strategy signal) w).2.db
        signal.rowKey ∧
      ∀ result magic,
        (Prog.run B.serve (SignalHandler.handleEntry m.strategy signal) w).2.db.insertRow
          ((m.processor settings).entryRow signal result magic) ≠
            .error (.sqlite "UNIQUE constraint failed") := by
  rcases hrun : Prog.run B.serve (SignalHandler.handleEntry m.strategy signal) w with
    ⟨e | result, w'⟩
  · rw [hrun] at hsuccess
    cases hsuccess
  rw [hrun] at hsuccess
  have hfree := SignalHandler.handleEntry_frees m B hrun hsuccess
  exact ⟨hfree, fun _ _ => Db.insertRow_of_free hfree⟩

def fillingPlatform : Backend Unit where
  fx
    | .resolveSymbol symbol, s => (.ok symbol, s)
    | .getTick _, s => (.ok (some { bid := 2400, ask := 2400 }), s)
    | .getPositions _, s => (.ok [], s)
    | .getSymbolSpec _, s => (.ok none, s)
    | .calcMargin .., s => (.ok none, s)
    | .placeOrder req, s =>
        (.ok { success := true, ticket := some "103", price := some req.price
               volume := some req.volume }, s)
    | _, s => (.error (.gateway "not asked"), s)
  cx _ s := (.error (.other "no exchange"), s)
  host o s := (.ok (HostOp.quiet o), s)

/-- FOREX with several positions for each symbol, trading the quantities it is sent. -/
def multiPositions : Market :=
  .forex
    { config := { volumeDecisionEnabled := false, allowMultiPositionsPerSymbol := true }
      strategyMagicMap := [("GOLD", 7)] }

/-- A second entry under the uxid of the first row. -/
def reentry : Signal :=
  { strategy := "GOLD", timestamp := 0, action := .long, symbol := "XAUUSD"
    signalUxid := some "a", quantity := some 1 }

/-- It clears that row, and leaves the other signal's. -/
theorem reentry_isStored :
    ¬ HoldsKey (Prog.run fillingPlatform.serve
        (SignalHandler.handleEntry multiPositions.strategy reentry) twoSignals).2.db
        reentry.rowKey :=
  (acceptedEntry_isStored multiPositions {} fillingPlatform twoSignals reentry
    (by decide +kernel)).1

end TradeWorker
