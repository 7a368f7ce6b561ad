import TradeWorker.EntryTracking

/-!
# The guard and the handler's own policy

One order for each key is said three times: by the entry guard, by the handler before
it clears rows, and by the crypto executor before it orders. The guard is the
strictest of them. An entry it accepts finds no row to clear, and no row that either
of the others would refuse it for.
-/

namespace TradeWorker

/-! ## What the guard lets pass -/

namespace Guard

variable {β : Type} (B : Backend β) (w : World β) (signal : Signal)

/-- The guard reads, and accepts when no active row of the symbol blocks the entry. -/
theorem symbolOpenRejection_run (multiStrategy multiPositions : Bool) : ∃ reason,
    Prog.run B.serve (symbolOpenRejection signal multiStrategy multiPositions) w =
      (.ok reason, w) ∧
    (reason = none ↔ ∀ row ∈ w.db.activeForFlat none (some signal.symbol) none,
      blocks signal multiStrategy (multiPositions && (text? signal.signalUxid).isSome) row =
        false) := by
  unfold symbolOpenRejection
  rw [Prog.run_bind_ok _ (run_getOpenPositionsForFlat ..)]
  dsimp only
  split
  · rename_i hnone
    refine ⟨none, rfl, iff_of_true rfl fun row hrow => ?_⟩
    simpa using List.filter_eq_nil_iff.mp hnone row hrow
  · rename_i hsome
    refine ⟨some _, rfl, iff_of_false (by simp) fun h => ?_⟩
    refine hsome (List.filter_eq_nil_iff.mpr fun row hrow => ?_)
    simp [h row hrow]

theorem symbolOpenRejection_accepts_iff (multiStrategy multiPositions : Bool) :
    (Prog.run B.serve (symbolOpenRejection signal multiStrategy multiPositions) w).1 =
        .ok none ↔
      ∀ row ∈ w.db.activeForFlat none (some signal.symbol) none,
        blocks signal multiStrategy (multiPositions && (text? signal.signalUxid).isSome) row =
          false := by
  obtain ⟨reason, hrun, hiff⟩ :=
    symbolOpenRejection_run B w signal multiStrategy multiPositions
  rw [hrun, ← hiff, Except.ok.injEq]

end Guard

/-- What the guard accepts, as a condition on the store. -/
def Admits {Pos : Type} (market : ExecutorBackedMarket Pos) (db : Db) (signal : Signal) : Prop :=
  ∀ row ∈ db.activeForFlat none (some signal.symbol) none,
    Guard.blocks signal market.allowsMultiStrategyPerSymbol
      (market.allowsMultiPositionsPerSymbol && (text? signal.signalUxid).isSome) row = false

/-- The unfiltered columns of a flat lookup ask nothing of a row. -/
theorem mem_activeForFlat_of_symbol {db : Db} {row : Row} {symbol : String}
    (hrow : row ∈ db.rows) (hactive : row.isActive = true) (hsymbol : row.symbol = symbol) :
    row ∈ db.activeForFlat none (some symbol) none := by
  refine List.mem_filter.mpr ⟨hrow, ?_⟩
  have htext : (text? (some symbol)).all (row.symbol = ·) = true := by
    cases h : text? (some symbol) with
    | none => rfl
    | some s => simp [hsymbol, Option.some.inj (text?_eq_some.mp h).1]
  simp [Row.matchesFlat, hactive, htext]

namespace Admits

variable {Pos : Type} {market : ExecutorBackedMarket Pos} {db : Db} {signal : Signal}

/-- Where strategies may not share a symbol, it is the signal's own strategy that holds
it, if any. -/
theorem holder (h : Admits market db signal)
    (hsingle : market.allowsMultiStrategyPerSymbol = false) {row : Row}
    (hrow : row ∈ db.activeForFlat none (some signal.symbol) none) :
    row.strategy = signal.strategy := by
  by_contra hne
  have hblocks := h row hrow
  simp [Guard.blocks, hne, hsingle] at hblocks

/-- The signal's own strategy has no row on the symbol, or none under the uxid. -/
theorem own_row (h : Admits market db signal) {row : Row} (hrow : row ∈ db.rows)
    (hactive : row.isActive = true) (hstrategy : row.strategy = signal.strategy)
    (hsymbol : row.symbol = signal.symbol) :
    market.allowsMultiPositionsPerSymbol = true ∧ (text? signal.signalUxid).isSome = true ∧
      row.signalUxid ≠ signal.signalUxid := by
  have hblocks := h row (mem_activeForFlat_of_symbol hrow hactive hsymbol)
  simpa [Guard.blocks, hstrategy, and_assoc] using hblocks

/-- The lookup of an accepted entry finds no row. -/
theorem activeByStrategy_eq_nil (h : Admits market db signal) :
    db.activeByStrategy signal.strategy signal.symbol
      (SignalHandler.uxidScope market signal) = [] := by
  refine List.filter_eq_nil_iff.mpr fun row hrow hmatch => ?_
  simp only [Row.matchesStrategy, Bool.and_eq_true, decide_eq_true_eq] at hmatch
  obtain ⟨⟨⟨hstrategy, hsymbol⟩, hactive⟩, huxid⟩ := hmatch
  obtain ⟨hmulti, hsome, hne⟩ := h.own_row hrow hactive hstrategy hsymbol
  obtain ⟨u, hu⟩ := Option.isSome_iff_exists.mp hsome
  have hscope : SignalHandler.uxidScope market signal = some u := by
    simp [SignalHandler.uxidScope, hmulti, hu]
  rw [uxidScope_text? hscope] at huxid
  exact hne ((of_decide_eq_true huxid).trans (text?_eq_some.mp hu).1.symm)

/-- Nobody else's row makes the handler refuse it. -/
theorem not_netting (h : Admits market db signal) :
    ¬ ((((db.activeForFlat none (some signal.symbol) none).map (·.strategy)).filter
      (· ≠ signal.strategy)).dedup ≠ [] ∧ ¬ market.allowsMultiStrategyPerSymbol) := by
  rintro ⟨hothers, hsingle⟩
  refine hothers ?_
  rw [List.dedup_eq_nil]
  refine List.filter_eq_nil_iff.mpr fun strategy hmem => ?_
  obtain ⟨row, hrow, rfl⟩ := List.mem_map.mp hmem
  simpa using h.holder (by simpa using hsingle) hrow

end Admits

/-! ## The handler behind the guard -/

namespace SignalHandler

variable {β : Type} (m : Market) (B : Backend β) (w : World β) {signal : Signal}

/-- An accepted entry passes the handler's netting guard. -/
theorem handleEntry_of_admits (h : Admits m.strategy w.db signal) :
    Prog.run B.serve (handleEntry m.strategy signal) w =
      Prog.run B.serve (replaceStale m.strategy signal) w := by
  unfold handleEntry
  rw [Prog.run_bind_ok _ (run_getOpenPositionsForFlat ..)]
  dsimp only
  rw [if_neg h.not_netting]

/-- With no row found, the rest of an entry is work at the broker. -/
theorem enterFresh_nil_brokering (signal : Signal) (stale : Bool) (cleanup : TradeResult) :
    Prog.Sends brokering (fun _ => True) (enterFresh m.strategy signal [] stale cleanup) := by
  refine Prog.Sends.bind (Q := fun _ => True) (by simp [updateEach]) fun _ _ => ?_
  exact Prog.Sends.bind (m.atBroker.openPosition signal) fun _ _ => by simp

/-- It changes no row. -/
theorem handleEntry_db_of_admits (h : Admits m.strategy w.db signal) :
    (Prog.run B.serve (handleEntry m.strategy signal) w).2.db = w.db := by
  rw [handleEntry_of_admits m B w h]
  unfold replaceStale
  rw [Prog.run_bind_ok _ (run_getOpenPositionsByStrategy ..), h.activeByStrategy_eq_nil]
  refine run_brokering (Q := fun _ => True) ?_ B w
  refine Prog.Sends.bind (collectStale_brokering m ..) fun stale _ => ?_
  split
  · exact enterFresh_nil_brokering m ..
  · refine Prog.Sends.bind (forceCloseStale_brokering m ..) fun cleanup _ => ?_
    split
    · exact enterFresh_nil_brokering m ..
    · simp

end SignalHandler

/-- The exchange's netting guard has nothing against it either. -/
theorem CryptoExecutor.nettingConflict_of_admits {ex : CryptoExecutor} {β : Type}
    (B : Backend β) (w : World β) {signal : Signal}
    (h : Admits (cryptoMarket ex) w.db signal) (symbol : String) :
    Prog.run B.serve (ex.nettingConflict signal symbol) w = (.ok none, w) := by
  unfold nettingConflict
  split
  · rfl
  · rw [Prog.run_bind_ok _ (run_getOpenPositionsForFlat ..)]
    dsimp only
    have hnone := h.not_netting
    simp only [ne_eq, cryptoMarket, not_and, not_not] at hnone
    rw [if_pos]
    · rfl
    · by_contra hothers
      exact absurd (hnone hothers) (by simp)

/-- An entry the guard accepts meets no netting conflict in the handler and none in the
crypto executor, and changes no row. -/
theorem admittedEntry_keepsRows (m : Market) {β : Type} (B : Backend β) (w : World β)
    (signal : Signal)
    (haccept : (Prog.run B.serve (Guard.symbolOpenRejection signal
      m.strategy.allowsMultiStrategyPerSymbol m.strategy.allowsMultiPositionsPerSymbol) w).1 =
        .ok none) :
    Prog.run B.serve (SignalHandler.handleEntry m.strategy signal) w =
        Prog.run B.serve (SignalHandler.replaceStale m.strategy signal) w ∧
      (Prog.run B.serve (SignalHandler.handleEntry m.strategy signal) w).2.db = w.db ∧
      ∀ ex, m = .crypto ex → ∀ symbol (w' : World β), w'.db = w.db →
        Prog.run B.serve (ex.nettingConflict signal symbol) w' = (.ok none, w') := by
  have hadmits : Admits m.strategy w.db signal :=
    (Guard.symbolOpenRejection_accepts_iff B w signal _ _).mp haccept
  refine ⟨SignalHandler.handleEntry_of_admits m B w hadmits,
    SignalHandler.handleEntry_db_of_admits m B w hadmits, ?_⟩
  rintro ex rfl symbol w' hdb
  exact CryptoExecutor.nettingConflict_of_admits B w' (hdb ▸ hadmits) symbol

def secondSignal : Signal := { reentry with signalUxid := some "c" }

theorem secondSignal_keepsRows :
    (Prog.run fillingPlatform.serve
      (SignalHandler.handleEntry multiPositions.strategy secondSignal) twoSignals).2.db =
        twoSignals.db :=
  (admittedEntry_keepsRows multiPositions fillingPlatform twoSignals secondSignal
    (by
      refine (Guard.symbolOpenRejection_accepts_iff ..).mpr ?_
      decide +kernel)).2.1

end TradeWorker
