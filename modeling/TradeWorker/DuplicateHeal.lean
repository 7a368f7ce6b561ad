import TradeWorker.World

/-!
# The duplicate-row self-heal

`_get_db_position` keeps the first active row of its lookup key and marks the
others `FORCED_CLOSED`. The rows were written under the full key, strategy,
symbol and `signal_uxid`, and the unique index allows one active row for each;
the lookup uses the uxid only when the market allows several positions and the
signal carries one. Where the lookup is as wide as the rows there is nothing to
heal; where it is narrower, what it finds besides the first row are the live
rows of other signals.
-/

namespace TradeWorker

/-! ## One row for each key -/

/-- Two rows of one lookup cannot both be active under one key. -/
theorem activeByStrategy_pairwise (db : Db) (strategy symbol : String)
    (uxid : Option String) :
    (db.activeByStrategy strategy symbol uxid).Pairwise fun a b => a.key ≠ b.key := by
  have hsub : (db.activeByStrategy strategy symbol uxid).Pairwise
      fun a b => ¬ a.Conflicts b := db.oneActive.filter _
  refine hsub.imp_of_mem fun {a b} ha hb hab hkey => hab ⟨?_, ?_, hkey⟩
  · have := (List.mem_filter.mp ha).2
    simp only [Row.matchesStrategy, Bool.and_eq_true] at this
    exact this.1.2
  · have := (List.mem_filter.mp hb).2
    simp only [Row.matchesStrategy, Bool.and_eq_true] at this
    exact this.1.2

/-- A lookup by a uxid finds rows of one key. -/
theorem activeByStrategy_key {db : Db} {strategy symbol : String} {uxid : Option String}
    {u : String} (hu : text? uxid = some u) {r : Row}
    (hr : r ∈ db.activeByStrategy strategy symbol uxid) :
    r.key = (strategy, symbol, u) := by
  have := (List.mem_filter.mp hr).2
  simp only [Row.matchesStrategy, hu, Bool.and_eq_true, decide_eq_true_eq] at this
  obtain ⟨⟨⟨hstrategy, hsymbol⟩, -⟩, huxid⟩ := this
  simp [Row.key, hstrategy, hsymbol, huxid]

/-- Under the index, a lookup by a uxid finds at most one row. -/
theorem activeByStrategy_length_le_one {db : Db} {strategy symbol : String}
    {uxid : Option String} {u : String} (hu : text? uxid = some u) :
    (db.activeByStrategy strategy symbol uxid).length ≤ 1 := by
  have hpair := activeByStrategy_pairwise db strategy symbol uxid
  have hkey : ∀ r ∈ db.activeByStrategy strategy symbol uxid,
      r.key = (strategy, symbol, u) := fun _ => activeByStrategy_key hu
  match hrows : db.activeByStrategy strategy symbol uxid with
  | [] => simp
  | [_] => simp
  | a :: b :: rest =>
      rw [hrows] at hpair hkey
      have hab := (List.pairwise_cons.mp hpair).1 b List.mem_cons_self
      exact absurd ((hkey a (by simp)).trans (hkey b (by simp)).symm) hab

theorem uxidScope_text? {Pos : Type} {market : ExecutorBackedMarket Pos} {signal : Signal}
    {u : String} (h : SignalHandler.uxidScope market signal = some u) :
    text? (SignalHandler.uxidScope market signal) = some u := by
  rw [h]
  unfold SignalHandler.uxidScope at h
  split at h
  · exact text?_eq_some.mpr ⟨rfl, (text?_eq_some.mp h).2⟩
  · cases h

/-! ## What the lookup does to the store -/

/-- Row `i` went to `FORCED_CLOSED`. -/
def HealMarks (before after : Db) (i : Nat) (row : Row) : Prop :=
  before.rows[i]? = some row ∧ row.status ≠ .forcedClosed ∧
    ∃ row', after.rows[i]? = some row' ∧ row'.status = .forcedClosed

/-- Every row the lookup marks shares the full key of the row it keeps. -/
def HealsKeyOnly {β : Type} (B : Backend β) (w : World β) (strategy symbol : String)
    (uxid : Option String) : Prop :=
  ∀ answer w', Prog.run B.serve (SignalHandler.getDbPosition strategy symbol uxid) w =
      (answer, w') →
    ∀ i row, HealMarks w.db w'.db i row →
      ∃ kept, answer = .ok (some kept) ∧ row.key = kept.key

section Lookup

variable {β : Type} (B : Backend β) (w : World β) (strategy symbol : String)
  (uxid : Option String)

/-- With at most one row found, the lookup writes nothing. -/
theorem getDbPosition_of_length_le_one
    (h : (w.db.activeByStrategy strategy symbol uxid).length ≤ 1) :
    Prog.run B.serve (SignalHandler.getDbPosition strategy symbol uxid) w =
      (.ok (w.db.activeByStrategy strategy symbol uxid).head?, w) := by
  rw [SignalHandler.getDbPosition,
    Prog.run_bind_ok _ (run_getOpenPositionsByStrategy B w strategy symbol uxid)]
  match hrows : w.db.activeByStrategy strategy symbol uxid with
  | [] => rfl
  | [kept] => rfl
  | _ :: _ :: _ => simp [hrows] at h

/-- With more, every row after the first is closed under its reference. -/
theorem getDbPosition_of_cons {kept : Row} {duplicates : List Row}
    (h : w.db.activeByStrategy strategy symbol uxid = kept :: duplicates) :
    ∃ db, Prog.run B.serve (SignalHandler.getDbPosition strategy symbol uxid) w =
        (.ok (some kept), { w with db }) ∧
      db.rows = w.db.rows.map
        (·.updateEach (duplicates.map SignalHandler.healDuplicate) w.db.clock) ∧
      db.logs = w.db.logs := by
  have hclosed : ∀ u ∈ duplicates.map SignalHandler.healDuplicate,
      u.status.isActive = false := by
    rintro u hu
    obtain ⟨r, -, rfl⟩ := List.mem_map.mp hu
    rfl
  obtain ⟨db, hrun, hrows, hlogs, -⟩ := run_updateEach_inactive B w hclosed
  refine ⟨db, ?_, hrows, hlogs⟩
  rw [SignalHandler.getDbPosition,
    Prog.run_bind_ok _ (run_getOpenPositionsByStrategy B w strategy symbol uxid), h]
  exact Prog.run_bind_ok _ hrun

/-- A lookup that finds two rows closes the second, which has another key. -/
theorem marks_other_key {kept duplicate : Row} {rest : List Row}
    (h : w.db.activeByStrategy strategy symbol uxid = kept :: duplicate :: rest) :
    ¬ HealsKeyOnly B w strategy symbol uxid := by
  intro hheal
  have hmem : duplicate ∈ w.db.activeByStrategy strategy symbol uxid := by simp [h]
  obtain ⟨hrow, hmatch⟩ := List.mem_filter.mp hmem
  obtain ⟨i, hi⟩ := List.mem_iff_getElem?.mp hrow
  obtain ⟨db, hrun, hrows, -⟩ := getDbPosition_of_cons B w strategy symbol uxid h
  have hactive : duplicate.status ≠ .forcedClosed := by
    intro hs
    simp [Row.matchesStrategy, Row.isActive, PositionStatus.isActive, hs] at hmatch
  have hmark : HealMarks w.db db i duplicate := by
    refine ⟨hi, hactive, _, by rw [hrows, List.getElem?_map, hi]; rfl, ?_⟩
    rw [Row.updateEach_status (s := .forcedClosed)]
    · simp [SignalHandler.healDuplicate]
    · intro u hu
      obtain ⟨r, -, rfl⟩ := List.mem_map.mp hu
      rfl
  obtain ⟨_, hkept, hkey⟩ := hheal _ _ hrun i duplicate hmark
  cases hkept
  have hpair := activeByStrategy_pairwise w.db strategy symbol uxid
  rw [h] at hpair
  exact (List.pairwise_cons.mp hpair).1 duplicate List.mem_cons_self hkey.symm

end Lookup

/-- The self-heal keeps to the key of the row it keeps exactly when the signal's
uxid scopes the lookup, or at most one row of the strategy is active on the
symbol; and then it marks nothing at all. -/
theorem getDbPosition_healsKeyOnly_iff {β : Type} (B : Backend β) (w : World β)
    {Pos : Type} (market : ExecutorBackedMarket Pos) (signal : Signal) :
    (HealsKeyOnly B w signal.strategy signal.symbol (SignalHandler.uxidScope market signal)
      ↔ (SignalHandler.uxidScope market signal).isSome ∨
        (w.db.activeByStrategy signal.strategy signal.symbol none).length ≤ 1) ∧
    (HealsKeyOnly B w signal.strategy signal.symbol (SignalHandler.uxidScope market signal)
      → ∀ answer w', Prog.run B.serve (SignalHandler.getDbPosition signal.strategy
          signal.symbol (SignalHandler.uxidScope market signal)) w = (answer, w') →
        ∀ i row, ¬ HealMarks w.db w'.db i row) := by
  generalize hu : SignalHandler.uxidScope market signal = uxid
  have hshort : uxid.isSome ∨
      (w.db.activeByStrategy signal.strategy signal.symbol none).length ≤ 1 →
      (w.db.activeByStrategy signal.strategy signal.symbol uxid).length ≤ 1 := by
    intro h
    cases uxid with
    | none => simpa using h
    | some u => exact activeByStrategy_length_le_one (hu ▸ uxidScope_text? hu)
  have hnone : (w.db.activeByStrategy signal.strategy signal.symbol uxid).length ≤ 1 →
      ∀ answer w', Prog.run B.serve
          (SignalHandler.getDbPosition signal.strategy signal.symbol uxid) w =
          (answer, w') → ∀ i row, ¬ HealMarks w.db w'.db i row := by
    intro h answer w' hrun i row
    rw [getDbPosition_of_length_le_one B w _ _ _ h] at hrun
    cases hrun
    rintro ⟨hi, hne, row', hi', hs⟩
    rw [hi] at hi'
    cases hi'
    exact hne hs
  have hlen : HealsKeyOnly B w signal.strategy signal.symbol uxid →
      (w.db.activeByStrategy signal.strategy signal.symbol uxid).length ≤ 1 := by
    intro hheal
    match hrows : w.db.activeByStrategy signal.strategy signal.symbol uxid with
    | [] => simp
    | [_] => simp
    | _ :: _ :: _ => exact absurd hheal (marks_other_key B w _ _ _ hrows)
  refine ⟨⟨fun hheal => ?_, fun h answer w' hrun i row hmark => ?_⟩, fun hheal => ?_⟩
  · cases uxid with
    | none => exact Or.inr (hlen hheal)
    | some u => exact Or.inl rfl
  · exact absurd hmark (hnone (hshort h) answer w' hrun i row)
  · exact hnone (hlen hheal)

/-! ## A stop-out without a uxid -/

/-- A silent backend: the lookup only talks to the store. -/
def silentBackend : Backend Unit where
  fx _ s := (.error (.other "no platform"), s)
  cx _ s := (.error (.other "no exchange"), s)
  host _ s := (.error (.other "no host"), s)

/-- A tracked row of strategy `GOLD` on `XAUUSD`. -/
def goldRow (id : Nat) (ref uxid : String) : Row :=
  { id, refSourceId := ref, refId := ref, signalUxid := some uxid, strategy := "GOLD"
    symbol := "XAUUSD", action := "long", volume := 1, openedPrice := 2400
    status := .opened }

def twoSignals : World Unit where
  db := { rows := [goldRow 1 "101" "a", goldRow 2 "102" "b"], oneActive := by decide }
  rest := ()

/-- A FOREX market that allows several positions for each symbol. -/
def multiPositionMarket : ExecutorBackedMarket PlatformPosition :=
  forexMarket
    { config := { allowMultiPositionsPerSymbol := true }
      strategyMagicMap := [("GOLD", 7)] }

/-- A stop-out whose payload carries no uxid. -/
def plainStopOut : Signal :=
  { strategy := "GOLD", timestamp := 0, action := .sl, symbol := "XAUUSD" }

/-- It writes off the second signal's live row. -/
theorem plainStopOut_marks_sibling :
    ¬ HealsKeyOnly silentBackend twoSignals plainStopOut.strategy plainStopOut.symbol
      (SignalHandler.uxidScope multiPositionMarket plainStopOut) := by
  have hrows : twoSignals.db.activeByStrategy plainStopOut.strategy plainStopOut.symbol
      (SignalHandler.uxidScope multiPositionMarket plainStopOut) =
        [goldRow 1 "101" "a", goldRow 2 "102" "b"] := by decide
  exact marks_other_key silentBackend twoSignals _ _ _ hrows

end TradeWorker
