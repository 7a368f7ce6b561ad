import TradeWorker.Confirm
import TradeWorker.ForexExecutor
import TradeWorker.CryptoExecutor

/-!
# The reconcile job

`BasePositionReconcileJob` compares the rows the store holds open with the
positions the broker holds live, in both directions: a row that matches no live
position missed its close, a position that matches no row was opened by hand.
Either is acted on only when two consecutive scans saw it. A scan that has no
live positions to compare with does nothing, and one that cannot resolve every
row leaves the second direction alone.
-/

namespace TradeWorker

/-! ## One scan -/

/-- What one scan meets. The keys of a row are resolved once in each direction,
and either resolution may fail; the handlers may raise. -/
structure Scan (Pos Key Id : Type) where
  shouldScan : Bool
  fetchLivePositions : Except Exn (Option (List Pos))
  dbRows : List Row
  dbKeys : Row → Except Exn (Finset Key)
  trackedKeys : Row → Except Exn (Finset Key)
  liveKeys : Pos → Finset Key
  liveId : Pos → Id
  handler : Row → Except Exn Unit
  manualHandler : Pos → Except Exn Unit

structure ReconcileState (Id : Type) where
  suspected : Finset String
  suspectedManual : Finset Id

/-- What a scan leaves, and the handler calls it made with their outcomes. -/
structure ScanOutcome (Pos Id : Type) where
  state : ReconcileState Id
  closes : List (Row × Except Exn Unit) := []
  imports : List (Pos × Except Exn Unit) := []

namespace ReconcileJob

variable {Pos Key Id : Type} [DecidableEq Key] [DecidableEq Id]

def collectLiveKeys (liveKeys : Pos → Finset Key) : List Pos → Finset Key
  | [] => ∅
  | pos :: rest => liveKeys pos ∪ collectLiveKeys liveKeys rest

/-- `_is_row_stale`: keys that cannot be resolved, or are none, count as live. -/
def isRowStale (dbKeys : Row → Except Exn (Finset Key)) (live : Finset Key)
    (row : Row) : Bool :=
  match dbKeys row with
  | .error _ => false
  | .ok keys => keys ≠ ∅ ∧ Disjoint keys live

/-- The stale rows of a scan, under their `ref_source_id`. -/
def staleRows (s : Scan Pos Key Id) (live : List Pos) : List (String × Row) :=
  Confirm.keyBy Row.refSourceId
    (s.dbRows.filter (isRowStale s.dbKeys (collectLiveKeys s.liveKeys live)))

/-- The keys of every row, or the first failure to resolve one. -/
def trackedSet (trackedKeys : Row → Except Exn (Finset Key)) :
    List Row → Except Exn (Finset Key)
  | [] => .ok ∅
  | row :: rest => do
      let keys ← trackedKeys row
      let others ← trackedSet trackedKeys rest
      pure (keys ∪ others)

def untrackedPositions (s : Scan Pos Key Id) (live : List Pos) (tracked : Finset Key) :
    List (Id × Pos) :=
  Confirm.keyBy s.liveId (live.filter fun pos => Disjoint (s.liveKeys pos) tracked)

/-- `_reconcile_missed_closes`: the set is replaced before any handler runs. -/
def reconcileMissedCloses (s : Scan Pos Key Id) (live : List Pos)
    (st : ReconcileState Id) : ScanOutcome Pos Id :=
  let stale := staleRows s live
  { state := { st with suspected := Confirm.keySet stale }
    closes := (Confirm.confirmed st.suspected stale).map fun row => (row, s.handler row) }

/-- `_import_untracked_positions`, after the first direction. -/
def importUntrackedPositions (manual : Bool) (s : Scan Pos Key Id) (live : List Pos)
    (out : ScanOutcome Pos Id) : ScanOutcome Pos Id :=
  if manual then
    match trackedSet s.trackedKeys s.dbRows with
    | .error _ => out
    | .ok tracked =>
        let untracked := untrackedPositions s live tracked
        { out with
          state := { out.state with suspectedManual := Confirm.keySet untracked }
          imports := (Confirm.confirmed out.state.suspectedManual untracked).map
            fun pos => (pos, s.manualHandler pos) }
  else out

/-- The live positions a scan goes by, if it is performed at all. -/
def livePositions (s : Scan Pos Key Id) : Option (List Pos) :=
  if s.shouldScan then
    match s.fetchLivePositions with
    | .ok live => live
    | .error _ => none
  else none

/-- `_scan`, with the exception handling of `_run`. `manual` says whether a
manual handler is wired. -/
def scan (manual : Bool) (st : ReconcileState Id) (s : Scan Pos Key Id) :
    ScanOutcome Pos Id :=
  match livePositions s with
  | none => { state := st }
  | some live =>
      importUntrackedPositions manual s live (reconcileMissedCloses s live st)

/-- The suspect sets a new job starts from. -/
def initial : ReconcileState Id := { suspected := ∅, suspectedManual := ∅ }

/-- The suspect sets after a sequence of scans. -/
def runScans (manual : Bool) (st : ReconcileState Id) :
    List (Scan Pos Key Id) → ReconcileState Id
  | [] => st
  | s :: rest => runScans manual (scan manual st s).state rest

/-! ## The two hooks -/

def ticketKey (ticket : String) : String := "ticket:" ++ ticket

def slotKey (symbol : String) (magic : Int) : String :=
  "slot:" ++ symbol ++ ":" ++ toString magic

def symbolKey (symbol : String) : String := "symbol:" ++ symbol

/-- `ForexReconcileJob._live_keys`. -/
def forexLiveKeys (pos : PlatformPosition) : Finset String :=
  {ticketKey (ticketText pos.ticket), slotKey pos.symbol pos.magic, symbolKey pos.symbol}

/-- `ForexReconcileJob._db_keys`; an unknown magic leaves the symbol alone. -/
def forexDbKeys (ex : ForexExecutor) (resolve : String → Except Exn String) (row : Row) :
    Except Exn (Finset String) :=
  (resolve row.symbol).map fun symbol =>
    let slot := match ex.magicFor (some row.strategy) with
      | .ok magic => slotKey symbol magic
      | .error _ => symbolKey symbol
    {ticketKey row.refId, ticketKey row.refSourceId, slot}

/-- What a forex scan reads: the connection before it, the platform's positions,
the connection when they came back empty, and the symbol resolution. -/
structure ForexReads where
  connected : Bool
  positions : Except Exn (List PlatformPosition)
  stillConnected : Bool
  dbRows : List Row
  resolve : String → Except Exn String
  handler : Row → Except Exn Unit
  manualHandler : PlatformPosition → Except Exn Unit

/-- `ForexReconcileJob`: an empty book from a dropped terminal is no answer. -/
def forexScan (ex : ForexExecutor) (r : ForexReads) :
    Scan PlatformPosition String String where
  shouldScan := r.connected
  fetchLivePositions := r.positions.map fun positions =>
    let owned := positions.filter (·.magic ∈ ex.ownedMagics)
    if owned.isEmpty && !r.stillConnected then none else some owned
  dbRows := r.dbRows
  dbKeys := forexDbKeys ex r.resolve
  trackedKeys := forexDbKeys ex r.resolve
  liveKeys := forexLiveKeys
  liveId pos := ticketKey (ticketText pos.ticket)
  handler := r.handler
  manualHandler := r.manualHandler

/-- `CryptoReconcileJob`: one resolved symbol on each side. -/
def cryptoScan (ex : CryptoExecutor) (positions : Except Exn (List ExchangePosition))
    (dbRows : List Row) (handler : Row → Except Exn Unit)
    (manualHandler : ExchangePosition → Except Exn Unit) :
    Scan ExchangePosition String String where
  shouldScan := true
  fetchLivePositions := positions.map fun ps => some (ps.filter (0 < ·.volume))
  dbRows
  dbKeys row := .ok {ex.getSymbol row.symbol}
  trackedKeys row := .ok {ex.getSymbol row.symbol}
  liveKeys pos := {pos.symbol}
  liveId := ExchangePosition.symbol
  handler
  manualHandler

/-! ## What a scan can confirm -/

theorem mem_collectLiveKeys {liveKeys : Pos → Finset Key} {live : List Pos} {k : Key} :
    k ∈ collectLiveKeys liveKeys live ↔ ∃ pos ∈ live, k ∈ liveKeys pos := by
  induction live with
  | nil => simp [collectLiveKeys]
  | cons pos rest ih => simp [collectLiveKeys, ih]

theorem disjoint_collectLiveKeys {liveKeys : Pos → Finset Key} {live : List Pos}
    {keys : Finset Key} :
    Disjoint keys (collectLiveKeys liveKeys live) ↔
      ∀ pos ∈ live, Disjoint keys (liveKeys pos) := by
  simp only [Finset.disjoint_left, mem_collectLiveKeys, not_exists, not_and]
  exact ⟨fun h pos hpos k hk => h hk pos hpos, fun h k hk pos hpos => h pos hpos hk⟩

/-- A row that missed its close as far as a scan can tell: open in the store,
with keys that resolve, are not empty, and meet no live position's. -/
def MissedClose (s : Scan Pos Key Id) (row : Row) : Prop :=
  row ∈ s.dbRows ∧ ∃ live, livePositions s = some live ∧
    ∃ keys, s.dbKeys row = .ok keys ∧ keys ≠ ∅ ∧
      ∀ pos ∈ live, Disjoint keys (s.liveKeys pos)

/-- A scan whose import pass runs: every row resolved to the keys tracked. -/
def ImportPass (manual : Bool) (s : Scan Pos Key Id) (live : List Pos)
    (tracked : Finset Key) : Prop :=
  manual = true ∧ livePositions s = some live ∧ trackedSet s.trackedKeys s.dbRows = .ok tracked

/-- A live position no row tracks, at a scan whose import pass runs. -/
def Untracked (manual : Bool) (s : Scan Pos Key Id) (pos : Pos) : Prop :=
  ∃ live tracked, ImportPass manual s live tracked ∧ pos ∈ live ∧
    Disjoint (s.liveKeys pos) tracked

/-- The first direction as a confirmation pass. -/
def closePass (s : Scan Pos Key Id) : Option (List (String × Row)) :=
  (livePositions s).map (staleRows s)

/-- The second direction as a confirmation pass. -/
def importPass (manual : Bool) (s : Scan Pos Key Id) : Option (List (Id × Pos)) :=
  match manual, livePositions s, trackedSet s.trackedKeys s.dbRows with
  | true, some live, .ok tracked => some (untrackedPositions s live tracked)
  | _, _, _ => none

omit [DecidableEq Id] in
theorem mem_staleRows {s : Scan Pos Key Id} {live : List Pos}
    (hlive : livePositions s = some live) {e : String × Row} (h : e ∈ staleRows s live) :
    MissedClose s e.2 ∧ e.2.refSourceId = e.1 := by
  obtain ⟨hmem, hkey⟩ := Confirm.mem_keyBy h
  obtain ⟨hrow, hstale⟩ := List.mem_filter.mp hmem
  refine ⟨⟨hrow, live, hlive, ?_⟩, hkey⟩
  unfold isRowStale at hstale
  split at hstale
  · cases hstale
  · rename_i keys hkeys
    obtain ⟨hne, hdisj⟩ := of_decide_eq_true hstale
    exact ⟨keys, hkeys, hne, disjoint_collectLiveKeys.mp hdisj⟩

omit [DecidableEq Id] in
theorem key_mem_staleRows {s : Scan Pos Key Id} {live : List Pos}
    (hlive : livePositions s = some live) {row : Row} (h : MissedClose s row) :
    ∃ row', (row.refSourceId, row') ∈ staleRows s live := by
  obtain ⟨hrow, live', hlive', keys, hkeys, hne, hdisj⟩ := h
  cases hlive.symm.trans hlive'
  refine (Confirm.keys_keyBy _ _ _).mpr ⟨row, List.mem_filter.mpr ⟨hrow, ?_⟩, rfl⟩
  simp [isRowStale, hkeys, hne, disjoint_collectLiveKeys.mpr hdisj]

/-- The candidates of the second direction are the untracked positions. -/
theorem mem_untrackedPositions {manual : Bool} {s : Scan Pos Key Id} {live : List Pos}
    {tracked : Finset Key} (hpass : ImportPass manual s live tracked) {e : Id × Pos}
    (h : e ∈ untrackedPositions s live tracked) :
    Untracked manual s e.2 ∧ s.liveId e.2 = e.1 := by
  obtain ⟨hmem, hkey⟩ := Confirm.mem_keyBy h
  obtain ⟨hlive, hdisj⟩ := List.mem_filter.mp hmem
  exact ⟨⟨live, tracked, hpass, hlive, of_decide_eq_true hdisj⟩, hkey⟩

theorem key_mem_untrackedPositions {manual : Bool} {s : Scan Pos Key Id} {live : List Pos}
    {tracked : Finset Key} (hpass : ImportPass manual s live tracked) {pos : Pos}
    (h : Untracked manual s pos) :
    ∃ pos', (s.liveId pos, pos') ∈ untrackedPositions s live tracked := by
  obtain ⟨live', tracked', ⟨-, hlive', htracked'⟩, hmem, hdisj⟩ := h
  cases hpass.2.1.symm.trans hlive'
  cases hpass.2.2.symm.trans htracked'
  exact (Confirm.keys_keyBy _ _ _).mpr
    ⟨pos, List.mem_filter.mpr ⟨hmem, decide_eq_true hdisj⟩, rfl⟩

theorem importPass_eq_some {manual : Bool} {s : Scan Pos Key Id}
    {candidates : List (Id × Pos)} (h : importPass manual s = some candidates) :
    ∃ live tracked, ImportPass manual s live tracked ∧
      candidates = untrackedPositions s live tracked := by
  unfold importPass at h
  split at h
  · rename_i live tracked hlive htracked
    cases h
    exact ⟨live, tracked, ⟨rfl, hlive, htracked⟩, rfl⟩
  · cases h

theorem ImportPass.importPass_eq {manual : Bool} {s : Scan Pos Key Id} {live : List Pos}
    {tracked : Finset Key} (h : ImportPass manual s live tracked) :
    importPass manual s = some (untrackedPositions s live tracked) := by
  obtain ⟨rfl, hlive, htracked⟩ := h
  simp [importPass, hlive, htracked]

theorem importPass_eq_none {manual : Bool} {s : Scan Pos Key Id}
    (h : ∀ live tracked, ¬ ImportPass manual s live tracked) :
    importPass manual s = none := by
  cases hpass : importPass manual s with
  | none => rfl
  | some candidates =>
      obtain ⟨live, tracked, hp, -⟩ := importPass_eq_some hpass
      exact absurd hp (h live tracked)

/-! ## One scan is two confirmation passes -/

theorem scan_suspected (manual : Bool) (st : ReconcileState Id) (s : Scan Pos Key Id) :
    (scan manual st s).state.suspected =
      Confirm.suspectsAfter st.suspected [closePass s] := by
  unfold scan closePass
  cases livePositions s with
  | none => rfl
  | some live =>
      simp only [importUntrackedPositions]
      split
      · split <;> rfl
      · rfl

theorem scan_suspectedManual (manual : Bool) (st : ReconcileState Id)
    (s : Scan Pos Key Id) :
    (scan manual st s).state.suspectedManual =
      Confirm.suspectsAfter st.suspectedManual [importPass manual s] := by
  unfold scan importPass
  cases livePositions s with
  | none => cases manual <;> rfl
  | some live =>
      cases manual with
      | false => rfl
      | true =>
          simp only [importUntrackedPositions, if_true]
          cases trackedSet s.trackedKeys s.dbRows <;> rfl

theorem runScans_suspected (manual : Bool) (st : ReconcileState Id)
    (scans : List (Scan Pos Key Id)) :
    (runScans manual st scans).suspected =
      Confirm.suspectsAfter st.suspected (scans.map closePass) := by
  induction scans generalizing st with
  | nil => rfl
  | cons s rest ih =>
      rw [runScans, ih, scan_suspected, ← Confirm.suspectsAfter_append]
      rfl

theorem runScans_suspectedManual (manual : Bool) (st : ReconcileState Id)
    (scans : List (Scan Pos Key Id)) :
    (runScans manual st scans).suspectedManual =
      Confirm.suspectsAfter st.suspectedManual (scans.map (importPass manual)) := by
  induction scans generalizing st with
  | nil => rfl
  | cons s rest ih =>
      rw [runScans, ih, scan_suspectedManual, ← Confirm.suspectsAfter_append]
      rfl

/-- The second direction leaves the calls of the first alone. -/
theorem importUntrackedPositions_closes (manual : Bool)
    (s : Scan Pos Key Id) (live : List Pos) (out : ScanOutcome Pos Id) :
    (importUntrackedPositions manual s live out).closes = out.closes := by
  unfold importUntrackedPositions
  split
  · split <;> rfl
  · rfl

/-- A handler call is a candidate of this scan whose key was suspected. -/
theorem mem_scan_closes {manual : Bool} {st : ReconcileState Id} {s : Scan Pos Key Id}
    {c : Row × Except Exn Unit} :
    c ∈ (scan manual st s).closes ↔ ∃ live, livePositions s = some live ∧
      c.2 = s.handler c.1 ∧ ∃ k ∈ st.suspected, (k, c.1) ∈ staleRows s live := by
  unfold scan
  cases livePositions s with
  | none => simp
  | some live =>
      simp only [importUntrackedPositions_closes, reconcileMissedCloses, List.mem_map,
        Confirm.mem_confirmed, Option.some.injEq, exists_eq_left']
      constructor
      · rintro ⟨row, hrow, rfl⟩
        exact ⟨rfl, hrow⟩
      · rintro ⟨hout, hrow⟩
        exact ⟨c.1, hrow, Prod.ext rfl hout.symm⟩

theorem mem_scan_imports {manual : Bool} {st : ReconcileState Id} {s : Scan Pos Key Id}
    {c : Pos × Except Exn Unit} :
    c ∈ (scan manual st s).imports ↔ ∃ live tracked, ImportPass manual s live tracked ∧
      c.2 = s.manualHandler c.1 ∧
        ∃ k ∈ st.suspectedManual, (k, c.1) ∈ untrackedPositions s live tracked := by
  unfold scan ImportPass
  cases livePositions s with
  | none => simp
  | some live =>
      cases manual with
      | false => simp [importUntrackedPositions, reconcileMissedCloses]
      | true =>
          simp only [importUntrackedPositions, reconcileMissedCloses, if_true]
          cases trackedSet s.trackedKeys s.dbRows with
          | error e => simp
          | ok tracked =>
              simp only [List.mem_map, Confirm.mem_confirmed, Option.some.injEq, true_and,
                Except.ok.injEq]
              constructor
              · rintro ⟨pos, hpos, rfl⟩
                exact ⟨live, tracked, ⟨rfl, rfl⟩, rfl, hpos⟩
              · rintro ⟨_, _, ⟨rfl, rfl⟩, hout, hpos⟩
                exact ⟨c.1, hpos, Prod.ext rfl hout.symm⟩

/-! ## The two-scan law -/

/-- A suspected reference missed its close at the last performed scan. -/
theorem suspected_missedClose {manual : Bool} {earlier : List (Scan Pos Key Id)}
    {ref : String} (h : ref ∈ (runScans manual initial earlier).suspected) :
    ∃ before previous skipped, earlier = before ++ previous :: skipped ∧
      (∀ s ∈ skipped, livePositions s = none) ∧
      ∃ row, MissedClose previous row ∧ row.refSourceId = ref := by
  rw [runScans_suspected] at h
  obtain ⟨xs, candidates, ys, heq, hskipped, row, hrow⟩ := Confirm.mem_suspectsAfter h
  obtain ⟨before, rest, rfl, -, hrest⟩ := List.map_eq_append_iff.mp heq
  obtain ⟨previous, skipped, rfl, hprevious, rfl⟩ := List.map_eq_cons_iff.mp hrest
  obtain ⟨live, hlive, rfl⟩ := Option.map_eq_some_iff.mp hprevious
  refine ⟨before, previous, skipped, rfl, fun s hs => ?_, row, mem_staleRows hlive hrow⟩
  exact Option.map_eq_none_iff.mp (hskipped _ (List.mem_map_of_mem hs))

/-- A suspected position was untracked at the last performed import pass. -/
theorem suspectedManual_untracked {manual : Bool} {earlier : List (Scan Pos Key Id)}
    {id : Id} (h : id ∈ (runScans manual initial earlier).suspectedManual) :
    ∃ before previous skipped, earlier = before ++ previous :: skipped ∧
      (∀ s ∈ skipped, ∀ live tracked, ¬ ImportPass manual s live tracked) ∧
      ∃ pos, Untracked manual previous pos ∧ previous.liveId pos = id := by
  rw [runScans_suspectedManual] at h
  obtain ⟨xs, candidates, ys, heq, hskipped, pos, hpos⟩ := Confirm.mem_suspectsAfter h
  obtain ⟨before, rest, rfl, -, hrest⟩ := List.map_eq_append_iff.mp heq
  obtain ⟨previous, skipped, rfl, hprevious, rfl⟩ := List.map_eq_cons_iff.mp hrest
  obtain ⟨live, tracked, hpass, rfl⟩ := importPass_eq_some hprevious
  refine ⟨before, previous, skipped, rfl, fun s hs live tracked hp => ?_, pos,
    mem_untrackedPositions hpass hpos⟩
  have hnone := hskipped _ (List.mem_map_of_mem hs)
  rw [hp.importPass_eq] at hnone
  cases hnone

/-- What missed its close at a performed scan is suspected until the next one. -/
theorem missedClose_suspected {manual : Bool} (st : ReconcileState Id)
    (earlier : List (Scan Pos Key Id)) {s : Scan Pos Key Id}
    {skipped : List (Scan Pos Key Id)} (hskipped : ∀ s' ∈ skipped, livePositions s' = none)
    {row : Row} (h : MissedClose s row) :
    row.refSourceId ∈ (runScans manual st (earlier ++ s :: skipped)).suspected := by
  have ⟨_, live, hlive, _⟩ := h
  rw [runScans_suspected, List.map_append, List.map_cons, closePass, hlive, Option.map_some,
    Confirm.suspectsAfter_last]
  · exact Confirm.mem_keySet.mpr (key_mem_staleRows hlive h)
  · rintro x hx
    obtain ⟨s', hs', rfl⟩ := List.mem_map.mp hx
    simp [closePass, hskipped s' hs']

theorem untracked_suspectedManual {manual : Bool} (st : ReconcileState Id)
    (earlier : List (Scan Pos Key Id)) {s : Scan Pos Key Id}
    {skipped : List (Scan Pos Key Id)}
    (hskipped : ∀ s' ∈ skipped, ∀ live tracked, ¬ ImportPass manual s' live tracked)
    {pos : Pos} (h : Untracked manual s pos) :
    s.liveId pos ∈ (runScans manual st (earlier ++ s :: skipped)).suspectedManual := by
  have ⟨live, tracked, hpass, _⟩ := h
  rw [runScans_suspectedManual, List.map_append, List.map_cons, hpass.importPass_eq,
    Confirm.suspectsAfter_last]
  · exact Confirm.mem_keySet.mpr (key_mem_untrackedPositions hpass h)
  · rintro x hx
    obtain ⟨s', hs', rfl⟩ := List.mem_map.mp hx
    exact importPass_eq_none (hskipped s' hs')

/-- A row handed to the handler missed its close now and at the last performed
scan. -/
theorem closes_twice_missed {manual : Bool} {earlier : List (Scan Pos Key Id)}
    {cur : Scan Pos Key Id} {c : Row × Except Exn Unit}
    (h : c ∈ (scan manual (runScans manual initial earlier) cur).closes) :
    MissedClose cur c.1 ∧
      ∃ before previous skipped, earlier = before ++ previous :: skipped ∧
        (∀ s ∈ skipped, livePositions s = none) ∧
        ∃ row, MissedClose previous row ∧ row.refSourceId = c.1.refSourceId := by
  obtain ⟨live, hlive, -, ref, hsuspected, hstale⟩ := mem_scan_closes.mp h
  obtain ⟨hmissed, hkey⟩ := mem_staleRows hlive hstale
  exact ⟨hmissed, hkey ▸ suspected_missedClose hsuspected⟩

/-- A position handed to the manual handler was untracked now and at the last
performed import pass. -/
theorem imports_twice_untracked {manual : Bool} {earlier : List (Scan Pos Key Id)}
    {cur : Scan Pos Key Id} {c : Pos × Except Exn Unit}
    (h : c ∈ (scan manual (runScans manual initial earlier) cur).imports) :
    Untracked manual cur c.1 ∧
      ∃ before previous skipped, earlier = before ++ previous :: skipped ∧
        (∀ s ∈ skipped, ∀ live tracked, ¬ ImportPass manual s live tracked) ∧
        ∃ pos, Untracked manual previous pos ∧ previous.liveId pos = cur.liveId c.1 := by
  obtain ⟨live, tracked, hpass, -, id, hsuspected, hcandidate⟩ := mem_scan_imports.mp h
  obtain ⟨huntracked, hkey⟩ := mem_untrackedPositions hpass hcandidate
  exact ⟨huntracked, hkey ▸ suspectedManual_untracked hsuspected⟩

/-- A reference that missed its close is handed out at the next performed scan
that still misses it, whatever its handler did. -/
theorem closes_offered_again {manual : Bool} {st : ReconcileState Id}
    {earlier skipped : List (Scan Pos Key Id)} {cur next : Scan Pos Key Id} {row row' : Row}
    (h : MissedClose cur row) (hskipped : ∀ s ∈ skipped, livePositions s = none)
    (hnext : MissedClose next row') (href : row'.refSourceId = row.refSourceId) :
    ∃ c ∈ (scan manual (runScans manual st (earlier ++ cur :: skipped)) next).closes,
      c.1.refSourceId = row.refSourceId := by
  have hsuspected : row.refSourceId ∈
      (runScans manual st (earlier ++ cur :: skipped)).suspected :=
    missedClose_suspected st earlier hskipped h
  have ⟨_, live, hlive, _⟩ := hnext
  obtain ⟨last, hlast⟩ := key_mem_staleRows hlive hnext
  refine ⟨(last, next.handler last), mem_scan_closes.mpr ?_,
    (mem_staleRows hlive hlast).2.trans href⟩
  exact ⟨live, hlive, rfl, _, href ▸ hsuspected, hlast⟩

theorem imports_offered_again {manual : Bool} {st : ReconcileState Id}
    {earlier skipped : List (Scan Pos Key Id)} {cur next : Scan Pos Key Id} {pos pos' : Pos}
    (h : Untracked manual cur pos)
    (hskipped : ∀ s ∈ skipped, ∀ live tracked, ¬ ImportPass manual s live tracked)
    (hnext : Untracked manual next pos') (hid : next.liveId pos' = cur.liveId pos) :
    ∃ c ∈ (scan manual (runScans manual st (earlier ++ cur :: skipped)) next).imports,
      next.liveId c.1 = cur.liveId pos := by
  have hsuspected := untracked_suspectedManual st earlier hskipped h
  have ⟨live, tracked, hpass, _⟩ := hnext
  obtain ⟨last, hlast⟩ := key_mem_untrackedPositions hpass hnext
  refine ⟨(last, next.manualHandler last), mem_scan_imports.mpr ?_,
    (mem_untrackedPositions hpass hlast).2.trans hid⟩
  exact ⟨live, tracked, hpass, rfl, _, hid ▸ hsuspected, hlast⟩

/-- Without an import pass no position is imported or suspected anew. -/
theorem imports_of_no_pass {manual : Bool} {st : ReconcileState Id} {s : Scan Pos Key Id}
    (h : ∀ live tracked, ¬ ImportPass manual s live tracked) :
    (scan manual st s).imports = [] ∧
      (scan manual st s).state.suspectedManual = st.suspectedManual := by
  constructor
  · refine List.eq_nil_iff_forall_not_mem.mpr fun c hc => ?_
    obtain ⟨live, tracked, hpass, -⟩ := mem_scan_imports.mp hc
    exact h live tracked hpass
  · rw [scan_suspectedManual, importPass_eq_none h]
    rfl

/-- **The two-scan law**, for the scan `cur` of a job that has made the scans
`earlier`, with or without a manual handler: a row is closed only when it missed
its close at `cur` and its reference missed it at the last performed scan; a scan
with nothing to compare with changes nothing; a reference whose handler raised is
offered again at the next performed scan where it is still missing. The import of
manual positions obeys the same three laws over its own performed passes. -/
theorem scan_obeys_two_scan_law (manual : Bool) (earlier : List (Scan Pos Key Id))
    (cur : Scan Pos Key Id) :
    let out := scan manual (runScans manual initial earlier) cur
    (∀ c ∈ out.closes, MissedClose cur c.1 ∧
      ∃ before previous skipped, earlier = before ++ previous :: skipped ∧
        (∀ s ∈ skipped, livePositions s = none) ∧
        ∃ row, MissedClose previous row ∧ row.refSourceId = c.1.refSourceId) ∧
    (livePositions cur = none →
      out = { state := runScans manual initial earlier }) ∧
    (∀ row e, (row, .error e) ∈ out.closes →
      ∀ skipped (next : Scan Pos Key Id) row', (∀ s ∈ skipped, livePositions s = none) →
        MissedClose next row' → row'.refSourceId = row.refSourceId →
        ∃ c ∈ (scan manual (runScans manual initial (earlier ++ cur :: skipped)) next).closes,
          c.1.refSourceId = row.refSourceId) ∧
    (∀ c ∈ out.imports, Untracked manual cur c.1 ∧
      ∃ before previous skipped, earlier = before ++ previous :: skipped ∧
        (∀ s ∈ skipped, ∀ live tracked, ¬ ImportPass manual s live tracked) ∧
        ∃ pos, Untracked manual previous pos ∧ previous.liveId pos = cur.liveId c.1) ∧
    ((∀ live tracked, ¬ ImportPass manual cur live tracked) →
      out.imports = [] ∧
        out.state.suspectedManual = (runScans manual initial earlier).suspectedManual) ∧
    (∀ pos e, (pos, .error e) ∈ out.imports →
      ∀ skipped (next : Scan Pos Key Id) pos',
        (∀ s ∈ skipped, ∀ live tracked, ¬ ImportPass manual s live tracked) →
        Untracked manual next pos' → next.liveId pos' = cur.liveId pos →
        ∃ c ∈ (scan manual (runScans manual initial (earlier ++ cur :: skipped)) next).imports,
          next.liveId c.1 = cur.liveId pos) := by
  intro out
  refine ⟨fun c hc => closes_twice_missed hc, fun hnone => ?_, ?_,
    fun c hc => imports_twice_untracked hc, fun hnone => ?_, ?_⟩
  · simp only [out, scan, hnone]
  · intro row e hrow skipped next row' hskipped hnext href
    exact closes_offered_again (closes_twice_missed hrow).1 hskipped hnext href
  · exact imports_of_no_pass hnone
  · intro pos e hpos skipped next pos' hskipped hnext hid
    exact imports_offered_again (imports_twice_untracked hpos).1 hskipped hnext hid

end ReconcileJob

end TradeWorker
