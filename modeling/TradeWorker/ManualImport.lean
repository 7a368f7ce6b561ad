import TradeWorker.CloseHandlers
import TradeWorker.EntryTracking
import TradeWorker.Exclusivity

/-!
# Positions opened by hand

`CryptoReconcileJob` gives a position that no row tracks to `_on_manual_position`, which
books it under the strategy `MANUAL`. The job correlates the two sides by symbol: a live
position by the symbol the exchange reports, a row by `get_symbol` of the symbol stored. What
is stored is the exchange's symbol, so the row is told to be the position's own exactly
when `get_symbol` leaves that symbol alone. Otherwise the position stays untracked and is
imported again at every later scan, and each row it left is closed as missed.
-/

namespace TradeWorker

/-! ## The import -/

def manualStrategy : String := "MANUAL"

def manualRef (symbol hex : String) : String := "MANUAL-" ++ symbol ++ "-" ++ hex

def manualComment : String := "Imported: opened manually on exchange"

/-- The direction of an entry as its row stores it. -/
def Side.lower : Side → String
  | .long => "long"
  | .short => "short"

def manualLog (ref : String) (pos : ExchangePosition) : LogRow where
  strategy := manualStrategy
  refId := some ref
  refSourceId := some ref
  signalId := none
  signalUxid := none
  symbol := pos.symbol
  action := pos.side.value
  volume := some pos.volume
  price := some pos.priceOpen
  sl := none
  tp1 := none
  gatewayReturnCode := some 0
  comment := manualComment
  message := none
  author := "exchange"
  marketType := some MarketType.crypto.value

def manualRow (ref : String) (pos : ExchangePosition) : NewRow where
  refId := some ref
  signalId := none
  signalUxid := none
  strategy := manualStrategy
  symbol := pos.symbol
  action := pos.side.lower
  volume := some pos.volume
  openedPrice := some pos.priceOpen
  status := .opened
  gatewayReturnCode := some 0
  comment := some manualComment
  message := none
  strategyCode := none
  marketType := some MarketType.crypto.value

def CryptoExecutor.onManualPosition (pos : ExchangePosition) : Work Unit := do
  let hex : String ← host .uuidHex
  let ref := manualRef pos.symbol (takeText 8 hex)
  logPosition (manualLog ref pos)
  insertPosition (manualRow ref pos)
  let _footer ← host .currentFooter
  host (.notifyChannel (.importedManual pos ref))

/-! ## The scan that calls it -/

/-- A handler loop of the job: a call that raises is logged and the next one made. -/
def ReconcileJob.attemptEach {α : Type} (handler : α → Work Unit) :
    List α → Work (List (α × Except Exn Unit))
  | [] => pure []
  | a :: rest => do
      let outcome ← Prog.tryCatch
        (do
          handler a
          pure (.ok ()))
        fun e => pure (.error e)
      let others ← attemptEach handler rest
      pure ((a, outcome) :: others)

/-- What a scan is going to hand out, from one read of each side. -/
def CryptoExecutor.scanPlan (ex : CryptoExecutor) (st : ReconcileState String)
    (positions : List ExchangePosition) (dbRows : List Row) :
    ScanOutcome ExchangePosition String :=
  ReconcileJob.scan true st
    (ReconcileJob.cryptoScan ex (.ok positions) dbRows (fun _ => .ok ()) fun _ => .ok ())

/-- `_scan` of `CryptoReconcileJob`; `_run` skips one that cannot read the exchange. -/
def CryptoExecutor.scanOnce (ex : CryptoExecutor) (st : ReconcileState String) :
    Work (ScanOutcome ExchangePosition String) :=
  Prog.tryCatch
    (do
      let positions ← exchange (.getPositions none)
      let dbRows ← getOpenPositionsForFlat
      let plan := ex.scanPlan st positions dbRows
      let closes ← ReconcileJob.attemptEach ex.onMissedClose (plan.closes.map (·.1))
      let imports ← ReconcileJob.attemptEach CryptoExecutor.onManualPosition
        (plan.imports.map (·.1))
      pure { plan with closes, imports })
    fun _ => pure { state := st }

namespace CryptoExecutor

variable {ex : CryptoExecutor} {st : ReconcileState String} {positions : List ExchangePosition}
  {dbRows : List Row}

/-- An open row handed to the missed-close handler resolves to the symbol of no live
position. -/
theorem scanPlan_closes {c : Row × Except Exn Unit}
    (hc : c ∈ (ex.scanPlan st positions dbRows).closes) {pos : ExchangePosition}
    (hpos : pos ∈ positions) (hvol : 0 < pos.volume) :
    c.1 ∈ dbRows ∧ ex.getSymbol c.1.symbol ≠ pos.symbol := by
  obtain ⟨live, hlive, -, ref, -, hstale⟩ := ReconcileJob.mem_scan_closes.mp hc
  obtain ⟨⟨hrow, live', hlive', keys, hkeys, -, hdisj⟩, -⟩ :=
    ReconcileJob.mem_staleRows hlive hstale
  cases hlive'.symm.trans hlive
  cases hlive
  cases hkeys
  refine ⟨hrow, ?_⟩
  have hd := hdisj pos (List.mem_filter.mpr ⟨hpos, by simpa using hvol⟩)
  simpa [ReconcileJob.cryptoScan] using hd

/-- The rows of a crypto scan always resolve. -/
theorem mem_trackedSet (keys : Row → String) (rows : List Row) :
    ∃ tracked : Finset String,
      ReconcileJob.trackedSet (fun row => .ok {keys row}) rows = .ok tracked ∧
        ∀ k, k ∈ tracked ↔ ∃ row ∈ rows, keys row = k := by
  induction rows with
  | nil => exact ⟨∅, rfl, by simp⟩
  | cons row rest ih =>
      obtain ⟨tracked, htracked, hmem⟩ := ih
      refine ⟨{keys row} ∪ tracked, ?_, fun k => ?_⟩
      · rw [ReconcileJob.trackedSet, htracked]
        rfl
      · rw [Finset.mem_union, Finset.mem_singleton, hmem, List.exists_mem_cons_iff, eq_comm]

/-- The live positions whose symbol no open row resolves to. -/
def untrackedBy (ex : CryptoExecutor) (positions : List ExchangePosition) (dbRows : List Row) :
    List ExchangePosition :=
  positions.filter fun pos => 0 < pos.volume ∧ ∀ row ∈ dbRows, ex.getSymbol row.symbol ≠ pos.symbol

/-- The import pass of a scan that read both sides: it imports the suspects that are still
untracked, and suspects what is untracked now. -/
theorem scanPlan_imports (ex : CryptoExecutor) (st : ReconcileState String)
    (positions : List ExchangePosition) (dbRows : List Row) :
    let untracked := Confirm.keyBy ExchangePosition.symbol (ex.untrackedBy positions dbRows)
    (ex.scanPlan st positions dbRows).imports.map (·.1) =
        Confirm.confirmed st.suspectedManual untracked ∧
      (ex.scanPlan st positions dbRows).state.suspectedManual = Confirm.keySet untracked := by
  obtain ⟨tracked, htracked, hmem⟩ := mem_trackedSet (fun row => ex.getSymbol row.symbol) dbRows
  have hlist : (positions.filter (0 < ·.volume)).filter
      (fun pos => Disjoint ({pos.symbol} : Finset String) tracked) =
        ex.untrackedBy positions dbRows := by
    rw [List.filter_filter, untrackedBy]
    refine List.filter_congr fun pos _ => ?_
    rw [← Bool.decide_and, decide_eq_decide, Finset.disjoint_singleton_left, hmem, and_comm]
    simp
  intro untracked
  have hpass : ReconcileJob.untrackedPositions
      (ReconcileJob.cryptoScan ex (.ok positions) dbRows (fun _ => .ok ()) fun _ => .ok ())
      (positions.filter (0 < ·.volume)) tracked = untracked :=
    congrArg (Confirm.keyBy ExchangePosition.symbol) hlist
  have hplan : ex.scanPlan st positions dbRows =
      let out := ReconcileJob.reconcileMissedCloses
        (ReconcileJob.cryptoScan ex (.ok positions) dbRows (fun _ => .ok ()) fun _ => .ok ())
        (positions.filter (0 < ·.volume)) st
      { out with
        state := { out.state with suspectedManual := Confirm.keySet untracked }
        imports := (Confirm.confirmed st.suspectedManual untracked).map fun pos =>
          (pos, .ok ()) } := by
    rw [← hpass]
    simp only [scanPlan, ReconcileJob.scan, ReconcileJob.livePositions,
      ReconcileJob.importUntrackedPositions, ReconcileJob.cryptoScan, if_true, Except.map,
      htracked]
    rfl
  rw [hplan]
  exact ⟨by simp [Function.comp_def], rfl⟩

/-- A symbol is imported once in a scan, and only while no open row resolves to it. -/
theorem imported_symbols (ex : CryptoExecutor) (st : ReconcileState String)
    (positions : List ExchangePosition) (dbRows : List Row) :
    ((ex.scanPlan st positions dbRows).imports.map (·.1.symbol)).Nodup ∧
      ∀ c ∈ (ex.scanPlan st positions dbRows).imports, c.1 ∈ positions ∧
        ∀ row ∈ dbRows, ex.getSymbol row.symbol ≠ c.1.symbol := by
  obtain ⟨himports, -⟩ := scanPlan_imports ex st positions dbRows
  constructor
  · rw [show (fun c : ExchangePosition × Except Exn Unit => c.1.symbol) =
      ExchangePosition.symbol ∘ Prod.fst from rfl, ← List.map_map, himports]
    exact Confirm.confirmed_keys_nodup ..
  · intro c hc
    have hpos : c.1 ∈ Confirm.confirmed st.suspectedManual
        (Confirm.keyBy ExchangePosition.symbol (ex.untrackedBy positions dbRows)) :=
      himports ▸ List.mem_map_of_mem hc
    obtain ⟨k, -, hentry⟩ := Confirm.mem_confirmed.mp hpos
    have hmem := (Confirm.mem_keyBy hentry).1
    rw [untrackedBy, List.mem_filter, decide_eq_true_iff] at hmem
    exact ⟨hmem.1, hmem.2.2⟩

end CryptoExecutor

/-! ## The books of a symbol -/

/-- A reference the import gives rows of the symbol. -/
def IsManualRef (symbol ref : String) : Prop :=
  ∃ hex : String, hex.toList.length = 8 ∧ ref = manualRef symbol hex

def Row.Manual (symbol : String) (r : Row) : Prop :=
  r.strategy = manualStrategy ∧ r.symbol = symbol

/-- Such rows are the import's: they carry its references, and no others do. -/
structure ManualBooks (symbol : String) (db : Db) : Prop where
  refs : ∀ r ∈ db.rows, IsManualRef symbol r.refSourceId → r.symbol = symbol
  rows : ∀ r ∈ db.rows, r.Manual symbol → IsManualRef symbol r.refSourceId

def ManualOpen (symbol : String) (db : Db) : Prop :=
  ∃ r ∈ db.rows, r.isActive ∧ r.Manual symbol

theorem manualRef_inj {a b h h' : String} (hlen : h.toList.length = h'.toList.length)
    (href : manualRef a h = manualRef b h') : a = b := by
  have hchars := congrArg String.toList href
  simp only [manualRef, String.toList_append] at hchars
  have hprefix := List.append_inj_left' (List.append_inj_left' hchars hlen) rfl
  exact String.toList_inj.mp (List.append_cancel_left hprefix)

theorem takeText_length {n : Nat} {s : String} (h : n ≤ s.toList.length) :
    (takeText n s).toList.length = n := by
  simp [takeText, h]

/-- Statements that keep the books of a symbol; a generated id has its eight digits. -/
def bookkeeping (symbol : String) : Prog.Contract WorkerOp WorkerOp.Ans Exn where
  guard
    | .db (.insertRow n) => ∀ ref, n.refId = some ref →
        (IsManualRef symbol ref → n.symbol = symbol) ∧
        (n.strategy = manualStrategy → n.symbol = symbol → IsManualRef symbol ref)
    | .db (.updateStatus u) => ∀ ref, u.refSourceId = some ref → ¬ IsManualRef symbol ref
    | _ => True
  answers
    | .host .uuidHex, .ok hex => 8 ≤ (hex : String).toList.length
    | _, _ => True

variable {symbol : String}

theorem Row.manual_of_key {r : Row} {uxid : String}
    (h : r.key = (manualStrategy, symbol, uxid)) : r.Manual symbol :=
  ⟨congrArg (·.1) h, congrArg (·.2.1) h⟩

theorem Row.manual_update {r : Row} {u : StatusUpdate} {now : Int} :
    (r.update u now).Manual symbol ↔ r.Manual symbol := by
  have hkey := Row.update_key r u now
  have hstrategy : (r.update u now).strategy = r.strategy := congrArg (·.1) hkey
  have hsymbol : (r.update u now).symbol = r.symbol := congrArg (·.2.1) hkey
  rw [Row.Manual, hstrategy, hsymbol, Row.Manual]

/-- An insert that is refused for want of nothing else has met an open row of its key. -/
theorem manualOpen_insertRow (ref : String) (pos : ExchangePosition) (db : Db) :
    ManualOpen pos.symbol (Db.serve (.insertRow (manualRow ref pos)) db).2 := by
  have hrow : ∃ r, (manualRow ref pos).toRow? (db.rows.length + 1) db.clock = some r ∧
      r.key = (manualStrategy, pos.symbol, "") ∧ r.isActive = true := ⟨_, rfl, rfl, rfl⟩
  obtain ⟨r, hr, hkey, hactive⟩ := hrow
  by_cases hone : OneActive (db.rows ++ [r])
  · have hserve : (Db.serve (.insertRow (manualRow ref pos)) db).2.rows = db.rows ++ [r] := by
      simp [Db.serve, Db.insertRow, hr, hone]
    exact ⟨r, hserve ▸ List.mem_append_right _ List.mem_cons_self, hactive, Row.manual_of_key hkey⟩
  · have hserve : (Db.serve (.insertRow (manualRow ref pos)) db).2 = db := by
      simp [Db.serve, Db.insertRow, hr, hone]
    rw [hserve]
    by_contra hclosed
    refine hone (db.oneActive.append fun row hmem hrow hsame => hclosed ?_)
    exact ⟨row, hmem, hrow, Row.manual_of_key (hsame.trans hkey)⟩

theorem Db.serve_updateStatus (u : StatusUpdate) (db : Db) :
    (Db.serve (.updateStatus u) db).2 = db ∨
      (Db.serve (.updateStatus u) db).2.rows = updateRows u db.clock db.rows := by
  cases hu : db.updateStatus u with
  | error e => exact Or.inl (by simp only [Db.serve, hu])
  | ok db' =>
      refine Or.inr ?_
      simpa only [Db.serve, hu] using (Db.updateStatus_ok hu).1

/-- A statement that keeps the books also leaves the open row open. -/
theorem bookkeeping_serve {o : DbOp} (ho : (bookkeeping symbol).guard (.db o)) {db : Db}
    (hbooks : ManualBooks symbol db) :
    ManualBooks symbol (Db.serve o db).2 ∧
      (ManualOpen symbol db → ManualOpen symbol (Db.serve o db).2) := by
  cases o with
  | selectActiveByStrategy | selectActiveForFlat | selectLogged | selectPosition =>
      exact ⟨hbooks, id⟩
  | insertLog l => exact ⟨⟨hbooks.refs, hbooks.rows⟩, id⟩
  | insertRow n =>
      rcases Db.serve_insertRow n db with hsame | ⟨r, hr, hrows⟩
      · rw [hsame]
        exact ⟨hbooks, id⟩
      · obtain ⟨hown, hmanual⟩ := ho _ (NewRow.toRow?_refSourceId hr)
        have hkey := (NewRow.toRow?_key hr).1
        have hstrategy : r.strategy = n.strategy := congrArg (·.1) hkey
        have hsymbol : r.symbol = n.symbol := congrArg (·.2.1) hkey
        refine ⟨⟨?_, ?_⟩, ?_⟩
        · rw [hrows]
          intro r' hr' href
          rcases List.mem_append.mp hr' with hold | hnew
          · exact hbooks.refs r' hold href
          · obtain rfl := List.mem_singleton.mp hnew
            exact hsymbol.trans (hown href)
        · rw [hrows]
          rintro r' hr' ⟨hs, hsym⟩
          rcases List.mem_append.mp hr' with hold | hnew
          · exact hbooks.rows r' hold ⟨hs, hsym⟩
          · obtain rfl := List.mem_singleton.mp hnew
            exact hmanual (hstrategy.symm.trans hs) (hsymbol.symm.trans hsym)
        · rintro ⟨r', hr', hopen⟩
          exact ⟨r', hrows ▸ List.mem_append_left _ hr', hopen⟩
  | updateStatus u =>
      rcases Db.serve_updateStatus u db with hsame | hrows
      · rw [hsame]
        exact ⟨hbooks, id⟩
      · refine ⟨⟨?_, ?_⟩, ?_⟩
        · rw [hrows]
          intro r hr href
          obtain ⟨r₀, hr₀, rfl⟩ := mem_updateRows.mp hr
          have hsymbol : (r₀.update u db.clock).symbol = r₀.symbol :=
            congrArg (·.2.1) (Row.update_key r₀ u db.clock)
          rw [Row.update_refSourceId] at href
          exact hsymbol.trans (hbooks.refs r₀ hr₀ href)
        · rw [hrows]
          intro r hr hmanual
          obtain ⟨r₀, hr₀, rfl⟩ := mem_updateRows.mp hr
          rw [Row.update_refSourceId]
          exact hbooks.rows r₀ hr₀ (Row.manual_update.mp hmanual)
        · -- the open row carries a reference no update of the contract names
          rintro ⟨r, hr, hactive, hmanual⟩
          have hsame : r.update u db.clock = r :=
            if_neg fun hu' => ho _ hu' (hbooks.rows r hr hmanual)
          exact ⟨r, hrows ▸ mem_updateRows.mpr ⟨r, hr, hsame⟩, hactive, hmanual⟩

/-! ## What the handlers keep -/

theorem onManualPosition_books (pos : ExchangePosition) :
    Prog.Sends (bookkeeping symbol) (fun _ => True) (CryptoExecutor.onManualPosition pos) := by
  refine Prog.Sends.bind (Q := fun hex : String => 8 ≤ hex.toList.length)
    (Prog.sends_perform trivial fun _ h => h) fun hex hhex => ?_
  refine Prog.Sends.bind (Q := fun _ => True) ?_ fun _ _ => ?_
  · exact Prog.Sends.tryCatch (Prog.sends_perform trivial fun _ _ => trivial) fun _ => by simp
  refine Prog.Sends.bind (Q := fun _ => True) (Prog.sends_perform ?_ fun _ _ => trivial)
    fun _ _ => ?_
  · rintro ref ⟨⟩
    refine ⟨?_, ?_⟩
    · rintro ⟨hex', hlen, href⟩
      exact manualRef_inj ((takeText_length hhex).trans hlen.symm) href
    · rintro - rfl
      exact ⟨takeText 8 hex, takeText_length hhex, rfl⟩
  · refine Prog.Sends.bind (Q := fun _ => True) (Prog.sends_perform trivial fun _ _ => trivial)
      fun _ _ => ?_
    exact Prog.sends_perform trivial fun _ _ => trivial

theorem onMissedClose_books (ex : CryptoExecutor) {row : Row}
    (hrow : ¬ IsManualRef symbol row.refSourceId) :
    Prog.Sends (bookkeeping symbol) (fun _ => True) (ex.onMissedClose row) := by
  refine Prog.Sends.bind (Q := fun _ => True) ?_ fun closePrice _ => ?_
  · refine Prog.Sends.tryCatch ?_ fun _ => by simp
    refine Prog.Sends.bind (Q := fun _ => True) (Prog.sends_perform trivial fun _ _ => trivial)
      fun _ _ => ?_
    simp
  refine Prog.Sends.bind (Q := fun _ => True) ?_ fun _ _ => ?_
  · exact Prog.Sends.tryCatch (Prog.sends_perform trivial fun _ _ => trivial) fun _ => by simp
  refine Prog.Sends.bind (Q := fun _ => True) (Prog.sends_perform ?_ fun _ _ => trivial)
    fun _ _ => ?_
  · rintro ref ⟨⟩
    exact hrow
  · refine Prog.Sends.bind (Q := fun _ => True) (Prog.sends_perform trivial fun _ _ => trivial)
      fun _ _ => ?_
    exact Prog.sends_perform trivial fun _ _ => trivial

section Loop

variable {β : Type} (B : Backend β) {α : Type} (handler : α → Work Unit)

/-- The loop makes every call, whatever those before it came to. -/
theorem attemptEach_run (xs : List α) (w : World β) :
    ∃ outcomes, Prog.run B.serve (ReconcileJob.attemptEach handler xs) w =
        (.ok outcomes, xs.foldl (fun w a => (Prog.run B.serve (handler a) w).2) w) ∧
      outcomes.map (·.1) = xs := by
  induction xs generalizing w with
  | nil => exact ⟨[], rfl, rfl⟩
  | cons a rest ih =>
      have hfirst : ∃ outcome : Except Exn Unit,
          Prog.run B.serve
            (Prog.tryCatch
              (do
                handler a
                pure (.ok ()))
              fun e => pure (.error e)) w =
            (.ok outcome, (Prog.run B.serve (handler a) w).2) := by
        rw [Prog.run_tryCatch, Prog.run_bind_pure]
        rcases Prog.run B.serve (handler a) w with ⟨e | ⟨⟩, w'⟩
        · exact ⟨.error e, rfl⟩
        · exact ⟨.ok (), rfl⟩
      obtain ⟨outcome, hfirst⟩ := hfirst
      obtain ⟨others, hothers, hmap⟩ := ih (Prog.run B.serve (handler a) w).2
      refine ⟨(a, outcome) :: others, ?_, by simp [hmap]⟩
      rw [ReconcileJob.attemptEach, Prog.run_bind_ok _ hfirst, Prog.run_bind_ok _ hothers]
      rfl

end Loop

/-! ## A scan while the position lives -/

/-- `uuid4().hex`: the host always has one, of eight digits and more. -/
def Backend.Generates {β : Type} (B : Backend β) : Prop :=
  ∀ b, ∃ (hex : String) (b' : β), B.host .uuidHex b = (.ok hex, b') ∧ 8 ≤ hex.toList.length

/-- Where the exchange answers, it reports a position on the symbol. -/
def Live {β : Type} (B : Backend β) (symbol : String) (w : World β) : Prop :=
  ∀ (positions : List ExchangePosition) (b' : β),
    B.cx (.getPositions none) w.rest = (.ok positions, b') →
      ∃ pos ∈ positions, pos.symbol = symbol ∧ 0 < pos.volume

/-- The calls of the manual handler a scan made for the symbol. -/
def importsOf (symbol : String) (out : ScanOutcome ExchangePosition String) : ℕ :=
  (out.imports.map (·.1.symbol)).count symbol

section Scan

variable {β : Type} {B : Backend β} {w : World β}

theorem bookkeeping_step (hB : B.Generates) (o : WorkerOp) (w : World β)
    (hbooks : ManualBooks symbol w.db) (ho : (bookkeeping symbol).guard o) :
    (bookkeeping symbol).answers o (B.serve o w).1 ∧
      ManualBooks symbol (B.serve o w).2.db ∧
      (ManualOpen symbol w.db → ManualOpen symbol (B.serve o w).2.db) := by
  cases o with
  | db o => exact ⟨trivial, bookkeeping_serve ho hbooks⟩
  | fx o => exact ⟨trivial, hbooks, id⟩
  | cx o => exact ⟨trivial, hbooks, id⟩
  | host o =>
      refine ⟨?_, hbooks, id⟩
      cases o with
      | uuidHex =>
          obtain ⟨hex, b', hanswer, hlen⟩ := hB w.rest
          show (bookkeeping symbol).answers (.host .uuidHex) (B.host .uuidHex w.rest).1
          rw [hanswer]
          exact hlen
      | _ => trivial

/-- A program that keeps the books leaves the open row open. -/
theorem books_run (hB : B.Generates) {α : Type} {p : Work α}
    (hp : Prog.Sends (bookkeeping symbol) (fun _ => True) p)
    (hbooks : ManualBooks symbol w.db) :
    ManualBooks symbol (Prog.run B.serve p w).2.db ∧
      (ManualOpen symbol w.db → ManualOpen symbol (Prog.run B.serve p w).2.db) := by
  refine ⟨?_, fun hopen => ?_⟩
  · exact hp.keeps (S := B.serve) (I := fun w => ManualBooks symbol w.db)
      (fun o w hw ho => ⟨(bookkeeping_step hB o w hw ho).1, (bookkeeping_step hB o w hw ho).2.1⟩)
      hbooks
  · refine (hp.keeps (S := B.serve) (I := fun w => ManualBooks symbol w.db ∧ ManualOpen symbol w.db)
      (fun o w hw ho => ?_) ⟨hbooks, hopen⟩).2
    obtain ⟨hanswer, hkept, hstill⟩ := bookkeeping_step hB o w hw.1 ho
    exact ⟨hanswer, hkept, hstill hw.2⟩

/-- The worlds the two loops of a scan lead through. -/
def CryptoExecutor.afterScan (ex : CryptoExecutor) (B : Backend β)
    (plan : ScanOutcome ExchangePosition String) (w : World β) : World β :=
  let closed := (plan.closes.map (·.1)).foldl
    (fun w row => (Prog.run B.serve (ex.onMissedClose row) w).2) w
  (plan.imports.map (·.1)).foldl
    (fun w pos => (Prog.run B.serve (CryptoExecutor.onManualPosition pos) w).2) closed

section Run

variable (ex : CryptoExecutor) (st : ReconcileState String) {b' : β}

/-- A scan that cannot read the exchange does nothing. -/
theorem scanOnce_skips {e : Exn} (h : B.cx (.getPositions none) w.rest = (.error e, b')) :
    Prog.run B.serve (ex.scanOnce st) w = (.ok { state := st }, { w with rest := b' }) := by
  have hread := run_exchange B w (.getPositions none)
  rw [h] at hread
  rw [CryptoExecutor.scanOnce, Prog.run_tryCatch, Prog.run_bind_error _ hread]
  rfl

theorem scanOnce_hands {positions : List ExchangePosition}
    (h : B.cx (.getPositions none) w.rest = (.ok positions, b')) :
    let plan := ex.scanPlan st positions (w.db.activeForFlat none none none)
    ∃ closes imports, closes.map (·.1) = plan.closes.map (·.1) ∧
      imports.map (·.1) = plan.imports.map (·.1) ∧
      Prog.run B.serve (ex.scanOnce st) w =
        (.ok { plan with closes, imports }, ex.afterScan B plan { w with rest := b' }) := by
  have hread := run_exchange B w (.getPositions none)
  rw [h] at hread
  intro plan
  obtain ⟨closes, hcloses, hclosed⟩ := attemptEach_run B ex.onMissedClose
    (plan.closes.map (·.1)) { w with rest := b' }
  obtain ⟨imports, himports, himported⟩ := attemptEach_run B CryptoExecutor.onManualPosition
    (plan.imports.map (·.1)) _
  refine ⟨closes, imports, hclosed, himported, ?_⟩
  rw [CryptoExecutor.scanOnce, Prog.run_tryCatch, Prog.run_bind_ok _ hread,
    Prog.run_bind_ok _ (run_getOpenPositionsForFlat ..), Prog.run_bind_ok _ hcloses,
    Prog.run_bind_ok _ himports]
  rfl

end Run

theorem books_foldl (hB : B.Generates) {α : Type} {handler : α → Work Unit} {xs : List α}
    (h : ∀ a ∈ xs, Prog.Sends (bookkeeping symbol) (fun _ => True) (handler a)) {w : World β}
    (hbooks : ManualBooks symbol w.db) :
    let w' := xs.foldl (fun w a => (Prog.run B.serve (handler a) w).2) w
    ManualBooks symbol w'.db ∧ (ManualOpen symbol w.db → ManualOpen symbol w'.db) := by
  induction xs generalizing w with
  | nil => exact ⟨hbooks, id⟩
  | cons a rest ih =>
      obtain ⟨hbooks', hopen'⟩ := books_run hB (h a List.mem_cons_self) hbooks
      obtain ⟨hbooks'', hopen''⟩ := ih (fun a' ha' => h a' (List.mem_cons_of_mem _ ha')) hbooks'
      exact ⟨hbooks'', hopen'' ∘ hopen'⟩

theorem run_insertManual (ref : String) (pos : ExchangePosition) (w : World β) :
    ManualOpen pos.symbol (Prog.run B.serve (insertPosition (manualRow ref pos)) w).2.db := by
  rw [insertPosition, run_sql]
  exact manualOpen_insertRow ref pos w.db

/-- The message of an import does not touch the store. -/
theorem run_importMessage (report : Report) (w : World β) :
    (Prog.run B.serve
      (do
        let _footer ← host .currentFooter
        host (.notifyChannel report)) w).2.db = w.db := by
  rw [Prog.run_bind, run_host]
  rcases B.host .currentFooter w.rest with ⟨e | footer, b'⟩
  · rfl
  · show (Prog.run B.serve (host (.notifyChannel report)) _).2.db = _
    rw [run_host]

/-- The import leaves its row open, however its message fares. -/
theorem onManualPosition_opens (hB : B.Generates) (pos : ExchangePosition) (w : World β) :
    ManualOpen pos.symbol
      (Prog.run B.serve (CryptoExecutor.onManualPosition pos) w).2.db := by
  obtain ⟨hex, b', hanswer, -⟩ := hB w.rest
  have hhex := run_host B w .uuidHex
  rw [hanswer] at hhex
  rw [CryptoExecutor.onManualPosition, Prog.run_bind_ok _ hhex,
    Prog.run_bind_ok _ (run_logPosition ..), Prog.run_bind]
  have hopen := run_insertManual (B := B) (manualRef pos.symbol (takeText 8 hex)) pos
    { db := w.db.insertLog (manualLog (manualRef pos.symbol (takeText 8 hex)) pos), rest := b' }
  rcases hins : Prog.run B.serve (insertPosition _) _ with ⟨e | _, w'⟩
  · rw [hins] at hopen
    exact hopen
  · rw [hins] at hopen
    show ManualOpen pos.symbol (Prog.run B.serve _ w').2.db
    rw [run_importMessage]
    exact hopen

theorem imports_foldl (hB : B.Generates) {xs : List ExchangePosition} {w : World β}
    (hbooks : ManualBooks symbol w.db) (hmem : ∃ pos ∈ xs, pos.symbol = symbol) :
    ManualOpen symbol (xs.foldl (fun w pos =>
      (Prog.run B.serve (CryptoExecutor.onManualPosition pos) w).2) w).db := by
  induction xs generalizing w with
  | nil =>
      obtain ⟨pos, hpos, -⟩ := hmem
      cases hpos
  | cons a rest ih =>
      have hbooks' := (books_run hB (onManualPosition_books a) hbooks).1
      obtain ⟨pos, hpos, hsymbol⟩ := hmem
      rcases List.mem_cons.mp hpos with rfl | hrest
      · obtain rfl := hsymbol
        exact (books_foldl hB (fun a' _ => onManualPosition_books a') hbooks').2
          (onManualPosition_opens hB pos w)
      · exact ih hbooks' ⟨pos, hrest, hsymbol⟩

structure ScannedOnce (symbol : String) (w w' : World β)
    (out : ScanOutcome ExchangePosition String) : Prop where
  books : ManualBooks symbol w'.db
  imports : importsOf symbol out ≤ 1
  closes : ∀ c ∈ out.closes, ¬ c.1.Manual symbol
  kept : ManualOpen symbol w.db → ManualOpen symbol w'.db
  opened : importsOf symbol out ≠ 0 → ¬ ManualOpen symbol w.db ∧ ManualOpen symbol w'.db

theorem scanOnce_scannedOnce {ex : CryptoExecutor} (hfix : ex.getSymbol symbol = symbol)
    (hB : B.Generates) (st : ReconcileState String) (hbooks : ManualBooks symbol w.db)
    (hlive : Live B symbol w) :
    ∃ out w', Prog.run B.serve (ex.scanOnce st) w = (.ok out, w') ∧
      ScannedOnce symbol w w' out := by
  rcases hcx : B.cx (.getPositions none) w.rest with ⟨e | positions, b'⟩
  · refine ⟨_, _, scanOnce_skips ex st hcx, hbooks, ?_, ?_, id, ?_⟩
    · simp [importsOf]
    · simp
    · simp [importsOf]
  obtain ⟨closes, imports, hcloses, himports, hrun⟩ := scanOnce_hands ex st hcx
  obtain ⟨pos, hpos, hsymbol, hvol⟩ := hlive positions b' hcx
  have hsymbols : imports.map (·.1.symbol) =
      (ex.scanPlan st positions (w.db.activeForFlat none none none)).imports.map (·.1.symbol) := by
    simpa [Function.comp_def] using congrArg (List.map ExchangePosition.symbol) himports
  obtain ⟨hnodup, huntracked⟩ :=
    CryptoExecutor.imported_symbols ex st positions (w.db.activeForFlat none none none)
  -- a row that stands for the symbol is not handed out: the position matches it
  have hothers : ∀ row ∈ closes.map (·.1), row ∈ w.db.rows ∧ row.symbol ≠ symbol := by
    intro row hrow
    rw [hcloses] at hrow
    obtain ⟨c, hc, rfl⟩ := List.mem_map.mp hrow
    obtain ⟨hmem, hne⟩ := CryptoExecutor.scanPlan_closes hc hpos hvol
    rw [Db.activeForFlat_none] at hmem
    refine ⟨List.mem_of_mem_filter hmem, fun heq => hne ?_⟩
    rw [heq, hfix, hsymbol]
  obtain ⟨hclosed, hkept⟩ := books_foldl hB (w := { w with rest := b' })
    (fun row hrow => onMissedClose_books ex fun href =>
      (hothers row (hcloses ▸ hrow)).2 (hbooks.refs row (hothers row (hcloses ▸ hrow)).1 href))
    hbooks
  obtain ⟨himported, hkept'⟩ :=
    books_foldl hB (fun pos (_ : pos ∈ (ex.scanPlan st positions _).imports.map (·.1)) =>
      onManualPosition_books pos) hclosed
  have hmemOf : importsOf symbol
      { (ex.scanPlan st positions (w.db.activeForFlat none none none)) with closes, imports } ≠ 0 →
      ∃ c ∈ (ex.scanPlan st positions (w.db.activeForFlat none none none)).imports,
        c.1.symbol = symbol := by
    intro hcalled
    rw [importsOf, hsymbols] at hcalled
    exact List.mem_map.mp (List.count_pos_iff.mp (Nat.pos_of_ne_zero hcalled))
  refine ⟨_, _, hrun, himported, ?_, ?_, hkept' ∘ hkept, fun hcalled => ⟨?_, ?_⟩⟩
  · rw [importsOf, hsymbols]
    exact List.nodup_iff_count_le_one.mp hnodup symbol
  · intro c hc hmanual
    exact (hothers c.1 (List.mem_map_of_mem hc)).2 hmanual.2
  · -- an open row under the symbol would track the position
    rintro ⟨row, hrow, hactive, hmanual⟩
    obtain ⟨c, hc, hcs⟩ := hmemOf hcalled
    refine (huntracked c hc).2 row ?_ ?_
    · rw [Db.activeForFlat_none]
      exact List.mem_filter.mpr ⟨hrow, hactive⟩
    · rw [hmanual.2, hfix, hcs]
  · obtain ⟨c, hc, hcs⟩ := hmemOf hcalled
    exact imports_foldl hB hclosed ⟨c.1, List.mem_map_of_mem hc, hcs⟩

end Scan

/-! ## Every number of scans -/

/-- What others may do to the store between two scans while the position lives: they book
nothing under its name, and leave its open row open. -/
structure Meantime (symbol : String) (db db' : Db) : Prop where
  books : ManualBooks symbol db → ManualBooks symbol db'
  kept : ManualOpen symbol db → ManualOpen symbol db'

/-- The scans of a job during which a position on the symbol stays live. -/
inductive Watched {β : Type} (ex : CryptoExecutor) (B : Backend β) (symbol : String) :
    World β → ReconcileState String → List (ScanOutcome ExchangePosition String) → Prop where
  | done {w : World β} {st : ReconcileState String} : Watched ex B symbol w st []
  | scan {w w' w'' : World β} {st : ReconcileState String}
      {out : ScanOutcome ExchangePosition String}
      {outs : List (ScanOutcome ExchangePosition String)} (live : Live B symbol w)
      (ran : Prog.run B.serve (ex.scanOnce st) w = (.ok out, w'))
      (meantime : Meantime symbol w'.db w''.db) (rest : Watched ex B symbol w'' out.state outs) :
      Watched ex B symbol w st (out :: outs)

/-- The manual handler is called for the symbol at most once, and no row booked by it is
handed to the other one. -/
def ImportedOnce (symbol : String) (outs : List (ScanOutcome ExchangePosition String)) : Prop :=
  (outs.map (importsOf symbol)).sum ≤ 1 ∧
    ∀ out ∈ outs, ∀ c ∈ out.closes, ¬ c.1.Manual symbol

theorem watched_importedOnce {β : Type} {ex : CryptoExecutor} {B : Backend β}
    (hfix : ex.getSymbol symbol = symbol) (hB : B.Generates) {w : World β}
    {st : ReconcileState String} {outs : List (ScanOutcome ExchangePosition String)}
    (hbooks : ManualBooks symbol w.db) (h : Watched ex B symbol w st outs) :
    ImportedOnce symbol outs ∧
      (ManualOpen symbol w.db → (outs.map (importsOf symbol)).sum = 0) := by
  induction h with
  | done => simp [ImportedOnce]
  | @scan w w' w'' st out outs live ran meantime rest ih =>
      obtain ⟨out', w₁, hrun, hscan⟩ := scanOnce_scannedOnce hfix hB st hbooks live
      obtain ⟨rfl, rfl⟩ : out' = out ∧ w₁ = w' := by
        rw [ran] at hrun
        cases hrun
        exact ⟨rfl, rfl⟩
      obtain ⟨⟨hsum, hcloses⟩, hnone⟩ := ih (meantime.books hscan.books)
      have hclosed : ∀ o ∈ out' :: outs, ∀ c ∈ o.closes, ¬ c.1.Manual symbol := by
        intro o ho
        rcases List.mem_cons.mp ho with rfl | ho
        · exact hscan.closes
        · exact hcloses o ho
      rw [ImportedOnce, List.map_cons, List.sum_cons]
      by_cases hcalled : importsOf symbol out' = 0
      · refine ⟨⟨by omega, hclosed⟩, fun hopen => ?_⟩
        have hlater := hnone (meantime.kept (hscan.kept hopen))
        omega
      · -- the one call: from here on the row is open
        obtain ⟨hclosedBefore, hopened⟩ := hscan.opened hcalled
        have hlater := hnone (meantime.kept hopened)
        have hone := hscan.imports
        exact ⟨⟨by omega, hclosed⟩, fun hopen => absurd hopen hclosedBefore⟩

/-! ## A symbol that does not resolve to itself -/

/-- Calls about one symbol: the exchange reports no other, and no other is booked. -/
def onlyOf (symbol : String) : Prog.Contract WorkerOp WorkerOp.Ans Exn where
  guard
    | .db (.insertRow n) => n.symbol = symbol
    | _ => True
  answers
    | .cx (.getPositions _), .ok positions =>
        ∀ pos ∈ (positions : List ExchangePosition), pos.symbol = symbol
    | _, _ => True

theorem onlyOf_perform {o : WorkerOp} (ho : (onlyOf symbol).guard o) :
    Prog.Sends (onlyOf symbol) (fun _ => True) (Prog.perform o) :=
  Prog.sends_perform ho fun _ _ => trivial

theorem onManualPosition_onlyOf {pos : ExchangePosition} (hpos : pos.symbol = symbol) :
    Prog.Sends (onlyOf symbol) (fun _ => True) (CryptoExecutor.onManualPosition pos) := by
  refine Prog.Sends.bind (onlyOf_perform trivial) fun hex _ => ?_
  refine Prog.Sends.bind (Prog.Sends.tryCatch (onlyOf_perform trivial) fun _ => by simp)
    fun _ _ => ?_
  refine Prog.Sends.bind (onlyOf_perform hpos) fun _ _ => ?_
  exact Prog.Sends.bind (onlyOf_perform trivial) fun _ _ => onlyOf_perform trivial

theorem onMissedClose_onlyOf (ex : CryptoExecutor) (row : Row) :
    Prog.Sends (onlyOf symbol) (fun _ => True) (ex.onMissedClose row) := by
  refine Prog.Sends.bind (Q := fun _ => True) ?_ fun closePrice _ => ?_
  · refine Prog.Sends.tryCatch ?_ fun _ => by simp
    exact Prog.Sends.bind (onlyOf_perform trivial) fun _ _ => by simp
  refine Prog.Sends.bind (Prog.Sends.tryCatch (onlyOf_perform trivial) fun _ => by simp)
    fun _ _ => ?_
  refine Prog.Sends.bind (onlyOf_perform trivial) fun _ _ => ?_
  exact Prog.Sends.bind (onlyOf_perform trivial) fun _ _ => onlyOf_perform trivial

theorem attemptEach_sends {α : Type} {C : Prog.Contract WorkerOp WorkerOp.Ans Exn}
    {handler : α → Work Unit} {xs : List α}
    (h : ∀ a ∈ xs, Prog.Sends C (fun _ => True) (handler a)) :
    Prog.Sends C (fun _ => True) (ReconcileJob.attemptEach handler xs) := by
  induction xs with
  | nil => simp [ReconcileJob.attemptEach]
  | cons a rest ih =>
      refine Prog.Sends.bind (Q := fun _ => True) ?_ fun outcome _ => ?_
      · refine Prog.Sends.tryCatch ?_ fun _ => by simp
        exact Prog.Sends.bind (h a List.mem_cons_self) fun _ _ => by simp
      · exact Prog.Sends.bind (ih fun a' ha' => h a' (List.mem_cons_of_mem _ ha'))
          fun _ _ => by simp

theorem scanOnce_onlyOf (ex : CryptoExecutor) (st : ReconcileState String) :
    Prog.Sends (onlyOf symbol) (fun _ => True) (ex.scanOnce st) := by
  refine Prog.Sends.tryCatch ?_ fun _ => by simp
  refine Prog.Sends.bind
    (Q := fun positions : List ExchangePosition => ∀ pos ∈ positions, pos.symbol = symbol)
    (Prog.sends_perform trivial fun _ h => h) fun positions hpositions => ?_
  refine Prog.Sends.bind (Q := fun _ => True)
    (Prog.Sends.tryCatch (onlyOf_perform trivial) fun _ => by simp) fun dbRows _ => ?_
  refine Prog.Sends.bind (attemptEach_sends fun row _ => onMissedClose_onlyOf ex row) fun _ _ => ?_
  refine Prog.Sends.bind (attemptEach_sends fun pos hpos => ?_) fun _ _ => by simp
  obtain ⟨c, hc, rfl⟩ := List.mem_map.mp hpos
  have hmem := (CryptoExecutor.imported_symbols ex st positions dbRows).2 c hc
  exact onManualPosition_onlyOf (hpositions _ hmem.1)

def loneBackend (pos : ExchangePosition) : Backend Unit where
  fx _ b := (.error (.gateway "no platform"), b)
  cx
    | .getPositions _, b => (.ok [pos], b)
    | _, b => (.error (.gateway "unavailable"), b)
  host
    | .uuidHex, b => (.ok "0123456789abcdef", b)
    | .currentFooter, b => (.ok "", b)
    | .notifyChannel _, b => (.ok (), b)
    | _, b => (.error (.gateway "unavailable"), b)

theorem onlyOf_serve {β : Type} {B : Backend β} {o : WorkerOp}
    (ho : (onlyOf symbol).guard o) {w : World β} (hall : ∀ r ∈ w.db.rows, r.symbol = symbol) :
    ∀ r ∈ (B.serve o w).2.db.rows, r.symbol = symbol := by
  cases o with
  | fx o => exact hall
  | cx o => exact hall
  | host o => exact hall
  | db o =>
      cases o with
      | selectActiveByStrategy | selectActiveForFlat | selectLogged | selectPosition => exact hall
      | insertLog l => exact hall
      | insertRow n =>
          rcases Db.serve_insertRow n w.db with hsame | ⟨r, hr, hrows⟩
          · show ∀ r ∈ (Db.serve (.insertRow n) w.db).2.rows, _
            rw [hsame]
            exact hall
          · show ∀ r ∈ (Db.serve (.insertRow n) w.db).2.rows, _
            rw [hrows]
            intro r' hr'
            rcases List.mem_append.mp hr' with hold | hnew
            · exact hall r' hold
            · obtain rfl := List.mem_singleton.mp hnew
              have hsymbol : r'.symbol = n.symbol := congrArg (·.2.1) (NewRow.toRow?_key hr).1
              exact hsymbol.trans ho
      | updateStatus u =>
          show ∀ r ∈ (Db.serve (.updateStatus u) w.db).2.rows, _
          rcases Db.serve_updateStatus u w.db with hsame | hrows
          · rw [hsame]
            exact hall
          · rw [hrows]
            intro r hr
            obtain ⟨r₀, hr₀, rfl⟩ := mem_updateRows.mp hr
            exact (congrArg (·.2.1) (Row.update_key r₀ u w.db.clock)).trans (hall r₀ hr₀)

theorem loneBackend_answers {pos : ExchangePosition} (o : WorkerOp) (w : World Unit) :
    (onlyOf pos.symbol).answers o ((loneBackend pos).serve o w).1 := by
  cases o with
  | db o => trivial
  | fx o => trivial
  | host o => trivial
  | cx o =>
      cases o with
      | getPositions s =>
          intro p hp
          exact congrArg _ (List.mem_singleton.mp hp)
      | _ => trivial

section Lone

variable {ex : CryptoExecutor} {pos : ExchangePosition}

/-- Rows of the symbol do not track its position: it is imported whenever it is suspected,
and always suspected. -/
theorem lone_scan (hne : ex.getSymbol pos.symbol ≠ pos.symbol) (hvol : 0 < pos.volume)
    (st : ReconcileState String) {w : World Unit} (hall : ∀ r ∈ w.db.rows, r.symbol = pos.symbol) :
    ∃ out w', Prog.run (loneBackend pos).serve (ex.scanOnce st) w = (.ok out, w') ∧
      (∀ r ∈ w'.db.rows, r.symbol = pos.symbol) ∧
      pos.symbol ∈ out.state.suspectedManual ∧
      (pos.symbol ∈ st.suspectedManual → importsOf pos.symbol out = 1) := by
  have hcx : (loneBackend pos).cx (.getPositions none) w.rest = (.ok [pos], w.rest) := rfl
  obtain ⟨closes, imports, -, himports, hrun⟩ := scanOnce_hands ex st hcx
  have huntracked : ex.untrackedBy [pos] (w.db.activeForFlat none none none) = [pos] := by
    refine List.filter_eq_self.mpr fun p hp => ?_
    obtain rfl := List.mem_singleton.mp hp
    rw [decide_eq_true_iff]
    refine ⟨hvol, fun row hrow => ?_⟩
    rw [Db.activeForFlat_none] at hrow
    rw [hall row (List.mem_of_mem_filter hrow)]
    exact hne
  obtain ⟨hplan, hsuspected⟩ := CryptoExecutor.scanPlan_imports ex st [pos]
    (w.db.activeForFlat none none none)
  rw [huntracked] at hplan hsuspected
  refine ⟨_, _, hrun, ?_, ?_, fun hst => ?_⟩
  · have honly : Prog.Sends (onlyOf pos.symbol) (fun _ => True) (ex.scanOnce st) :=
      scanOnce_onlyOf ex st
    have hrows := honly.keeps
      (S := (loneBackend pos).serve) (I := fun w => ∀ r ∈ w.db.rows, r.symbol = pos.symbol)
      (fun o w hw ho => ⟨loneBackend_answers o w, onlyOf_serve ho hw⟩) hall
    rw [hrun] at hrows
    exact hrows
  · rw [hsuspected]
    exact Confirm.mem_keySet.mpr ⟨pos, List.mem_cons_self⟩
  · have hpos : imports.map (·.1) = [pos] := by
      rw [himports, hplan]
      show ([(pos.symbol, pos)].filter (·.1 ∈ st.suspectedManual)).map (·.2) = _
      simp [hst]
    have hsymbols := congrArg (List.map ExchangePosition.symbol) hpos
    rw [List.map_map] at hsymbols
    show (imports.map (ExchangePosition.symbol ∘ Prod.fst)).count pos.symbol = 1
    rw [hsymbols]
    simp

/-- Three scans are enough to import it twice. -/
theorem lone_importedAgain (hne : ex.getSymbol pos.symbol ≠ pos.symbol) (hvol : 0 < pos.volume) :
    ∃ outs, Watched ex (loneBackend pos) pos.symbol { db := Db.empty, rest := () }
        ReconcileJob.initial outs ∧ ¬ ImportedOnce pos.symbol outs := by
  have hlive : ∀ w : World Unit, Live (loneBackend pos) pos.symbol w := by
    rintro w positions b' hcx
    cases hcx
    exact ⟨pos, List.mem_cons_self, rfl, hvol⟩
  have hquiet : ∀ db : Db, Meantime pos.symbol db db := fun _ => ⟨id, id⟩
  obtain ⟨out₁, w₁, hrun₁, hall₁, hsuspected₁, -⟩ := lone_scan hne hvol ReconcileJob.initial
    (w := { db := Db.empty, rest := () }) fun _ hr => absurd hr List.not_mem_nil
  obtain ⟨out₂, w₂, hrun₂, hall₂, hsuspected₂, himport₂⟩ := lone_scan hne hvol out₁.state hall₁
  obtain ⟨out₃, w₃, hrun₃, -, -, himport₃⟩ := lone_scan hne hvol out₂.state hall₂
  refine ⟨[out₁, out₂, out₃], ?_, fun honce => ?_⟩
  · exact .scan (hlive _) hrun₁ (hquiet _)
      (.scan (hlive _) hrun₂ (hquiet _) (.scan (hlive _) hrun₃ (hquiet w₃.db) .done))
  · have hsum := honce.1
    simp only [List.map_cons, List.map_nil, List.sum_cons, List.sum_nil,
      himport₂ hsuspected₁, himport₃ hsuspected₂] at hsum
    omega

end Lone

/-- The exchange's symbol of a pair quoted in another asset. -/
def usdcPosition : ExchangePosition where
  symbol := "ETHUSDC"
  side := .long
  quantity := 1
  entryPrice := 2000
  ticket := 1

def tetherExecutor : CryptoExecutor where
  config := {}

/-- A position on `ETHUSDC` is imported twice in three scans of a worker that quotes in
tether: its rows are looked for under `ETHUSDCUSDT`. -/
theorem ethUsdc_importedAgain :
    ∃ outs, Watched tetherExecutor (loneBackend usdcPosition) "ETHUSDC"
        { db := Db.empty, rest := () } ReconcileJob.initial outs ∧
      ¬ ImportedOnce "ETHUSDC" outs :=
  @lone_importedAgain tetherExecutor usdcPosition (by decide +kernel) (by decide +kernel)

/-- **A manual position is imported once.** The symbols for which this holds of every run of
scans, from any state of the job and any store whose manual rows are the import's, are those
that `get_symbol` leaves alone. -/
theorem manualPosition_importedOnce (ex : CryptoExecutor) (symbol : String) :
    (∀ (β : Type) (B : Backend β) (w : World β) (st : ReconcileState String)
      (outs : List (ScanOutcome ExchangePosition String)), B.Generates →
        ManualBooks symbol w.db → Watched ex B symbol w st outs → ImportedOnce symbol outs) ↔
      ex.getSymbol symbol = symbol := by
  constructor
  · intro h
    by_contra hne
    let pos : ExchangePosition :=
      { symbol, side := .long, quantity := 1, entryPrice := 1, ticket := 1 }
    have hvol : 0 < pos.volume := by
      show (0 : ℚ) < |1|
      norm_num
    obtain ⟨outs, hwatched, hagain⟩ := @lone_importedAgain ex pos hne hvol
    refine hagain (h Unit (loneBackend pos) _ _ outs ?_ ?_ hwatched)
    · intro b
      exact ⟨"0123456789abcdef", b, rfl, by decide⟩
    · exact ⟨fun _ hr => absurd hr List.not_mem_nil, fun _ hr => absurd hr List.not_mem_nil⟩
  · intro hfix β B w st outs hB hbooks hwatched
    exact (watched_importedOnce hfix hB hbooks hwatched).1

end TradeWorker
