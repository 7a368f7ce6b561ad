import TradeWorker.Domain

/-!
# The position store

The `positions` and `position_logs` tables, and the SQL statements the
repository sends them. SQLite keeps two things true on its own: the `NOT NULL`
columns, and the partial unique index that allows one active row for each
(strategy, symbol, `COALESCE(signal_uxid, '')`). The second is a field of `Db`,
so a store that breaks it cannot be built; a statement that would break it is
refused and leaves the store as it was.
-/

namespace TradeWorker

/-! ## Rows -/

inductive PositionStatus where
  | opened | tp1 | tp2 | sl | rSl | terminalClosed | forcedClosed | flatted | rejected
  deriving DecidableEq, Repr

/-- The predicate `status IN ('OPENED', 'TP1')`. -/
def PositionStatus.isActive : PositionStatus → Bool
  | .opened | .tp1 => true
  | _ => false

def PositionStatus.isTerminal : PositionStatus → Bool
  | .tp2 | .sl | .rSl | .flatted | .forcedClosed | .terminalClosed => true
  | _ => false

/-- `gateway_message`: the JSON of the signal that was handled, or any other
text. -/
inductive Message where
  | signal (s : Signal)
  | text (t : String)
  deriving DecidableEq, Repr

/-- `json.loads(raw).get("tp2")`, with a text that is no signal giving none. -/
def Message.tp2 : Message → Option ℚ
  | .signal s => s.tp2
  | .text _ => none

/-- A row of `positions`. -/
structure Row where
  id : Nat
  refSourceId : String
  refId : String
  signalId : Option String := none
  signalUxid : Option String := none
  strategy : String
  symbol : String
  action : String
  volume : ℚ
  openedPrice : ℚ
  closedPrice : Option ℚ := none
  status : PositionStatus
  gatewayReturnCode : Option Int := none
  comment : Option String := none
  gatewayMessage : Option Message := none
  strategyCode : Option Int := none
  marketType : Option String := none
  syncStatus : String := "PENDING"
  syncTime : Option Int := none
  createdAt : Int := 0
  updatedAt : Int := 0
  deriving DecidableEq, Repr

/-- An active row is one an exit may still address. -/
def Row.isActive (r : Row) : Bool := r.status.isActive

def Row.key (r : Row) : String × String × String :=
  (r.strategy, r.symbol, r.signalUxid.getD "")

def Signal.rowKey (signal : Signal) : String × String × String :=
  (signal.strategy, signal.symbol, signal.signalUxid.getD "")

/-- Two rows the index may not hold together. -/
def Row.Conflicts (a b : Row) : Prop :=
  a.isActive ∧ b.isActive ∧ a.key = b.key

instance (a b : Row) : Decidable (a.Conflicts b) :=
  inferInstanceAs (Decidable (_ ∧ _ ∧ _))

/-- `uidx_positions_one_active_per_signal`. -/
def OneActive (rows : List Row) : Prop :=
  rows.Pairwise fun a b => ¬ a.Conflicts b

instance (rows : List Row) : Decidable (OneActive rows) :=
  inferInstanceAs (Decidable (List.Pairwise _ _))

structure LogRow where
  strategy : String
  refId : Option String
  refSourceId : Option String
  signalId : Option String
  signalUxid : Option String
  symbol : String
  action : String
  volume : Option ℚ
  price : Option ℚ
  sl : Option ℚ
  tp1 : Option ℚ
  gatewayReturnCode : Option Int
  comment : String
  message : Option Message
  author : String
  marketType : Option String
  deriving DecidableEq, Repr

/-- The tables, with the clock `CURRENT_TIMESTAMP` reads (whole seconds). -/
structure Db where
  rows : List Row := []
  logs : List LogRow := []
  clock : Int := 0
  oneActive : OneActive rows

def Db.empty : Db where
  oneActive := List.Pairwise.nil

/-! ## Statements -/

/-- The values of `INSERT INTO positions`; the `NOT NULL` columns may still be
missing here. -/
structure NewRow where
  refId : Option String
  signalId : Option String
  signalUxid : Option String
  strategy : String
  symbol : String
  action : String
  volume : Option ℚ
  openedPrice : Option ℚ
  status : PositionStatus
  gatewayReturnCode : Option Int
  comment : Option String
  message : Option Message
  strategyCode : Option Int
  marketType : Option String
  deriving DecidableEq, Repr

/-- The parameters of `UPDATE positions SET status = ? … WHERE ref_source_id = ?`.
A missing reference matches no row. -/
structure StatusUpdate where
  refSourceId : Option String
  status : PositionStatus
  refId : Option String := none
  closedPrice : Option ℚ := none
  gatewayReturnCode : Option Int := none
  comment : Option String := none
  message : Option Message := none
  deriving DecidableEq, Repr

/-- The statements of `PositionRepository`. -/
inductive DbOp where
  | selectActiveByStrategy (strategy symbol : String) (signalUxid : Option String)
  | selectActiveForFlat (strategy symbol refId : Option String)
  | selectLogged (signalId : String)
  | selectPosition (refSourceId : String)
  | insertLog (l : LogRow)
  | insertRow (r : NewRow)
  | updateStatus (u : StatusUpdate)
  deriving DecidableEq, Repr

/-- What each statement returns. -/
@[reducible] def DbOp.Ans : DbOp → Type
  | .selectActiveByStrategy .. => List Row
  | .selectActiveForFlat .. => List Row
  | .selectLogged _ => Bool
  | .selectPosition _ => Option Row
  | .insertLog _ => Unit
  | .insertRow _ => Unit
  | .updateStatus _ => Unit

def DbOp.isRead : DbOp → Bool
  | .selectActiveByStrategy .. | .selectActiveForFlat .. | .selectLogged _
  | .selectPosition _ => true
  | .insertLog _ | .insertRow _ | .updateStatus _ => false

/-- `strategy = ? AND symbol = ? AND status IN (…) [AND signal_uxid = ?]`; the
last condition is there only for a non-empty uxid. -/
def Row.matchesStrategy (strategy symbol : String) (uxid : Option String)
    (r : Row) : Bool :=
  r.strategy = strategy && r.symbol = symbol && r.isActive &&
    match text? uxid with
    | none => true
    | some u => r.signalUxid = some u

/-- The filter of `get_open_positions_for_flat`: an empty or missing value
filters nothing. -/
def Row.matchesFlat (strategy symbol refId : Option String) (r : Row) : Bool :=
  r.isActive &&
    ((text? strategy).all (r.strategy = ·)) &&
    ((text? symbol).all (r.symbol = ·)) &&
    ((text? refId).all (r.refId = ·))

/-- One row after the update: `COALESCE(?, column)` on each value. -/
def Row.apply (r : Row) (u : StatusUpdate) (now : Int) : Row :=
  { r with
    status := u.status
    refId := u.refId.getD r.refId
    closedPrice := u.closedPrice <|> r.closedPrice
    gatewayReturnCode := u.gatewayReturnCode <|> r.gatewayReturnCode
    comment := u.comment <|> r.comment
    gatewayMessage := u.message <|> r.gatewayMessage
    syncStatus := "PENDING"
    updatedAt := now }

/-- A row under `WHERE ref_source_id = ?`. -/
def Row.update (r : Row) (u : StatusUpdate) (now : Int) : Row :=
  if u.refSourceId = some r.refSourceId then r.apply u now else r

/-- Every row under the reference is written. -/
def updateRows (u : StatusUpdate) (now : Int) (rows : List Row) : List Row :=
  rows.map (·.update u now)

/-- The stored form of an insert, when its `NOT NULL` columns are present.
`ref_source_id` is seeded from `ref_id`. -/
def NewRow.toRow? (n : NewRow) (id : Nat) (now : Int) : Option Row :=
  match n.refId, n.volume, n.openedPrice with
  | some refId, some volume, some openedPrice =>
      some { id, refSourceId := refId, refId, signalId := n.signalId,
             signalUxid := n.signalUxid, strategy := n.strategy, symbol := n.symbol,
             action := n.action, volume, openedPrice, status := n.status,
             gatewayReturnCode := n.gatewayReturnCode, comment := n.comment,
             gatewayMessage := n.message, strategyCode := n.strategyCode,
             marketType := n.marketType, createdAt := now, updatedAt := now }
  | _, _, _ => none

namespace Db

/-- `get_open_positions_by_strategy`'s query, in row order. -/
def activeByStrategy (db : Db) (strategy symbol : String) (uxid : Option String) :
    List Row :=
  db.rows.filter (·.matchesStrategy strategy symbol uxid)

/-- `get_open_positions_for_flat`'s query. -/
def activeForFlat (db : Db) (strategy symbol refId : Option String) : List Row :=
  db.rows.filter (·.matchesFlat strategy symbol refId)

/-- `signal_exists`'s query. -/
def logged (db : Db) (signalId : String) : Bool :=
  db.logs.any (·.signalId = some signalId)

/-- `get_position`'s query: the first row under the reference. -/
def position (db : Db) (refSourceId : String) : Option Row :=
  db.rows.find? (·.refSourceId = refSourceId)

def insertLog (db : Db) (l : LogRow) : Db :=
  { db with logs := db.logs ++ [l] }

/-- An insert, refused on a missing `NOT NULL` value or an index violation. -/
def insertRow (db : Db) (n : NewRow) : Except Exn Db :=
  match n.toRow? (db.rows.length + 1) db.clock with
  | none => .error (.sqlite "NOT NULL constraint failed")
  | some r =>
      if h : OneActive (db.rows ++ [r]) then
        .ok { db with rows := db.rows ++ [r], oneActive := h }
      else .error (.sqlite "UNIQUE constraint failed")

/-- A status update, refused on an index violation. -/
def updateStatus (db : Db) (u : StatusUpdate) : Except Exn Db :=
  if h : OneActive (updateRows u db.clock db.rows) then
    .ok { db with rows := updateRows u db.clock db.rows, oneActive := h }
  else .error (.sqlite "UNIQUE constraint failed")

/-- The store answering its statements. A refused statement changes nothing. -/
def serve : (o : DbOp) → Db → Except Exn o.Ans × Db
  | .selectActiveByStrategy strategy symbol uxid, db =>
      (.ok (db.activeByStrategy strategy symbol uxid), db)
  | .selectActiveForFlat strategy symbol refId, db =>
      (.ok (db.activeForFlat strategy symbol refId), db)
  | .selectLogged id, db => (.ok (db.logged id), db)
  | .selectPosition ref, db => (.ok (db.position ref), db)
  | .insertLog l, db => (.ok (), db.insertLog l)
  | .insertRow n, db =>
      match db.insertRow n with
      | .ok db' => (.ok (), db')
      | .error e => (.error e, db)
  | .updateStatus u, db =>
      match db.updateStatus u with
      | .ok db' => (.ok (), db')
      | .error e => (.error e, db)

end Db

/-! ## What the statements do to the rows -/

@[simp] theorem Row.apply_status (r : Row) (u : StatusUpdate) (now : Int) :
    (r.apply u now).status = u.status := rfl

@[simp] theorem Row.apply_refSourceId (r : Row) (u : StatusUpdate) (now : Int) :
    (r.apply u now).refSourceId = r.refSourceId := rfl

@[simp] theorem Row.apply_key (r : Row) (u : StatusUpdate) (now : Int) :
    (r.apply u now).key = r.key := rfl

@[simp] theorem Row.update_refSourceId (r : Row) (u : StatusUpdate) (now : Int) :
    (r.update u now).refSourceId = r.refSourceId := by
  unfold Row.update
  split <;> rfl

@[simp] theorem Row.update_key (r : Row) (u : StatusUpdate) (now : Int) :
    (r.update u now).key = r.key := by
  unfold Row.update
  split <;> rfl

theorem Row.update_status (r : Row) (u : StatusUpdate) (now : Int) :
    (r.update u now).status =
      if u.refSourceId = some r.refSourceId then u.status else r.status := by
  unfold Row.update
  split <;> rfl

theorem mem_updateRows {u : StatusUpdate} {now : Int} {rows : List Row} {r : Row} :
    r ∈ updateRows u now rows ↔ ∃ r₀ ∈ rows, r₀.update u now = r := by
  simp [updateRows]

theorem Db.activeForFlat_none (db : Db) :
    db.activeForFlat none none none = db.rows.filter (·.isActive) := by
  simp [activeForFlat, Row.matchesFlat]

def Row.updateEach (r : Row) (us : List StatusUpdate) (now : Int) : Row :=
  us.foldl (fun r u => r.update u now) r

@[simp] theorem Row.updateEach_nil (r : Row) (now : Int) : r.updateEach [] now = r := rfl

@[simp] theorem Row.updateEach_cons (r : Row) (u : StatusUpdate) (us : List StatusUpdate)
    (now : Int) : r.updateEach (u :: us) now = (r.update u now).updateEach us now := rfl

@[simp] theorem Row.updateEach_refSourceId (r : Row) (us : List StatusUpdate) (now : Int) :
    (r.updateEach us now).refSourceId = r.refSourceId := by
  induction us generalizing r with
  | nil => rfl
  | cons u us ih => rw [updateEach_cons, ih, update_refSourceId]

@[simp] theorem Row.updateEach_key (r : Row) (us : List StatusUpdate) (now : Int) :
    (r.updateEach us now).key = r.key := by
  induction us generalizing r with
  | nil => rfl
  | cons u us ih => rw [updateEach_cons, ih, update_key]

/-- Updates that agree on the status: a row under one of the references has it. -/
theorem Row.updateEach_status (r : Row) {us : List StatusUpdate} {s : PositionStatus}
    (hs : ∀ u ∈ us, u.status = s) (now : Int) :
    (r.updateEach us now).status =
      if us.any (·.refSourceId = some r.refSourceId) then s else r.status := by
  induction us generalizing r with
  | nil => rfl
  | cons u us ih =>
      rw [updateEach_cons, ih _ fun u' hu' => hs u' (List.mem_cons_of_mem _ hu'),
        update_refSourceId, update_status, hs u List.mem_cons_self]
      by_cases hu : u.refSourceId = some r.refSourceId <;> simp [hu]

/-- A row under none of the references stays as it was. -/
theorem Row.updateEach_of_ne {r : Row} {us : List StatusUpdate}
    (hne : ∀ u ∈ us, u.refSourceId ≠ some r.refSourceId) (now : Int) :
    r.updateEach us now = r := by
  induction us with
  | nil => rfl
  | cons u us ih =>
      have hu : r.update u now = r := if_neg (hne u List.mem_cons_self)
      rw [updateEach_cons, hu]
      exact ih fun u' hu' => hne u' (List.mem_cons_of_mem _ hu')

/-- Closing rows never breaks the index. -/
theorem OneActive.updateRows_of_inactive {rows : List Row} (h : OneActive rows)
    {u : StatusUpdate} (hu : u.status.isActive = false) (now : Int) :
    OneActive (updateRows u now rows) := by
  refine List.Pairwise.map _ (fun a b hab => ?_) h
  rintro ⟨ha, hb, hkey⟩
  refine hab ⟨?_, ?_, by simpa using hkey⟩
  · rw [Row.isActive, Row.update_status] at ha
    split at ha
    · simp [hu] at ha
    · exact ha
  · rw [Row.isActive, Row.update_status] at hb
    split at hb
    · simp [hu] at hb
    · exact hb

theorem Db.updateStatus_of_inactive (db : Db) {u : StatusUpdate}
    (hu : u.status.isActive = false) :
    db.updateStatus u = .ok { db with
      rows := updateRows u db.clock db.rows
      oneActive := db.oneActive.updateRows_of_inactive hu _ } := by
  have h := db.oneActive.updateRows_of_inactive hu db.clock
  simp [Db.updateStatus, h]

theorem Db.updateStatus_ok {db db' : Db} {u : StatusUpdate}
    (h : db.updateStatus u = .ok db') :
    db'.rows = updateRows u db.clock db.rows ∧ db'.logs = db.logs := by
  unfold Db.updateStatus at h
  split at h
  · cases h
    exact ⟨rfl, rfl⟩
  · cases h

theorem NewRow.toRow?_key {n : NewRow} {id : Nat} {now : Int} {r : Row}
    (h : n.toRow? id now = some r) :
    r.key = (n.strategy, n.symbol, n.signalUxid.getD "") ∧ r.status = n.status := by
  unfold NewRow.toRow? at h
  split at h
  · cases h
    exact ⟨rfl, rfl⟩
  · cases h

theorem NewRow.toRow?_status {n : NewRow} {id : Nat} {now : Int} {r : Row}
    (h : n.toRow? id now = some r) : r.status = n.status :=
  (NewRow.toRow?_key h).2

theorem NewRow.toRow?_refSourceId {n : NewRow} {id : Nat} {now : Int} {r : Row}
    (h : n.toRow? id now = some r) : n.refId = some r.refSourceId := by
  unfold NewRow.toRow? at h
  split at h
  · rename_i hrefId _ _
    cases h
    exact hrefId
  · cases h

theorem Db.insertRow_ok {db db' : Db} {n : NewRow} (h : db.insertRow n = .ok db') :
    ∃ r, n.toRow? (db.rows.length + 1) db.clock = some r ∧
      db'.rows = db.rows ++ [r] ∧ db'.logs = db.logs := by
  unfold Db.insertRow at h
  split at h
  · cases h
  · rename_i r hr
    split at h
    · cases h
      exact ⟨r, hr, rfl, rfl⟩
    · cases h

/-- An insert is refused, or its row comes last. -/
theorem Db.serve_insertRow (n : NewRow) (db : Db) :
    (Db.serve (.insertRow n) db).2 = db ∨
      ∃ r, n.toRow? (db.rows.length + 1) db.clock = some r ∧
        (Db.serve (.insertRow n) db).2.rows = db.rows ++ [r] := by
  cases hins : db.insertRow n with
  | error e => exact Or.inl (by simp only [Db.serve, hins])
  | ok db' =>
      obtain ⟨r, hr, hrows, -⟩ := Db.insertRow_ok hins
      refine Or.inr ⟨r, hr, ?_⟩
      simpa only [Db.serve, hins] using hrows

theorem Db.serve_updateStatus_inactive {u : StatusUpdate} (hu : u.status.isActive = false)
    (db : Db) :
    (Db.serve (.updateStatus u) db).2.rows = updateRows u db.clock db.rows := by
  simp only [Db.serve, Db.updateStatus_of_inactive db hu]

end TradeWorker
