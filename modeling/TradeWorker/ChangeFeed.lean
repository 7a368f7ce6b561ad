import TradeWorker.Pool
import TradeWorker.Work

/-!
# Change capture

`PositionCDC` polls the `positions` table for rows that are `PENDING`, publishes
an event for each and marks the row `PUBLISHED`. `publish` is the NATS
publisher's: it puts the event on a queue in memory, which another thread drains
into `nc.publish`. Status updates and inserts of the other threads fall anywhere
between these steps.
-/

namespace TradeWorker

/-! ## Events -/

inductive PositionEventType where
  | created | updated
  deriving DecidableEq, Repr

structure PositionEvent where
  event : PositionEventType
  accountId : String
  accountName : Option String
  market : MarketType
  gateway : String
  id : Nat
  refSourceId : String
  refId : String
  strategy : String
  symbol : String
  action : String
  volume : ℚ
  openedPrice : ℚ
  closedPrice : Option ℚ
  status : PositionStatus
  gatewayReturnCode : Option Int
  comment : Option String
  message : Option Message
  createdAt : Int
  updatedAt : Int
  syncStatus : String
  syncTime : Option Int
  signalId : Option String
  signalUxid : Option String
  strategyCode : Option String
  sl : Option ℚ
  tp1 : Option ℚ
  tp2 : Option ℚ
  riskPercent : ℚ
  accountLeverage : Option Int
  accountBalance : Option ℚ
  deriving DecidableEq, Repr

/-- The fields `PositionCDC` is built with. -/
structure CdcConfig where
  accountId : String
  accountName : Option String := none
  marketType : Option MarketType := none
  gateway : String := ""
  accountInfoBound : Bool := false
  strategyMagicMap : List (String × Int) := []

/-- What `_snapshot_account` keeps of the account. -/
structure AccountSnapshot where
  leverage : Option Int := none
  balance : Option ℚ := none

def CdcConfig.magicFor (cfg : CdcConfig) (strategy : String) : Option Int :=
  if strategy = "" then none else cfg.strategyMagicMap.lookup strategy

/-- `_extract_signal_fields`: the entry signal stored with the row. -/
def extractSignalFields : Option Message → Option Signal
  | some (.signal s) => some s
  | _ => none

/-- The event of a row; a worker without a market type fails to build one. -/
def buildEvent (cfg : CdcConfig) (account : AccountSnapshot) (row : Row) :
    Except Exn PositionEvent :=
  match cfg.marketType with
  | none => .error (.valueError "market")
  | some market =>
      let signal := extractSignalFields row.gatewayMessage
      .ok {
        event := if row.syncTime = none then .created else .updated
        accountId := cfg.accountId
        accountName := cfg.accountName
        market
        gateway := cfg.gateway
        id := row.id
        refSourceId := row.refSourceId
        refId := row.refId
        strategy := row.strategy
        symbol := row.symbol
        action := row.action
        volume := row.volume
        openedPrice := row.openedPrice
        closedPrice := row.closedPrice
        status := row.status
        gatewayReturnCode := row.gatewayReturnCode
        comment := row.comment
        message := row.gatewayMessage
        createdAt := row.createdAt
        updatedAt := row.updatedAt
        syncStatus := row.syncStatus
        syncTime := row.syncTime
        signalId := signal.bind (·.signalId)
        signalUxid := signal.bind (·.signalUxid)
        strategyCode := (row.strategyCode <|> cfg.magicFor row.strategy).map toString
        sl := signal.bind (·.sl)
        tp1 := signal.bind (·.tp1)
        tp2 := signal.bind (·.tp2)
        riskPercent := (signal.bind (·.riskPercent)).getD 0
        accountLeverage := account.leverage
        accountBalance := account.balance }

/-- The event has the row's columns: those of `_EVENT_FIELDS` but the two the mark
writes, with `gateway_message` as the message. A missing `strategy_code` is filled
in from the strategy. -/
def PositionEvent.Carries (e : PositionEvent) (r : Row) : Prop :=
  (e.id = r.id ∧ e.refSourceId = r.refSourceId ∧ e.refId = r.refId ∧
    e.strategy = r.strategy ∧ e.symbol = r.symbol ∧ e.action = r.action ∧
    e.volume = r.volume ∧ e.openedPrice = r.openedPrice) ∧
  (e.closedPrice = r.closedPrice ∧ e.status = r.status ∧
    e.gatewayReturnCode = r.gatewayReturnCode ∧ e.comment = r.comment ∧
    e.message = r.gatewayMessage ∧ e.createdAt = r.createdAt ∧ e.updatedAt = r.updatedAt) ∧
  ∀ code, r.strategyCode = some code → e.strategyCode = some (toString code)

theorem buildEvent_carries {cfg : CdcConfig} {account : AccountSnapshot} {row : Row}
    {e : PositionEvent} (h : buildEvent cfg account row = .ok e) : e.Carries row := by
  unfold buildEvent at h
  split at h
  · cases h
  · obtain rfl := Except.ok.inj h
    refine ⟨⟨rfl, rfl, rfl, rfl, rfl, rfl, rfl, rfl⟩, ⟨rfl, rfl, rfl, rfl, rfl, rfl, rfl⟩, ?_⟩
    intro code hcode
    simp [hcode]

/-! ## Statements -/

namespace Db

/-- `get_pending_sync_positions`. -/
def pendingSync (db : Db) : List Row :=
  db.rows.filter (·.syncStatus = "PENDING")

end Db

/-- The rows `mark_position_synced` writes. -/
def Row.isSynced (id : Nat) (updatedAt : Int) (r : Row) : Bool :=
  r.id = id && r.updatedAt = updatedAt && r.syncStatus = "PENDING"

def Row.markSynced (id : Nat) (updatedAt now : Int) (r : Row) : Row :=
  if r.isSynced id updatedAt then { r with syncStatus := "PUBLISHED", syncTime := some now }
  else r

@[simp] theorem Row.markSynced_key (id : Nat) (updatedAt now : Int) (r : Row) :
    (r.markSynced id updatedAt now).key = r.key := by
  unfold Row.markSynced
  split <;> rfl

@[simp] theorem Row.markSynced_isActive (id : Nat) (updatedAt now : Int) (r : Row) :
    (r.markSynced id updatedAt now).isActive = r.isActive := by
  unfold Row.markSynced
  split <;> rfl

@[simp] theorem Row.markSynced_id (id : Nat) (updatedAt now : Int) (r : Row) :
    (r.markSynced id updatedAt now).id = r.id := by
  unfold Row.markSynced
  split <;> rfl

theorem OneActive.markSynced {rows : List Row} (h : OneActive rows) (id : Nat)
    (updatedAt now : Int) : OneActive (rows.map (·.markSynced id updatedAt now)) := by
  refine List.Pairwise.map _ (fun a b hab => ?_) h
  rintro ⟨ha, hb, hkey⟩
  exact hab ⟨by simpa using ha, by simpa using hb, by simpa using hkey⟩

def Db.markSynced (db : Db) (id : Nat) (updatedAt : Int) : Db :=
  { db with
    rows := db.rows.map (·.markSynced id updatedAt db.clock)
    oneActive := db.oneActive.markSynced id updatedAt db.clock }

/-! ## Calls and programs -/

/-- The calls of the two threads: SQL, the queue, the account and NATS. -/
inductive FeedOp where
  | pendingSync
  | markSynced (id : Nat) (updatedAt : Int)
  | accountInfo
  | publish (event : PositionEvent)
  | takeQueued
  | ncPublish (event : PositionEvent)

@[reducible] def FeedOp.Ans : FeedOp → Type
  | .pendingSync => List Row
  | .markSynced .. => Bool
  | .accountInfo => Option AccountSnapshot
  | .publish _ => Unit
  | .takeQueued => Option PositionEvent
  | .ncPublish _ => Unit

abbrev FeedWork (α : Type) := Prog FeedOp FeedOp.Ans Exn α

def feedCall (o : FeedOp) : FeedWork o.Ans := Prog.perform o

/-- `get_pending_sync_positions`: a failed read finds nothing. -/
def getPendingSyncPositions : FeedWork (List Row) :=
  Prog.tryCatch (feedCall .pendingSync) fun _ => pure []

/-- `mark_position_synced`: a failed write marks nothing. -/
def markPositionSynced (id : Nat) (updatedAt : Int) : FeedWork Bool :=
  Prog.tryCatch (feedCall (.markSynced id updatedAt)) fun _ => pure false

def snapshotAccount (cfg : CdcConfig) : FeedWork AccountSnapshot :=
  if cfg.accountInfoBound then
    Prog.tryCatch (feedCall .accountInfo >>= fun info => pure (info.getD {})) fun _ => pure {}
  else pure {}

/-- The loop of `_poll`: publish, then mark. -/
def publishEach (cfg : CdcConfig) (account : AccountSnapshot) : List Row → FeedWork Unit
  | [] => pure ()
  | row :: rows => do
      let event ← Prog.ofExcept (buildEvent cfg account row)
      feedCall (.publish event)
      let _marked ← markPositionSynced row.id row.updatedAt
      publishEach cfg account rows

/-- `PositionCDC._poll`. -/
def pollPending (cfg : CdcConfig) : FeedWork Unit := do
  let rows ← getPendingSyncPositions
  match rows with
  | [] => pure ()
  | rows => do
      let account ← snapshotAccount cfg
      publishEach cfg account rows

/-- One turn of the publisher's loop: an event that cannot be sent is logged and
gone. -/
def publisherTurn : FeedWork Unit := do
  match ← feedCall .takeQueued with
  | none => pure ()
  | some event => Prog.tryCatch (feedCall (.ncPublish event)) fun _ => pure ()

/-! ## The threads -/

/-- The store, the events passed to `publish` in order, the publisher's queue, the
event it is sending, its calls of `nc.publish` (`true` where the call returned), and
the rows the running poll has read and not yet marked. -/
structure Feed where
  db : Db
  published : List PositionEvent := []
  queue : List PositionEvent := []
  sending : Option PositionEvent := none
  attempts : List (PositionEvent × Bool) := []
  copies : List Row := []

/-- What the rest of the worker does to the store. -/
inductive Write where
  | update (u : StatusUpdate)
  | insert (n : NewRow)
  | log (l : LogRow)
  | tick (now : Int)

/-- The store after a write. A refused statement changes nothing. -/
def Write.apply : Write → Db → Db
  | .update u, db => (db.serve (.updateStatus u)).2
  | .insert n, db => (db.serve (.insertRow n)).2
  | .log l, db => (db.serve (.insertLog l)).2
  | .tick now, db => { db with clock := now }

theorem NewRow.toRow?_pending {n : NewRow} {id : Nat} {now : Int} {r : Row}
    (h : n.toRow? id now = some r) : r.id = id ∧ r.syncStatus = "PENDING" := by
  unfold NewRow.toRow? at h
  split at h
  · obtain rfl := Option.some.inj h
    exact ⟨rfl, rfl⟩
  · cases h

/-- The rows after a write: old rows as they were, rows the update reached, and
new ones, all under the same numbers. -/
theorem Write.apply_rows (w : Write) (db : Db) :
    (w.apply db).rows = db.rows ∨
    (∃ u, w = .update u ∧ (w.apply db).rows = updateRows u db.clock db.rows) ∨
    ∃ r, r.id = db.rows.length + 1 ∧ r.syncStatus = "PENDING" ∧
      (w.apply db).rows = db.rows ++ [r] := by
  cases w with
  | update u =>
      cases hu : db.updateStatus u with
      | ok db' =>
          refine Or.inr (Or.inl ⟨u, rfl, ?_⟩)
          simpa [Write.apply, Db.serve, hu] using (Db.updateStatus_ok hu).1
      | error e => exact Or.inl (by simp [Write.apply, Db.serve, hu])
  | insert n =>
      cases hn : db.insertRow n with
      | ok db' =>
          obtain ⟨r, hr, hrows, -⟩ := Db.insertRow_ok hn
          obtain ⟨hid, hpending⟩ := NewRow.toRow?_pending hr
          refine Or.inr (Or.inr ⟨r, hid, hpending, ?_⟩)
          simpa [Write.apply, Db.serve, hn] using hrows
      | error e => exact Or.inl (by simp [Write.apply, Db.serve, hn])
  | log l => exact Or.inl rfl
  | tick now => exact Or.inl rfl

/-- The rows a write leaves published were so before. -/
theorem Write.apply_published (w : Write) {db : Db} {r : Row} (hr : r ∈ (w.apply db).rows)
    (hpub : r.syncStatus = "PUBLISHED") : r ∈ db.rows := by
  rcases w.apply_rows db with hrows | ⟨u, rfl, hrows⟩ | ⟨new, -, hpending, hrows⟩
  · exact hrows ▸ hr
  · obtain ⟨r₀, hr₀, rfl⟩ := mem_updateRows.mp (hrows ▸ hr)
    by_cases hu : u.refSourceId = some r₀.refSourceId
    · rw [Row.update, if_pos hu] at hpub
      exact absurd hpub (by simp [Row.apply])
    · rw [Row.update, if_neg hu]
      exact hr₀
  · rcases List.mem_append.mp (hrows ▸ hr) with hr | hr
    · exact hr
    · obtain rfl := List.mem_singleton.mp hr
      rw [hpending] at hpub
      exact absurd hpub (by decide)

theorem Row.update_id (r : Row) (u : StatusUpdate) (now : Int) : (r.update u now).id = r.id := by
  unfold Row.update
  split <;> rfl

/-! ## Row numbers -/

/-- Rows are numbered as they are inserted. -/
def Db.Numbered (db : Db) : Prop :=
  ∀ i, (h : i < db.rows.length) → db.rows[i].id = i + 1

namespace Db.Numbered

variable {db : Db}

theorem eq_of_id (h : db.Numbered) {a b : Row} (ha : a ∈ db.rows) (hb : b ∈ db.rows)
    (hid : a.id = b.id) : a = b := by
  obtain ⟨i, hi, rfl⟩ := List.mem_iff_getElem.mp ha
  obtain ⟨j, hj, rfl⟩ := List.mem_iff_getElem.mp hb
  have hij : i + 1 = j + 1 := by rw [← h i hi, ← h j hj, hid]
  obtain rfl : i = j := Nat.succ.inj hij
  rfl

theorem nodup_ids (h : db.Numbered) : db.rows.Pairwise fun a b => a.id ≠ b.id := by
  refine List.pairwise_iff_getElem.mpr fun i j hi hj hij heq => ?_
  rw [h i hi, h j hj] at heq
  omega

theorem lt_of_mem (h : db.Numbered) {r : Row} (hr : r ∈ db.rows) :
    r.id < db.rows.length + 1 := by
  obtain ⟨i, hi, rfl⟩ := List.mem_iff_getElem.mp hr
  have hnumber := h i hi
  omega

theorem write (h : db.Numbered) (w : Write) : (w.apply db).Numbered := by
  intro i hi
  rcases w.apply_rows db with hrows | ⟨u, rfl, hrows⟩ | ⟨new, hid, -, hrows⟩
  · simp only [hrows] at hi ⊢
    exact h i hi
  · have hi' : i < db.rows.length := by simpa [hrows, updateRows] using hi
    simpa [hrows, updateRows, Row.update_id] using h i hi'
  · simp only [hrows, List.length_append, List.length_singleton] at hi ⊢
    rcases Nat.lt_or_ge i db.rows.length with hlt | hge
    · rw [List.getElem_append_left hlt]
      exact h i hlt
    · obtain rfl : i = db.rows.length := by omega
      simpa using hid

theorem markSynced (h : db.Numbered) (id : Nat) (updatedAt : Int) :
    (db.markSynced id updatedAt).Numbered := by
  intro i hi
  have hi' : i < db.rows.length := by simpa [Db.markSynced] using hi
  simpa [Db.markSynced] using h i hi'

end Db.Numbered

/-! ## The feed -/

/-- `get_nowait` on the publisher's queue. -/
def Feed.take (s : Feed) : Option PositionEvent × Feed :=
  match s.queue with
  | [] => (none, s)
  | event :: queue => (some event, { s with queue, sending := some event })

theorem Feed.take_cases (s : Feed) :
    (s.queue = [] ∧ s.take = (none, s)) ∨
    ∃ event queue, s.queue = event :: queue ∧
      s.take = (some event, { s with queue, sending := some event }) := by
  unfold Feed.take
  cases hqueue : s.queue with
  | nil => exact Or.inl ⟨rfl, rfl⟩
  | cons event queue => exact Or.inr ⟨event, queue, rfl, rfl⟩

def Feed.lastEvent (s : Feed) (id : Nat) : Option PositionEvent :=
  (s.published.filter (·.id = id)).getLast?

/-- Publishing for a row changes the last event of that row alone. -/
theorem Feed.lastEvent_publish (s : Feed) (e : PositionEvent) (id : Nat) :
    ({ s with published := s.published ++ [e], queue := s.queue ++ [e] } : Feed).lastEvent id =
      if e.id = id then some e else s.lastEvent id := by
  unfold Feed.lastEvent
  split_ifs with h
  · simp [List.filter_append, h]
  · simp [List.filter_append, h]

/-- How the calls are answered. A statement may fail; `nc.publish` may raise. -/
inductive Feed.Answers : (o : FeedOp) → Feed → Except Exn o.Ans → Feed → Prop
  | pendingSync {s} :
      Answers .pendingSync s (.ok s.db.pendingSync) { s with copies := s.db.pendingSync }
  | pendingFailed {s e} : Answers .pendingSync s (.error e) s
  | marked {s id updatedAt} :
      Answers (.markSynced id updatedAt) s (.ok (s.db.rows.any (·.isSynced id updatedAt)))
        { s with
          db := s.db.markSynced id updatedAt
          copies := s.copies.filter (·.id ≠ id) }
  | notMarked {s id updatedAt e} :
      Answers (.markSynced id updatedAt) s (.error e)
        { s with copies := s.copies.filter (·.id ≠ id) }
  | accountInfo {s r} : Answers .accountInfo s r s
  | published {s event} :
      Answers (.publish event) s (.ok ())
        { s with published := s.published ++ [event], queue := s.queue ++ [event] }
  | taken {s} : Answers .takeQueued s (.ok s.take.1) s.take.2
  | sent {s event} :
      Answers (.ncPublish event) s (.ok ())
        { s with sending := none, attempts := s.attempts ++ [(event, true)] }
  | notSent {s event e} :
      Answers (.ncPublish event) s (.error e)
        { s with sending := none, attempts := s.attempts ++ [(event, false)] }

/-- An untroubled day: every statement commits and every event is sent. -/
def Feed.serve : Prog.Server FeedOp FeedOp.Ans Exn Feed
  | .pendingSync, s => (.ok s.db.pendingSync, { s with copies := s.db.pendingSync })
  | .markSynced id updatedAt, s =>
      (.ok (s.db.rows.any (·.isSynced id updatedAt)),
        { s with
          db := s.db.markSynced id updatedAt
          copies := s.copies.filter (·.id ≠ id) })
  | .accountInfo, s => (.ok none, s)
  | .publish event, s =>
      (.ok (), { s with published := s.published ++ [event], queue := s.queue ++ [event] })
  | .takeQueued, s => (.ok s.take.1, s.take.2)
  | .ncPublish event, s =>
      (.ok (), { s with sending := none, attempts := s.attempts ++ [(event, true)] })

theorem Feed.serve_answers (o : FeedOp) (s : Feed) :
    Feed.Answers o s (Feed.serve o s).1 (Feed.serve o s).2 := by
  cases o <;> constructor

/-- The polling thread and the publisher's loop. -/
inductive FeedThread where
  | cdc
  | publisher
  deriving DecidableEq

/-- Polls and publisher turns follow one another; the other threads write to the
store at any time. A crash empties the memory and keeps the store. -/
def changeFeed (cfg : CdcConfig) : Pool.System FeedThread FeedOp FeedOp.Ans Exn Unit Feed where
  answers _ := Feed.Answers
  starts
    | .cdc, p, s, s' => s' = { s with copies := [] } ∧ p = pollPending cfg
    | .publisher, p, s, s' => s' = s ∧ p = publisherTurn
  drift s s' := ∃ w : Write, s' = { s with db := w.apply s.db }
  crash s s' := s' = { s with queue := [], sending := none, copies := [] }

def Feed.initial : Pool.Config FeedThread FeedOp FeedOp.Ans Exn Unit Feed where
  state := { db := Db.empty }
  thread _ := pure ()

/-- A write of another thread. -/
theorem changeFeed_write {S : Pool.System FeedThread FeedOp FeedOp.Ans Exn Unit Feed}
    {x y : Pool.Config FeedThread FeedOp FeedOp.Ans Exn Unit Feed}
    (h : Pool.Reach S (pure ()) x y) (w : Write)
    (hw : S.drift y.state { y.state with db := w.apply y.state.db }) :
    Pool.Reach S (pure ()) x ⟨{ y.state with db := w.apply y.state.db }, y.thread⟩ :=
  h.tail (Pool.Step.drift hw)

/-- A worker on a forex account. -/
def forexCdc : CdcConfig where
  accountId := "1001"
  marketType := some .forex

def entryRow : NewRow where
  refId := some "101"
  signalId := none
  signalUxid := none
  strategy := "GOLD"
  symbol := "XAUUSD"
  action := "LONG"
  volume := some 1
  openedPrice := some 2000
  status := .opened
  gatewayReturnCode := none
  comment := none
  message := none
  strategyCode := none
  marketType := none

end TradeWorker
