import TradeWorker.Migration
import TradeWorker.Store

/-!
# The schema and its upgrade

`db_init` runs at every start, on a database of any earlier release: it makes what is missing, adds
the columns that came later, and puts the index on active positions in the place of the one that
came before signals had a uxid. Its statements commit one by one, so what a failed start leaves
behind matters as much as what a good one does.
-/

namespace TradeWorker

namespace Schema

open Tables (Database Index Statement)
open Tables.Database (Keeps Want)

inductive SqlValue where
  | integer (n : Int)
  | real (x : ℚ)
  | text (s : String)
  deriving DecidableEq, Repr

abbrev WorkerDatabase : Type := Database SqlValue

/-! ## Tables -/

def positionsTable : List String :=
  ["id", "ref_source_id", "ref_id", "signal_id", "strategy", "symbol", "action", "volume",
    "opened_price", "closed_price", "status", "gateway_return_code", "comment",
    "gateway_message", "strategy_code", "market_type", "sync_status", "sync_time", "created_at",
    "updated_at"]

def positionLogsTable : List String :=
  ["id", "strategy", "ref_id", "ref_source_id", "signal_id", "symbol", "action", "volume",
    "price", "sl", "tp1", "gateway_return_code", "comment", "gateway_message", "market_type",
    "author", "timestamp"]

def notificationsTable : List String :=
  ["id", "platform", "channel", "category", "message_text", "mode", "attempts", "max_attempts",
    "last_error", "next_attempt_at", "created_at", "updated_at"]

def notificationCyclesTable : List String :=
  ["id", "signal_uxid", "strategy", "symbol", "status", "events", "message_text", "revision",
    "created_at", "updated_at"]

def notificationCycleChatsTable : List String :=
  ["id", "cycle_id", "chat_id", "message_id", "delivered_revision", "attempts", "max_attempts",
    "last_error", "next_attempt_at", "created_at", "updated_at"]

/-! ## Indexes -/

def notificationsIndex : Index SqlValue where
  table := "notifications"
  keys := [.column "next_attempt_at", .column "id"]

def notificationCyclesKeyIndex : Index SqlValue where
  table := "notification_cycles"
  unique := true
  keys := [.column "strategy", .column "signal_uxid"]

def notificationCycleChatsKeyIndex : Index SqlValue where
  table := "notification_cycle_chats"
  unique := true
  keys := [.column "cycle_id", .column "chat_id"]

def notificationCycleChatsPendingIndex : Index SqlValue where
  table := "notification_cycle_chats"
  keys := [.column "delivered_revision", .column "next_attempt_at", .column "id"]

def oneActiveIndex : Index SqlValue where
  table := "positions"
  unique := true
  keys := [.column "strategy", .column "symbol", .coalesce "signal_uxid" (.text "")]
  filter := .oneOf "status" [.text "OPENED", .text "TP1"]

/-- The form of it before `signal_uxid`, which `_DROP_LEGACY_ONE_ACTIVE_INDEX` drops. -/
def legacyOneActiveIndex : Index SqlValue where
  table := "positions"
  unique := true
  keys := [.column "strategy", .column "symbol"]
  filter := .oneOf "status" [.text "OPENED", .text "TP1"]

def positionLogsSignalIdIndex : Index SqlValue where
  table := "position_logs"
  keys := [.column "signal_id"]
  filter := .notNull "signal_id"

def legacyName : String := "uidx_positions_one_active_per_strategy_symbol"

/-! ## The script -/

/-- `_RETROFIT_COLUMNS`, without their type. -/
def retrofitColumns : List (String × String) :=
  [("positions", "signal_id"), ("positions", "signal_uxid"), ("position_logs", "signal_id"),
    ("position_logs", "signal_uxid")]

/-- `_ensure_retrofit_columns`, which is `_ensure_column` of each. -/
def ensureRetrofitColumns : List (Statement SqlValue) :=
  retrofitColumns.map fun c => .ensureColumn c.1 c.2

def createTables : List (Statement SqlValue) :=
  [.createTable "positions" positionsTable,
    .createTable "position_logs" positionLogsTable,
    .createTable "notifications" notificationsTable,
    .createIndex "idx_notifications_pending" notificationsIndex,
    .createTable "notification_cycles" notificationCyclesTable,
    .createIndex "uidx_notification_cycles_key" notificationCyclesKeyIndex,
    .createTable "notification_cycle_chats" notificationCycleChatsTable,
    .createIndex "uidx_notification_cycle_chats_key" notificationCycleChatsKeyIndex,
    .createIndex "idx_notification_cycle_chats_pending" notificationCycleChatsPendingIndex] ++
  ensureRetrofitColumns ++
  [.dropIndex legacyName,
    .createIndex "uidx_positions_one_active_per_signal" oneActiveIndex,
    .createIndex "idx_position_logs_signal_id" positionLogsSignalIdIndex]

/-- `db_init`: what stopped it, which is logged, and the database it leaves. Each statement
commits by itself, so what was done before a failure stays. -/
def dbInit (db : WorkerDatabase) : Option Tables.SchemaError × WorkerDatabase :=
  Tables.Database.script createTables db

/-! ## What it is for -/

def released (table : String) (columns : List String) : List String :=
  columns.filter fun c => !retrofitColumns.contains (table, c)

/-- The objects of the schema, by their names. -/
def workerSchema : Tables.Database.Schema SqlValue where
  wants :=
    [("positions", .table (released "positions" positionsTable)),
      ("position_logs", .table (released "position_logs" positionLogsTable)),
      ("notifications", .table notificationsTable),
      ("idx_notifications_pending", .index notificationsIndex),
      ("notification_cycles", .table notificationCyclesTable),
      ("uidx_notification_cycles_key", .index notificationCyclesKeyIndex),
      ("notification_cycle_chats", .table notificationCycleChatsTable),
      ("uidx_notification_cycle_chats_key", .index notificationCycleChatsKeyIndex),
      ("idx_notification_cycle_chats_pending", .index notificationCycleChatsPendingIndex),
      ("uidx_positions_one_active_per_signal", .index oneActiveIndex),
      ("idx_position_logs_signal_id", .index positionLogsSignalIdIndex)]
  distinct := by decide

/-- A database of this or an earlier release: what it has of the schema is what the schema
wants. -/
def Earlier (db : WorkerDatabase) : Prop := ∀ p ∈ workerSchema.wants, db.Fits p.1 p.2

/-- The rows are such as the unique indexes allow. -/
structure Clean (db : WorkerDatabase) : Prop where
  positions : oneActiveIndex.Holds (db.rows "positions")
  cycles : notificationCyclesKeyIndex.Holds (db.rows "notification_cycles")
  chats : notificationCycleChatsKeyIndex.Holds (db.rows "notification_cycle_chats")

/-- A database of this release: all that is wanted is there, the retrofitted columns too, and
the index of earlier releases is not. -/
structure Current (db : WorkerDatabase) : Prop where
  has : ∀ p ∈ workerSchema.wants, db.Has p.1 p.2
  columns : ∀ c ∈ retrofitColumns, c.2 ∈ db.tableInfo c.1
  noLegacy : ∀ i, db.entries legacyName ≠ some (.index i)

theorem released_subset {table : String} {columns : List String} :
    ∀ c ∈ released table columns, c ∈ columns := fun _ hc => List.mem_of_mem_filter hc

theorem createTables_lawful : Tables.Lawful workerSchema {} createTables := by
  have hpositions : ("positions", Want.table (released "positions" positionsTable)) ∈
      workerSchema.wants := .head _
  have hlogs : ("position_logs", Want.table (released "position_logs" positionLogsTable)) ∈
      workerSchema.wants := .tail _ (.head _)
  have hnotifications : ("notifications", Want.table notificationsTable) ∈
      workerSchema.wants := .tail _ (.tail _ (.head _))
  have hcycles : ("notification_cycles", Want.table notificationCyclesTable) ∈
      workerSchema.wants := by simp [workerSchema]
  have hchats : ("notification_cycle_chats", Want.table notificationCycleChatsTable) ∈
      workerSchema.wants := by simp [workerSchema]
  have hlegacy : ∀ p ∈ workerSchema.wants, p.1 ≠ legacyName := by decide
  refine ⟨⟨_, hpositions, released_subset⟩, ⟨_, hlogs, released_subset⟩,
    ⟨_, hnotifications, fun _ hc => hc⟩, ⟨by simp [workerSchema], by decide, _, hnotifications, ?_⟩,
    ⟨_, hcycles, fun _ hc => hc⟩, ⟨by simp [workerSchema], by decide, _, hcycles, ?_⟩,
    ⟨_, hchats, fun _ hc => hc⟩, ⟨by simp [workerSchema], by decide, _, hchats, ?_⟩,
    ⟨by simp [workerSchema], by decide, _, hchats, ?_⟩, ⟨by decide, _, hpositions⟩,
    ⟨by decide, _, hpositions⟩, ⟨by decide, _, hlogs⟩, ⟨by decide, _, hlogs⟩, hlegacy,
    ⟨by simp [workerSchema], by decide, _, hpositions, ?_⟩,
    ⟨by simp [workerSchema], by decide, _, hlogs, ?_⟩, trivial⟩
  all_goals decide

theorem clean_iff {db : WorkerDatabase} : Clean db ↔
    ∀ name i, Statement.createIndex name i ∈ createTables → i.Holds (db.rows i.table) := by
  constructor
  · intro h name i hmem
    simp only [createTables, ensureRetrofitColumns, retrofitColumns, List.map_cons, List.map_nil,
      List.cons_append, List.nil_append, List.mem_cons, reduceCtorEq, Statement.createIndex.injEq,
      List.not_mem_nil, or_false, false_or] at hmem
    rcases hmem with ⟨-, rfl⟩ | ⟨-, rfl⟩ | ⟨-, rfl⟩ | ⟨-, rfl⟩ | ⟨-, rfl⟩ | ⟨-, rfl⟩
    · exact nofun
    · exact h.cycles
    · exact h.chats
    · exact nofun
    · exact h.positions
    · exact nofun
  · intro h
    exact ⟨h "uidx_positions_one_active_per_signal" _ (by simp [createTables]),
      h "uidx_notification_cycles_key" _ (by simp [createTables]),
      h "uidx_notification_cycle_chats_key" _ (by simp [createTables])⟩

theorem current_of_done {db : WorkerDatabase}
    (h : ∀ st ∈ createTables, st.Done workerSchema db) : Current db := by
  have htable : ∀ {name base} columns, Statement.createTable name columns ∈ createTables →
      (name, Want.table base) ∈ workerSchema.wants → db.Has name (.table base) :=
    fun _ hmem hwant => h _ hmem _ hwant
  have hindex : ∀ {name i}, Statement.createIndex name i ∈ createTables →
      db.Has name (.index i) := fun hmem => h _ hmem
  refine ⟨fun p hp => ?_, fun c hc => ?_, h (.dropIndex legacyName) (by simp [createTables])⟩
  · have hwant := hp
    simp only [workerSchema, List.mem_cons, List.not_mem_nil, or_false] at hp
    rcases hp with rfl | rfl | rfl | rfl | rfl | rfl | rfl | rfl | rfl | rfl | rfl
    · exact htable positionsTable (by simp [createTables]) hwant
    · exact htable positionLogsTable (by simp [createTables]) hwant
    · exact htable notificationsTable (by simp [createTables]) hwant
    · exact hindex (by simp [createTables])
    · exact htable notificationCyclesTable (by simp [createTables]) hwant
    · exact hindex (by simp [createTables])
    · exact htable notificationCycleChatsTable (by simp [createTables]) hwant
    · exact hindex (by simp [createTables])
    · exact hindex (by simp [createTables])
    · exact hindex (by simp [createTables])
    · exact hindex (by simp [createTables])
  · refine h (.ensureColumn c.1 c.2) ?_
    have hmem : Statement.ensureColumn c.1 c.2 ∈ ensureRetrofitColumns :=
      List.mem_map_of_mem (f := fun c => Statement.ensureColumn c.1 c.2) hc
    exact List.mem_append_left _ (List.mem_append_right _ hmem)

/-! ## The rows -/

/-- The texts of `PositionStatusEnum`. -/
def statusText : PositionStatus → String
  | .opened => "OPENED"
  | .tp1 => "TP1"
  | .tp2 => "TP2"
  | .sl => "SL"
  | .rSl => "R_SL"
  | .terminalClosed => "TERMINAL_CLOSED"
  | .forcedClosed => "FORCED_CLOSED"
  | .flatted => "FLATTED"
  | .rejected => "REJECTED"

/-- What the index on active positions sees of a row. -/
def indexedColumns (r : Row) : Tables.Row SqlValue
  | "strategy" => some (.text r.strategy)
  | "symbol" => some (.text r.symbol)
  | "signal_uxid" => r.signalUxid.map .text
  | "status" => some (.text (statusText r.status))
  | _ => none

theorem admits_indexedColumns (r : Row) :
    oneActiveIndex.filter.admits (indexedColumns r) = r.isActive := by
  cases hstatus : r.status <;>
    simp [oneActiveIndex, Tables.Filter.admits, indexedColumns, hstatus, statusText,
      Row.isActive, PositionStatus.isActive]

theorem key_indexedColumns (r : Row) : oneActiveIndex.key (indexedColumns r) =
    some [.text r.strategy, .text r.symbol, .text (r.signalUxid.getD "")] := by
  cases huxid : r.signalUxid <;>
    simp [oneActiveIndex, Tables.Index.key, Tables.KeyExpr.eval, indexedColumns, huxid]

/-- Two rows of the store conflict just if the index finds that they clash. -/
theorem clash_indexedColumns (a b : Row) :
    oneActiveIndex.Clash (indexedColumns a) (indexedColumns b) ↔ a.Conflicts b := by
  unfold Tables.Index.Clash Row.Conflicts
  rw [admits_indexedColumns, admits_indexedColumns, key_indexedColumns, key_indexedColumns]
  constructor
  · rintro ⟨ha, hb, k, hk, hk'⟩
    have heq := Option.some.inj (hk.trans hk'.symm)
    simp only [List.cons.injEq, SqlValue.text.injEq, and_true] at heq
    exact ⟨ha, hb, by rw [Row.key, Row.key, heq.1, heq.2.1, heq.2.2]⟩
  · rintro ⟨ha, hb, hkey⟩
    simp only [Row.key, Prod.mk.injEq] at hkey
    exact ⟨ha, hb, _, rfl, by rw [hkey.1, hkey.2.1, hkey.2.2]⟩

/-! ## The upgrade -/

/-- The old index allows no more than the new one, which splits its keys by uxid. -/
theorem clash_legacy {r r' : Tables.Row SqlValue} (h : oneActiveIndex.Clash r r') :
    legacyOneActiveIndex.Clash r r' := by
  obtain ⟨hr, hr', k, hk, hk'⟩ := h
  refine ⟨hr, hr', ?_⟩
  simp only [oneActiveIndex, Tables.Index.key, List.mapM_cons, List.mapM_nil,
    Tables.KeyExpr.eval, Option.pure_def, Option.bind_eq_bind, Option.bind_some,
    Option.bind_eq_some_iff, Option.some.injEq] at hk hk'
  obtain ⟨strategy, hstrategy, _, ⟨symbol, hsymbol, rfl⟩, rfl⟩ := hk
  obtain ⟨strategy', hstrategy', _, ⟨symbol', hsymbol', rfl⟩, heq⟩ := hk'
  simp only [List.cons.injEq] at heq
  obtain ⟨rfl, rfl, -⟩ := heq
  exact ⟨[strategy', symbol'],
    by simp [legacyOneActiveIndex, Tables.Index.key, Tables.KeyExpr.eval, hstrategy, hsymbol],
    by simp [legacyOneActiveIndex, Tables.Index.key, Tables.KeyExpr.eval, hstrategy', hsymbol']⟩

theorem holds_of_index {db : WorkerDatabase} {name : String} {i : Index SqlValue}
    (h : db.entries name = some (.index i)) : i.Holds (db.rows i.table) := by
  obtain ⟨t, ht, -, hholds⟩ := db.indexed h
  rw [Tables.Database.rows_of_table ht]
  exact hholds

/-- What a release leaves: each table that has rows has had its unique index, on positions the
one of its time. -/
structure Guarded (db : WorkerDatabase) : Prop where
  positions : db.rows "positions" = [] ∨ db.Has legacyName (.index legacyOneActiveIndex) ∨
    db.Has "uidx_positions_one_active_per_signal" (.index oneActiveIndex)
  cycles : db.rows "notification_cycles" = [] ∨
    db.Has "uidx_notification_cycles_key" (.index notificationCyclesKeyIndex)
  chats : db.rows "notification_cycle_chats" = [] ∨
    db.Has "uidx_notification_cycle_chats_key" (.index notificationCycleChatsKeyIndex)

theorem Guarded.clean {db : WorkerDatabase} (h : Guarded db) : Clean db where
  positions := by
    rcases h.positions with hempty | hlegacy | hindex
    · rw [hempty]
      exact fun _ => List.Pairwise.nil
    · exact fun hunique =>
        (holds_of_index hlegacy hunique).imp fun hapart hclash => hapart (clash_legacy hclash)
    · exact holds_of_index hindex
  cycles := by
    rcases h.cycles with hempty | hindex
    · rw [hempty]
      exact fun _ => List.Pairwise.nil
    · exact holds_of_index hindex
  chats := by
    rcases h.chats with hempty | hindex
    · rw [hempty]
      exact fun _ => List.Pairwise.nil
    · exact holds_of_index hindex

/-- The rows of the store that a table holds, as far as the index on active positions sees. -/
def Stores (db : WorkerDatabase) (rows : List Row) : Prop :=
  List.Forall₂ (fun r row => ∀ c ∈ oneActiveIndex.columns, r c = indexedColumns row c)
    (db.rows "positions") rows

theorem clash_congr {a a' b b' : Tables.Row SqlValue}
    (ha : ∀ c ∈ oneActiveIndex.columns, a c = a' c)
    (hb : ∀ c ∈ oneActiveIndex.columns, b c = b' c) :
    oneActiveIndex.Clash a b ↔ oneActiveIndex.Clash a' b' := by
  have hsame : ∀ {r r' : Tables.Row SqlValue}, (∀ c ∈ oneActiveIndex.columns, r c = r' c) →
      oneActiveIndex.filter.admits r = oneActiveIndex.filter.admits r' ∧
        oneActiveIndex.key r = oneActiveIndex.key r' := by
    intro r r' h
    have hstrategy := h "strategy" (by decide)
    have hsymbol := h "symbol" (by decide)
    have huxid := h "signal_uxid" (by decide)
    have hstatus := h "status" (by decide)
    simp [oneActiveIndex, Tables.Filter.admits, Tables.Index.key, Tables.KeyExpr.eval, hstrategy,
      hsymbol, huxid, hstatus]
  unfold Tables.Index.Clash
  rw [(hsame ha).1, (hsame ha).2, (hsame hb).1, (hsame hb).2]

/-- The index on active positions is the store's rule of one active row. -/
theorem oneActive_of_stores {db : WorkerDatabase} {rows : List Row} (hstores : Stores db rows)
    (hclean : Clean db) : OneActive rows := by
  have hpairs := hclean.positions rfl
  unfold Stores at hstores
  generalize db.rows "positions" = stored at hstores hpairs
  induction hstores with
  | nil => exact List.Pairwise.nil
  | @cons r row stored rows hr hrest ih =>
      obtain ⟨hhead, htail⟩ := List.pairwise_cons.mp hpairs
      refine List.pairwise_cons.mpr ⟨fun other hother hconflict => ?_, ih htail⟩
      obtain ⟨k, hk, rfl⟩ := List.mem_iff_getElem.mp hother
      have hlength := hrest.length_eq
      have hseen := List.forall₂_iff_get.mp hrest |>.2 k (by omega) hk
      refine hhead _ (List.get_mem stored ⟨k, by omega⟩) ?_
      exact (clash_congr hr hseen).mpr ((clash_indexedColumns _ _).mpr hconflict)

/-- **The upgrade of a database of any earlier release.** No row is lost, even if it stops. It
runs through just if the rows are such as the unique indexes allow, as those that a release left
are; then the schema is complete, the index of earlier releases is gone, the rows of the store
obey its rule of one active row, and a second start changes nothing. -/
theorem dbInit_upgrades {db : WorkerDatabase} (hearlier : Earlier db) :
    Keeps db (dbInit db).2 ∧
    ((dbInit db).1 = none ↔ Clean db) ∧
    (Guarded db → (dbInit db).1 = none) ∧
    ((dbInit db).1 = none → Current (dbInit db).2 ∧
      (∀ rows, Stores (dbInit db).2 rows → OneActive rows) ∧
      dbInit (dbInit db).2 = (none, (dbInit db).2)) := by
  obtain ⟨hkeeps, hran, hdone⟩ := Tables.script_migrates createTables_lawful hearlier
  have hclean : (dbInit db).1 = none ↔ Clean db := hran.trans clean_iff.symm
  refine ⟨hkeeps, hclean, fun h => hclean.mpr h.clean, fun h => ?_⟩
  obtain ⟨hall, hagain⟩ := hdone h
  have hrows : ∀ name, (dbInit db).2.rows name = db.rows name := hkeeps.rows
  have hstill : Clean (dbInit db).2 := by
    obtain ⟨hpositions, hcycles, hchats⟩ := hclean.mp h
    refine ⟨?_, ?_, ?_⟩ <;> rw [hrows] <;> assumption
  exact ⟨current_of_done hall, fun rows hstores => oneActive_of_stores hstores hstill, hagain⟩

/-- Two closed trades and an open one. -/
def oldPositions : List (Tables.Row SqlValue) :=
  [("TP2", "EURUSD"), ("SL", "XAUUSD"), ("OPENED", "XAUUSD")].map fun p c =>
    match c with
    | "strategy" => some (.text "MT5_GOLD")
    | "symbol" => some (.text p.2)
    | "status" => some (.text p.1)
    | _ => none

def oldTable : Tables.Table SqlValue where
  columns := released "positions" positionsTable
  rows := oldPositions

/-- A database from before signals had ids. -/
def oldDatabase : WorkerDatabase where
  entries name :=
    if name = "positions" then some (.table oldTable)
    else if name = legacyName then some (.index legacyOneActiveIndex)
    else none
  indexed {name i} h := by
    have hi : i = legacyOneActiveIndex := by
      split at h
      · cases h
      split at h
      · cases h
        rfl
      · cases h
    rw [hi]
    exact ⟨oldTable, rfl, by decide, by decide⟩

theorem oldDatabase_upgraded : (dbInit oldDatabase).1 = none ∧ Current (dbInit oldDatabase).2 ∧
    (dbInit oldDatabase).2.rows "positions" = oldPositions := by
  have hearlier : Earlier oldDatabase := by
    intro p hp
    simp only [workerSchema, List.mem_cons, List.not_mem_nil, or_false] at hp
    rcases hp with rfl | rfl | rfl | rfl | rfl | rfl | rfl | rfl | rfl | rfl | rfl
    · exact Or.inr ⟨oldTable, rfl, fun _ hc => hc⟩
    all_goals exact Or.inl rfl
  have hguarded : Guarded oldDatabase := ⟨Or.inr (Or.inl rfl), Or.inl rfl, Or.inl rfl⟩
  obtain ⟨hkeeps, -, hran, hcurrent⟩ := dbInit_upgrades hearlier
  exact ⟨hran hguarded, (hcurrent (hran hguarded)).1, hkeeps.rows "positions"⟩

end Schema

end TradeWorker
