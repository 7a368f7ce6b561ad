import TradeWorker.Work

/-!
# Signal cycles

The one message each trade owns: `notification_cycles` keeps a timeline and the
body last rendered from it, `notification_cycle_chats` what each chat was shown.
`record` is the writer half (`CycleNotifier`), `poll` the reader half
(`CycleNotificationJob`); the two meet in the tables only.

A repository method is one call here. Each is a single statement, or one
`BEGIN IMMEDIATE` transaction, so it happens whole or not at all.
-/

namespace TradeWorker

/-! ## The headline status -/

/-- `TERMINAL_STATUSES`. -/
def CycleStatus.isTerminal : CycleStatus → Bool
  | .failed => false
  | .position s => s.isTerminal

/-- `NO_POSITION_STATUSES`. -/
def CycleStatus.isNoPosition : CycleStatus → Bool
  | .failed | .position .rejected => true
  | _ => false

def mergeStatus (current incoming : Option CycleStatus) : Option CycleStatus :=
  match incoming, current with
  | none, current => current
  | some incoming, none => some incoming
  | some incoming, some current =>
      if current.isTerminal then some current
      else if incoming.isNoPosition && !current.isNoPosition then some current
      else some incoming

/-! ## Tables -/

/-- The `events` column: the JSON of a timeline, or a text that is none. -/
inductive EventsColumn where
  | json (events : List CycleEvent)
  | corrupt (raw : String)

/-- `_decode_events`: what cannot be read starts fresh. -/
def EventsColumn.decode : EventsColumn → List CycleEvent
  | .json events => events
  | .corrupt _ => []

/-- A row of `notification_cycles`. -/
structure Cycle where
  id : Nat
  signalUxid : String
  strategy : String
  symbol : String
  status : Option CycleStatus
  events : EventsColumn
  messageText : Option String := none
  revision : Nat

def Cycle.hasKey (strategy signalUxid : String) (c : Cycle) : Bool :=
  c.strategy = strategy && c.signalUxid = signalUxid

/-- The dict `append_event` returns: the cycle as the caller must render it. -/
structure CycleView where
  id : Nat
  signalUxid : String
  strategy : String
  symbol : String
  status : Option CycleStatus
  events : List CycleEvent
  revision : Nat

/-- A row of `notification_cycle_chats`. -/
structure CycleChat where
  id : Nat
  cycleId : Nat
  chatId : String
  messageId : Option String := none
  deliveredRevision : Nat := 0
  attempts : Nat := 0
  maxAttempts : Nat := 5
  lastError : Option String := none
  nextAttemptAt : Option Int := none

/-- A row of the due query. -/
structure Delivery where
  chatRowId : Nat
  chatId : String
  messageId : Option String
  attempts : Nat
  cycleId : Nat
  revision : Nat
  messageText : String
  signalUxid : String
  strategy : String

/-- The two tables, and the clock in seconds. -/
structure CycleDb where
  cycles : List Cycle := []
  chats : List CycleChat := []
  clock : Int := 0

namespace CycleDb

def cycle? (db : CycleDb) (strategy signalUxid : String) : Option Cycle :=
  db.cycles.find? (·.hasKey strategy signalUxid)

def updateCycle (db : CycleDb) (f : Cycle → Cycle) : CycleDb :=
  { db with cycles := db.cycles.map f }

def updateChat (db : CycleDb) (chatRowId : Nat) (f : CycleChat → CycleChat) : CycleDb :=
  { db with chats := db.chats.map fun c => if c.id = chatRowId then f c else c }

/-- The cycle row `append_event` creates on first sight. -/
def newCycle (db : CycleDb) (strategy signalUxid symbol : String) (event : CycleEvent)
    (status : Option CycleStatus) : Cycle where
  id := db.cycles.length + 1
  signalUxid := signalUxid
  strategy := strategy
  symbol := symbol
  status := mergeStatus none status
  events := .json [event]
  revision := 1

/-- The row after `append_event`'s update. -/
def appended (row : Cycle) (event : CycleEvent) (status : Option CycleStatus) : Cycle :=
  { row with
    status := mergeStatus row.status status
    events := .json (row.events.decode ++ [event])
    revision := row.revision + 1 }

/-- What the caller is told of a row; the symbol is the caller's own. -/
def view (c : Cycle) (symbol : String) : CycleView where
  id := c.id
  signalUxid := c.signalUxid
  strategy := c.strategy
  symbol := symbol
  status := c.status
  events := c.events.decode
  revision := c.revision

/-- `append_event`, one transaction. -/
def appendEvent (db : CycleDb) (strategy signalUxid symbol : String) (event : CycleEvent)
    (status : Option CycleStatus) : CycleView × CycleDb :=
  match db.cycle? strategy signalUxid with
  | none =>
      let row := db.newCycle strategy signalUxid symbol event status
      (view row symbol, { db with cycles := db.cycles ++ [row] })
  | some row =>
      let row' := appended row event status
      (view row' symbol, db.updateCycle fun c => if c.id = row.id then row' else c)

/-- `set_message_text`: a late render is dropped. -/
def setMessageText (db : CycleDb) (cycleId : Nat) (text : String) (revision : Nat) :
    CycleDb :=
  db.updateCycle fun c =>
    if c.id = cycleId ∧ c.revision ≤ revision then { c with messageText := some text } else c

/-- `INSERT OR IGNORE` of one chat. -/
def ensureChat (db : CycleDb) (cycleId : Nat) (chatId : String) : CycleDb :=
  if db.chats.any fun c => c.cycleId = cycleId && c.chatId = chatId then db
  else { db with chats := db.chats ++ [{ id := db.chats.length + 1, cycleId, chatId }] }

/-- `ensure_cycle_chats`; an empty entry is skipped. -/
def ensureCycleChats (db : CycleDb) (cycleId : Nat) (chatIds : List String) : CycleDb :=
  (chatIds.filter (· ≠ "")).foldl (fun db chatId => db.ensureChat cycleId chatId) db

/-- Whether a chat is behind, has attempts left and is out of its backoff. -/
def isDue (clock : Int) (m : Cycle) (c : CycleChat) : Bool :=
  c.cycleId = m.id && c.deliveredRevision < m.revision && c.attempts < c.maxAttempts &&
    c.nextAttemptAt.all (· ≤ clock)

/-- One cycle's due chats; a cycle without a body has none. -/
def dueOf (db : CycleDb) (m : Cycle) : List Delivery :=
  match m.messageText with
  | none => []
  | some messageText =>
      (db.chats.filter (isDue db.clock m)).map fun c =>
        { chatRowId := c.id, chatId := c.chatId, messageId := c.messageId,
          attempts := c.attempts, cycleId := m.id, revision := m.revision, messageText,
          signalUxid := m.signalUxid, strategy := m.strategy }

/-- `get_due_cycle_deliveries`. -/
def dueDeliveries (db : CycleDb) (limit : Nat) : List Delivery :=
  (db.cycles.flatMap db.dueOf).take limit

/-- `mark_cycle_delivered`. -/
def markDelivered (db : CycleDb) (chatRowId : Nat) (messageId : Option String)
    (revision : Nat) : CycleDb :=
  db.updateChat chatRowId fun c =>
    { c with
      messageId := messageId <|> c.messageId
      deliveredRevision := max c.deliveredRevision revision
      attempts := 0
      lastError := none
      nextAttemptAt := none }

/-- `mark_cycle_delivery_failed`. -/
def markDeliveryFailed (db : CycleDb) (chatRowId : Nat) (error : String)
    (nextAttemptAt : Int) : CycleDb :=
  db.updateChat chatRowId fun c =>
    { c with
      attempts := c.attempts + 1
      lastError := some error
      nextAttemptAt := some nextAttemptAt }

/-- `clear_cycle_message_id`. -/
def clearMessageId (db : CycleDb) (chatRowId : Nat) : CycleDb :=
  db.updateChat chatRowId fun c => { c with messageId := none }

end CycleDb

/-! ## Calls -/

inductive EditOutcome where
  | ok | missing | failed
  deriving DecidableEq, Repr

/-- The repository methods, the account footer, Telegram and the clock. -/
inductive CycleOp where
  | appendEvent (strategy signalUxid symbol : String) (event : CycleEvent)
      (status : Option CycleStatus)
  | setMessageText (cycleId : Nat) (text : String) (revision : Nat)
  | ensureCycleChats (cycleId : Nat) (chatIds : List String)
  | dueDeliveries (limit : Nat)
  | markDelivered (chatRowId : Nat) (messageId : Option String) (revision : Nat)
  | markDeliveryFailed (chatRowId : Nat) (error : String) (nextAttemptAt : Int)
  | clearMessageId (chatRowId : Nat)
  | footer
  | send (chat text : String)
  | edit (chat messageId text : String)
  | utcnow

@[reducible] def CycleOp.Ans : CycleOp → Type
  | .appendEvent .. => CycleView
  | .setMessageText .. => Unit
  | .ensureCycleChats .. => Unit
  | .dueDeliveries _ => List Delivery
  | .markDelivered .. => Unit
  | .markDeliveryFailed .. => Unit
  | .clearMessageId _ => Unit
  | .footer => String
  | .send .. => Option String
  | .edit .. => EditOutcome
  | .utcnow => Int

/-- The calls SQLite answers. -/
def CycleOp.isStatement : CycleOp → Bool
  | .footer | .send .. | .edit .. | .utcnow => false
  | _ => true

abbrev CycleWork (α : Type) := Prog CycleOp CycleOp.Ans Exn α

def cycleCall (o : CycleOp) : CycleWork o.Ans := Prog.perform o

/-- A write whose failure is logged and swallowed. -/
def cycleWrite (o : CycleOp) : CycleWork Unit :=
  Prog.tryCatch (cycleCall o >>= fun _ => pure ()) fun _ => pure ()

/-! ## `CycleNotifier` -/

/-- A configured notifier. `render` is `_box(format_cycle_message(…))` under its
settings; it may raise. `footerBound` says whether a footer source is attached. -/
structure CycleNotifier where
  enabled : Bool
  chatIds : List String
  footerBound : Bool
  render : CycleView → String → Except Exn String

/-- The arguments of `record`. -/
structure RecordCall where
  signalUxid : Option String
  strategy : String
  symbol : String
  event : CycleEvent
  status : Option CycleStatus := none

/-- `append_event` as its callers see it: a failed transaction is `none`. -/
def appendCycleEvent (call : RecordCall) (signalUxid : String) :
    CycleWork (Option CycleView) :=
  Prog.tryCatch
    (cycleCall (.appendEvent call.strategy signalUxid call.symbol call.event call.status)
      >>= fun v => pure (some v))
    fun _ => pure none

/-- `self._footer_fn() if self._footer_fn is not None else ""`. -/
def CycleNotifier.footerText (n : CycleNotifier) : CycleWork String :=
  if n.footerBound then cycleCall .footer else pure ""

def storeBody (n : CycleNotifier) (cycle : CycleView) : CycleWork Bool := do
  let footer ← n.footerText
  let body ← Prog.ofExcept (n.render cycle footer)
  cycleWrite (.setMessageText cycle.id body cycle.revision)
  cycleWrite (.ensureCycleChats cycle.id n.chatIds)
  pure true

def CycleNotifier.record (n : CycleNotifier) (call : RecordCall) : CycleWork Bool :=
  match text? call.signalUxid, n.enabled with
  | some signalUxid, true => do
      match ← appendCycleEvent call signalUxid with
      | none => pure false
      | some cycle => storeBody n cycle
  | _, _ => pure false

/-- The text is what `render` made of the cycle's first `k` events. -/
def CycleNotifier.Renders (n : CycleNotifier) (c : Cycle) (k : Nat) (text : String) : Prop :=
  k ≤ c.events.decode.length ∧ ∃ symbol status footer,
    n.render { id := c.id, signalUxid := c.signalUxid, strategy := c.strategy, symbol,
               status, events := c.events.decode.take k, revision := k } footer = .ok text

/-! ## `CycleNotificationJob` -/

/-- `_BACKOFF_SECONDS`, indexed by attempt (capped at the last). -/
def backoffSeconds (attempts : Nat) : Int :=
  ([5, 30, 120, 600] : List Int).getD attempts 600

/-- `_fail`. -/
def failDelivery (row : Delivery) (error : String) : CycleWork Unit := do
  let now ← cycleCall .utcnow
  cycleWrite (.markDeliveryFailed row.chatRowId
    (error ++ " (attempt " ++ toString (row.attempts + 1) ++ ")")
    (now + backoffSeconds row.attempts))

/-- `_send`. -/
def sendDelivery (row : Delivery) : CycleWork Unit := do
  match ← cycleCall (.send row.chatId row.messageText) with
  | none => failDelivery row "sendMessage failed"
  | some messageId => cycleWrite (.markDelivered row.chatRowId (some messageId) row.revision)

/-- `_edit`. -/
def editDelivery (row : Delivery) (messageId : String) : CycleWork Unit := do
  match ← cycleCall (.edit row.chatId messageId row.messageText) with
  | .ok => cycleWrite (.markDelivered row.chatRowId none row.revision)
  | .missing => cycleWrite (.clearMessageId row.chatRowId)
  | .failed => failDelivery row "editMessageText failed"

/-- One row: a chat with a message id has its message edited. -/
def deliver (row : Delivery) : CycleWork Unit :=
  match text? row.messageId with
  | some messageId => editDelivery row messageId
  | none => sendDelivery row

/-- The rows of one poll, in turn; an exception ends the poll. -/
def deliverEach : List Delivery → CycleWork Unit
  | [] => pure ()
  | row :: rows => do
      deliver row
      deliverEach rows

/-- `_poll`. A failed query answers no row. -/
def pollDeliveries : CycleWork Unit := do
  let rows ← Prog.tryCatch (cycleCall (.dueDeliveries 20)) fun _ => pure []
  deliverEach rows

/-! ## What the statements do to the tables -/

namespace CycleDb

variable {db : CycleDb}

/-- The same row, whatever was written into it. -/
def SameRow (c c' : Cycle) : Prop :=
  c'.id = c.id ∧ c'.strategy = c.strategy ∧ c'.signalUxid = c.signalUxid

/-- A row after later appends: its timeline goes on. -/
def Extends (c c' : Cycle) : Prop :=
  SameRow c c' ∧ ∃ more, c'.events.decode = c.events.decode ++ more

/-- A table after later appends: no row is lost. -/
def Grows (db db' : CycleDb) : Prop :=
  ∀ c ∈ db.cycles, ∃ c' ∈ db'.cycles, Extends c c'

/-- Rows are numbered by their place. -/
def Numbered (db : CycleDb) : Prop :=
  ∀ i, (h : i < db.cycles.length) → db.cycles[i].id = i + 1

theorem Extends.refl (c : Cycle) : Extends c c := ⟨⟨rfl, rfl, rfl⟩, [], by simp⟩

theorem Extends.trans {a b c : Cycle} (hab : Extends a b) (hbc : Extends b c) :
    Extends a c := by
  obtain ⟨⟨hid, hstrategy, huxid⟩, more, hmore⟩ := hab
  obtain ⟨⟨hid', hstrategy', huxid'⟩, more', hmore'⟩ := hbc
  refine ⟨⟨hid'.trans hid, hstrategy'.trans hstrategy, huxid'.trans huxid⟩, more ++ more', ?_⟩
  rw [hmore', hmore, List.append_assoc]

theorem Grows.refl (db : CycleDb) : Grows db db := fun c hc => ⟨c, hc, Extends.refl c⟩

theorem Grows.trans {a b c : CycleDb} (hab : Grows a b) (hbc : Grows b c) : Grows a c := by
  intro x hx
  obtain ⟨y, hy, hxy⟩ := hab x hx
  obtain ⟨z, hz, hyz⟩ := hbc y hy
  exact ⟨z, hz, hxy.trans hyz⟩

theorem Numbered.eq_of_id (h : db.Numbered) {a b : Cycle} (ha : a ∈ db.cycles)
    (hb : b ∈ db.cycles) (hid : a.id = b.id) : a = b := by
  obtain ⟨i, hi, rfl⟩ := List.mem_iff_getElem.mp ha
  obtain ⟨j, hj, rfl⟩ := List.mem_iff_getElem.mp hb
  have hij : i + 1 = j + 1 := by rw [← h i hi, ← h j hj, hid]
  obtain rfl : i = j := Nat.succ.inj hij
  rfl

theorem cycle?_some {strategy signalUxid : String} {c : Cycle}
    (h : db.cycle? strategy signalUxid = some c) :
    c ∈ db.cycles ∧ c.strategy = strategy ∧ c.signalUxid = signalUxid := by
  have hkey : c.hasKey strategy signalUxid = true := List.find?_some h
  simp only [Cycle.hasKey, Bool.and_eq_true, decide_eq_true_eq] at hkey
  exact ⟨List.mem_of_find?_eq_some h, hkey⟩

theorem cycle?_none {strategy signalUxid : String}
    (h : db.cycle? strategy signalUxid = none) :
    ∀ c ∈ db.cycles, ¬ (c.strategy = strategy ∧ c.signalUxid = signalUxid) := by
  intro c hc hkey
  have := List.find?_eq_none.mp h c hc
  simp [Cycle.hasKey, hkey] at this

/-- A first event opens a row at the end of the table. -/
theorem appendEvent_none {strategy signalUxid symbol : String} {event : CycleEvent}
    {status : Option CycleStatus} (h : db.cycle? strategy signalUxid = none) :
    db.appendEvent strategy signalUxid symbol event status =
      (view (db.newCycle strategy signalUxid symbol event status) symbol,
        { db with
          cycles := db.cycles ++ [db.newCycle strategy signalUxid symbol event status] }) := by
  simp [appendEvent, h]

/-- A later event goes to the row of its key. -/
theorem appendEvent_some {strategy signalUxid symbol : String} {event : CycleEvent}
    {status : Option CycleStatus} {row : Cycle}
    (h : db.cycle? strategy signalUxid = some row) :
    db.appendEvent strategy signalUxid symbol event status =
      (view (appended row event status) symbol,
        db.updateCycle fun c => if c.id = row.id then appended row event status else c) := by
  simp [appendEvent, h]

theorem extends_appended (row : Cycle) (event : CycleEvent) (status : Option CycleStatus) :
    Extends row (appended row event status) :=
  ⟨⟨rfl, rfl, rfl⟩, [event], rfl⟩

theorem mem_updateCycle {f : Cycle → Cycle} {c : Cycle} :
    c ∈ (db.updateCycle f).cycles ↔ ∃ c₀ ∈ db.cycles, f c₀ = c := by
  simp [updateCycle]

theorem Numbered.updateCycle {f : Cycle → Cycle} (h : db.Numbered)
    (hf : ∀ c ∈ db.cycles, (f c).id = c.id) : (db.updateCycle f).Numbered := by
  intro i hi
  have hi' : i < db.cycles.length := by simpa [CycleDb.updateCycle] using hi
  have hid := hf _ (List.getElem_mem hi')
  simpa [CycleDb.updateCycle, hid] using h i hi'

theorem Numbered.append {c : Cycle} (h : db.Numbered) (hc : c.id = db.cycles.length + 1) :
    ({ db with cycles := db.cycles ++ [c] } : CycleDb).Numbered := by
  intro i hi
  simp only [List.length_append, List.length_singleton] at hi
  rcases Nat.lt_or_ge i db.cycles.length with hlt | hge
  · simpa [List.getElem_append_left hlt] using h i hlt
  · obtain rfl : i = db.cycles.length := by omega
    simpa using hc

theorem Numbered.appendEvent (h : db.Numbered) (strategy signalUxid symbol : String)
    (event : CycleEvent) (status : Option CycleStatus) :
    (db.appendEvent strategy signalUxid symbol event status).2.Numbered := by
  cases hrow : db.cycle? strategy signalUxid with
  | none =>
      rw [appendEvent_none hrow]
      exact h.append rfl
  | some row =>
      rw [appendEvent_some hrow]
      refine h.updateCycle fun c _ => ?_
      by_cases hc : c.id = row.id
      · simp [hc, appended]
      · simp [hc]

theorem Grows.appendEvent (h : db.Numbered) (strategy signalUxid symbol : String)
    (event : CycleEvent) (status : Option CycleStatus) :
    Grows db (db.appendEvent strategy signalUxid symbol event status).2 := by
  intro c hc
  cases hrow : db.cycle? strategy signalUxid with
  | none =>
      rw [appendEvent_none hrow]
      exact ⟨c, List.mem_append_left _ hc, Extends.refl c⟩
  | some row =>
      rw [appendEvent_some hrow]
      by_cases hid : c.id = row.id
      · obtain rfl := h.eq_of_id hc (cycle?_some hrow).1 hid
        exact ⟨_, mem_updateCycle.mpr ⟨c, hc, if_pos rfl⟩, extends_appended c event status⟩
      · exact ⟨c, mem_updateCycle.mpr ⟨c, hc, if_neg hid⟩, Extends.refl c⟩

/-- The caller is told of the row its event went to. -/
theorem appendEvent_view (db : CycleDb) (strategy signalUxid symbol : String)
    (event : CycleEvent) (status : Option CycleStatus) :
    ∃ c ∈ (db.appendEvent strategy signalUxid symbol event status).2.cycles,
      (db.appendEvent strategy signalUxid symbol event status).1 = view c symbol ∧
        c.strategy = strategy ∧ c.signalUxid = signalUxid := by
  cases hrow : db.cycle? strategy signalUxid with
  | none =>
      rw [appendEvent_none hrow]
      exact ⟨_, List.mem_append_right _ (List.mem_singleton.mpr rfl), rfl, rfl, rfl⟩
  | some row =>
      obtain ⟨hmem, hkey⟩ := cycle?_some hrow
      rw [appendEvent_some hrow]
      exact ⟨_, mem_updateCycle.mpr ⟨row, hmem, if_pos rfl⟩, rfl, hkey⟩

/-- A row after `set_message_text`: at most its body is another. -/
theorem Grows.setMessageText (cycleId : Nat) (text : String) (revision : Nat) :
    Grows db (db.setMessageText cycleId text revision) := by
  intro c hc
  refine ⟨_, mem_updateCycle.mpr ⟨c, hc, rfl⟩, ?_⟩
  split
  · exact ⟨⟨rfl, rfl, rfl⟩, [], by simp⟩
  · exact Extends.refl c

theorem Numbered.setMessageText (h : db.Numbered) (cycleId : Nat) (text : String)
    (revision : Nat) : (db.setMessageText cycleId text revision).Numbered := by
  refine h.updateCycle fun c _ => ?_
  split <;> rfl

@[simp] theorem ensureCycleChats_cycles (cycleId : Nat) (chatIds : List String) :
    (db.ensureCycleChats cycleId chatIds).cycles = db.cycles := by
  unfold ensureCycleChats
  generalize chatIds.filter (· ≠ "") = ids
  induction ids generalizing db with
  | nil => rfl
  | cons id ids ih =>
      rw [List.foldl_cons, ih]
      unfold ensureChat
      split <;> rfl

/-! ### Chats -/

/-- The same chat row, whatever was written into it. -/
def SameChat (c c' : CycleChat) : Prop :=
  c'.id = c.id ∧ c'.cycleId = c.cycleId ∧ c'.chatId = c.chatId

def ChatsNumbered (db : CycleDb) : Prop :=
  ∀ i, (h : i < db.chats.length) → db.chats[i].id = i + 1

theorem ChatsNumbered.eq_of_id (h : db.ChatsNumbered) {a b : CycleChat} (ha : a ∈ db.chats)
    (hb : b ∈ db.chats) (hid : a.id = b.id) : a = b := by
  obtain ⟨i, hi, rfl⟩ := List.mem_iff_getElem.mp ha
  obtain ⟨j, hj, rfl⟩ := List.mem_iff_getElem.mp hb
  have hij : i + 1 = j + 1 := by rw [← h i hi, ← h j hj, hid]
  obtain rfl : i = j := Nat.succ.inj hij
  rfl

theorem mem_updateChat {chatRowId : Nat} {f : CycleChat → CycleChat} {c : CycleChat} :
    c ∈ (db.updateChat chatRowId f).chats ↔
      ∃ c₀ ∈ db.chats, (if c₀.id = chatRowId then f c₀ else c₀) = c := by
  simp [updateChat]

theorem ChatsNumbered.updateChat {chatRowId : Nat} {f : CycleChat → CycleChat}
    (h : db.ChatsNumbered) (hf : ∀ c, (f c).id = c.id) :
    (db.updateChat chatRowId f).ChatsNumbered := by
  intro i hi
  have hi' : i < db.chats.length := by simpa [CycleDb.updateChat] using hi
  have hid := h i hi'
  simp only [CycleDb.updateChat, List.getElem_map]
  split
  · rw [hf, hid]
  · exact hid

/-- A new chat starts from nothing shown. -/
theorem ensureCycleChats_chats (db : CycleDb) (cycleId : Nat) (chatIds : List String) :
    ∃ new, (db.ensureCycleChats cycleId chatIds).chats = db.chats ++ new ∧
      (∀ c ∈ new, c.deliveredRevision = 0) ∧
      (db.ChatsNumbered → (db.ensureCycleChats cycleId chatIds).ChatsNumbered) := by
  unfold ensureCycleChats
  generalize chatIds.filter (· ≠ "") = ids
  induction ids generalizing db with
  | nil => exact ⟨[], by simp, by simp, fun h => h⟩
  | cons id ids ih =>
      rw [List.foldl_cons]
      obtain ⟨new, hnew, hzero, hnumbered⟩ := ih (db.ensureChat cycleId id)
      unfold ensureChat at hnew hnumbered ⊢
      split
      · rename_i hthere
        rw [if_pos hthere] at hnew hnumbered
        exact ⟨new, hnew, hzero, hnumbered⟩
      · rename_i hthere
        rw [if_neg hthere] at hnew hnumbered
        refine ⟨_ :: new, by rw [hnew, List.append_assoc, List.singleton_append], ?_, ?_⟩
        · intro c hc
          rcases List.mem_cons.mp hc with rfl | hc
          · rfl
          · exact hzero c hc
        · intro h
          refine hnumbered fun i hi => ?_
          simp only [List.length_append, List.length_singleton] at hi
          rcases Nat.lt_or_ge i db.chats.length with hlt | hge
          · simpa [List.getElem_append_left hlt] using h i hlt
          · obtain rfl : i = db.chats.length := by omega
            simp

@[simp] theorem appendEvent_chats (db : CycleDb) (strategy signalUxid symbol : String)
    (event : CycleEvent) (status : Option CycleStatus) :
    (db.appendEvent strategy signalUxid symbol event status).2.chats = db.chats := by
  cases hrow : db.cycle? strategy signalUxid with
  | none => rw [appendEvent_none hrow]
  | some row =>
      rw [appendEvent_some hrow]
      rfl

/-- A row of the due query is a chat of a cycle with a body, at its revision. -/
theorem mem_dueDeliveries {limit : Nat} {d : Delivery} (h : d ∈ db.dueDeliveries limit) :
    ∃ c ∈ db.chats, c.id = d.chatRowId ∧ c.cycleId = d.cycleId ∧ c.chatId = d.chatId := by
  obtain ⟨m, -, hd⟩ := List.mem_flatMap.mp (List.mem_of_mem_take h)
  unfold dueOf at hd
  split at hd
  · exact absurd hd List.not_mem_nil
  · obtain ⟨c, hc, rfl⟩ := List.mem_map.mp hd
    obtain ⟨hmem, hdue⟩ := List.mem_filter.mp hc
    simp only [isDue, Bool.and_eq_true, decide_eq_true_eq] at hdue
    exact ⟨c, hmem, rfl, hdue.1.1.1, rfl⟩

end CycleDb

/-- What the first events render to is not changed by later ones. -/
theorem CycleNotifier.Renders.extends {n : CycleNotifier} {c c' : Cycle} {k : Nat}
    {text : String} (h : n.Renders c k text) (hc : CycleDb.Extends c c') :
    n.Renders c' k text := by
  obtain ⟨hk, symbol, status, footer, hrender⟩ := h
  obtain ⟨⟨hid, hstrategy, huxid⟩, more, hmore⟩ := hc
  refine ⟨?_, symbol, status, footer, ?_⟩
  · rw [hmore, List.length_append]
    omega
  · rw [hid, hstrategy, huxid, hmore, List.take_append_of_le_length hk]
    exact hrender

end TradeWorker
