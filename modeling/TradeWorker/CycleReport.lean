import TradeWorker.CycleStore
import TradeWorker.Embed

/-!
# One report for each action

`_notify_cycle_or_send` folds an action into its cycle, and sends the action's own message
where `record` says that the cycle does not own it. `record` says so when the event could
not be appended. The body and the delivery rows are written afterwards, by methods that log
a failure and return: whether they wrote anything is not asked.
-/

namespace TradeWorker

/-! ## The outbox next to the cycles -/

/-- The insert of a message into the outbox. -/
inductive OutboxOp where
  | enqueue (message : String)

@[reducible] def OutboxOp.Ans : OutboxOp → Type
  | .enqueue _ => Unit

/-- A program over the cycle tables and the outbox. -/
abbrev ReportWork (α : Type) :=
  Prog (CycleOp ⊕ OutboxOp) (Prog.SumAns CycleOp.Ans OutboxOp.Ans) Exn α

/-- `send_message` of the channel notifier. -/
def sendMessage (message : String) : ReportWork Unit :=
  @Prog.perform _ (Prog.SumAns CycleOp.Ans OutboxOp.Ans) _ (.inr (.enqueue message))

def CycleNotifier.notifyCycleOrSend (n : CycleNotifier) (message : String) (call : RecordCall) :
    ReportWork Unit := do
  let owned ← Prog.embed (n.record call)
  if owned then pure () else sendMessage message

/-- The cycle tables and the messages in the outbox. -/
structure ReportStore where
  db : CycleDb
  outbox : List String := []

/-- Which of the three writes fail. -/
structure WriteFailures where
  appendEvent : Bool := false
  setMessageText : Bool := false
  ensureCycleChats : Bool := false
  deriving DecidableEq, Repr

/-- A write that fails leaves the tables as they were; the outbox takes every message. -/
def WriteFailures.serve (f : WriteFailures) (footer : Except Exn String) :
    Prog.Server (CycleOp ⊕ OutboxOp) (Prog.SumAns CycleOp.Ans OutboxOp.Ans) Exn ReportStore
  | .inl (.appendEvent strategy signalUxid symbol event status), s =>
      if f.appendEvent then (.error (.sqlite "append_event"), s)
      else
        (.ok (s.db.appendEvent strategy signalUxid symbol event status).1,
          { s with db := (s.db.appendEvent strategy signalUxid symbol event status).2 })
  | .inl (.setMessageText cycleId text revision), s =>
      if f.setMessageText then (.error (.sqlite "set_message_text"), s)
      else (.ok (), { s with db := s.db.setMessageText cycleId text revision })
  | .inl (.ensureCycleChats cycleId chatIds), s =>
      if f.ensureCycleChats then (.error (.sqlite "ensure_cycle_chats"), s)
      else (.ok (), { s with db := s.db.ensureCycleChats cycleId chatIds })
  | .inl .footer, s => (footer, s)
  | .inl _, s => (.error (.sqlite "not asked"), s)
  | .inr (.enqueue message), s => (.ok (), { s with outbox := s.outbox ++ [message] })

/-! ## What a report is -/

/-- The events on file under a key. -/
def CycleDb.eventsOf (db : CycleDb) (strategy signalUxid : String) : List CycleEvent :=
  ((db.cycle? strategy signalUxid).map (·.events.decode)).getD []

def Enqueued (message : String) (s s' : ReportStore) : Prop :=
  s'.outbox = s.outbox ++ [message]

/-- The text is the body of the cycle as it stands, under some footer. -/
def CycleNotifier.BodyOf (n : CycleNotifier) (symbol : String) (c : Cycle) (text : String) :
    Prop :=
  ∃ footer, n.render (CycleDb.view c symbol) footer = .ok text

/-- Every configured chat has a delivery row of the cycle. -/
def CycleNotifier.ChatsOf (n : CycleNotifier) (db : CycleDb) (cycleId : Nat) : Prop :=
  ∀ chat ∈ n.chatIds, chat ≠ "" → ∃ row ∈ db.chats, row.cycleId = cycleId ∧ row.chatId = chat

/-- The cycle holds the event, a body that includes it, and a delivery row for each chat. -/
def CycleNotifier.Held (n : CycleNotifier) (call : RecordCall) (s s' : ReportStore) : Prop :=
  ∃ signalUxid c, text? call.signalUxid = some signalUxid ∧
    s'.db.cycle? call.strategy signalUxid = some c ∧
    c.events.decode = s.db.eventsOf call.strategy signalUxid ++ [call.event] ∧
    (∃ text, c.messageText = some text ∧ n.BodyOf call.symbol c text) ∧
    n.ChatsOf s'.db c.id

/-- The action is reported once: in the outbox or in its cycle, never in both. -/
def CycleNotifier.ReportedOnce (n : CycleNotifier) (message : String) (call : RecordCall)
    (s s' : ReportStore) : Prop :=
  Xor (Enqueued message s s') (n.Held call s s')

/-! ## The row an event goes to -/

namespace CycleDb

variable {db : CycleDb} {strategy signalUxid symbol : String} {event : CycleEvent}
  {status : Option CycleStatus}

/-- The row `append_event` leaves under the key. -/
def appendedRow (db : CycleDb) (strategy signalUxid symbol : String) (event : CycleEvent)
    (status : Option CycleStatus) : Cycle :=
  match db.cycle? strategy signalUxid with
  | none => db.newCycle strategy signalUxid symbol event status
  | some row => appended row event status

theorem appendEvent_row : (db.appendEvent strategy signalUxid symbol event status).1 =
    view (db.appendedRow strategy signalUxid symbol event status) symbol := by
  unfold appendedRow
  cases hrow : db.cycle? strategy signalUxid with
  | none => rw [appendEvent_none hrow]
  | some row => rw [appendEvent_some hrow]

theorem appendedRow_key : (db.appendedRow strategy signalUxid symbol event status).hasKey
    strategy signalUxid = true := by
  unfold appendedRow
  cases hrow : db.cycle? strategy signalUxid with
  | none => simp [newCycle, Cycle.hasKey]
  | some row =>
      obtain ⟨-, hs, hu⟩ := cycle?_some hrow
      simp [appended, Cycle.hasKey, hs, hu]

theorem appendedRow_events :
    (db.appendedRow strategy signalUxid symbol event status).events.decode =
      db.eventsOf strategy signalUxid ++ [event] := by
  unfold appendedRow eventsOf
  cases db.cycle? strategy signalUxid <;> rfl

/-- The row a key finds, after an update that may turn others into the same row. -/
theorem cycle?_updateCycle {f : Cycle → Cycle} {row row' : Cycle}
    (hrow : db.cycle? strategy signalUxid = some row) (hf : f row = row')
    (hkey : row'.hasKey strategy signalUxid = true)
    (hothers : ∀ c, c.hasKey strategy signalUxid = false →
      f c = row' ∨ (f c).hasKey strategy signalUxid = false) :
    (db.updateCycle f).cycle? strategy signalUxid = some row' := by
  unfold cycle? updateCycle at *
  dsimp only
  generalize db.cycles = rows at hrow ⊢
  induction rows with
  | nil => cases hrow
  | cons c rest ih =>
      rw [List.map_cons]
      cases hc : c.hasKey strategy signalUxid with
      | true =>
          rw [List.find?_cons_of_pos hc] at hrow
          obtain rfl := Option.some.inj hrow
          rw [hf, List.find?_cons_of_pos hkey]
      | false =>
          rw [List.find?_cons_of_neg (by simp [hc])] at hrow
          rcases hothers c hc with hsame | hnone
          · rw [hsame, List.find?_cons_of_pos hkey]
          · rw [List.find?_cons_of_neg (by simp [hnone])]
            exact ih hrow

theorem appendEvent_cycle? :
    (db.appendEvent strategy signalUxid symbol event status).2.cycle? strategy signalUxid =
      some (db.appendedRow strategy signalUxid symbol event status) := by
  have hkey : (db.appendedRow strategy signalUxid symbol event status).hasKey strategy
      signalUxid = true := appendedRow_key
  unfold appendedRow at hkey ⊢
  cases hrow : db.cycle? strategy signalUxid with
  | none =>
      rw [appendEvent_none hrow]
      rw [hrow] at hkey
      unfold cycle? at hrow ⊢
      rw [List.find?_append, hrow]
      exact List.find?_cons_of_pos hkey
  | some row =>
      rw [appendEvent_some hrow]
      rw [hrow] at hkey
      refine cycle?_updateCycle hrow (if_pos rfl) hkey fun c hc => ?_
      by_cases hid : c.id = row.id
      · exact Or.inl (if_pos hid)
      · rw [if_neg hid]
        exact Or.inr hc

def withText (text : String) (c : Cycle) : Cycle := { c with messageText := some text }

theorem setMessageText_cycle? {row : Cycle} (hrow : db.cycle? strategy signalUxid = some row)
    (text : String) :
    (db.setMessageText row.id text row.revision).cycle? strategy signalUxid =
      some (withText text row) := by
  have hkey : row.hasKey strategy signalUxid = true := List.find?_some hrow
  refine cycle?_updateCycle hrow (if_pos ⟨rfl, le_rfl⟩) hkey fun c hc => ?_
  right
  split
  · exact hc
  · exact hc

theorem mem_ensureChat (db : CycleDb) (cycleId : Nat) (chat : String) :
    ∃ row ∈ (db.ensureChat cycleId chat).chats, row.cycleId = cycleId ∧ row.chatId = chat := by
  unfold ensureChat
  split
  · rename_i hany
    obtain ⟨row, hrow, hmatch⟩ := List.any_eq_true.mp hany
    simp only [Bool.and_eq_true, decide_eq_true_eq] at hmatch
    exact ⟨row, hrow, hmatch⟩
  · exact ⟨_, List.mem_append_right _ List.mem_cons_self, rfl, rfl⟩

theorem mem_chats_ensureChat {cycleId : Nat} {chat : String} {row : CycleChat}
    (hrow : row ∈ db.chats) : row ∈ (db.ensureChat cycleId chat).chats := by
  unfold ensureChat
  split
  · exact hrow
  · exact List.mem_append_left _ hrow

/-- Every chat's row is there after `ensure_cycle_chats`. -/
theorem mem_ensureCycleChats (db : CycleDb) (cycleId : Nat) {chatIds : List String}
    {chat : String} (hchat : chat ∈ chatIds) (hne : chat ≠ "") :
    ∃ row ∈ (db.ensureCycleChats cycleId chatIds).chats,
      row.cycleId = cycleId ∧ row.chatId = chat := by
  have hids : chat ∈ chatIds.filter (· ≠ "") := List.mem_filter.mpr ⟨hchat, by simpa using hne⟩
  unfold ensureCycleChats
  generalize chatIds.filter (· ≠ "") = ids at hids
  have hkeeps : ∀ (ids : List String) (db : CycleDb) (row : CycleChat), row ∈ db.chats →
      row ∈ (ids.foldl (fun db chatId => db.ensureChat cycleId chatId) db).chats := by
    intro ids
    induction ids with
    | nil => exact fun _ _ h => h
    | cons id rest ih => exact fun db row h => ih _ _ (mem_chats_ensureChat h)
  induction ids generalizing db with
  | nil => cases hids
  | cons id rest ih =>
      rcases List.mem_cons.mp hids with rfl | hrest
      · obtain ⟨row, hrow, hmatch⟩ := mem_ensureChat db cycleId chat
        exact ⟨row, hkeeps rest _ row hrow, hmatch⟩
      · exact ih _ hrest

end CycleDb

/-! ## What each failure does to the report -/

/-- The key's uxid, if the action is offered to a cycle at all. -/
def CycleNotifier.offered (n : CycleNotifier) (call : RecordCall) : Option String :=
  if n.enabled then text? call.signalUxid else none

/-- The row the action's event leaves. -/
def ReportStore.rowOf (s : ReportStore) (call : RecordCall) (signalUxid : String) : Cycle :=
  s.db.appendedRow call.strategy signalUxid call.symbol call.event call.status

/-- The tables with the event in them. -/
def ReportStore.appended (s : ReportStore) (call : RecordCall) (signalUxid : String) : CycleDb :=
  (s.db.appendEvent call.strategy signalUxid call.symbol call.event call.status).2

/-- The body the row renders to, where it does. -/
def CycleNotifier.body? (n : CycleNotifier) (footer : Except Exn String) (symbol : String)
    (c : Cycle) : Option String :=
  match if n.footerBound then footer else .ok "" with
  | .ok footer => (n.render (CycleDb.view c symbol) footer).toOption
  | .error _ => none

/-- The tables after the two writes that follow a rendered body. -/
def CycleNotifier.written (n : CycleNotifier) (f : WriteFailures) (c : Cycle) (body : String)
    (db : CycleDb) : CycleDb :=
  let db := if f.setMessageText then db else db.setMessageText c.id body c.revision
  if f.ensureCycleChats then db else db.ensureCycleChats c.id n.chatIds

/-- The row under the key when its body has been written, or not. -/
def WriteFailures.shown (f : WriteFailures) (body : String) (c : Cycle) : Cycle :=
  if f.setMessageText then c else CycleDb.withText body c

section Report

variable {n : CycleNotifier} {f : WriteFailures} {footer : Except Exn String} {message : String}
  {call : RecordCall} {s : ReportStore}

theorem run_appendCycleEvent (signalUxid : String) :
    Prog.run (f.serve footer).left (appendCycleEvent call signalUxid) s =
      if f.appendEvent then (.ok none, s)
      else (.ok (some (CycleDb.view (s.rowOf call signalUxid) call.symbol)),
        { s with db := s.appended call signalUxid }) := by
  rw [ReportStore.rowOf, ← CycleDb.appendEvent_row]
  unfold appendCycleEvent
  rw [Prog.run_tryCatch, cycleCall, Prog.run_bind_pure, Prog.run_perform]
  simp only [Prog.Server.left, WriteFailures.serve]
  cases f.appendEvent <;> rfl

/-- What comes before the two writes: the footer and the rendering. -/
theorem run_footerText (w : ReportStore) :
    Prog.run (f.serve footer).left n.footerText w =
      (if n.footerBound then footer else .ok "", w) := by
  unfold CycleNotifier.footerText
  split
  · rw [cycleCall, Prog.run_perform]
    rfl
  · rfl

theorem run_cycleWrite (o : CycleOp) (w : ReportStore) :
    Prog.run (f.serve footer).left (cycleWrite o) w =
      (.ok (), ((f.serve footer).left o w).2) := by
  unfold cycleWrite
  rw [Prog.run_tryCatch, cycleCall, Prog.run_bind_pure, Prog.run_perform]
  rcases (f.serve footer).left o w with ⟨e | a, w'⟩ <;> rfl

/-- The two writes are not asked how they went. -/
theorem run_storeBody {c : Cycle} {symbol body : String} (h : n.body? footer symbol c = some body)
    (w : ReportStore) :
    Prog.run (f.serve footer).left (storeBody n (CycleDb.view c symbol)) w =
      (.ok true, { w with db := n.written f c body w.db }) := by
  unfold CycleNotifier.body? at h
  unfold storeBody
  rw [Prog.run_bind, run_footerText]
  split at h
  · rename_i text hfooter
    rw [hfooter]
    cases hrender : n.render (CycleDb.view c symbol) text with
    | error e =>
        rw [hrender] at h
        cases h
    | ok text' =>
        rw [hrender] at h
        obtain rfl : text' = body := Option.some.inj h
        dsimp only
        rw [hrender, Prog.ofExcept_ok, Prog.ret_bind, Prog.run_bind_ok _ (run_cycleWrite ..),
          Prog.run_bind_ok _ (run_cycleWrite ..)]
        simp only [Prog.Server.left, WriteFailures.serve, CycleNotifier.written]
        cases f.setMessageText <;> cases f.ensureCycleChats <;> rfl
  · cases h

theorem run_storeBody_none {c : Cycle} {symbol : String} (h : n.body? footer symbol c = none)
    (w : ReportStore) :
    ∃ e, Prog.run (f.serve footer).left (storeBody n (CycleDb.view c symbol)) w =
      (.error e, w) := by
  unfold CycleNotifier.body? at h
  unfold storeBody
  rw [Prog.run_bind, run_footerText]
  split at h
  · rename_i text hfooter
    rw [hfooter]
    cases hrender : n.render (CycleDb.view c symbol) text with
    | error e =>
        dsimp only
        rw [hrender]
        exact ⟨e, rfl⟩
    | ok text' =>
        rw [hrender] at h
        cases h
  · rename_i e hfooter
    rw [hfooter]
    exact ⟨e, rfl⟩

/-- An action no cycle is offered, or whose event is not appended, goes to the outbox. -/
theorem notify_enqueues (h : n.offered call = none ∨ f.appendEvent = true) :
    Prog.run (f.serve footer) (n.notifyCycleOrSend message call) s =
      (.ok (), { s with outbox := s.outbox ++ [message] }) := by
  have hrecord : Prog.run (f.serve footer).left (n.record call) s = (.ok false, s) := by
    unfold CycleNotifier.offered at h
    unfold CycleNotifier.record
    split
    · rename_i signalUxid htext henabled
      rw [henabled, htext] at h
      have hfails : f.appendEvent = true := by simpa using h
      rw [Prog.run_bind, run_appendCycleEvent, if_pos hfails]
      rfl
    · rfl
  rw [CycleNotifier.notifyCycleOrSend, Prog.run_bind, Prog.run_embed, hrecord]
  rfl

/-- Any other goes to its cycle alone. -/
theorem notify_folds {signalUxid : String} (h : n.offered call = some signalUxid)
    (happended : f.appendEvent = false) :
    (Prog.run (f.serve footer) (n.notifyCycleOrSend message call) s).2 =
      { s with
        db := match n.body? footer call.symbol (s.rowOf call signalUxid) with
          | some body => n.written f (s.rowOf call signalUxid) body (s.appended call signalUxid)
          | none => s.appended call signalUxid } := by
  obtain ⟨henabled, htext⟩ : n.enabled = true ∧ text? call.signalUxid = some signalUxid := by
    unfold CycleNotifier.offered at h
    split at h
    · exact ⟨‹_›, h⟩
    · cases h
  have happend := @run_appendCycleEvent f footer call s signalUxid
  rw [if_neg (by simp [happended])] at happend
  have hrecord : Prog.run (f.serve footer).left (n.record call) s =
      Prog.run (f.serve footer).left
        (storeBody n (CycleDb.view (s.rowOf call signalUxid) call.symbol))
        { s with db := s.appended call signalUxid } := by
    unfold CycleNotifier.record
    rw [htext, henabled]
    dsimp only
    rw [Prog.run_bind_ok _ happend]
  rw [CycleNotifier.notifyCycleOrSend, Prog.run_bind, Prog.run_embed, hrecord]
  cases hbody : n.body? footer call.symbol (s.rowOf call signalUxid) with
  | some body =>
      rw [run_storeBody hbody]
      rfl
  | none =>
      obtain ⟨e, hrun⟩ :=
        run_storeBody_none (f := f) hbody { s with db := s.appended call signalUxid }
      rw [hrun]

/-- What the row holds after the writes that follow its body. -/
theorem written_cycle? {signalUxid : String} (body : String) :
    (n.written f (s.rowOf call signalUxid) body (s.appended call signalUxid)).cycle? call.strategy
        signalUxid =
      some (f.shown body (s.rowOf call signalUxid)) := by
  have hrow : (s.appended call signalUxid).cycle? call.strategy signalUxid =
      some (s.rowOf call signalUxid) := CycleDb.appendEvent_cycle?
  unfold CycleNotifier.written WriteFailures.shown
  cases f.setMessageText <;> cases f.ensureCycleChats <;>
    simp only [if_true, if_false, Bool.false_eq_true, CycleDb.cycle?,
      CycleDb.ensureCycleChats_cycles] <;>
    first
      | exact hrow
      | exact CycleDb.setMessageText_cycle? hrow body

end Report

/-- The writes that would complete the report: made now, or nothing new to them. -/
structure CycleNotifier.Completed (n : CycleNotifier) (f : WriteFailures)
    (footer : Except Exn String) (call : RecordCall) (s : ReportStore) (c : Cycle) : Prop where
  body : (f.setMessageText = false ∧ (n.body? footer call.symbol c).isSome) ∨
    ∃ text, c.messageText = some text ∧ n.BodyOf call.symbol c text
  chats : (f.ensureCycleChats = false ∧ (n.body? footer call.symbol c).isSome) ∨
    n.ChatsOf s.db c.id

section Once

variable {n : CycleNotifier} {f : WriteFailures} {footer : Except Exn String} {message : String}
  {call : RecordCall} {s s' : ReportStore}

/-- Tables that did not move do not hold the event. -/
theorem not_held_of_same (h : s'.db = s.db) : ¬ n.Held call s s' := by
  rintro ⟨signalUxid, c, -, hrow, hevents, -⟩
  rw [h] at hrow
  have hsame : s.db.eventsOf call.strategy signalUxid = c.events.decode := by
    rw [CycleDb.eventsOf, hrow]
    rfl
  rw [hsame] at hevents
  simpa using congrArg List.length hevents

/-- What is held, told from the row under the key. -/
theorem held_iff_of_row {signalUxid : String} (huxid : text? call.signalUxid = some signalUxid)
    {c : Cycle} (hrow : s'.db.cycle? call.strategy signalUxid = some c)
    (hevents : c.events.decode = s.db.eventsOf call.strategy signalUxid ++ [call.event]) :
    n.Held call s s' ↔
      (∃ text, c.messageText = some text ∧ n.BodyOf call.symbol c text) ∧ n.ChatsOf s'.db c.id := by
  constructor
  · rintro ⟨u, c', hu, hc', -, hheld⟩
    rw [huxid] at hu
    cases hu
    rw [hrow] at hc'
    cases hc'
    exact hheld
  · exact fun hheld => ⟨signalUxid, c, huxid, hrow, hevents, hheld⟩

theorem bodyOf_of_body? {c : Cycle} {symbol body : String}
    (h : n.body? footer symbol c = some body) : n.BodyOf symbol c body := by
  unfold CycleNotifier.body? at h
  split at h
  · rename_i text hfooter
    cases hrender : n.render (CycleDb.view c symbol) text with
    | error e =>
        rw [hrender] at h
        cases h
    | ok text' =>
        rw [hrender] at h
        obtain rfl : text' = body := Option.some.inj h
        exact ⟨text, hrender⟩
  · cases h

theorem shown_events {signalUxid : String} (body : String) (f : WriteFailures) :
    (f.shown body (s.rowOf call signalUxid)).events.decode =
      s.db.eventsOf call.strategy signalUxid ++ [call.event] := by
  unfold WriteFailures.shown
  split
  · exact CycleDb.appendedRow_events
  · exact CycleDb.appendedRow_events

theorem shown_id (body : String) (c : Cycle) : (f.shown body c).id = c.id := by
  unfold WriteFailures.shown
  split <;> rfl

theorem shown_body {c : Cycle} {symbol body : String} (h : n.body? footer symbol c = some body) :
    (∃ text, (f.shown body c).messageText = some text ∧ n.BodyOf symbol (f.shown body c) text) ↔
      f.setMessageText = false ∨ ∃ text, c.messageText = some text ∧ n.BodyOf symbol c text := by
  unfold WriteFailures.shown
  cases f.setMessageText with
  | true => simp
  | false => exact iff_of_true ⟨body, rfl, bodyOf_of_body? h⟩ (Or.inl rfl)

theorem chatsOf_congr {db db' : CycleDb} (h : db'.chats = db.chats) (cycleId : Nat) :
    n.ChatsOf db' cycleId ↔ n.ChatsOf db cycleId := by
  rw [CycleNotifier.ChatsOf, h, CycleNotifier.ChatsOf]

/-- The delivery rows after the second write. -/
theorem chatsOf_written (c : Cycle) (body : String) (db : CycleDb) :
    n.ChatsOf (n.written f c body db) c.id ↔ f.ensureCycleChats = false ∨ n.ChatsOf db c.id := by
  have hchats : (if f.setMessageText then db else db.setMessageText c.id body c.revision).chats =
      db.chats := by
    split <;> rfl
  unfold CycleNotifier.written
  cases f.ensureCycleChats with
  | true => simpa using chatsOf_congr hchats c.id
  | false =>
      simp only [Bool.false_eq_true, if_false, true_or, iff_true]
      exact fun chat hchat hne => CycleDb.mem_ensureCycleChats _ c.id hchat hne

/-- The cycle that took the event holds the report exactly when the writes are complete. -/
theorem held_iff_completed {signalUxid : String} (h : n.offered call = some signalUxid)
    (happended : f.appendEvent = false) :
    n.Held call s (Prog.run (f.serve footer) (n.notifyCycleOrSend message call) s).2 ↔
      n.Completed f footer call s (s.rowOf call signalUxid) := by
  have huxid : text? call.signalUxid = some signalUxid := by
    unfold CycleNotifier.offered at h
    split at h
    · exact h
    · cases h
  have hchats : (s.appended call signalUxid).chats = s.db.chats := CycleDb.appendEvent_chats ..
  rw [notify_folds h happended]
  cases hbody : n.body? footer call.symbol (s.rowOf call signalUxid) with
  | none =>
      rw [held_iff_of_row huxid CycleDb.appendEvent_cycle? CycleDb.appendedRow_events,
        chatsOf_congr hchats]
      constructor
      · exact fun ⟨hb, hc⟩ => ⟨Or.inr hb, Or.inr hc⟩
      · rintro ⟨hb, hc⟩
        rw [hbody] at hb hc
        simp only [Option.isSome_none, Bool.false_eq_true, and_false, false_or] at hb hc
        exact ⟨hb, hc⟩
  | some body =>
      rw [held_iff_of_row huxid (written_cycle? body) (shown_events body _), shown_body hbody,
        shown_id, chatsOf_written, chatsOf_congr hchats]
      constructor
      · rintro ⟨hb, hc⟩
        exact ⟨hb.imp_left fun h => ⟨h, by simp [hbody]⟩, hc.imp_left fun h => ⟨h, by simp [hbody]⟩⟩
      · rintro ⟨hb, hc⟩
        exact ⟨hb.imp_left And.left, hc.imp_left And.left⟩

theorem not_enqueued {signalUxid : String} (h : n.offered call = some signalUxid)
    (happended : f.appendEvent = false) :
    ¬ Enqueued message s (Prog.run (f.serve footer) (n.notifyCycleOrSend message call) s).2 := by
  rw [notify_folds h happended]
  intro henqueued
  simpa using congrArg List.length (show s.outbox = s.outbox ++ [message] from henqueued)

end Once

def oneChat : CycleNotifier where
  enabled := true
  chatIds := ["-1001"]
  footerBound := false
  render _ _ := .ok "body"

def filledEntry : RecordCall where
  signalUxid := some "u1"
  strategy := "GOLD"
  symbol := "XAUUSD"
  event := { action := "LONG", outcome := .filled, timestamp := 0 }
  status := some (.position .opened)

/-- The body of a first event is not stored: the entry is reported nowhere. -/
theorem lostBody_unreported :
    ¬ oneChat.ReportedOnce "Order filled" filledEntry { db := {} }
      (Prog.run (WriteFailures.serve { setMessageText := true } (.ok ""))
        (oneChat.notifyCycleOrSend "Order filled" filledEntry) { db := {} }).2 := by
  have hoffered : oneChat.offered filledEntry = some "u1" := rfl
  rintro (⟨henqueued, -⟩ | ⟨hholds, -⟩)
  · exact not_enqueued hoffered rfl henqueued
  · rcases ((held_iff_completed hoffered rfl).mp hholds).body with ⟨hfailed, -⟩ | ⟨text, htext, -⟩
    · cases hfailed
    · cases htext

/-- **One report for each action**, whatever fails: the action is reported once exactly when
no cycle is offered it, or its event is not appended, or the cycle that took the event has its
body and its delivery rows. -/
theorem reportedOnce_iff (n : CycleNotifier) (f : WriteFailures) (footer : Except Exn String)
    (message : String) (call : RecordCall) (s : ReportStore) :
    n.ReportedOnce message call s
        (Prog.run (f.serve footer) (n.notifyCycleOrSend message call) s).2 ↔
      n.offered call = none ∨ f.appendEvent = true ∨
        ∃ signalUxid, n.offered call = some signalUxid ∧
          n.Completed f footer call s (s.rowOf call signalUxid) := by
  by_cases hdirect : n.offered call = none ∨ f.appendEvent = true
  · rw [notify_enqueues hdirect, ← or_assoc]
    exact iff_of_true (Or.inl ⟨rfl, not_held_of_same rfl⟩) (Or.inl hdirect)
  · obtain ⟨hoffered, happended⟩ := not_or.mp hdirect
    obtain ⟨signalUxid, hoffered⟩ := Option.ne_none_iff_exists'.mp hoffered
    have happended : f.appendEvent = false := by simpa using happended
    have hsilent : ¬ Enqueued message s
        (Prog.run (f.serve footer) (n.notifyCycleOrSend message call) s).2 :=
      not_enqueued hoffered happended
    have hheld : n.Held call s
          (Prog.run (f.serve footer) (n.notifyCycleOrSend message call) s).2 ↔
        n.Completed f footer call s (s.rowOf call signalUxid) :=
      held_iff_completed hoffered happended
    rw [CycleNotifier.ReportedOnce, xor_iff_or_and_not_and]
    simp only [hsilent, hheld, hoffered, happended]
    simp

end TradeWorker
