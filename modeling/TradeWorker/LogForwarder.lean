import Mathlib.Algebra.Order.Ring.Rat
import Mathlib.Logic.Relation
import TradeWorker.DedupWindow

/-!
# Error logs on their way to the chat

`TelegramLogHandler` hands the errors of all loggers to a thread that sends them. A record that
was forwarded within the window is held back, and one that finds a hundred others in the queue is
dropped. The handler makes a queue and a thread of its own where there are none, after a fork or
after a `stop`; `stop` detaches the thread first and posts its sentinel afterwards, to whatever
queue the handler has by then. The handler's lock lets one `emit` in at a time, and nothing keeps
`start` and `stop` from falling between its steps.
-/

namespace TradeWorker.LogForwarder

/-! ## Records -/

/-- What a handler reads of a log record: the level, the names, the message with its arguments
filled in, and the traceback. That filling in may raise is a step of its own. -/
structure LogRecord where
  levelno : Nat
  levelname : String
  name : String
  message : String
  excText : Option String := none
  deriving DecidableEq, Repr

/-- `logging.ERROR`. -/
def errorLevel : Nat := 40

/-- `_EXCLUDED_PREFIXES`. -/
def excludedPrefix : String := "worker.services.notification_service"

/-- `_RecursionFilter.filter`. -/
def recursionFilter (record : LogRecord) : Bool :=
  !excludedPrefix.toList.isPrefixOf record.name.toList

/-- The records `emit` is called for. -/
def Forwardable (record : LogRecord) : Prop :=
  errorLevel ≤ record.levelno ∧ recursionFilter record = true

/-- `Handler.format`, with the handler's format. -/
def format (record : LogRecord) : String :=
  let s := "[WORKER]\n" ++ record.levelname ++ " | " ++ record.name ++ "\n" ++ record.message
  match record.excText with
  | none => s
  | some text => (if s.toList.getLast? = some '\n' then s else s ++ "\n") ++ text

/-- What the thread gives to `send_message`. -/
def alert (text : String) : String := "🚨 " ++ text

/-! ## Queues and their threads -/

inductive Item where
  | message (text : String)
  | stop
  deriving DecidableEq, Repr

def Item.text? : Item → Option String
  | .message text => some text
  | .stop => none

/-- A thread object: started and not running yet, at its loop, or over. A queue the handler was
made with, or for which no thread could be started, has none. -/
inductive Thread where
  | absent | starting | running | ended
  deriving DecidableEq, Repr

def Thread.isAlive : Thread → Bool
  | .starting | .running => true
  | _ => false

def queueMaxsize : Nat := 100

/-- A queue and its thread, and what the thread has given to `send_message`. -/
structure Lane where
  items : List Item := []
  thread : Thread := .absent
  sent : List String := []
  deriving DecidableEq, Repr

def Lane.texts (lane : Lane) : List String := lane.items.filterMap Item.text?

/-- What became of a text that was let through. -/
inductive Outcome where
  | queued (lane : Nat)
  | full
  deriving DecidableEq, Repr

/-- Where the `emit` stands that holds the handler's lock. -/
inductive EmitStage where
  | idle
  | begun (record : LogRecord)
  | ensured (record : LogRecord)
  | passed (text : String)
  | putting (text : String) (lane : Nat)
  deriving DecidableEq, Repr

namespace EmitStage

/-- The text that was let through and is in no queue yet. -/
def inHand : EmitStage → List String
  | passed text | putting text _ => [text]
  | _ => []

def record : EmitStage → List LogRecord
  | begun record | ensured record => [record]
  | _ => []

/-- `_ensure_worker` is behind. -/
def isEnsured : EmitStage → Bool
  | ensured _ | passed _ | putting .. => true
  | _ => false

end EmitStage

/-- Where a `stop` stands that has detached a thread. -/
inductive StopStage where
  | checking (lane : Nat)
  | reaching
  | putting (lane : Nat)
  deriving DecidableEq, Repr

/-- The handler in one process. `_queue` is the queue of the last lane; `calls` are the looks into
`_recent` since it was emptied, `past` those into the memories before. -/
structure Handler where
  lanes : List Lane
  thread : Option Nat := none
  pid : Option Nat := none
  recent : Dedup.Memory String ℚ := {}
  emitting : EmitStage := .idle
  stops : List StopStage := []
  clock : ℚ := 0
  judged : List LogRecord := []
  past : List (List (Dedup.Call String ℚ)) := []
  calls : List (Dedup.Call String ℚ) := []
  outcomes : List (String × Outcome) := []

namespace Handler

/-- The lane of `_queue`. -/
def queue (s : Handler) : Nat := s.lanes.length - 1

/-- `_ensure_worker` finds a thread of this process. -/
def HasWorker (pid : Nat) (s : Handler) : Prop :=
  s.pid = some pid ∧ ∃ i lane, s.thread = some i ∧ s.lanes[i]? = some lane ∧
    lane.thread.isAlive = true

/-- What `_ensure_worker` makes otherwise; the thread's `start` may raise. -/
def respawn (pid : Nat) (s : Handler) (thread : Thread) : Handler :=
  { s with
    lanes := s.lanes ++ [{ thread }]
    thread := some s.lanes.length
    pid := some pid
    recent := {}
    past := s.past ++ [s.calls]
    calls := [] }

def setLane (s : Handler) (i : Nat) (lane : Lane) : Handler :=
  { s with lanes := s.lanes.set i lane }

end Handler

/-- One step of a thread that logs, starts, stops or sends. -/
inductive Step (window : ℚ) (pid : Nat) : Handler → Handler → Prop
  | handles {s : Handler} (record : LogRecord) (free : s.emitting = .idle)
      (forwardable : Forwardable record) : Step window pid s { s with emitting := .begun record }
  | finds {s : Handler} {record : LogRecord} (at_ensure : s.emitting = .begun record)
      (there : s.HasWorker pid) : Step window pid s { s with emitting := .ensured record }
  | spawns {s : Handler} {record : LogRecord} (at_ensure : s.emitting = .begun record)
      (gone : ¬ s.HasWorker pid) :
      Step window pid s { s.respawn pid .starting with emitting := .ensured record }
  /-- `emit` lets no exception out. -/
  | fails {s : Handler} {record : LogRecord} (at_ensure : s.emitting = .begun record)
      (gone : ¬ s.HasWorker pid) :
      Step window pid s { s.respawn pid .absent with emitting := .idle }
  /-- The arguments do not fit the message. -/
  | formatRaises {s : Handler} {record : LogRecord} (at_look : s.emitting = .ensured record) :
      Step window pid s { s with emitting := .idle }
  | judges {s : Handler} {record : LogRecord} (now : ℚ) (at_look : s.emitting = .ensured record)
      (forward : s.clock ≤ now) :
      Step window pid s { s with
        emitting := if (s.recent.isDuplicate window now (format record)).1 then .idle
          else .passed (format record)
        recent := (s.recent.isDuplicate window now (format record)).2
        clock := now
        judged := s.judged ++ [record]
        calls := s.calls ++
          [⟨now, format record, (s.recent.isDuplicate window now (format record)).1⟩] }
  | reaches {s : Handler} {text : String} (at_queue : s.emitting = .passed text) :
      Step window pid s { s with emitting := .putting text s.queue }
  | puts {s : Handler} {text : String} {i : Nat} {lane : Lane}
      (at_put : s.emitting = .putting text i) (there : s.lanes[i]? = some lane)
      (room : lane.items.length < queueMaxsize) :
      Step window pid s
        { s.setLane i { lane with items := lane.items ++ [.message text] } with
          emitting := .idle
          outcomes := s.outcomes ++ [(text, .queued i)] }
  | drops {s : Handler} {text : String} {i : Nat} {lane : Lane}
      (at_put : s.emitting = .putting text i) (there : s.lanes[i]? = some lane)
      (full : queueMaxsize ≤ lane.items.length) :
      Step window pid s { s with emitting := .idle, outcomes := s.outcomes ++ [(text, .full)] }
  /-- `start` finds no thread; where it finds one it does nothing. -/
  | starts {s : Handler} (thread : Thread) (gone : ¬ s.HasWorker pid)
      (outcome : thread = .starting ∨ thread = .absent) : Step window pid s (s.respawn pid thread)
  | detaches {s : Handler} : Step window pid s
      { s with
        thread := none
        pid := none
        stops := s.stops ++ s.thread.toList.map .checking }
  /-- The thread has gone by itself. -/
  | stopReturns {s : Handler} {before after : List StopStage} {i : Nat} {lane : Lane}
      (at_check : s.stops = before ++ .checking i :: after) (there : s.lanes[i]? = some lane)
      (dead : lane.thread.isAlive = false) : Step window pid s { s with stops := before ++ after }
  | stopGoesOn {s : Handler} {before after : List StopStage} {i : Nat} {lane : Lane}
      (at_check : s.stops = before ++ .checking i :: after) (there : s.lanes[i]? = some lane)
      (alive : lane.thread.isAlive = true) :
      Step window pid s { s with stops := before ++ .reaching :: after }
  | stopReaches {s : Handler} {before after : List StopStage}
      (at_queue : s.stops = before ++ .reaching :: after) :
      Step window pid s { s with stops := before ++ .putting s.queue :: after }
  | stopPuts {s : Handler} {before after : List StopStage} {i : Nat} {lane : Lane}
      (at_put : s.stops = before ++ .putting i :: after) (there : s.lanes[i]? = some lane)
      (room : lane.items.length < queueMaxsize) :
      Step window pid s
        { s.setLane i { lane with items := lane.items ++ [.stop] } with stops := before ++ after }
  /-- Two seconds went by and no room was made. -/
  | stopGivesUp {s : Handler} {before after : List StopStage} {i : Nat}
      (at_put : s.stops = before ++ .putting i :: after) :
      Step window pid s { s with stops := before ++ after }
  | workerRuns {s : Handler} {i : Nat} {lane : Lane} (there : s.lanes[i]? = some lane)
      (new : lane.thread = .starting) :
      Step window pid s (s.setLane i { lane with thread := .running })
  /-- The sender cannot be made. -/
  | workerFails {s : Handler} {i : Nat} {lane : Lane} (there : s.lanes[i]? = some lane)
      (new : lane.thread = .starting) :
      Step window pid s (s.setLane i { lane with thread := .ended })
  /-- Whatever comes of it, the next item follows. -/
  | workerSends {s : Handler} {i : Nat} {lane : Lane} {text : String} {rest : List Item}
      (there : s.lanes[i]? = some lane) (loops : lane.thread = .running)
      (first : lane.items = .message text :: rest) :
      Step window pid s (s.setLane i { lane with items := rest, sent := lane.sent ++ [alert text] })
  | workerStops {s : Handler} {i : Nat} {lane : Lane} {rest : List Item}
      (there : s.lanes[i]? = some lane) (loops : lane.thread = .running)
      (first : lane.items = .stop :: rest) :
      Step window pid s (s.setLane i { lane with items := rest, thread := .ended })

/-- What the handler of a process starts from: one made at import, or what a parent process left,
whose thread does not run here. -/
structure Inherited (pid : Nat) (s : Handler) : Prop where
  lane : ∃ lane, s.lanes = [lane] ∧ lane.thread.isAlive = false ∧ lane.sent = []
  foreign : s.pid ≠ some pid
  idle : s.emitting = .idle
  new : s.judged = [] ∧ s.past = [] ∧ s.calls = [] ∧ s.outcomes = []

/-! ## Looks -/

/-- The texts that were put into the queue of a lane. -/
def queuedAt (outcomes : List (String × Outcome)) (i : Nat) : List String :=
  (outcomes.filter (·.2 = .queued i)).map Prod.fst

/-- What each memory was asked, in order. -/
def Handler.looks (s : Handler) : List (List (Dedup.Call String ℚ)) := s.past ++ [s.calls]

structure Looks (window : ℚ) (pid : Nat) (s : Handler) : Prop where
  recalls : s.past ≠ [] → Dedup.Recalls window s.calls s.recent
  judged : ∀ calls ∈ s.looks, Dedup.Judged window calls ∧ calls.Pairwise fun c d => c.now ≤ d.now
  clock : ∀ c ∈ s.calls, c.now ≤ s.clock
  letThrough : (s.looks.flatten.filter fun c => !c.held).map Dedup.Call.key =
    s.outcomes.map Prod.fst ++ s.emitting.inHand
  texts : s.looks.flatten.map Dedup.Call.key = s.judged.map format
  forwardable : ∀ record ∈ s.judged ++ s.emitting.record, Forwardable record
  own : s.pid = some pid → s.past ≠ []
  ensured : s.emitting.isEnsured = true → s.past ≠ []

variable {window : ℚ} {pid : Nat} {s s' : Handler}

theorem Inherited.looks (h : Inherited pid s) : Looks window pid s := by
  obtain ⟨hjudged, hpast, hcalls, houtcomes⟩ := h.new
  refine ⟨fun hgrown => absurd hpast hgrown, ?_, ?_, ?_, ?_, ?_, fun hpid => absurd hpid h.foreign,
    ?_⟩
  · intro calls hmem
    rw [Handler.looks, hpast, hcalls, List.nil_append, List.mem_singleton] at hmem
    rw [hmem]
    exact ⟨Dedup.judged_nil, .nil⟩
  · rw [hcalls]
    exact List.forall_mem_nil _
  · rw [Handler.looks, hpast, hcalls, houtcomes, h.idle]
    rfl
  · rw [Handler.looks, hpast, hcalls, hjudged]
    rfl
  · rw [hjudged, h.idle]
    exact List.forall_mem_nil _
  · rw [h.idle]
    exact fun hinside => absurd hinside Bool.false_ne_true

/-- A new memory is empty. -/
theorem Looks.respawn (h : Looks window pid s) (thread : Thread) (emitting : EmitStage)
    (hhand : emitting.inHand = s.emitting.inHand)
    (hrecord : ∀ record ∈ emitting.record, record ∈ s.emitting.record) :
    Looks window pid { s.respawn pid thread with emitting } := by
  have hgrown : s.past ++ [s.calls] ≠ [] := by simp
  refine ⟨fun _ => Dedup.recalls_nil, ?_, List.forall_mem_nil _, ?_, ?_, ?_, fun _ => hgrown,
    fun _ => hgrown⟩
  · intro calls hmem
    rcases List.mem_append.mp hmem with hmem | hmem
    · exact h.judged calls hmem
    · rw [List.mem_singleton.mp hmem]
      exact ⟨Dedup.judged_nil, .nil⟩
  · have hold := h.letThrough
    rw [Handler.looks] at hold
    simpa [Handler.looks, Handler.respawn, hhand] using hold
  · have hold := h.texts
    rw [Handler.looks] at hold
    simpa [Handler.looks, Handler.respawn] using hold
  · intro record hmem
    rcases List.mem_append.mp hmem with hmem | hmem
    · exact h.forwardable record (List.mem_append_left _ hmem)
    · exact h.forwardable record (List.mem_append_right _ (hrecord record hmem))

/-- A look goes by the memory, and what it lets through is in hand. -/
theorem Looks.look (h : Looks window pid s) {record : LogRecord} {now : ℚ}
    (hstage : s.emitting = .ensured record) (hforward : s.clock ≤ now) :
    Looks window pid { s with
      emitting := if (s.recent.isDuplicate window now (format record)).1 then .idle
        else .passed (format record)
      recent := (s.recent.isDuplicate window now (format record)).2
      clock := now
      judged := s.judged ++ [record]
      calls := s.calls ++
        [⟨now, format record, (s.recent.isDuplicate window now (format record)).1⟩] } := by
  have hgrown : s.past ≠ [] := h.ensured (by rw [hstage]; rfl)
  obtain ⟨hcalls, hclock⟩ := h.judged s.calls (List.mem_append_right _ (List.mem_singleton_self _))
  obtain ⟨hnext, hrecalls⟩ :=
    Dedup.isDuplicate_judged hcalls (h.recalls hgrown) now (format record)
  have hthrough := h.letThrough
  have htexts := h.texts
  rw [Handler.looks] at hthrough htexts
  rw [hstage] at hthrough
  refine ⟨fun _ => hrecalls, ?_, ?_, ?_, ?_, ?_, fun _ => hgrown, fun _ => hgrown⟩
  · intro calls hmem
    rcases List.mem_append.mp hmem with hmem | hmem
    · exact h.judged calls (List.mem_append_left _ hmem)
    · rw [List.mem_singleton.mp hmem]
      refine ⟨hnext, List.pairwise_append.mpr ⟨hclock, List.pairwise_singleton .., ?_⟩⟩
      intro c hc d hd
      rw [List.mem_singleton.mp hd]
      exact (h.clock c hc).trans hforward
  · intro c hc
    rcases List.mem_append.mp hc with hc | hc
    · exact (h.clock c hc).trans hforward
    · rw [List.mem_singleton.mp hc]
  · cases hheld : (s.recent.isDuplicate window now (format record)).1 with
    | true =>
        simpa [Handler.looks, EmitStage.inHand, List.filter_append] using hthrough
    | false =>
        have hlast := congrArg (· ++ [format record]) hthrough
        simpa [Handler.looks, EmitStage.inHand, List.filter_append] using hlast
  · have hlast := congrArg (· ++ [format record]) htexts
    simpa [Handler.looks] using hlast
  · intro r hmem
    have hold := h.forwardable
    rw [hstage] at hold
    -- no record is left to look for, whatever the verdict
    refine hold r ?_
    cases hheld : (s.recent.isDuplicate window now (format record)).1 with
    | true => simpa [hheld, EmitStage.record] using hmem
    | false => simpa [hheld, EmitStage.record] using hmem

theorem Looks.step (h : Looks window pid s) (hstep : Step window pid s s') :
    Looks window pid s' := by
  cases hstep with
  | handles record free forwardable =>
      have hthrough := h.letThrough
      have hold := h.forwardable
      rw [free] at hthrough hold
      refine ⟨h.recalls, h.judged, h.clock, hthrough, h.texts, ?_, h.own, nofun⟩
      intro r hmem
      rcases List.mem_append.mp hmem with hmem | hmem
      · exact hold r (List.mem_append_left _ hmem)
      · rw [List.mem_singleton.mp hmem]
        exact forwardable
  | finds at_ensure there =>
      have hthrough := h.letThrough
      have hold := h.forwardable
      rw [at_ensure] at hthrough hold
      exact ⟨h.recalls, h.judged, h.clock, hthrough, h.texts, hold, h.own, fun _ => h.own there.1⟩
  | spawns at_ensure =>
      refine h.respawn _ _ (by rw [at_ensure]; rfl) ?_
      rw [at_ensure]
      exact fun _ hmem => hmem
  | fails at_ensure => exact h.respawn _ _ (by rw [at_ensure]; rfl) (List.forall_mem_nil _)
  | formatRaises at_look =>
      have hthrough := h.letThrough
      rw [at_look] at hthrough
      refine ⟨h.recalls, h.judged, h.clock, hthrough, h.texts, ?_, h.own, nofun⟩
      rintro r (hmem : r ∈ s.judged ++ [])
      rw [List.append_nil] at hmem
      exact h.forwardable r (List.mem_append_left _ hmem)
  | judges now at_look forward => exact h.look at_look forward
  | reaches at_queue =>
      have hthrough := h.letThrough
      have hold := h.forwardable
      have hgrown := h.ensured (by rw [at_queue]; rfl)
      rw [at_queue] at hthrough hold
      exact ⟨h.recalls, h.judged, h.clock, hthrough, h.texts, hold, h.own, fun _ => hgrown⟩
  | puts at_put | drops at_put =>
      have hthrough := h.letThrough
      have hold := h.forwardable
      rw [at_put] at hthrough hold
      refine ⟨h.recalls, h.judged, h.clock, ?_, h.texts, hold, h.own, nofun⟩
      rw [List.map_append, List.append_assoc]
      exact hthrough
  | starts thread => exact h.respawn thread s.emitting rfl fun _ h => h
  | detaches =>
      exact ⟨h.recalls, h.judged, h.clock, h.letThrough, h.texts, h.forwardable, nofun, h.ensured⟩
  | stopReturns | stopGoesOn | stopReaches | stopPuts | stopGivesUp | workerRuns | workerFails
  | workerSends | workerStops =>
      exact ⟨h.recalls, h.judged, h.clock, h.letThrough, h.texts, h.forwardable, h.own, h.ensured⟩

/-! ## Queues -/

structure Lanes (s : Handler) : Prop where
  count : s.lanes.length = s.past.length + 1
  order : ∀ i lane, i ≠ 0 → s.lanes[i]? = some lane →
    lane.sent ++ lane.texts.map alert = (queuedAt s.outcomes i).map alert
  bounded : ∀ i lane, i ≠ 0 → s.lanes[i]? = some lane → lane.items.length ≤ queueMaxsize
  first : ∀ lane, s.lanes[0]? = some lane → lane.thread.isAlive = false ∧ lane.sent = []
  later : ∀ i, s.lanes.length ≤ i → queuedAt s.outcomes i = []
  target : ∀ text i, s.emitting = .putting text i → i ≠ 0

theorem Inherited.lanes (h : Inherited pid s) : Lanes s := by
  obtain ⟨lane, hlanes, hlane⟩ := h.lane
  obtain ⟨-, hpast, -, houtcomes⟩ := h.new
  have hnone : ∀ i, i ≠ 0 → s.lanes[i]? = none := by
    intro i hi
    rw [hlanes]
    exact List.getElem?_eq_none (Nat.one_le_iff_ne_zero.mpr hi)
  refine ⟨by rw [hlanes, hpast]; rfl, fun i l hi hl => ?_, fun i l hi hl => ?_, fun l hl => ?_,
    fun i _ => by rw [houtcomes]; rfl, fun text i hi => ?_⟩
  · rw [hnone i hi] at hl
    cases hl
  · rw [hnone i hi] at hl
    cases hl
  · rw [hlanes] at hl
    cases hl
    exact hlane
  · rw [h.idle] at hi
    cases hi

/-- A lane that holds and has sent what it did, but for its sentinels. -/
theorem Lanes.setLane {i : Nat} {lane lane' : Lane} (h : Lanes s)
    (there : s.lanes[i]? = some lane)
    (horder : lane'.sent ++ lane'.texts.map alert = lane.sent ++ lane.texts.map alert)
    (hroom : lane'.items.length ≤ queueMaxsize ∨ lane'.items.length ≤ lane.items.length)
    (hfirst : i = 0 → lane'.thread = lane.thread ∧ lane'.sent = lane.sent) :
    Lanes (s.setLane i lane') := by
  have hlt : i < s.lanes.length := (List.getElem?_eq_some_iff.mp there).1
  refine ⟨(List.length_set ..).trans h.count, fun j l hj hl => ?_, fun j l hj hl => ?_,
    fun l hl => ?_, fun j hj => h.later j ((List.length_set ..).symm.trans_le hj), h.target⟩
  · by_cases hij : i = j
    · subst hij
      rw [Handler.setLane, List.getElem?_set_self hlt] at hl
      cases hl
      rw [horder]
      exact h.order i lane hj there
    · rw [Handler.setLane, List.getElem?_set_ne hij] at hl
      exact h.order j l hj hl
  · by_cases hij : i = j
    · subst hij
      rw [Handler.setLane, List.getElem?_set_self hlt] at hl
      cases hl
      exact hroom.elim id fun hle => hle.trans (h.bounded i lane hj there)
    · rw [Handler.setLane, List.getElem?_set_ne hij] at hl
      exact h.bounded j l hj hl
  · by_cases hi : i = 0
    · subst hi
      rw [Handler.setLane, List.getElem?_set_self hlt] at hl
      cases hl
      obtain ⟨hthread, hsent⟩ := hfirst rfl
      rw [hthread, hsent]
      exact h.first lane there
    · rw [Handler.setLane, List.getElem?_set_ne hi] at hl
      exact h.first l hl

theorem Lanes.respawn (h : Lanes s) (thread : Thread) (emitting : EmitStage)
    (htarget : ∀ text i, emitting = .putting text i → i ≠ 0) :
    Lanes { s.respawn pid thread with emitting } := by
  have hnew : ∀ i lane, (s.lanes ++ [{ thread := thread }])[i]? = some lane →
      s.lanes[i]? = some lane ∨ (lane = { thread := thread } ∧ i = s.lanes.length) := by
    intro i lane hl
    rcases Nat.lt_trichotomy i s.lanes.length with hlt | heq | hgt
    · rw [List.getElem?_append_left hlt] at hl
      exact .inl hl
    · rw [heq, List.getElem?_concat_length] at hl
      exact .inr ⟨(Option.some.inj hl).symm, heq⟩
    · rw [List.getElem?_eq_none (by simpa [Nat.succ_le_iff] using hgt)] at hl
      cases hl
  have hcount := h.count
  refine ⟨by simp [Handler.respawn, hcount], fun i lane hi hl => ?_, fun i lane hi hl => ?_,
    fun lane hl => ?_, fun i hi => h.later i ?_, htarget⟩
  · rcases hnew i lane hl with hold | ⟨rfl, rfl⟩
    · exact h.order i lane hi hold
    · show _ = (queuedAt s.outcomes _).map alert
      rw [h.later _ le_rfl]
      rfl
  · rcases hnew i lane hl with hold | ⟨rfl, -⟩
    · exact h.bounded i lane hi hold
    · exact Nat.zero_le _
  · refine h.first lane ?_
    rwa [Handler.respawn, List.getElem?_append_left (by omega)] at hl
  · rw [Handler.respawn, List.length_append] at hi
    exact (Nat.le_add_right ..).trans hi

theorem queuedAt_snoc (outcomes : List (String × Outcome)) (text : String) (outcome : Outcome)
    (i : Nat) : queuedAt (outcomes ++ [(text, outcome)]) i =
      queuedAt outcomes i ++ if outcome = .queued i then [text] else [] := by
  by_cases h : outcome = .queued i
  · simp [queuedAt, h]
  · simp [queuedAt, h]

theorem Lanes.put (h : Lanes s) {text : String} {i : Nat} {lane : Lane}
    (hstage : s.emitting = .putting text i) (there : s.lanes[i]? = some lane)
    (room : lane.items.length < queueMaxsize) :
    Lanes { s.setLane i { lane with items := lane.items ++ [.message text] } with
      emitting := .idle
      outcomes := s.outcomes ++ [(text, .queued i)] } := by
  have hlt : i < s.lanes.length := (List.getElem?_eq_some_iff.mp there).1
  have hi : i ≠ 0 := h.target text i hstage
  refine ⟨(List.length_set ..).trans h.count, fun j l hj hl => ?_, fun j l hj hl => ?_,
    fun l hl => ?_, fun j hj => ?_, nofun⟩
  · rw [queuedAt_snoc]
    by_cases hij : i = j
    · subst hij
      rw [Handler.setLane, List.getElem?_set_self hlt] at hl
      cases hl
      have hold := h.order i lane hj there
      simp only [if_true, List.map_append, ← hold]
      simp [Lane.texts, Item.text?]
    · rw [Handler.setLane, List.getElem?_set_ne hij] at hl
      rw [if_neg (fun heq => hij (Outcome.queued.inj heq)), List.append_nil]
      exact h.order j l hj hl
  · by_cases hij : i = j
    · subst hij
      rw [Handler.setLane, List.getElem?_set_self hlt] at hl
      cases hl
      rw [List.length_append]
      exact room
    · rw [Handler.setLane, List.getElem?_set_ne hij] at hl
      exact h.bounded j l hj hl
  · rw [Handler.setLane, List.getElem?_set_ne hi] at hl
    exact h.first l hl
  · have hlength : s.lanes.length ≤ j := (List.length_set ..).symm.trans_le hj
    rw [queuedAt_snoc, if_neg (fun heq => (Outcome.queued.inj heq ▸ hlt).not_ge hlength),
      h.later j hlength]
    rfl

theorem Lanes.of_thread {i : Nat} {lane : Lane} (h : Lanes s) (there : s.lanes[i]? = some lane)
    (halive : lane.thread.isAlive = true) : i ≠ 0 := by
  rintro rfl
  rw [(h.first lane there).1] at halive
  cases halive

theorem Lanes.step (h : Lanes s) (hlooks : Looks window pid s) (hstep : Step window pid s s') :
    Lanes s' := by
  cases hstep with
  | handles | finds | formatRaises =>
      exact ⟨h.count, h.order, h.bounded, h.first, h.later, nofun⟩
  | judges =>
      refine ⟨h.count, h.order, h.bounded, h.first, h.later, fun text i hstage => ?_⟩
      dsimp only at hstage
      split at hstage
      · cases hstage
      · cases hstage
  | spawns | fails => exact h.respawn _ _ nofun
  | reaches at_queue =>
      have hgrown := hlooks.ensured (by rw [at_queue]; rfl)
      refine ⟨h.count, h.order, h.bounded, h.first, h.later, ?_⟩
      rintro _ _ ⟨⟩
      have hlength := List.length_pos_iff.mpr hgrown
      have hcount := h.count
      rw [Handler.queue]
      omega
  | puts at_put there room => exact h.put at_put there room
  | drops =>
      refine ⟨h.count, fun i lane hi hl => ?_, h.bounded, h.first, fun i hi => ?_, nofun⟩
      · rw [queuedAt_snoc, if_neg nofun, List.append_nil]
        exact h.order i lane hi hl
      · rw [queuedAt_snoc, if_neg nofun, List.append_nil]
        exact h.later i hi
  | starts thread => exact h.respawn thread s.emitting h.target
  | detaches | stopReturns | stopGoesOn | stopReaches | stopGivesUp =>
      exact ⟨h.count, h.order, h.bounded, h.first, h.later, h.target⟩
  | @stopPuts before after i lane at_put there room =>
      have hput : Lanes (s.setLane i { lane with items := lane.items ++ [.stop] }) := by
        refine h.setLane there ?_ (.inl ?_) fun _ => ⟨rfl, rfl⟩
        · simp [Lane.texts, Item.text?]
        · rw [List.length_append]
          exact room
      exact ⟨hput.count, hput.order, hput.bounded, hput.first, hput.later, hput.target⟩
  | workerRuns there new =>
      have hi := h.of_thread there (by rw [new]; rfl)
      exact h.setLane there rfl (.inr le_rfl) fun hzero => absurd hzero hi
  | workerFails there new =>
      have hi := h.of_thread there (by rw [new]; rfl)
      exact h.setLane there rfl (.inr le_rfl) fun hzero => absurd hzero hi
  | workerSends there loops first =>
      have hi := h.of_thread there (by rw [loops]; rfl)
      refine h.setLane there ?_ (.inr (by simp [first])) fun hzero => absurd hzero hi
      simp [Lane.texts, first, Item.text?]
  | workerStops there loops first =>
      have hi := h.of_thread there (by rw [loops]; rfl)
      refine h.setLane there ?_ (.inr (by simp [first])) fun hzero => absurd hzero hi
      rw [Lane.texts, Lane.texts, first]
      rfl

/-! ## Runs -/

/-- What holds of the alerts at any moment. -/
structure Forwards (window : ℚ) (s : Handler) : Prop where
  /-- A queue's alerts go out as they came in, each once, and no more than a hundred wait. -/
  order : ∀ i lane, i ≠ 0 → s.lanes[i]? = some lane → lane.items.length ≤ queueMaxsize ∧
    lane.sent ++ lane.texts.map alert = (queuedAt s.outcomes i).map alert
  /-- A text is held back where it was let through within the window, and nothing else is. -/
  judged : ∀ looks ∈ s.looks, Dedup.Judged window looks
  spaced : ∀ looks ∈ s.looks, (looks.filter fun c => !c.held).Pairwise fun c d =>
    d.key = c.key → c.now + window ≤ d.now
  /-- What was let through was queued or found the queue full, but for one in hand. -/
  letThrough : (s.looks.flatten.filter fun c => !c.held).map Dedup.Call.key =
    s.outcomes.map Prod.fst ++ s.emitting.inHand
  /-- What was looked for is an error of a logger that is not the sender's. -/
  forwardable : s.looks.flatten.map Dedup.Call.key = s.judged.map format ∧
    ∀ record ∈ s.judged, Forwardable record
  /-- What a process was left by its parent is not sent. -/
  inherited : ∀ lane, s.lanes[0]? = some lane → lane.sent = []

/-- **Alerts in order, once, and a window apart.** Through any interleaving of loggers, starts,
stops and senders, in whatever state the process found the handler. -/
theorem handler_forwards {s₀ : Handler} (hs : Inherited pid s₀)
    (hrun : Relation.ReflTransGen (Step window pid) s₀ s) : Forwards window s := by
  have hinv : Looks window pid s ∧ Lanes s := by
    induction hrun with
    | refl => exact ⟨hs.looks, hs.lanes⟩
    | tail _ hstep ih => exact ⟨ih.1.step hstep, ih.2.step ih.1 hstep⟩
  obtain ⟨hlooks, hlanes⟩ := hinv
  refine ⟨fun i lane hi hl => ⟨hlanes.bounded i lane hi hl, hlanes.order i lane hi hl⟩,
    fun looks hmem => (hlooks.judged looks hmem).1, fun looks hmem => ?_, hlooks.letThrough,
    ⟨hlooks.texts, fun record hr => hlooks.forwardable record (List.mem_append_left _ hr)⟩,
    fun lane hl => (hlanes.first lane hl).2⟩
  obtain ⟨hjudged, hclock⟩ := hlooks.judged looks hmem
  exact hjudged.spaced hclock

def made : Handler where
  lanes := [{}]

def refusal : LogRecord where
  levelno := 40
  levelname := "ERROR"
  name := "worker.market"
  message := "order refused"

/-- The error is sent, and the thread is stopped. -/
def stopped : Handler where
  lanes := [{}, { thread := .ended, sent := [alert (format refusal)] }]
  recent := { entries := [(format refusal, 0)], nodup := List.nodup_singleton _ }
  judged := [refusal]
  past := [[]]
  calls := [⟨0, format refusal, false⟩]
  outcomes := [(format refusal, .queued 1)]

theorem stopped_forwards : Forwards 60 stopped := by
  refine @handler_forwards 60 1 stopped made
    ⟨⟨{}, rfl, rfl, rfl⟩, nofun, rfl, rfl, rfl, rfl, rfl⟩ ?_
  refine .head (.handles refusal rfl ⟨by decide, by decide⟩) ?_
  refine .head (.spawns rfl fun h => nomatch h.1) ?_
  refine .head (.judges 0 rfl le_rfl) <| .head (.reaches rfl) ?_
  refine .head (.puts rfl rfl (by decide)) ?_
  refine .head (@Step.workerRuns _ _ _ 1 _ rfl rfl) ?_
  refine .head (@Step.workerSends _ _ _ 1 _ _ _ rfl rfl rfl) ?_
  refine .head .detaches <| .head (@Step.stopGoesOn _ _ _ [] [] 1 _ rfl rfl rfl) ?_
  refine .head (@Step.stopReaches _ _ _ [] [] rfl) ?_
  refine .head (@Step.stopPuts _ _ _ [] [] 1 _ rfl rfl (by decide)) ?_
  exact .single (@Step.workerStops 60 1 _ 1
    { items := [.stop], thread := .running, sent := [alert (format refusal)] } [] rfl rfl rfl)

end TradeWorker.LogForwarder
