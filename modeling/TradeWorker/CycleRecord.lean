import Mathlib.Data.List.Induction
import Mathlib.Data.List.Nodup
import TradeWorker.CycleStore
import TradeWorker.Pool

/-!
# Recording a cycle from many threads

Any number of `record` calls run at once on the cycle tables. The order of
their transactions is the order of the timeline: the stored events are those of
the calls that committed, the revision counts them, the status is the fold of
theirs, and the body is a rendering of a prefix, of the whole once every call
is done.

The invariant speaks of the commits so far (`Ledger.order`) and of the calls
whose body was stored (`Ledger.stored`). The one fact about bodies that other
threads may not break is that the *last* committed call, once its body is
stored, has the stored body.
-/

namespace TradeWorker

/-! ## The fold of statuses -/

/-- `OPENED` or `TP1`. -/
def CycleStatus.isLive : CycleStatus → Bool
  | .position s => s.isActive
  | .failed => false

/-- The first terminal status, else the last live one, else the last `FAILED` or
`REJECTED`. -/
def headline (statuses : List (Option CycleStatus)) : Option CycleStatus :=
  let known := statuses.filterMap id
  known.find? (·.isTerminal) <|> known.reverse.find? (·.isLive) <|>
    known.reverse.find? (·.isNoPosition)

theorem CycleStatus.kinds (s : CycleStatus) :
    (s.isTerminal = true ∧ s.isLive = false ∧ s.isNoPosition = false) ∨
    (s.isTerminal = false ∧ s.isLive = true ∧ s.isNoPosition = false) ∨
    (s.isTerminal = false ∧ s.isLive = false ∧ s.isNoPosition = true) := by
  rcases s with _ | s
  · decide
  · cases s <;> decide

@[simp] theorem headline_append_none (statuses : List (Option CycleStatus)) :
    headline (statuses ++ [none]) = headline statuses := by
  simp [headline]

theorem mergeStatus_headline (statuses : List (Option CycleStatus)) (s : CycleStatus) :
    mergeStatus (headline statuses) (some s) = headline (statuses ++ [some s]) := by
  simp only [headline, List.filterMap_append, List.reverse_append]
  generalize statuses.filterMap id = known
  have hlast : List.filterMap id [some s] = [s] := rfl
  rw [hlast, List.find?_append]
  simp only [List.reverse_singleton, List.singleton_append, List.find?_cons, List.find?_nil]
  cases hterminal : known.find? (·.isTerminal) with
  | some t =>
      have ht : t.isTerminal = true := by simpa using List.find?_some hterminal
      simp [mergeStatus, ht]
  | none =>
      cases hlive : known.reverse.find? (·.isLive) with
      | some l =>
          have hl : l.isLive = true := by simpa using List.find?_some hlive
          rcases l.kinds with h | h | h <;> rcases s.kinds with h' | h' | h' <;>
            simp_all [mergeStatus]
      | none =>
          cases hno : known.reverse.find? (·.isNoPosition) with
          | some n =>
              have hn : n.isNoPosition = true := by simpa using List.find?_some hno
              rcases n.kinds with h | h | h <;> rcases s.kinds with h' | h' | h' <;>
                simp_all [mergeStatus]
          | none =>
              rcases s.kinds with h' | h' | h' <;> simp_all [mergeStatus]

/-- The left fold of `merge_status`, from no status, is the headline. -/
theorem foldl_mergeStatus (statuses : List (Option CycleStatus)) :
    statuses.foldl mergeStatus none = headline statuses := by
  induction statuses using List.reverseRecOn with
  | nil => rfl
  | append_singleton statuses s ih =>
      rw [List.foldl_append, ih]
      cases s with
      | none =>
          rw [headline_append_none]
          cases headline statuses <;> rfl
      | some s => exact mergeStatus_headline statuses s

/-! ## The calls and the tables -/

/-- The tables, the calls that committed their event in that order, the calls whose
body was stored, and the bodies chats were shown. -/
structure Ledger (ι : Type) where
  db : CycleDb
  order : List ι := []
  stored : List ι := []
  shown : List (String × String) := []

/-- Whether a call is about a key. -/
def RecordCall.addresses (strategy signalUxid : String) (call : RecordCall) : Bool :=
  call.strategy = strategy && text? call.signalUxid = some signalUxid

/-- The chat has the body from here on. -/
def Ledger.show (s : Ledger ι) (chat text : String) : Ledger ι :=
  { s with shown := s.shown ++ [(chat, text)] }

variable {ι : Type}

/-- How thread `i` is answered. A statement either commits or leaves the tables
alone; Telegram and the footer may answer anything, or raise. -/
inductive Ledger.Answers (i : ι) :
    (o : CycleOp) → Ledger ι → Except Exn o.Ans → Ledger ι → Prop
  | appended {s strategy signalUxid symbol event status} :
      Answers i (.appendEvent strategy signalUxid symbol event status) s
        (.ok (s.db.appendEvent strategy signalUxid symbol event status).1)
        { s with
          db := (s.db.appendEvent strategy signalUxid symbol event status).2
          order := s.order ++ [i] }
  | stored {s cycleId text revision} :
      Answers i (.setMessageText cycleId text revision) s (.ok ())
        { s with
          db := s.db.setMessageText cycleId text revision
          stored := s.stored ++ [i] }
  | ensured {s cycleId chatIds} :
      Answers i (.ensureCycleChats cycleId chatIds) s (.ok ())
        { s with db := s.db.ensureCycleChats cycleId chatIds }
  | due {s limit} : Answers i (.dueDeliveries limit) s (.ok (s.db.dueDeliveries limit)) s
  | delivered {s chatRowId messageId revision} :
      Answers i (.markDelivered chatRowId messageId revision) s (.ok ())
        { s with db := s.db.markDelivered chatRowId messageId revision }
  | failed {s chatRowId error nextAttemptAt} :
      Answers i (.markDeliveryFailed chatRowId error nextAttemptAt) s (.ok ())
        { s with db := s.db.markDeliveryFailed chatRowId error nextAttemptAt }
  | cleared {s chatRowId} :
      Answers i (.clearMessageId chatRowId) s (.ok ())
        { s with db := s.db.clearMessageId chatRowId }
  | refused {o s e} (h : o.isStatement = true) : Answers i o s (.error e) s
  | footer {s r} : Answers i .footer s r s
  | sent {s chat text messageId} :
      Answers i (.send chat text) s (.ok (some messageId)) (s.show chat text)
  | notSent {s chat text r} (h : ∀ messageId, r ≠ .ok (some messageId)) :
      Answers i (.send chat text) s r s
  | edited {s chat messageId text} :
      Answers i (.edit chat messageId text) s (.ok .ok) (s.show chat text)
  | notEdited {s chat messageId text r} (h : r ≠ .ok .ok) :
      Answers i (.edit chat messageId text) s r s
  | utcnow {s r} : Answers i .utcnow s r s

/-- An untroubled day: every statement commits and Telegram accepts. -/
def Ledger.serve (i : ι) : Prog.Server CycleOp CycleOp.Ans Exn (Ledger ι)
  | .appendEvent strategy signalUxid symbol event status, s =>
      (.ok (s.db.appendEvent strategy signalUxid symbol event status).1,
        { s with
          db := (s.db.appendEvent strategy signalUxid symbol event status).2
          order := s.order ++ [i] })
  | .setMessageText cycleId text revision, s =>
      (.ok (), { s with
        db := s.db.setMessageText cycleId text revision
        stored := s.stored ++ [i] })
  | .ensureCycleChats cycleId chatIds, s =>
      (.ok (), { s with db := s.db.ensureCycleChats cycleId chatIds })
  | .dueDeliveries limit, s => (.ok (s.db.dueDeliveries limit), s)
  | .markDelivered chatRowId messageId revision, s =>
      (.ok (), { s with db := s.db.markDelivered chatRowId messageId revision })
  | .markDeliveryFailed chatRowId error nextAttemptAt, s =>
      (.ok (), { s with db := s.db.markDeliveryFailed chatRowId error nextAttemptAt })
  | .clearMessageId chatRowId, s => (.ok (), { s with db := s.db.clearMessageId chatRowId })
  | .footer, s => (.ok "", s)
  | .send chat text, s => (.ok (some "1"), s.show chat text)
  | .edit chat _ text, s => (.ok .ok, s.show chat text)
  | .utcnow, s => (.ok 0, s)

theorem Ledger.serve_answers (i : ι) (o : CycleOp) (s : Ledger ι) :
    Ledger.Answers i o s (Ledger.serve i o s).1 (Ledger.serve i o s).2 := by
  cases o <;> constructor

/-- The dispatcher, seen from the recording threads: it writes to the chats only. -/
def Ledger.Drift (s s' : Ledger ι) : Prop :=
  ∃ chats clock shown, s' = { s with db := { s.db with chats, clock }, shown }

def CycleOp.BodyStored : (o : CycleOp) → Except Exn o.Ans → Prop
  | .setMessageText .., .error _ => False
  | _, _ => True

/-- Many `record` calls, each a thread. -/
def recording (ι : Type) : Pool.System ι CycleOp CycleOp.Ans Exn Bool (Ledger ι) where
  answers i o s r s' := o.BodyStored r ∧ Ledger.Answers i o s r s'
  starts _ _ _ _ := False
  drift := Ledger.Drift
  crash _ _ := False

/-- Every call still to be made, on tables that hold no cycle. -/
def unrecorded (n : CycleNotifier) (calls : ι → RecordCall) (chats : List CycleChat)
    (clock : Int) : Pool.Config ι CycleOp CycleOp.Ans Exn Bool (Ledger ι) where
  state := { db := { chats, clock } }
  thread i := n.record (calls i)

/-! ## The invariant -/

section Invariant

variable (n : CycleNotifier) (calls : ι → RecordCall)

/-- The committed calls about a row, in order. -/
def timeline (order : List ι) (c : Cycle) : List ι :=
  order.filter fun i => (calls i).addresses c.strategy c.signalUxid

/-- The cycle as its row stood when call `i` had committed, after the calls before it. -/
def Cycle.viewOf (c : Cycle) (earlier : List ι) (i : ι) : CycleView where
  id := c.id
  signalUxid := c.signalUxid
  strategy := c.strategy
  symbol := (calls i).symbol
  status := ((earlier ++ [i]).map fun j => (calls j).status).foldl mergeStatus none
  events := (earlier ++ [i]).map fun j => (calls j).event
  revision := earlier.length + 1

/-- The text is what `render` made of the cycle as the `k`-th of its calls left it. A notifier
without a footer source shows none. -/
def CycleNotifier.RendersCall (c : Cycle) (mine : List ι) (k : Nat) (text : String) : Prop :=
  ∃ earlier i later, mine = earlier ++ i :: later ∧ k = earlier.length + 1 ∧
    ∃ footer, (n.footerBound = false → footer = "") ∧
      n.render (c.viewOf calls earlier i) footer = .ok text

/-- A row holds what its timeline says. -/
structure Cycle.Reflects (s : Ledger ι) (c : Cycle) : Prop where
  started : timeline calls s.order c ≠ []
  events : c.events = .json ((timeline calls s.order c).map fun i => (calls i).event)
  revision : c.revision = (timeline calls s.order c).length
  status : c.status =
    ((timeline calls s.order c).map fun i => (calls i).status).foldl mergeStatus none
  text : ∀ text, c.messageText = some text →
    ∃ k, n.RendersCall calls c (timeline calls s.order c) k text
  newest : ∀ i, (timeline calls s.order c).getLast? = some i → i ∈ s.stored →
    ∃ text, c.messageText = some text ∧
      n.RendersCall calls c (timeline calls s.order c) c.revision text

structure Ledger.Inv (s : Ledger ι) : Prop where
  numbered : s.db.Numbered
  unique : ∀ a ∈ s.db.cycles, ∀ b ∈ s.db.cycles,
    a.strategy = b.strategy → a.signalUxid = b.signalUxid → a = b
  once : s.order.Nodup
  reflects : ∀ c ∈ s.db.cycles, c.Reflects n calls s
  present : ∀ i ∈ s.order, ∃ c ∈ s.db.cycles, (calls i).addresses c.strategy c.signalUxid

end Invariant

variable {n : CycleNotifier} {calls : ι → RecordCall}

theorem RecordCall.addresses_iff {call : RecordCall} {strategy signalUxid : String} :
    call.addresses strategy signalUxid = true ↔
      call.strategy = strategy ∧ text? call.signalUxid = some signalUxid := by
  simp [RecordCall.addresses]

theorem timeline_of_sameRow {order : List ι} {c c' : Cycle} (h : CycleDb.SameRow c c') :
    timeline calls order c' = timeline calls order c := by
  rw [timeline, timeline, h.2.1, h.2.2]

theorem timeline_append (order more : List ι) (c : Cycle) :
    timeline calls (order ++ more) c = timeline calls order c ++ timeline calls more c :=
  List.filter_append ..

theorem timeline_singleton {i : ι} {c : Cycle}
    (h : (calls i).addresses c.strategy c.signalUxid = true) :
    timeline calls [i] c = [i] := by
  simp [timeline, h]

theorem timeline_singleton_of_not {i : ι} {c : Cycle}
    (h : ¬ (calls i).addresses c.strategy c.signalUxid = true) :
    timeline calls [i] c = [] := by
  simp [timeline, h]

/-- A rendering of some of a row's calls stays one when more commit. -/
theorem CycleNotifier.RendersCall.append {c c' : Cycle} {mine : List ι} {k : Nat} {text : String}
    (h : n.RendersCall calls c mine k text) (hrow : CycleDb.SameRow c c') (more : List ι) :
    n.RendersCall calls c' (mine ++ more) k text := by
  obtain ⟨earlier, i, later, rfl, hk, footer, hfooter, htext⟩ := h
  refine ⟨earlier, i, later ++ more, by simp, hk, footer, hfooter, ?_⟩
  have hview : c'.viewOf calls earlier i = c.viewOf calls earlier i := by
    simp only [Cycle.viewOf, hrow.1, hrow.2.1, hrow.2.2]
  rw [hview]
  exact htext

/-- A row is only concerned by the commits and bodies of its own timeline. -/
theorem Cycle.Reflects.congr {s s' : Ledger ι} {c : Cycle} (h : c.Reflects n calls s)
    (horder : timeline calls s'.order c = timeline calls s.order c)
    (hstored : ∀ i ∈ timeline calls s.order c, i ∈ s'.stored → i ∈ s.stored) :
    c.Reflects n calls s' := by
  refine ⟨?_, ?_, ?_, ?_, ?_, ?_⟩
  · rw [horder]
    exact h.started
  · rw [horder]
    exact h.events
  · rw [horder]
    exact h.revision
  · rw [horder]
    exact h.status
  · rw [horder]
    exact h.text
  · intro i hlast hi
    rw [horder] at hlast ⊢
    exact h.newest i hlast (hstored i (List.mem_of_getLast? hlast) hi)

/-- A row with a new event reflects the longer timeline. Its body is not the
newest yet, and nothing says so: the call that committed has stored no body. -/
theorem Cycle.Reflects.appended {s s' : Ledger ι} {row : Cycle} {i : ι}
    (h : row.Reflects n calls s) (horder : s'.order = s.order ++ [i])
    (hi : (calls i).addresses row.strategy row.signalUxid = true) (hnew : i ∉ s'.stored) :
    (CycleDb.appended row (calls i).event (calls i).status).Reflects n calls s' := by
  have hrow : CycleDb.SameRow row (CycleDb.appended row (calls i).event (calls i).status) :=
    ⟨rfl, rfl, rfl⟩
  have htimeline : timeline calls s'.order
      (CycleDb.appended row (calls i).event (calls i).status) =
        timeline calls s.order row ++ [i] := by
    rw [timeline_of_sameRow hrow, horder, timeline_append, timeline_singleton hi]
  constructor
  · simp [htimeline]
  · rw [htimeline]
    simp [CycleDb.appended, h.events, EventsColumn.decode]
  · rw [htimeline]
    simp [CycleDb.appended, h.revision]
  · rw [htimeline, List.map_append, List.foldl_append, ← h.status]
    rfl
  · intro text htext
    obtain ⟨k, hk⟩ := h.text text htext
    rw [htimeline]
    exact ⟨k, hk.append hrow [i]⟩
  · intro j hlast hj
    rw [htimeline, List.getLast?_append] at hlast
    obtain rfl : i = j := by simpa using hlast
    exact absurd hj hnew

/-- The first row of a key. -/
theorem Cycle.Reflects.created {s' : Ledger ι} {order : List ι} {db : CycleDb} {i : ι}
    {signalUxid symbol : String}
    (horder : s'.order = order ++ [i])
    (hi : (calls i).addresses (calls i).strategy signalUxid = true)
    (hfirst : ∀ j ∈ order, ¬ (calls j).addresses (calls i).strategy signalUxid = true)
    (hnew : i ∉ s'.stored) :
    (db.newCycle (calls i).strategy signalUxid symbol (calls i).event
      (calls i).status).Reflects n calls s' := by
  have htimeline : timeline calls s'.order (db.newCycle (calls i).strategy signalUxid symbol
      (calls i).event (calls i).status) = [i] := by
    rw [horder, timeline_append, timeline_singleton hi]
    have hnone : timeline calls order (db.newCycle (calls i).strategy signalUxid symbol
        (calls i).event (calls i).status) = [] := List.filter_eq_nil_iff.mpr hfirst
    rw [hnone, List.nil_append]
  constructor
  · simp [htimeline]
  · rw [htimeline]
    rfl
  · rw [htimeline]
    rfl
  · rw [htimeline]
    rfl
  · intro text htext
    exact absurd htext (by simp [CycleDb.newCycle])
  · intro j hlast hj
    rw [htimeline] at hlast
    obtain rfl : i = j := by simpa using hlast
    exact absurd hj hnew

theorem Ledger.Inv.once_append {s : Ledger ι} (h : s.Inv n calls) {i : ι}
    (horder : i ∉ s.order) : (s.order ++ [i]).Nodup := by
  rw [← List.concat_eq_append]
  exact h.once.concat horder

/-- A commit on a key without a row keeps the invariant. -/
theorem Ledger.Inv.append_none {s : Ledger ι} (h : s.Inv n calls) {i : ι}
    {signalUxid : String} (hrow : s.db.cycle? (calls i).strategy signalUxid = none)
    (hi : (calls i).addresses (calls i).strategy signalUxid = true) (horder : i ∉ s.order)
    (hstored : i ∉ s.stored) (symbol : String) :
    ({ s with
      db := (s.db.appendEvent (calls i).strategy signalUxid symbol (calls i).event
        (calls i).status).2
      order := s.order ++ [i] } : Ledger ι).Inv n calls := by
  have hfirst := CycleDb.cycle?_none hrow
  have huxid := (RecordCall.addresses_iff.mp hi).2
  have hnumbered := h.numbered.appendEvent (calls i).strategy signalUxid symbol
    (calls i).event (calls i).status
  rw [CycleDb.appendEvent_none hrow] at hnumbered ⊢
  refine ⟨hnumbered, ?_, ?_, ?_, ?_⟩
  · intro a ha b hb hstrategy huxids
    rcases List.mem_append.mp ha with ha | ha <;> rcases List.mem_append.mp hb with hb | hb
    · exact h.unique a ha b hb hstrategy huxids
    · obtain rfl := List.mem_singleton.mp hb
      exact absurd ⟨hstrategy, huxids⟩ (hfirst a ha)
    · obtain rfl := List.mem_singleton.mp ha
      exact absurd ⟨hstrategy.symm, huxids.symm⟩ (hfirst b hb)
    · rw [List.mem_singleton.mp ha, List.mem_singleton.mp hb]
  · exact h.once_append horder
  · intro c hc
    rcases List.mem_append.mp hc with hc | hc
    · refine (h.reflects c hc).congr ?_ fun _ _ hj => hj
      rw [timeline_append, timeline_singleton_of_not, List.append_nil]
      intro hci
      obtain ⟨hstrategy, huxid'⟩ := RecordCall.addresses_iff.mp hci
      exact hfirst c hc ⟨hstrategy.symm, Option.some.inj (huxid'.symm.trans huxid)⟩
    · obtain rfl := List.mem_singleton.mp hc
      refine Cycle.Reflects.created rfl hi (fun j hj hji => ?_) hstored
      obtain ⟨c, hc, hcj⟩ := h.present j hj
      obtain ⟨hs, hu⟩ := RecordCall.addresses_iff.mp hji
      obtain ⟨hs', hu'⟩ := RecordCall.addresses_iff.mp hcj
      exact hfirst c hc ⟨hs'.symm.trans hs, Option.some.inj (hu'.symm.trans hu)⟩
  · intro j hj
    rcases List.mem_append.mp hj with hj | hj
    · obtain ⟨c, hc, hcj⟩ := h.present j hj
      exact ⟨c, List.mem_append_left _ hc, hcj⟩
    · obtain rfl := List.mem_singleton.mp hj
      exact ⟨_, List.mem_append_right _ (List.mem_singleton.mpr rfl), hi⟩

/-- A commit on the row of its key keeps the invariant. -/
theorem Ledger.Inv.append_some {s : Ledger ι} (h : s.Inv n calls) {i : ι}
    {signalUxid : String} {row : Cycle}
    (hrow : s.db.cycle? (calls i).strategy signalUxid = some row)
    (hi : (calls i).addresses (calls i).strategy signalUxid = true) (horder : i ∉ s.order)
    (hstored : i ∉ s.stored) (symbol : String) :
    ({ s with
      db := (s.db.appendEvent (calls i).strategy signalUxid symbol (calls i).event
        (calls i).status).2
      order := s.order ++ [i] } : Ledger ι).Inv n calls := by
  obtain ⟨hmem, hstrategy, huxid⟩ := CycleDb.cycle?_some hrow
  have hirow : (calls i).addresses row.strategy row.signalUxid = true := by
    rw [hstrategy, huxid]
    exact hi
  have hnumbered := h.numbered.appendEvent (calls i).strategy signalUxid symbol
    (calls i).event (calls i).status
  rw [CycleDb.appendEvent_some hrow] at hnumbered ⊢
  have hsame : ∀ c ∈ s.db.cycles, CycleDb.SameRow c
      (if c.id = row.id then CycleDb.appended row (calls i).event (calls i).status else c) := by
    intro c hc
    split
    · rename_i hid
      obtain rfl := h.numbered.eq_of_id hc hmem hid
      exact ⟨rfl, rfl, rfl⟩
    · exact ⟨rfl, rfl, rfl⟩
  refine ⟨hnumbered, ?_, ?_, ?_, ?_⟩
  · intro a ha b hb hs hu
    obtain ⟨a₀, ha₀, rfl⟩ := CycleDb.mem_updateCycle.mp ha
    obtain ⟨b₀, hb₀, rfl⟩ := CycleDb.mem_updateCycle.mp hb
    rw [(hsame a₀ ha₀).2.1, (hsame b₀ hb₀).2.1] at hs
    rw [(hsame a₀ ha₀).2.2, (hsame b₀ hb₀).2.2] at hu
    rw [h.unique a₀ ha₀ b₀ hb₀ hs hu]
  · exact h.once_append horder
  · intro c hc
    obtain ⟨c₀, hc₀, rfl⟩ := CycleDb.mem_updateCycle.mp hc
    by_cases hid : c₀.id = row.id
    · obtain rfl := h.numbered.eq_of_id hc₀ hmem hid
      rw [if_pos rfl]
      exact (h.reflects c₀ hc₀).appended rfl hirow hstored
    · rw [if_neg hid]
      refine (h.reflects c₀ hc₀).congr ?_ fun _ _ hj => hj
      rw [timeline_append, timeline_singleton_of_not, List.append_nil]
      intro hci
      obtain ⟨hs, hu⟩ := RecordCall.addresses_iff.mp hci
      obtain ⟨hs', hu'⟩ := RecordCall.addresses_iff.mp hirow
      have hc₀row : c₀ = row :=
        h.unique c₀ hc₀ row hmem (hs.symm.trans hs') (Option.some.inj (hu.symm.trans hu'))
      exact hid (congrArg Cycle.id hc₀row)
  · intro j hj
    have hkeep : ∀ c ∈ s.db.cycles, (calls j).addresses c.strategy c.signalUxid = true →
        ∃ c' ∈ (s.db.updateCycle fun c => if c.id = row.id then
          CycleDb.appended row (calls i).event (calls i).status else c).cycles,
          (calls j).addresses c'.strategy c'.signalUxid = true := by
      intro c hc hcj
      refine ⟨_, CycleDb.mem_updateCycle.mpr ⟨c, hc, rfl⟩, ?_⟩
      rw [(hsame c hc).2.1, (hsame c hc).2.2]
      exact hcj
    rcases List.mem_append.mp hj with hj | hj
    · obtain ⟨c, hc, hcj⟩ := h.present j hj
      exact hkeep c hc hcj
    · obtain rfl := List.mem_singleton.mp hj
      exact hkeep row hmem hirow

theorem Ledger.Inv.append {s : Ledger ι} (h : s.Inv n calls) {i : ι} {signalUxid : String}
    (hi : (calls i).addresses (calls i).strategy signalUxid = true) (horder : i ∉ s.order)
    (hstored : i ∉ s.stored) (symbol : String) :
    ({ s with
      db := (s.db.appendEvent (calls i).strategy signalUxid symbol (calls i).event
        (calls i).status).2
      order := s.order ++ [i] } : Ledger ι).Inv n calls := by
  cases hrow : s.db.cycle? (calls i).strategy signalUxid with
  | none => exact h.append_none hrow hi horder hstored symbol
  | some row => exact h.append_some hrow hi horder hstored symbol

/-! ## What one call knows between its transaction and its body -/

/-- The view call `i` holds is its row as its own commit left it. -/
def Ledger.Holding (calls : ι → RecordCall) (i : ι) (v : CycleView) (s : Ledger ι) : Prop :=
  ∃ c ∈ s.db.cycles, (calls i).addresses c.strategy c.signalUxid = true ∧
    ∃ earlier later, timeline calls s.order c = earlier ++ i :: later ∧
      v = c.viewOf calls earlier i

/-- What call `i` relies on: the others commit and store on their own account,
and no row is lost. -/
def Ledger.Rely (i : ι) (s s' : Ledger ι) : Prop :=
  (∃ more, s'.order = s.order ++ more ∧ i ∉ more) ∧
  (i ∈ s'.stored ↔ i ∈ s.stored) ∧
  ∀ c ∈ s.db.cycles, ∃ c' ∈ s'.db.cycles, CycleDb.SameRow c c'

/-- What call `i` has done when it returns. -/
def Ledger.Done (i : ι) (r : Except Exn Bool) (s : Ledger ι) : Prop :=
  match r with
  | .ok true => i ∈ s.order ∧ i ∈ s.stored
  | .ok false => i ∉ s.order
  | .error _ => True

theorem Ledger.Rely.refl (i : ι) (s : Ledger ι) : Ledger.Rely i s s :=
  ⟨⟨[], by simp⟩, Iff.rfl, fun c hc => ⟨c, hc, rfl, rfl, rfl⟩⟩

theorem Ledger.Rely.trans {i : ι} {a b c : Ledger ι} (hab : Ledger.Rely i a b)
    (hbc : Ledger.Rely i b c) : Ledger.Rely i a c := by
  obtain ⟨⟨more, hmore, hi⟩, hstored, hrows⟩ := hab
  obtain ⟨⟨more', hmore', hi'⟩, hstored', hrows'⟩ := hbc
  refine ⟨⟨more ++ more', ?_, ?_⟩, hstored'.trans hstored, ?_⟩
  · rw [hmore', hmore, List.append_assoc]
  · exact fun h => (List.mem_append.mp h).elim hi hi'
  · intro x hx
    obtain ⟨y, hy, hxy⟩ := hrows x hx
    obtain ⟨z, hz, hyz⟩ := hrows' y hy
    exact ⟨z, hz, hyz.1.trans hxy.1, hyz.2.1.trans hxy.2.1, hyz.2.2.trans hxy.2.2⟩

theorem Ledger.Rely.mem_order {i : ι} {s s' : Ledger ι} (h : Ledger.Rely i s s') :
    i ∈ s'.order ↔ i ∈ s.order := by
  obtain ⟨⟨more, hmore, hi⟩, -⟩ := h
  rw [hmore, List.mem_append, or_iff_left hi]

theorem Ledger.Done.stable {i : ι} {r : Except Exn Bool} {s s' : Ledger ι}
    (h : Ledger.Done i r s) (hs : Ledger.Rely i s s') : Ledger.Done i r s' := by
  rcases r with e | _ | _
  · trivial
  · exact fun hi => h (hs.mem_order.mp hi)
  · exact ⟨hs.mem_order.mpr h.1, hs.2.1.mpr h.2⟩

theorem Ledger.Holding.stable {i : ι} {v : CycleView} {s s' : Ledger ι}
    (h : Ledger.Holding calls i v s) (hs : Ledger.Rely i s s') :
    Ledger.Holding calls i v s' := by
  obtain ⟨c, hc, hi, earlier, later, htimeline, rfl⟩ := h
  obtain ⟨⟨more, hmore, -⟩, -, hrows⟩ := hs
  obtain ⟨c', hc', hsame⟩ := hrows c hc
  refine ⟨c', hc', ?_, earlier, later ++ timeline calls more c, ?_, ?_⟩
  · rw [hsame.2.1, hsame.2.2]
    exact hi
  · rw [timeline_of_sameRow hsame, hmore, timeline_append, htimeline, List.append_assoc,
      List.cons_append]
  · simp only [Cycle.viewOf, hsame.1, hsame.2.1, hsame.2.2]

def recordingOutline (n : CycleNotifier) (calls : ι → RecordCall) :
    Pool.Outline (recording ι) where
  inv := Ledger.Inv n calls
  rely := Ledger.Rely
  post := Ledger.Done
  rely_refl := Ledger.Rely.refl
  rely_trans _ _ _ _ := Ledger.Rely.trans
  post_stable _ _ _ _ := Ledger.Done.stable

/-- In a list without duplicates, nothing comes after an element that is last. -/
theorem eq_nil_of_getLast? {earlier later : List ι} {i : ι}
    (h : (earlier ++ i :: later).Nodup) (hlast : (earlier ++ i :: later).getLast? = some i) :
    later = [] := by
  rcases List.eq_nil_or_concat later with hnil | ⟨init, last, rfl⟩
  · exact hnil
  · rw [List.concat_eq_append, List.getLast?_append, List.getLast?_cons,
      List.getLast?_append] at hlast
    obtain rfl : last = i := by simpa using hlast
    rw [List.nodup_append, List.nodup_cons] at h
    exact absurd (by simp) h.2.1.1

/-- The body a call stores is its own rendering; where later calls have committed
since, the statement drops it. -/
theorem Ledger.Inv.storeText {s : Ledger ι} (h : s.Inv n calls) {i : ι} {v : CycleView}
    (hv : Ledger.Holding calls i v s) {footer text : String}
    (hfooter : n.footerBound = false → footer = "") (htext : n.render v footer = .ok text) :
    ({ s with
      db := s.db.setMessageText v.id text v.revision
      stored := s.stored ++ [i] } : Ledger ι).Inv n calls := by
  obtain ⟨c, hc, hi, earlier, later, htimeline, hview⟩ := hv
  have hid : v.id = c.id := by rw [hview]; rfl
  have hrev : v.revision = earlier.length + 1 := by rw [hview]; rfl
  have hrow : ∀ x ∈ s.db.cycles, CycleDb.SameRow x
      (if x.id = v.id ∧ x.revision ≤ v.revision then { x with messageText := some text }
        else x) := by
    intro x _
    split <;> exact ⟨rfl, rfl, rfl⟩
  refine ⟨h.numbered.setMessageText _ _ _, ?_, h.once, ?_, ?_⟩
  · intro a ha b hb hs hu
    obtain ⟨a₀, ha₀, rfl⟩ := CycleDb.mem_updateCycle.mp ha
    obtain ⟨b₀, hb₀, rfl⟩ := CycleDb.mem_updateCycle.mp hb
    rw [(hrow a₀ ha₀).2.1, (hrow b₀ hb₀).2.1] at hs
    rw [(hrow a₀ ha₀).2.2, (hrow b₀ hb₀).2.2] at hu
    rw [h.unique a₀ ha₀ b₀ hb₀ hs hu]
  · intro x hx
    obtain ⟨x₀, hx₀, rfl⟩ := CycleDb.mem_updateCycle.mp hx
    have hreflects := h.reflects x₀ hx₀
    by_cases hguard : x₀.id = v.id ∧ x₀.revision ≤ v.revision
    · -- The call's own row, and no later commit: the whole timeline is rendered.
      rw [if_pos hguard]
      obtain rfl : x₀ = c := h.numbered.eq_of_id hx₀ hc (hguard.1.trans hid)
      have hlength := hreflects.revision
      rw [htimeline, List.length_append, List.length_cons] at hlength
      have hlater : later = [] := by
        apply List.eq_nil_of_length_eq_zero
        have := hguard.2
        omega
      subst hlater
      have hrenders : n.RendersCall calls { x₀ with messageText := some text }
          (timeline calls s.order x₀) x₀.revision text := by
        refine ⟨earlier, i, [], htimeline, by simpa using hlength, footer, hfooter, ?_⟩
        rw [hview] at htext
        exact htext
      refine ⟨hreflects.started, hreflects.events, hreflects.revision, hreflects.status, ?_, ?_⟩
      · intro text' htext'
        obtain rfl : text = text' := Option.some.inj htext'
        exact ⟨_, hrenders⟩
      · intro j _ _
        exact ⟨text, rfl, hrenders⟩
    · -- Another row, or a later commit: the row stays, and its last call is another.
      rw [if_neg hguard]
      refine ⟨hreflects.started, hreflects.events, hreflects.revision, hreflects.status,
        hreflects.text, ?_⟩
      intro j hlast hj
      refine hreflects.newest j hlast ?_
      rcases List.mem_append.mp hj with hj | hj
      · exact hj
      · exfalso
        obtain rfl := List.mem_singleton.mp hj
        have hjx := (List.mem_filter.mp (List.mem_of_getLast? hlast)).2
        obtain ⟨hs, hu⟩ := RecordCall.addresses_iff.mp hjx
        obtain ⟨hs', hu'⟩ := RecordCall.addresses_iff.mp hi
        obtain rfl : x₀ = c := h.unique x₀ hx₀ c hc (hs.symm.trans hs')
          (Option.some.inj (hu.symm.trans hu'))
        have hnodup : (timeline calls s.order x₀).Nodup := h.once.filter _
        rw [htimeline] at hnodup hlast
        have hlater := eq_nil_of_getLast? hnodup hlast
        refine hguard ⟨hid.symm, ?_⟩
        rw [hreflects.revision, htimeline, hrev, hlater, List.length_append, List.length_singleton]
  · intro j hj
    obtain ⟨x, hx, hxj⟩ := h.present j hj
    refine ⟨_, CycleDb.mem_updateCycle.mpr ⟨x, hx, rfl⟩, ?_⟩
    rw [(hrow x hx).2.1, (hrow x hx).2.2]
    exact hxj

/-! ## The program of one call -/

/-- A swallowed write: whatever it answers, the program goes on. -/
theorem wp_cycleWrite {α σ : Type} {S : Pool.System ι CycleOp CycleOp.Ans Exn α σ}
    (L : Pool.Outline S) {i : ι} {o : CycleOp} {Q : σ → Prop} {s : σ}
    (h : ∀ s₁, L.rely i s s₁ → L.inv s₁ → ∀ r s₂, S.answers i o s₁ r s₂ →
      L.Keeps i s₁ s₂ ∧ Q s₂) :
    Prog.wp (L.alone i) (fun r s' => r = .ok () ∧ Q s') (cycleWrite o) s := by
  unfold cycleWrite cycleCall
  rw [Prog.wp_tryCatch, Prog.wp_bind]
  refine Prog.wp_mono (L.wp_perform (Q := fun _ => Q) h) fun r s' hQ => ?_
  cases r with
  | ok a => exact ⟨rfl, hQ⟩
  | error e => exact ⟨rfl, hQ⟩

/-- A call that commits its event relies on nothing it breaks for the others. -/
theorem Ledger.Rely.of_append {i j : ι} (hj : j ≠ i) (s : Ledger ι) (h : s.db.Numbered)
    (strategy signalUxid symbol : String) (event : CycleEvent) (status : Option CycleStatus) :
    Ledger.Rely j s { s with
      db := (s.db.appendEvent strategy signalUxid symbol event status).2
      order := s.order ++ [i] } := by
  refine ⟨⟨[i], rfl, by simpa using hj⟩, Iff.rfl, fun c hc => ?_⟩
  obtain ⟨c', hc', hextends⟩ :=
    CycleDb.Grows.appendEvent h strategy signalUxid symbol event status c hc
  exact ⟨c', hc', hextends.1⟩

/-- Storing a body is nothing the others rely on. -/
theorem Ledger.Rely.of_store {i j : ι} (hj : j ≠ i) (s : Ledger ι) (cycleId : Nat)
    (text : String) (revision : Nat) :
    Ledger.Rely j s { s with
      db := s.db.setMessageText cycleId text revision
      stored := s.stored ++ [i] } := by
  refine ⟨⟨[], by simp⟩, by simp [hj], fun c hc => ?_⟩
  obtain ⟨c', hc', hextends⟩ := CycleDb.Grows.setMessageText cycleId text revision c hc
  exact ⟨c', hc', hextends.1⟩

theorem Ledger.Inv.of_cycles {s : Ledger ι} (h : s.Inv n calls) {db : CycleDb}
    (hdb : db.cycles = s.db.cycles) (shown : List (String × String)) :
    ({ s with db, shown } : Ledger ι).Inv n calls := by
  obtain ⟨hnumbered, hunique, honce, hreflects, hpresent⟩ := h
  refine ⟨?_, ?_, honce, ?_, ?_⟩
  · intro i hi
    simp only [hdb] at hi ⊢
    exact hnumbered i hi
  · simpa only [hdb] using hunique
  · intro c hc
    rw [hdb] at hc
    exact (hreflects c hc).congr rfl fun _ _ hj => hj
  · simpa only [hdb] using hpresent

theorem Ledger.Rely.of_cycles (i : ι) (s : Ledger ι) {db : CycleDb}
    (hdb : db.cycles = s.db.cycles) (shown : List (String × String)) :
    Ledger.Rely i s { s with db, shown } := by
  refine ⟨⟨[], by simp⟩, Iff.rfl, fun c hc => ⟨c, ?_, rfl, rfl, rfl⟩⟩
  rw [hdb]
  exact hc

/-- The call that committed last holds the view of its row. -/
theorem Ledger.Inv.holding {s : Ledger ι} (h : s.Inv n calls) {i : ι} {order : List ι}
    {c : Cycle} (hc : c ∈ s.db.cycles)
    (hi : (calls i).addresses c.strategy c.signalUxid = true) (horder : s.order = order ++ [i]) :
    Ledger.Holding calls i (CycleDb.view c (calls i).symbol) s := by
  have htimeline : timeline calls s.order c = timeline calls order c ++ [i] := by
    rw [horder, timeline_append, timeline_singleton hi]
  have hreflects := h.reflects c hc
  refine ⟨c, hc, hi, timeline calls order c, [], htimeline, ?_⟩
  have hstatus := hreflects.status
  have hevents := hreflects.events
  have hrevision := hreflects.revision
  rw [htimeline] at hstatus hevents hrevision
  rw [List.length_append, List.length_singleton] at hrevision
  simp only [CycleDb.view, Cycle.viewOf, ← hstatus, hevents, hrevision, EventsColumn.decode]

/-- The transaction: it commits and the call holds its view, or nothing happened. -/
theorem appendCycleEvent_safe {i : ι} {signalUxid : String} {s : Ledger ι}
    (hi : (calls i).addresses (calls i).strategy signalUxid = true)
    (horder : i ∉ s.order) (hstored : i ∉ s.stored) :
    Prog.wp ((recordingOutline n calls).alone i)
      (fun r s' => match r with
        | .ok (some v) => Ledger.Holding calls i v s' ∧ i ∈ s'.order
        | .ok none => i ∉ s'.order
        | .error _ => False)
      (appendCycleEvent (calls i) signalUxid) s := by
  unfold appendCycleEvent cycleCall
  rw [Prog.wp_tryCatch, Prog.wp_bind]
  refine Prog.wp_mono ((recordingOutline n calls).wp_perform
    (Q := fun r s' => match r with
      | .ok v => Ledger.Holding calls i v s' ∧ i ∈ s'.order
      | .error _ => i ∉ s'.order) ?_) ?_
  · rintro s₁ hrely hinv r s₂ ⟨-, hr⟩
    have horder₁ : i ∉ s₁.order := fun h => horder (hrely.mem_order.mp h)
    have hstored₁ : i ∉ s₁.stored := fun h => hstored (hrely.2.1.mp h)
    cases hr with
    | appended =>
        have hinv' := Ledger.Inv.append hinv hi horder₁ hstored₁ (calls i).symbol
        refine ⟨⟨hinv', fun j hj => Ledger.Rely.of_append hj _ hinv.numbered ..⟩, ?_, by simp⟩
        obtain ⟨c, hc, hv, hstrategy, huxid⟩ := s₁.db.appendEvent_view (calls i).strategy
          signalUxid (calls i).symbol (calls i).event (calls i).status
        rw [hv]
        refine Ledger.Inv.holding hinv' hc ?_ rfl
        rw [hstrategy, huxid]
        exact hi
    | refused => exact ⟨⟨hinv, fun j _ => Ledger.Rely.refl j _⟩, horder₁⟩
  · intro r s' hr
    cases r with
    | ok v => exact hr
    | error e => exact hr

/-- A committed call renders its view and stores the body. -/
theorem storeBody_safe {i : ι} {v : CycleView} {s : Ledger ι}
    (hv : Ledger.Holding calls i v s) (horder : i ∈ s.order) :
    Prog.wp ((recordingOutline n calls).alone i) (Ledger.Done i) (storeBody n v) s := by
  unfold storeBody
  refine Prog.wp_bind_of (R := fun r s' => Ledger.Holding calls i v s' ∧ i ∈ s'.order ∧
    (n.footerBound = false → r = .ok "")) ?_ ?_ ?_
  · -- the footer may answer anything, or raise
    unfold CycleNotifier.footerText
    split
    · rename_i hbound
      refine (recordingOutline n calls).wp_perform ?_
      rintro s₁ hrely hinv r s₂ ⟨-, hr⟩
      obtain rfl : s₂ = s₁ := by cases hr <;> rfl
      refine ⟨⟨hinv, fun j _ => Ledger.Rely.refl j _⟩, hv.stable hrely,
        hrely.mem_order.mpr horder, fun hunbound => ?_⟩
      rw [hunbound] at hbound
      cases hbound
    · exact ⟨hv, horder, fun _ => rfl⟩
  · intro footer s₁ h₁
    have hfooter : n.footerBound = false → footer = "" := fun h => Except.ok.inj (h₁.2.2 h)
    refine Prog.wp_bind_of (R := fun r s' => Ledger.Holding calls i v s' ∧ i ∈ s'.order ∧
      n.render v footer = r) (Prog.wp_ofExcept.mpr ⟨h₁.1, h₁.2.1, rfl⟩) ?_ ?_
    · rintro body s₂ ⟨hv₂, horder₂, hbody⟩
      refine Prog.wp_bind_of (wp_cycleWrite (Q := fun s' => i ∈ s'.order ∧ i ∈ s'.stored)
        (recordingOutline n calls) ?_) ?_ ?_
      · rintro s₃ hrely hinv r s₄ ⟨hstored, hr⟩
        cases hr with
        | stored =>
            refine ⟨⟨Ledger.Inv.storeText hinv (hv₂.stable hrely) hfooter hbody,
              fun j hj => Ledger.Rely.of_store hj ..⟩, hrely.mem_order.mpr horder₂, by simp⟩
        | refused => exact hstored.elim
      · rintro _ s₃ ⟨-, horder₃, hstored₃⟩
        refine Prog.wp_bind_of (wp_cycleWrite (Q := fun s' => i ∈ s'.order ∧ i ∈ s'.stored)
          (recordingOutline n calls) ?_) ?_ ?_
        · rintro s₄ hrely hinv r s₅ ⟨-, hr⟩
          have h₄ : i ∈ s₄.order ∧ i ∈ s₄.stored :=
            ⟨hrely.mem_order.mpr horder₃, hrely.2.1.mpr hstored₃⟩
          cases hr with
          | ensured =>
              have hcycles : (s₄.db.ensureCycleChats v.id n.chatIds).cycles = s₄.db.cycles :=
                CycleDb.ensureCycleChats_cycles _ _
              exact ⟨⟨hinv.of_cycles hcycles _, fun j _ => Ledger.Rely.of_cycles j _ hcycles _⟩, h₄⟩
          | refused => exact ⟨⟨hinv, fun j _ => Ledger.Rely.refl j _⟩, h₄⟩
        · rintro _ s₄ ⟨-, h₄⟩
          exact h₄
        · rintro e s₄ ⟨he, -⟩
          cases he
      · rintro e s₃ ⟨he, -⟩
        cases he
    · intro e s₂ _
      trivial
  · intro e s₁ _
    trivial

/-- A call yet to be made is safe among the others. -/
theorem record_safe {i : ι} {s : Ledger ι} (horder : i ∉ s.order) (hstored : i ∉ s.stored) :
    (recordingOutline n calls).Safe i (n.record (calls i)) s := by
  unfold Pool.Outline.Safe CycleNotifier.record
  cases huxid : text? (calls i).signalUxid with
  | none => exact horder
  | some signalUxid =>
      cases n.enabled with
      | false => exact horder
      | true =>
          have hi : (calls i).addresses (calls i).strategy signalUxid = true :=
            RecordCall.addresses_iff.mpr ⟨rfl, huxid⟩
          refine Prog.wp_bind_of (appendCycleEvent_safe hi horder hstored) ?_ ?_
          · rintro (_ | v) s' h
            · exact h
            · exact storeBody_safe h.1 h.2
          · intro e s' h
            exact h.elim

theorem recording_sound [DecidableEq ι] (dead : CycleWork Bool) :
    (recordingOutline (ι := ι) n calls).Sound dead where
  start _ _ _ _ _ _ _ h := h.elim
  crash _ _ _ h := h.elim
  drift := by
    rintro s s' hinv ⟨chats, clock, shown, rfl⟩
    have hdb : ({ s.db with chats, clock } : CycleDb).cycles = s.db.cycles := rfl
    exact ⟨Ledger.Inv.of_cycles hinv hdb shown, fun i => Ledger.Rely.of_cycles i s hdb shown⟩

theorem unrecorded_holds (chats : List CycleChat) (clock : Int) :
    (recordingOutline n calls).Holds (unrecorded n calls chats clock) := by
  refine ⟨⟨?_, ?_, List.nodup_nil, ?_, ?_⟩, fun i => record_safe ?_ ?_⟩
  · intro i hi
    exact absurd hi (Nat.not_lt_zero i)
  · intro a ha
    exact absurd ha List.not_mem_nil
  · intro c hc
    exact absurd hc List.not_mem_nil
  · intro i hi
    exact absurd hi List.not_mem_nil
  · exact List.not_mem_nil
  · exact List.not_mem_nil

/-- Concurrent `record` calls on one key act one after the other, in the order
their transactions commit. -/
theorem record_linearisable [DecidableEq ι] {dead : CycleWork Bool} {chats : List CycleChat}
    {clock : Int} {y : Pool.Config ι CycleOp CycleOp.Ans Exn Bool (Ledger ι)}
    (h : Pool.Reach (recording ι) dead (unrecorded n calls chats clock) y)
    (strategy signalUxid : String) :
    let mine := y.state.order.filter fun i => (calls i).addresses strategy signalUxid
    mine.Nodup ∧
    (∀ i, (calls i).addresses strategy signalUxid = true →
      (y.thread i = .ret true → i ∈ mine) ∧ (y.thread i = .ret false → i ∉ mine)) ∧
    match y.state.db.cycle? strategy signalUxid with
    | none => mine = []
    | some c =>
        c.events = .json (mine.map fun i => (calls i).event) ∧
        c.revision = mine.length ∧
        c.status = (mine.map fun i => (calls i).status).foldl mergeStatus none ∧
        c.status = headline (mine.map fun i => (calls i).status) ∧
        (∀ text, c.messageText = some text → ∃ k, n.RendersCall calls c mine k text) ∧
        ((∀ i, (calls i).addresses strategy signalUxid = true → ∃ b, y.thread i = .ret b) →
          ∃ text, c.messageText = some text ∧ n.RendersCall calls c mine c.revision text) := by
  intro mine
  obtain ⟨hinv, hthreads⟩ := h.holds (recording_sound dead) (unrecorded_holds chats clock)
  have hreturned : ∀ i b, y.thread i = .ret b → Ledger.Done i (.ok b) y.state := by
    intro i b hi
    have hsafe := hthreads i
    rw [hi] at hsafe
    exact hsafe
  refine ⟨hinv.once.filter _, fun i hi => ⟨fun hret => ?_, fun hret hmem => ?_⟩, ?_⟩
  · exact List.mem_filter.mpr ⟨(hreturned i true hret).1, hi⟩
  · exact hreturned i false hret (List.mem_filter.mp hmem).1
  cases hrow : y.state.db.cycle? strategy signalUxid with
  | none =>
      refine List.filter_eq_nil_iff.mpr fun i hi hkey => ?_
      obtain ⟨c, hc, hci⟩ := hinv.present i hi
      obtain ⟨hs, hu⟩ := RecordCall.addresses_iff.mp hkey
      obtain ⟨hs', hu'⟩ := RecordCall.addresses_iff.mp hci
      exact CycleDb.cycle?_none hrow c hc ⟨hs'.symm.trans hs, Option.some.inj (hu'.symm.trans hu)⟩
  | some c =>
      obtain ⟨hc, rfl, rfl⟩ := CycleDb.cycle?_some hrow
      have hreflects := hinv.reflects c hc
      have hstatus := hreflects.status
      refine ⟨hreflects.events, hreflects.revision, hstatus, ?_, hreflects.text, ?_⟩
      · rw [hstatus, foldl_mergeStatus]
        rfl
      · intro hquiet
        obtain ⟨i, hlast⟩ : ∃ i, mine.getLast? = some i :=
          ⟨_, List.getLast?_eq_some_getLast hreflects.started⟩
        have hmem : i ∈ mine := List.mem_of_getLast? hlast
        obtain ⟨b, hret⟩ := hquiet i (List.mem_filter.mp hmem).2
        have hdone := hreturned i b hret
        cases b with
        | false => exact absurd (List.mem_filter.mp hmem).1 hdone
        | true => exact hreflects.newest i hlast hdone.2

/-- A notifier that writes the actions one after the other. -/
def plainNotifier : CycleNotifier where
  enabled := true
  chatIds := ["-1001"]
  footerBound := false
  render v _ := .ok (String.join (v.events.map (·.action)))

/-- An entry (`true`) and its TP1 (`false`). -/
def entryAndTp1 (entry : Bool) : RecordCall where
  signalUxid := some "u1"
  strategy := "GOLD"
  symbol := "XAUUSD"
  event := { action := if entry then "LONG" else "TP1", outcome := .filled, timestamp := 0 }
  status := some (.position (if entry then .opened else .tp1))

/-- The TP1 is recorded whole between the entry's commit and its body, which comes
too late and is dropped. -/
theorem lateBody_linearised :
    ∃ y, Pool.Reach (recording Bool) (.ret false) (unrecorded plainNotifier entryAndTp1 [] 0) y ∧
      y.thread true = .ret true ∧ y.thread false = .ret true ∧
      (y.state.db.cycle? "GOLD" "u1").map (·.messageText) = some (some "LONGTP1") ∧
      (y.state.order.filter fun i => (entryAndTp1 i).addresses "GOLD" "u1").Nodup := by
  have hserve : ∀ i o s, (recording Bool).answers i o s (Ledger.serve i o s).1
      (Ledger.serve i o s).2 := fun i o s =>
    ⟨by cases o <;> trivial, Ledger.serve_answers i o s⟩
  have hstart : Pool.Reach (recording Bool) (.ret false) (unrecorded plainNotifier entryAndTp1 [] 0)
      (unrecorded plainNotifier entryAndTp1 [] 0) := Relation.ReflTransGen.refl
  have hcommit := hstart.advance (i := true) 1 (Prog.admitted_of_forall (hserve true) ..)
  have htp1 := hcommit.advance (i := false) 3 (Prog.admitted_of_forall (hserve false) ..)
  have hlate := htp1.advance (i := true) 2 (Prog.admitted_of_forall (hserve true) ..)
  exact ⟨_, hlate, rfl, rfl, by decide, (record_linearisable hlate "GOLD" "u1").1⟩

end TradeWorker
