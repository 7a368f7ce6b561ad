import TradeWorker.CryptoReach
import TradeWorker.ReadFaults

/-!
# The way of an entry

A delivered entry either ends before it acts, or is turned away by a guard, or is
handed to the signal handler; until then the worker has only asked questions. What
the guards decide is what their reads show, which a failed read makes less of than
the store holds.
-/

namespace TradeWorker

/-- The calls that act on the broker. -/
def WorkerOp.acts : WorkerOp → Bool
  | .fx (.placeOrder _) | .fx (.closePosition ..) | .fx (.modifySl ..) => true
  | .cx (.placeMarketOrder ..) | .cx (.setStopLoss ..) | .cx (.setTakeProfit ..)
  | .cx (.cancelAllOrders _) => true
  | _ => false

/-- The calls that open a position. -/
def WorkerOp.opens : WorkerOp → Bool
  | .fx (.placeOrder _) | .cx (.placeMarketOrder _ _ _ false _) => true
  | _ => false

theorem WorkerOp.acts_of_opens {o : WorkerOp} (h : o.opens = true) : o.acts = true := by
  unfold WorkerOp.opens at h
  split at h
  · rfl
  · rfl
  · cases h

theorem WorkerOp.acts_of_reducedLeg {o : WorkerOp} {leg : String × Side}
    (h : o.reducedLeg = some leg) : o.acts = true := by
  unfold WorkerOp.reducedLeg at h
  split at h
  · rfl
  · cases h

/-- The calls an entry makes before it opens: the closes among them are those of its
cleanup. -/
def beforeOpening (calls : List WorkerOp) : List WorkerOp := calls.takeWhile (!·.opens)

theorem mem_of_mem_beforeOpening {calls : List WorkerOp} {o : WorkerOp}
    (h : o ∈ beforeOpening calls) : o ∈ calls :=
  List.takeWhile_subset _ h

/-- Nothing is done at the broker, and beyond reads only the statements in `W`. -/
def meek (W : DbOp → Prop) : Prog.Contract WorkerOp WorkerOp.Ans Exn where
  guard o := o.acts = false ∧ WritesOnly W o
  answers _ _ := True

/-- Nothing is done at the broker, and nothing is written. -/
def Idle (o : WorkerOp) : Prop := o.acts = false ∧ WritesOnly (fun _ => False) o

/-- Nothing is done at the broker, and the store is not asked. -/
def asking : Prog.Contract WorkerOp WorkerOp.Ans Exn where
  guard
    | .db _ => False
    | o => o.acts = false
  answers _ _ := True

section Meek

variable {W : DbOp → Prop}

theorem meek_host (o : HostOp) : Prog.Sends (meek W) (fun _ => True) (host o) :=
  Prog.sends_perform ⟨rfl, trivial⟩ fun _ _ => trivial

theorem meek_flat (strategy symbol refId : Option String) :
    Prog.Sends (meek W) (fun _ => True) (getOpenPositionsForFlat strategy symbol refId) :=
  Prog.Sends.tryCatch
    (Prog.sends_perform ⟨rfl, Or.inl rfl⟩ fun _ _ => trivial) fun _ => by simp

theorem signalExists_meek (id : String) :
    Prog.Sends (meek W) (fun _ => True) (signalExists id) := by
  unfold signalExists
  split
  · simp
  · exact Prog.Sends.tryCatch
      (Prog.sends_perform ⟨rfl, Or.inl rfl⟩ fun _ _ => trivial) fun _ => by simp

theorem meek_logPosition (hW : ∀ l, W (.insertLog l)) (l : LogRow) :
    Prog.Sends (meek W) (fun _ => True) (logPosition l) :=
  Prog.Sends.tryCatch
    (Prog.sends_perform ⟨rfl, Or.inr (hW l)⟩ fun _ _ => trivial) fun _ => by simp

/-- A meek program that may write nothing is idle. -/
theorem obeys_idle {σ α : Type} {Q : α → Prop} {p : Work α}
    (hp : Prog.Sends (meek fun _ => False) Q p)
    (S : Prog.Server WorkerOp WorkerOp.Ans Exn σ) (s : σ) : Prog.Obeys S Idle p s :=
  hp.calls (fun _ _ => trivial) s

/-! ## The guards -/

theorem symbolOpenRejection_meek (signal : Signal) (multiStrategy multiPositions : Bool) :
    Prog.Sends (meek W) (fun _ => True)
      (Guard.symbolOpenRejection signal multiStrategy multiPositions) := by
  refine Prog.Sends.bind (meek_flat ..) fun rows _ => ?_
  dsimp only
  split <;> simp

theorem maxOpenOrdersRejection_meek (settings : WorkerSettings) (signal : Signal)
    (multiPositions : Bool) :
    Prog.Sends (meek W) (fun _ => True)
      (Guard.maxOpenOrdersRejection settings signal multiPositions) := by
  unfold Guard.maxOpenOrdersRejection
  cases settings.maxOpenOrders with
  | none => simp
  | some maxOrders =>
      dsimp only
      split
      · simp
      · refine Prog.Sends.bind (meek_flat ..) fun rows _ => ?_
        split
        · simp
        · split <;> simp

end Meek

namespace Processor

variable {Pos : Type}

/-- The quote of an entry is a question to the broker. -/
def AsksQuote (P : Processor Pos) : Prop :=
  ∀ signal, Prog.Sends asking (fun _ => True) (P.market.entryPrice signal)

variable (P : Processor Pos)

/-! ## What a turned away entry writes -/

section Writes

variable {W : DbOp → Prop}

theorem notifyTrade_meek (signal : Signal) (report : Report) (event : CycleEvent)
    (status : Option CycleStatus) :
    Prog.Sends (meek W) (fun _ => True) (notifyTrade signal report event status) := by
  refine Prog.Sends.bind (meek_host _) fun owned _ => ?_
  split
  · simp
  · exact meek_host _

theorem rejectSignal_meek (hlog : ∀ l, W (.insertLog l))
    (hrow : ∀ n : NewRow, n.status = .rejected → W (.insertRow n)) (signal : Signal)
    (reason : String) :
    Prog.Sends (meek W) (fun _ => True) (P.rejectSignal signal reason) := by
  refine Prog.Sends.bind (meek_host _) fun _ _ => ?_
  refine Prog.Sends.bind (meek_logPosition hlog _) fun _ _ => ?_
  refine Prog.Sends.bind (Q := fun _ => True) (by simp) fun magic _ => ?_
  refine Prog.Sends.bind (Q := fun _ => True) ?_ fun _ _ => notifyTrade_meek ..
  exact Prog.Sends.tryCatch
    (Prog.sends_perform ⟨rfl, Or.inr (hrow _ rfl)⟩ fun _ _ => trivial) fun _ => by simp

theorem notifyForcedClosed_meek (signal : Signal) (fcs : List ForcedClosed) :
    Prog.Sends (meek W) (fun _ => True) (notifyForcedClosed signal fcs) := by
  induction fcs with
  | nil => simp [notifyForcedClosed]
  | cons fc rest ih => exact Prog.Sends.bind (notifyTrade_meek ..) fun _ _ => ih

/-- After the handler an entry writes its own row. -/
theorem recordResult_meek {signal : Signal} (hentry : signal.action.isEntry = true)
    (hlog : ∀ l, W (.insertLog l))
    (hrow : ∀ n : NewRow, n.strategy = signal.strategy → n.symbol = signal.symbol →
      n.signalUxid = signal.signalUxid → W (.insertRow n)) (result : TradeResult) :
    Prog.Sends (meek W) (fun _ => True) (P.recordResult signal result) := by
  refine Prog.Sends.bind (meek_host _) fun _ _ => ?_
  refine Prog.Sends.bind (meek_logPosition hlog _) fun _ _ => ?_
  split
  · refine Prog.Sends.bind (Q := fun _ => True) ?_ fun _ _ => notifyTrade_meek ..
    have hnone : closeStatus signal.action = none := by
      cases haction : signal.action with
      | long | short => rfl
      | tp1 | tp2 | sl | rSl | flat => simp [haction, SignalAction.isEntry] at hentry
    unfold persistSuccess
    rw [hnone]
    refine Prog.Sends.bind (notifyForcedClosed_meek ..) fun _ _ => ?_
    refine Prog.Sends.bind (Q := fun _ => True) (by simp) fun magic _ => ?_
    exact Prog.sends_perform ⟨rfl, Or.inr (hrow _ rfl rfl rfl)⟩ fun _ _ => trivial
  · exact notifyTrade_meek ..

end Writes

/-! ## The guards on the rows their reads show -/

/-- Some row shown blocks the entry on its symbol. -/
def blockedBy (signal : Signal) (rows : List Row) : Bool :=
  rows.any (Guard.blocks signal P.market.allowsMultiStrategyPerSymbol
    (P.market.allowsMultiPositionsPerSymbol && (text? signal.signalUxid).isSome))

/-- The rows shown fill the cap, and the entry replaces none of them. -/
def cappedBy (signal : Signal) (rows : List Row) : Bool :=
  P.settings.maxOpenOrders.any fun maxOrders =>
    0 < maxOrders ∧ ¬ rows.any (Guard.alreadyHeld signal P.market.allowsMultiPositionsPerSymbol) ∧
      maxOrders ≤ (rows.length : Int)

/-- The rows that `symbol_open_rejection` looks at. -/
def onSymbol (db : Db) (signal : Signal) : List Row :=
  db.activeForFlat none (some signal.symbol) none

def capReads : Nat := if P.settings.maxOpenOrders.any (0 < ·) then 1 else 0

/-- One of the two guards turns the entry away, on what the reads from number `n` on
show. -/
def GuardsSee (fails : Nat → Bool) (n : Nat) (db : Db) (signal : Signal) : Prop :=
  P.blockedBy signal (shown (fails n) (onSymbol db signal)) = true ∨
    P.cappedBy signal (shown (fails (n + 1)) (db.activeForFlat none none none)) = true

/-- The guards turn the entry away on what the store holds. -/
def GuardsReject (db : Db) (signal : Signal) : Prop :=
  P.blockedBy signal (onSymbol db signal) = true ∨
    P.cappedBy signal (db.activeForFlat none none none) = true

section Runs

variable {β : Type} (B : Backend β) (fails : Nat → Bool) (w : World (Counted β))

theorem symbolOpenRejection_run (signal : Signal) : ∃ reason,
    Prog.run (B.faulty fails) (Guard.symbolOpenRejection signal
        P.market.allowsMultiStrategyPerSymbol P.market.allowsMultiPositionsPerSymbol) w =
      (.ok reason, w.count) ∧
    (reason = none ↔
      P.blockedBy signal (shown (fails w.rest.reads) (onSymbol w.db signal)) = false) := by
  unfold Guard.symbolOpenRejection
  rw [Prog.run_bind_ok _ (faulty_getOpenPositionsForFlat_run B fails w ..)]
  dsimp only
  split
  · rename_i hnone
    refine ⟨none, rfl, iff_of_true rfl ?_⟩
    simpa [blockedBy, onSymbol] using hnone
  · rename_i hsome
    refine ⟨some _, rfl, iff_of_false (by simp) ?_⟩
    simpa [blockedBy, onSymbol] using hsome

theorem maxOpenOrdersRejection_run (signal : Signal) : ∃ reason w',
    Prog.run (B.faulty fails) (Guard.maxOpenOrdersRejection P.settings signal
        P.market.allowsMultiPositionsPerSymbol) w = (.ok reason, w') ∧
    w'.db = w.db ∧ w'.rest.reads = w.rest.reads + P.capReads ∧
    (reason = none ↔ P.cappedBy signal
      (shown (fails w.rest.reads) (w.db.activeForFlat none none none)) = false) := by
  unfold Guard.maxOpenOrdersRejection
  cases hmax : P.settings.maxOpenOrders with
  | none =>
      refine ⟨none, w, rfl, rfl, ?_, iff_of_true rfl ?_⟩
      · simp [capReads, hmax]
      · simp [cappedBy, hmax]
  | some maxOrders =>
      dsimp only
      split
      · rename_i hoff
        refine ⟨none, w, rfl, rfl, ?_, iff_of_true rfl ?_⟩
        · simp [capReads, hmax, hoff]
        · simp [cappedBy, hmax, hoff]
      · rename_i hon
        have hreads : w.count.rest.reads = w.rest.reads + P.capReads := by
          simp [capReads, hmax, not_le.mp hon]
        rw [Prog.run_bind_ok _ (faulty_getOpenPositionsForFlat_run B fails w ..)]
        split
        · rename_i hheld
          refine ⟨none, w.count, rfl, rfl, hreads, iff_of_true rfl ?_⟩
          simp only [cappedBy, hmax, Option.any_some, hheld, not_true_eq_false, false_and,
            and_false, decide_false]
        · rename_i hheld
          split
          · rename_i hroom
            refine ⟨none, w.count, rfl, rfl, hreads, iff_of_true rfl ?_⟩
            simp only [cappedBy, hmax, Option.any_some, not_le.mpr hroom, and_false, decide_false]
          · rename_i hfull
            refine ⟨some _, w.count, rfl, rfl, hreads, iff_of_false (by simp) ?_⟩
            simp only [cappedBy, hmax, Option.any_some, decide_eq_false_iff_not, not_and, not_le]
            intro hcap
            exact hfull (hcap (not_le.mp hon) hheld)

theorem entryQuote_run (hquote : P.AsksQuote) (signal : Signal) : ∃ quote w',
    Prog.run (B.faulty fails) (P.entryQuote signal) w = (.ok quote, w') ∧
      w'.db = w.db ∧ w'.rest.reads = w.rest.reads := by
  have hkeeps := (hquote signal).keeps (S := B.faulty fails)
    (I := fun w' => w'.db = w.db ∧ w'.rest.reads = w.rest.reads) ?_ ⟨rfl, rfl⟩
  · unfold entryQuote
    rw [Prog.run_tryCatch]
    rcases hrun : Prog.run (B.faulty fails) (P.market.entryPrice signal) w with ⟨_ | quote, w'⟩
    · rw [hrun] at hkeeps
      exact ⟨none, w', rfl, hkeeps⟩
    · rw [hrun] at hkeeps
      exact ⟨quote, w', rfl, hkeeps⟩
  · intro o w' hw' hguard
    refine ⟨trivial, ?_⟩
    cases o with
    | db o => exact False.elim hguard
    | fx o => exact hw'
    | cx o => exact hw'
    | host o => exact hw'

/-- The three guards: a rejection of the first two, or what the quote says. -/
theorem entryRejection_run (hquote : P.AsksQuote) (signal : Signal) : ∃ reason w',
    Prog.run (B.faulty fails) (P.entryRejection signal) w = (.ok reason, w') ∧
      w'.db = w.db ∧ (reason = none → ¬ P.GuardsSee fails w.rest.reads w.db signal ∧
        w'.rest.reads = w.rest.reads + 1 + P.capReads) := by
  obtain ⟨reason, hopen, hopen_iff⟩ := P.symbolOpenRejection_run B fails w signal
  unfold entryRejection
  rw [Prog.run_bind_ok _ hopen]
  cases reason with
  | some reason => exact ⟨some reason, w.count, rfl, rfl, fun h => by cases h⟩
  | none =>
      obtain ⟨reason, w₁, hcap, hdb₁, hreads₁, hcap_iff⟩ :=
        P.maxOpenOrdersRejection_run B fails w.count signal
      dsimp only
      rw [Prog.run_bind_ok _ hcap]
      cases reason with
      | some reason => exact ⟨some reason, w₁, rfl, hdb₁, fun h => by cases h⟩
      | none =>
          obtain ⟨quote, w₂, hrun, hdb₂, hreads₂⟩ := P.entryQuote_run B fails w₁ hquote signal
          dsimp only
          rw [Prog.run_bind_ok _ hrun]
          refine ⟨_, w₂, rfl, hdb₂.trans hdb₁, fun _ => ⟨?_, ?_⟩⟩
          · rintro (hblocked | hcapped)
            · rw [hopen_iff.mp rfl] at hblocked
              cases hblocked
            · have hfree := hcap_iff.mp rfl
              rw [World.count_reads, World.count_db] at hfree
              rw [hfree] at hcapped
              cases hcapped
          · rw [hreads₂, hreads₁, World.count_reads]

end Runs

theorem entryRejection_meek {W : DbOp → Prop} (hquote : P.AsksQuote) (signal : Signal) :
    Prog.Sends (meek W) (fun _ => True) (P.entryRejection signal) := by
  refine Prog.Sends.bind (symbolOpenRejection_meek ..) fun reason _ => ?_
  cases reason with
  | some reason => simp
  | none =>
      refine Prog.Sends.bind (maxOpenOrdersRejection_meek ..) fun reason _ => ?_
      cases reason with
      | some reason => simp
      | none =>
          refine Prog.Sends.bind (Q := fun _ => True) ?_ fun quote _ => by simp
          refine Prog.Sends.tryCatch ((hquote signal).relax ?_ fun _ _ _ => trivial)
            fun _ => by simp
          intro o ho
          cases o with
          | db o => exact False.elim ho
          | fx o => exact ⟨ho, trivial⟩
          | cx o => exact ⟨ho, trivial⟩
          | host o => exact ⟨ho, trivial⟩

/-! ## Delivery -/

/-- A signal comes with its message, or with the replay after a reconnect. -/
inductive Delivery where
  | live
  | replay (now : ℚ)

/-- The number of the read the guards of a delivered entry begin with. -/
def Delivery.firstRead : Delivery → Signal → Nat → Nat
  | .live, _, n => n
  | .replay _, signal, n => if (text? signal.signalId).isSome then n + 1 else n

variable [LivePosition Pos]

def deliver : Delivery → Signal → Work Unit
  | .live, signal => P.processMessage signal
  | .replay now, signal => P.retrySignal now signal

/-- What becomes of an entry: nothing, a rejection, or an execution the guards' reads
did not speak against. -/
inductive EntryBecomes {β : Type} (S : Prog.Server WorkerOp WorkerOp.Ans Exn (World (Counted β)))
    (fails : Nat → Bool) (n : Nat) (signal : Signal) (p : Work Unit) (w : World (Counted β)) :
    Prop where
  | ends (w' : World (Counted β)) (hdb : w'.db = w.db)
      (h : Prog.Becomes S Idle p w (.ret () : Work Unit) w')
  | rejects (w' : World (Counted β)) (reason : String) (hdb : w'.db = w.db)
      (h : Prog.Becomes S Idle p w (P.rejectSignal signal reason) w')
  | executes (w' : World (Counted β)) (hdb : w'.db = w.db)
      (hreads : w'.rest.reads = n + 1 + P.capReads) (hsee : ¬ P.GuardsSee fails n w.db signal)
      (h : Prog.Becomes S Idle p w (P.executeSignal signal) w')

section Deliver

variable {P} {β : Type} {S : Prog.Server WorkerOp WorkerOp.Ans Exn (World (Counted β))}
  {fails : Nat → Bool} {n : Nat} {signal : Signal}

/-- What becomes of a program becomes of one that comes to it. -/
theorem EntryBecomes.of_becomes {p q : Work Unit} {w w' : World (Counted β)}
    (h : P.EntryBecomes S fails n signal q w') (hdb : w'.db = w.db)
    (hp : Prog.Becomes S Idle p w q w') : P.EntryBecomes S fails n signal p w := by
  cases h with
  | ends w'' hdb' h => exact .ends w'' (hdb'.trans hdb) (hp.trans h)
  | rejects w'' reason hdb' h => exact .rejects w'' reason (hdb'.trans hdb) (hp.trans h)
  | executes w'' hdb' hreads hsee h =>
      exact .executes w'' (hdb'.trans hdb) hreads (hdb ▸ hsee) (hp.trans h)

variable {B : Backend β}

/-- A host call first: the program goes on with its answer, or ends. -/
theorem EntryBecomes.of_host {o : HostOp} {f : o.Ans → Work Unit} {w : World (Counted β)}
    (h : ∀ a (rest : β), P.EntryBecomes (B.faulty fails) fails n signal (f a) (w.move rest)) :
    P.EntryBecomes (B.faulty fails) fails n signal (host o >>= f) w := by
  have hidle := obeys_idle (meek_host o) (B.faulty fails) w
  have hrun := faulty_host_run B fails w o
  cases hanswer : (B.host o w.rest.rest).1 with
  | error e =>
      rw [hanswer] at hrun
      exact .ends _ (World.move_db ..) (Prog.Becomes.bind_error hidle hrun ())
  | ok a =>
      rw [hanswer] at hrun
      exact (h a _).of_becomes (World.move_db ..) (Prog.Becomes.bind hidle hrun)

theorem processSignal_becomes (hquote : P.AsksQuote) (hentry : signal.action.isEntry = true)
    (w : World (Counted β)) :
    P.EntryBecomes (B.faulty fails) fails w.rest.reads signal (P.processSignal signal) w := by
  unfold processSignal
  refine EntryBecomes.of_host fun blocked rest => ?_
  split
  · exact .ends _ rfl (Prog.Becomes.refl _ _)
  · cases hmagic : P.magicFor signal.strategy with
    | error e =>
        have hunknown : ∀ report, P.EntryBecomes (B.faulty fails) fails w.rest.reads signal (do
            let _footer ← host .currentFooter
            host (.notify report)) (w.move rest) := by
          intro report
          refine EntryBecomes.of_host fun footer rest' => ?_
          have hidle := obeys_idle (meek_host (.notify report)) (B.faulty fails)
            ((w.move rest).move rest')
          refine .ends _ ?_ (Prog.Becomes.ret hidle ())
          rw [faulty_host_run]
          rfl
        cases e with
        | keyError k => exact hunknown _
        | valueError m => exact hunknown _
        | _ => exact .ends _ rfl ⟨⟨[], by simp, rfl⟩, rfl⟩
    | ok magic =>
        dsimp only
        obtain ⟨reason, w', hrun, hdb, hnone⟩ :=
          P.entryRejection_run B fails (w.move rest) hquote signal
        have hidle := obeys_idle (P.entryRejection_meek hquote signal) (B.faulty fails)
          (w.move rest)
        cases reason with
        | some reason => exact .rejects w' reason hdb (Prog.Becomes.bind hidle hrun)
        | none =>
            obtain ⟨hsee, hreads⟩ := hnone rfl
            exact .executes w' hdb hreads hsee (Prog.Becomes.bind hidle hrun)

/-- Whichever way it comes, what becomes of a delivered entry is told by its guards. -/
theorem deliver_becomes (B : Backend β) (fails : Nat → Bool) (hquote : P.AsksQuote)
    (hentry : signal.action.isEntry = true) (d : Delivery) (w : World (Counted β)) :
    P.EntryBecomes (B.faulty fails) fails (d.firstRead signal w.rest.reads) signal
      (P.deliver d signal) w := by
  cases d with
  | live =>
      refine EntryBecomes.of_host fun connected rest => ?_
      split
      · exact processSignal_becomes hquote hentry (w.move rest)
      · exact .ends _ rfl (Prog.Becomes.refl _ _)
  | replay now =>
      let finish (seen : Bool) : Work Unit :=
        if seen then pure ()
        else if maxRetryTimeout < now - signal.timestamp then pure ()
        else Prog.tryCatch (P.processSignal signal) fun _ => pure ()
      have hfinish : ∀ (w' : World (Counted β)) (seen : Bool),
          P.EntryBecomes (B.faulty fails) fails w'.rest.reads signal (finish seen) w' := by
        intro w' seen
        unfold finish
        split
        · exact .ends _ rfl (Prog.Becomes.refl _ _)
        · split
          · exact .ends _ rfl (Prog.Becomes.refl _ _)
          · exact (processSignal_becomes hquote hentry w').of_becomes rfl
              (Prog.Becomes.swallow _ _ _)
      cases hid : text? signal.signalId with
      | none =>
          have hfirst : (Delivery.replay now).firstRead signal w.rest.reads = w.rest.reads := by
            simp [Delivery.firstRead, hid]
          have hprog : P.deliver (.replay now) signal = finish false := by
            simp only [deliver, retrySignal, hid]
            rfl
          rw [hfirst, hprog]
          exact hfinish w false
      | some id =>
          have hne : id ≠ "" := (text?_eq_some.mp hid).2
          have hfirst : (Delivery.replay now).firstRead signal w.rest.reads =
              w.count.rest.reads := by
            simp [Delivery.firstRead, hid]
          have hprog : P.deliver (.replay now) signal = (signalExists id >>= finish) := by
            simp only [deliver, retrySignal, hid]
            rfl
          have hidle := obeys_idle (signalExists_meek id) (B.faulty fails) w
          rw [hfirst, hprog]
          exact (hfinish w.count _).of_becomes (World.count_db w)
            (Prog.Becomes.bind hidle (faulty_signalExists_run B fails w hne))

end Deliver

/-! ## A run of entries -/

/-- One signal handled: the worlds around it and the calls made. -/
structure Handling (σ : Type) where
  delivery : Delivery
  signal : Signal
  before : σ
  after : σ
  calls : List WorkerOp

/-- One signal handled; an exception ends only its own handling. -/
def handleOne {σ : Type} (S : Prog.Server WorkerOp WorkerOp.Ans Exn σ) (d : Delivery)
    (signal : Signal) (w : σ) : Handling σ where
  delivery := d
  signal
  before := w
  after := (Prog.run S (Prog.tryCatch (P.deliver d signal) fun _ => pure ()) w).2
  calls := Prog.calls S (Prog.tryCatch (P.deliver d signal) fun _ => pure ()) w

/-- Signals handled one after the other. -/
def handleEach {σ : Type} (S : Prog.Server WorkerOp WorkerOp.Ans Exn σ) :
    List (Delivery × Signal) → σ → List (Handling σ)
  | [], _ => []
  | (d, signal) :: rest, w =>
      P.handleOne S d signal w :: handleEach S rest (P.handleOne S d signal w).after

/-- What one handling keeps, a run of them keeps, and all of them meet `R`. -/
theorem forall_handleEach {σ : Type} {S : Prog.Server WorkerOp WorkerOp.Ans Exn σ}
    {I : σ → Prop} {C R : Handling σ → Prop} {signals : List (Delivery × Signal)} {w : σ}
    (hstep : ∀ d signal w, (d, signal) ∈ signals → I w → C (P.handleOne S d signal w) →
      R (P.handleOne S d signal w) ∧ I (P.handleOne S d signal w).after)
    (hw : I w) (hC : ∀ h ∈ P.handleEach S signals w, C h) :
    ∀ h ∈ P.handleEach S signals w, R h := by
  induction signals generalizing w with
  | nil =>
      intro h hh
      cases hh
  | cons x rest ih =>
      obtain ⟨d, signal⟩ := x
      obtain ⟨hR, hI⟩ := hstep d signal w List.mem_cons_self hw (hC _ List.mem_cons_self)
      intro h hh
      rcases List.mem_cons.mp hh with rfl | hh
      · exact hR
      · refine ih (fun d' signal' w' hmem => hstep d' signal' w' (List.mem_cons_of_mem _ hmem))
          hI (fun h' hh' => hC h' (List.mem_cons_of_mem _ hh')) h hh

/-- What becomes of the delivery becomes of its handling. -/
theorem handleOne_becomes {σ : Type} (S : Prog.Server WorkerOp WorkerOp.Ans Exn σ)
    (d : Delivery) (signal : Signal) (w : σ) :
    (P.handleOne S d signal w).after = (Prog.run S (P.deliver d signal) w).2 ∧
      (P.handleOne S d signal w).calls = Prog.calls S (P.deliver d signal) w :=
  ⟨Prog.run_swallow S _ _ _, Prog.calls_swallow S _ _ _⟩

end Processor

/-- What the statements allowed keep of the store, a call that writes nothing else
keeps. -/
theorem faulty_keeps {β : Type} {B : Backend β} {fails : Nat → Bool} {W : DbOp → Prop}
    {I : Db → Prop} (hW : ∀ o db, W o → I db → I (Db.serve o db).2) (o : WorkerOp)
    (w : World (Counted β)) (hw : I w.db) (ho : WritesOnly W o) :
    I ((B.faulty fails) o w).2.db := by
  cases o with
  | db o =>
      cases hread : o.isRead with
      | true => simpa [Backend.faulty, hread] using hw
      | false =>
          have hallowed : W o := by simpa [WritesOnly, hread] using ho
          simpa [Backend.faulty, hread] using hW o w.db hallowed hw
  | fx o => exact hw
  | cx o => exact hw
  | host o => exact hw

end TradeWorker
