import TradeWorker.Processor

/-!
# A replay takes time

`_apply_retry_signals` reads the clock once and measures every signal of the batch against
that reading. The signals are processed one after the other, and each takes its time; so the
age a signal is let through with is not the age it is processed at.
-/

namespace Prog

variable {Op : Type} {Ans : Op → Type} {ε α β σ : Type} (S : Server Op Ans ε σ)

/-- The calls of a run, each with the state it was made in. -/
def visits : Prog Op Ans ε α → σ → List (Op × σ)
  | .ret _, _ => []
  | .raise _, _ => []
  | .call o k, s => (o, s) :: visits (k (S o s).1) (S o s).2

theorem visits_bind_ok {p : Prog Op Ans ε α} {f : α → Prog Op Ans ε β} {s s' : σ} {a : α}
    (h : run S p s = (.ok a, s')) : visits S (p >>= f) s = visits S p s ++ visits S (f a) s' := by
  induction p generalizing s with
  | ret b =>
      cases h
      rfl
  | raise e => cases h
  | call o k ih => exact congrArg ((o, s) :: ·) (ih _ h)

theorem visits_swallow (p : Prog Op Ans ε α) (a : α) (s : σ) :
    visits S (tryCatch p fun _ => pure a) s = visits S p s := by
  induction p generalizing s with
  | ret b => rfl
  | raise e => rfl
  | call o k ih => exact congrArg _ (ih _ _)

theorem visits_perform (o : Op) (s : σ) : visits S (perform o) s = [(o, s)] := by
  rcases hS : S o s with ⟨_ | a, s'⟩ <;> simp [perform, visits, hS]

end Prog

namespace TradeWorker

/-- A world with a clock: what `now` answers is what the clock shows. -/
structure Clocked (σ : Type) where
  serve : Prog.Server WorkerOp WorkerOp.Ans Exn σ
  clock : σ → ℚ
  reads : ∀ s, (serve (.host .now) s).1 = .ok (clock s)

/-- The call `_process_signal` begins with, which nothing else of a replay makes first. -/
def WorkerOp.asksBlocked : WorkerOp → Bool
  | .host .signalsBlocked => true
  | _ => false

/-! ## One signal of the batch -/

def retrySeen (signal : Signal) : Work Bool :=
  match text? signal.signalId with
  | some id => signalExists id
  | none => pure false

/-- What `_apply_retry_signals` asks of the age. -/
def withinRetry (now : ℚ) (signal : Signal) : Prop :=
  now - signal.timestamp ≤ Processor.maxRetryTimeout

instance (now : ℚ) (signal : Signal) : Decidable (withinRetry now signal) :=
  inferInstanceAs (Decidable (_ ≤ _))

namespace Processor

variable {σ Pos : Type} [LivePosition Pos] (P : Processor Pos)

theorem retrySignal_eq (now : ℚ) (signal : Signal) :
    P.retrySignal now signal = retrySeen signal >>= fun seen =>
      if seen then pure ()
      else if maxRetryTimeout < now - signal.timestamp then pure ()
      else Prog.tryCatch (P.processSignal signal) fun _ => pure () := by
  unfold retrySignal retrySeen
  cases text? signal.signalId <;> rfl

end Processor

namespace Clocked

variable {σ Pos : Type} [LivePosition Pos] (C : Clocked σ) (P : Processor Pos)

def lookedUp (signal : Signal) (s : σ) : σ := (Prog.run C.serve (retrySeen signal) s).2

def Unseen (signal : Signal) (s : σ) : Prop :=
  (Prog.run C.serve (retrySeen signal) s).1 = .ok false

/-- The signal is let through. -/
def Passes (now : ℚ) (signal : Signal) (s : σ) : Prop :=
  C.Unseen signal s ∧ withinRetry now signal

/-- What the clock shows each time a program asks whether signals are blocked. -/
def blockedAsked {α : Type} (p : Work α) (s : σ) : List ℚ :=
  ((Prog.visits C.serve p s).filter (·.1.asksBlocked)).map fun visit => C.clock visit.2

/-- What it shows when the signal is passed on to `_process_signal`, if it is. -/
def passedAt (now : ℚ) (signal : Signal) (s : σ) : Option ℚ :=
  (C.blockedAsked (P.retrySignal now signal) s).head?

/-- The lookup never raises: an error counts as seen. -/
theorem run_retrySeen (signal : Signal) (s : σ) :
    ∃ seen, Prog.run C.serve (retrySeen signal) s = (.ok seen, C.lookedUp signal s) := by
  unfold lookedUp retrySeen signalExists
  split
  · split
    · exact ⟨false, rfl⟩
    · rename_i id _ _
      rw [Prog.run_tryCatch, sql, Prog.run_perform]
      rcases C.serve (.db (.selectLogged id)) s with ⟨e | seen, s'⟩
      · exact ⟨true, rfl⟩
      · exact ⟨seen, rfl⟩
  · exact ⟨false, rfl⟩

theorem run_retrySignal_of_not_passes {now : ℚ} {signal : Signal} {s : σ}
    (h : ¬C.Passes now signal s) :
    Prog.run C.serve (P.retrySignal now signal) s = (.ok (), C.lookedUp signal s) := by
  obtain ⟨seen, hrun⟩ := C.run_retrySeen signal s
  rw [P.retrySignal_eq, Prog.run_bind_ok C.serve hrun]
  cases seen with
  | true => rfl
  | false =>
      have hstale : Processor.maxRetryTimeout < now - signal.timestamp := by
        refine not_le.mp fun hfresh => h ⟨?_, hfresh⟩
        rw [Unseen, hrun]
      rw [if_neg Bool.false_ne_true, if_pos hstale]
      rfl

/-- The lookup does not ask whether signals are blocked. -/
theorem asksNothing_retrySeen (signal : Signal) (s : σ) :
    (Prog.visits C.serve (retrySeen signal) s).filter (·.1.asksBlocked) = [] := by
  unfold retrySeen signalExists
  split
  · split
    · rfl
    · rw [Prog.visits_swallow, sql, Prog.visits_perform]
      rfl
  · rfl

/-- A signal that is let through is passed on when it has been looked up. -/
theorem passedAt_of_passes {now : ℚ} {signal : Signal} {s : σ} (h : C.Passes now signal s) :
    C.passedAt P now signal s = some (C.clock (C.lookedUp signal s)) := by
  obtain ⟨seen, hrun⟩ := C.run_retrySeen signal s
  obtain rfl : seen = false := Except.ok.inj ((congrArg Prod.fst hrun).symm.trans h.1)
  rw [passedAt, blockedAsked, P.retrySignal_eq, Prog.visits_bind_ok C.serve hrun,
    if_neg Bool.false_ne_true, if_neg (not_lt.mpr h.2), Prog.visits_swallow, List.filter_append,
    C.asksNothing_retrySeen, List.nil_append]
  rfl

theorem passedAt_of_not_passes {now : ℚ} {signal : Signal} {s : σ}
    (h : ¬C.Passes now signal s) : C.passedAt P now signal s = none := by
  obtain ⟨seen, hrun⟩ := C.run_retrySeen signal s
  rw [passedAt, blockedAsked, P.retrySignal_eq, Prog.visits_bind_ok C.serve hrun,
    List.filter_append, C.asksNothing_retrySeen, List.nil_append]
  cases seen with
  | true => rfl
  | false =>
      have hstale : Processor.maxRetryTimeout < now - signal.timestamp := by
        refine not_le.mp fun hfresh => h ⟨?_, hfresh⟩
        rw [Unseen, hrun]
      rw [if_neg Bool.false_ne_true, if_pos hstale]
      rfl

theorem run_retrySignal_of_passes {now : ℚ} {signal : Signal} {s : σ}
    (h : C.Passes now signal s) :
    Prog.run C.serve (P.retrySignal now signal) s =
      (.ok (), (Prog.run C.serve (P.processSignal signal) (C.lookedUp signal s)).2) := by
  obtain ⟨seen, hrun⟩ := C.run_retrySeen signal s
  obtain rfl : seen = false := Except.ok.inj ((congrArg Prod.fst hrun).symm.trans h.1)
  rw [P.retrySignal_eq, Prog.run_bind_ok C.serve hrun, if_neg Bool.false_ne_true,
    if_neg (not_lt.mpr h.2), Prog.run_tryCatch]
  rcases Prog.run C.serve (P.processSignal signal) (C.lookedUp signal s) with ⟨e | u, s'⟩ <;> rfl

/-! ## The batch -/

/-- The world after these signals of the batch. -/
def reached (now : ℚ) (signals : List Signal) (s : σ) : σ :=
  (Prog.run C.serve (P.retryEach now signals) s).2

/-- An exception of one signal does not end the batch. -/
theorem run_retrySignal (now : ℚ) (signal : Signal) (s : σ) :
    Prog.run C.serve (P.retrySignal now signal) s = (.ok (), C.reached P now [signal] s) := by
  have hok : (Prog.run C.serve (P.retrySignal now signal) s).1 = .ok () := by
    by_cases h : C.Passes now signal s
    · rw [C.run_retrySignal_of_passes P h]
    · rw [C.run_retrySignal_of_not_passes P h]
  have hrun : Prog.run C.serve (P.retrySignal now signal) s =
      (.ok (), (Prog.run C.serve (P.retrySignal now signal) s).2) := Prod.ext hok rfl
  rw [reached, Processor.retryEach, Prog.run_bind_ok C.serve hrun]
  exact hrun

theorem reached_cons (now : ℚ) (signal : Signal) (rest : List Signal) (s : σ) :
    C.reached P now (signal :: rest) s = C.reached P now rest (C.reached P now [signal] s) := by
  rw [reached, Processor.retryEach, Prog.run_bind_ok C.serve (C.run_retrySignal P ..)]
  rfl

/-- The world when the batch has come to a signal, `before` it: the clock was read first. -/
def arrival (before : List Signal) (s : σ) : σ :=
  C.reached P (C.clock s) before (C.serve (.host .now) s).2

/-- The batch asks for the clock, and takes one signal after the other from where the last
one has left the world. -/
theorem visits_applyRetrySignals (before rest : List Signal) (signal : Signal) (s : σ) :
    Prog.visits C.serve (P.retrySignal (C.clock s) signal) (C.arrival P before s) <:+:
      Prog.visits C.serve (P.applyRetrySignals (before ++ signal :: rest)) s := by
  have heach : ∀ (before : List Signal) (s₀ : σ),
      Prog.visits C.serve (P.retryEach (C.clock s) (signal :: rest))
          (C.reached P (C.clock s) before s₀) <:+
        Prog.visits C.serve (P.retryEach (C.clock s) (before ++ signal :: rest)) s₀ := by
    intro before
    induction before with
    | nil => exact fun s₀ => List.suffix_rfl
    | cons first before ih =>
        intro s₀
        have hvisits : Prog.visits C.serve
            (P.retryEach (C.clock s) (first :: (before ++ signal :: rest))) s₀ = _ :=
          Prog.visits_bind_ok C.serve (C.run_retrySignal P _ first s₀)
        rw [List.cons_append, hvisits, C.reached_cons]
        exact (ih _).trans (List.suffix_append _ _)
  have hhere : Prog.visits C.serve (P.retrySignal (C.clock s) signal) (C.arrival P before s) <:+:
      Prog.visits C.serve (P.retryEach (C.clock s) (signal :: rest)) (C.arrival P before s) := by
    rw [Processor.retryEach, Prog.visits_bind_ok C.serve (C.run_retrySignal P ..)]
    exact (List.prefix_append _ _).isInfix
  have hnow : Prog.run C.serve (host .now) s = (.ok (C.clock s), (C.serve (.host .now) s).2) :=
    (Prog.run_perform ..).trans (Prod.ext (C.reads s) rfl)
  have happly : P.applyRetrySignals (before ++ signal :: rest) =
      host .now >>= fun now => P.retryEach now (before ++ signal :: rest) := by
    cases before <;> rfl
  rw [happly, Prog.visits_bind_ok C.serve hnow]
  exact (hhere.trans (heach before _).isInfix).trans (List.suffix_append _ _).isInfix

/-- Every signal of the batch that is passed on is within `MAX_RETRY_TIMEOUT` by the clock at
that moment. -/
def NeverStale (signals : List Signal) (s : σ) : Prop :=
  ∀ before signal rest, signals = before ++ signal :: rest →
    ∀ t, C.passedAt P (C.clock s) signal (C.arrival P before s) = some t → withinRetry t signal

end Clocked

/-! ## What a batch meets -/

/-- A signal, whether the log knows it, and what its lookup and its processing take. -/
structure Turn where
  signal : Signal
  seen : Bool
  lookup : ℚ
  processing : ℚ

namespace Turn

/-- The signal is let through. -/
def Passes (now : ℚ) (turn : Turn) : Prop := turn.seen = false ∧ withinRetry now turn.signal

instance (now : ℚ) (turn : Turn) : Decidable (turn.Passes now) :=
  inferInstanceAs (Decidable (_ ∧ _))

/-- The time the batch is held up. -/
def takes (now : ℚ) (turn : Turn) : ℚ :=
  turn.lookup + if turn.Passes now then turn.processing else 0

/-- What is left of the signal's `MAX_RETRY_TIMEOUT`. -/
def left (now : ℚ) (turn : Turn) : ℚ :=
  Processor.maxRetryTimeout - (now - turn.signal.timestamp)

/-- What was spent so far, the turns before it and its own lookup take no longer than a signal
that is let through has left. -/
def InTime (now : ℚ) : ℚ → List Turn → Prop
  | _, [] => True
  | spent, turn :: rest =>
      (turn.Passes now → spent + turn.lookup ≤ turn.left now) ∧
        InTime now (spent + turn.takes now) rest

instance decidableInTime (now : ℚ) : (spent : ℚ) → (turns : List Turn) →
    Decidable (InTime now spent turns)
  | _, [] => isTrue trivial
  | spent, turn :: rest =>
      have := decidableInTime now (spent + turn.takes now) rest
      inferInstanceAs (Decidable (_ ∧ _))

theorem inTime_iff {now spent : ℚ} {turns : List Turn} : InTime now spent turns ↔
    ∀ before turn rest, turns = before ++ turn :: rest → turn.Passes now →
      spent + (before.map (takes now)).sum + turn.lookup ≤ turn.left now := by
  induction turns generalizing spent with
  | nil => simp [InTime]
  | cons first turns ih =>
      rw [InTime, ih]
      constructor
      · rintro ⟨hfirst, hrest⟩ before turn rest hturns hpasses
        cases before with
        | nil =>
            cases hturns
            simpa using hfirst hpasses
        | cons _ before =>
            cases hturns
            rw [List.map_cons, List.sum_cons, ← add_assoc]
            exact hrest before turn rest rfl hpasses
      · intro h
        constructor
        · intro hpasses
          simpa using h [] first turns rfl hpasses
        · intro before turn rest hturns hpasses
          have hlater := h (first :: before) turn rest (by rw [hturns]; rfl) hpasses
          rwa [List.map_cons, List.sum_cons, ← add_assoc] at hlater

end Turn

namespace Clocked

variable {σ Pos : Type} [LivePosition Pos] (C : Clocked σ) (P : Processor Pos)

/-- The batch meets these turns in a world. -/
def Meets (now : ℚ) : List Turn → σ → Prop
  | [], _ => True
  | turn :: rest, s =>
      (Prog.run C.serve (retrySeen turn.signal) s).1 = .ok turn.seen ∧
        C.clock (C.lookedUp turn.signal s) = C.clock s + turn.lookup ∧
        (turn.Passes now →
          C.clock (Prog.run C.serve (P.processSignal turn.signal) (C.lookedUp turn.signal s)).2 =
            C.clock (C.lookedUp turn.signal s) + turn.processing) ∧
        Meets now rest (C.reached P now [turn.signal] s)

variable {C P}

/-- A batch meets some turns in every world. -/
theorem exists_meets (now : ℚ) (signals : List Signal) (s : σ) :
    ∃ turns, turns.map (·.signal) = signals ∧ C.Meets P now turns s := by
  induction signals generalizing s with
  | nil => exact ⟨[], rfl, trivial⟩
  | cons signal rest ih =>
      obtain ⟨turns, rfl, hmeets⟩ := ih (C.reached P now [signal] s)
      obtain ⟨seen, hrun⟩ := C.run_retrySeen signal s
      refine ⟨{ signal, seen, lookup := C.clock (C.lookedUp signal s) - C.clock s,
                processing := C.clock (Prog.run C.serve (P.processSignal signal)
                  (C.lookedUp signal s)).2 - C.clock (C.lookedUp signal s) } :: turns,
        rfl, ?_, ?_, ?_, hmeets⟩
      · rw [hrun]
      · exact (add_sub_cancel _ _).symm
      · exact fun _ => (add_sub_cancel _ _).symm

theorem passes_iff {now : ℚ} {turn : Turn} {s : σ}
    (hseen : (Prog.run C.serve (retrySeen turn.signal) s).1 = .ok turn.seen) :
    C.Passes now turn.signal s ↔ turn.Passes now := by
  rw [Passes, Unseen, hseen, Turn.Passes, Except.ok.injEq]

/-- A turn holds the batch up for as long as it takes. -/
theorem clock_reached_turn {now : ℚ} {turn : Turn} {rest : List Turn} {s : σ}
    (h : C.Meets P now (turn :: rest) s) :
    C.clock (C.reached P now [turn.signal] s) = C.clock s + turn.takes now := by
  obtain ⟨hseen, hlookup, hprocessing, -⟩ := h
  have hrun := C.run_retrySignal P now turn.signal s
  rw [Turn.takes]
  by_cases hpasses : turn.Passes now
  · rw [C.run_retrySignal_of_passes P ((passes_iff hseen).mpr hpasses)] at hrun
    rw [← (Prod.mk.inj hrun).2, if_pos hpasses, hprocessing hpasses, hlookup, add_assoc]
  · rw [C.run_retrySignal_of_not_passes P (mt (passes_iff hseen).mp hpasses)] at hrun
    rw [← (Prod.mk.inj hrun).2, if_neg hpasses, hlookup, add_zero]

/-- So the clock goes on by the turns before, and the rest is met from there. -/
theorem Meets.append {now : ℚ} {before turns : List Turn} {s : σ}
    (h : C.Meets P now (before ++ turns) s) :
    C.clock (C.reached P now (before.map (·.signal)) s) =
        C.clock s + (before.map (Turn.takes now)).sum ∧
      C.Meets P now turns (C.reached P now (before.map (·.signal)) s) := by
  induction before generalizing s with
  | nil => exact ⟨(add_zero _).symm, h⟩
  | cons turn before ih =>
      obtain ⟨hclock, hmeets⟩ := ih h.2.2.2
      rw [List.map_cons, C.reached_cons, List.map_cons, List.sum_cons, ← add_assoc,
        ← clock_reached_turn h]
      exact ⟨hclock, hmeets⟩

/-- A replay fires no stale signal exactly when it is quick enough for each one it lets
through. -/
theorem neverStale_iff (turns : List Turn) (s : σ) (reading : ℚ)
    (hreading : C.clock (C.serve (.host .now) s).2 = C.clock s + reading)
    (hmeets : C.Meets P (C.clock s) turns (C.serve (.host .now) s).2) :
    C.NeverStale P (turns.map (·.signal)) s ↔ Turn.InTime (C.clock s) reading turns := by
  rw [Turn.inTime_iff]
  have hpassed : ∀ before turn rest, turns = before ++ turn :: rest → turn.Passes (C.clock s) →
      C.passedAt P (C.clock s) turn.signal (C.arrival P (before.map (·.signal)) s) =
        some (C.clock s + (reading + (before.map (Turn.takes (C.clock s))).sum +
          turn.lookup)) := by
    rintro before turn rest rfl hpasses
    obtain ⟨hclock, hseen, hlookup, -⟩ := hmeets.append
    rw [arrival, C.passedAt_of_passes P ((passes_iff hseen).mpr hpasses), hlookup, hclock,
      hreading]
    ring_nf
  have hage : ∀ (turn : Turn) (t : ℚ), withinRetry (C.clock s + t) turn.signal ↔
      t ≤ turn.left (C.clock s) := by
    intro turn t
    rw [withinRetry, Turn.left]
    constructor <;> intro h <;> linarith
  constructor
  · rintro h before turn rest rfl hpasses
    rw [← hage]
    exact h (before.map (·.signal)) turn.signal (rest.map (·.signal)) (by simp) _
      (hpassed before turn rest rfl hpasses)
  · intro h signals signal others hsignals t ht
    obtain ⟨before, suffix, rfl, rfl, hsuffix⟩ := List.map_eq_append_iff.mp hsignals
    obtain ⟨turn, rest, rfl, rfl, rfl⟩ := List.map_eq_cons_iff.mp hsuffix
    obtain ⟨-, hseen, -⟩ := hmeets.append
    by_cases hpasses : turn.Passes (C.clock s)
    · rw [hpassed before turn rest rfl hpasses, Option.some_inj] at ht
      rw [← ht, hage]
      exact h before turn rest rfl hpasses
    · rw [arrival, C.passedAt_of_not_passes P (mt (passes_iff hseen).mp hpasses)] at ht
      cases ht

/-- Nothing is blocked and the log is empty; what asks the database, the broker or the chat
waits in vain, for so many seconds each time. -/
def stalled (delay : ℚ) : Clocked ℚ where
  serve
    | .host .now, t => (.ok t, t)
    | .host .signalsBlocked, t => (.ok false, t)
    | .host (.handling _), t => (.ok (), t)
    | .db (.selectLogged _), t => (.ok false, t)
    | _, t => (.error (.gateway "timed out"), t + delay)
  clock := id
  reads _ := rfl

/-- A signal of fifty seconds ago, when the batch begins. -/
def recent (signalId : String) : Signal where
  strategy := "trend"
  timestamp := 950
  action := .tp1
  symbol := "BTCUSDT"
  signalId := some signalId

/-- Two waits of four seconds for the first signal leave the second one fresh. -/
theorem briefStall_neverStale :
    (stalled 4).NeverStale (cryptoProcessor { config := {} } {}) [recent "a", recent "b"]
      1000 := by
  refine (neverStale_iff [⟨recent "a", false, 0, 8⟩, ⟨recent "b", false, 0, 8⟩] 1000 0 ?_
    ?_).mpr ?_
  · decide +kernel
  · exact ⟨rfl, by decide +kernel, fun _ => by decide +kernel,
      rfl, by decide +kernel, fun _ => by decide +kernel, trivial⟩
  · decide +kernel

/-- Two waits of more than a minute: the second one is passed on when it is too old. -/
theorem stalled_firesStale :
    ¬(stalled 70).NeverStale (cryptoProcessor { config := {} } {}) [recent "a", recent "b"]
      1000 := by
  intro h
  have hstale := h [recent "a"] (recent "b") [] rfl _
    ((stalled 70).passedAt_of_passes _ ⟨rfl, by decide +kernel⟩)
  revert hstale
  decide +kernel

end Clocked

end TradeWorker
