import Mathlib.Data.List.Basic
import Mathlib.Logic.Relation

/-!
# The child of a process gateway

`GatewayProcessOrchestrator` keeps a worker in a child process. Its watchdog restarts a dead
child in a thread, its `shutdown` stops the manager in another. Cancelling the watchdog ends
the task that waits for a restart and not the thread that runs it, so the writes of `restart`
may fall anywhere between those of `stop`.
-/

namespace TradeWorker.ProcessGateway

/-! ## The manager, the watchdog and the shutdown -/

/-- A process object: made by `_spawn`, started, or dead. -/
inductive Child where
  | unstarted | running | dead
  deriving DecidableEq, Repr

/-- Where the thread of `restart` stands: what it does next. -/
inductive RestartStage where
  | idle | queued | unmarking | clearing | spawning | starting
  deriving DecidableEq, Repr

/-- Where `shutdown` and the thread of its `stop` stand: what is done next. -/
inductive StopStage where
  | waiting | marking | checking | signalling | joining | rechecking | terminating
  | joiningAgain | checkingLast | killing | ended
  deriving DecidableEq, Repr

inductive WatchdogStage where
  | sleeping | awaiting | ended
  deriving DecidableEq, Repr

/-- The manager and the threads that write it. `children` are all the process objects there
ever were, the one in `_process` first. -/
structure Host where
  stopping : Bool := false
  stopEvent : Bool := false
  children : List Child := [.running]
  watchdog : WatchdogStage := .sleeping
  restart : RestartStage := .idle
  stop : StopStage := .waiting
  deriving DecidableEq, Repr

/-- The object in `_process`. -/
def Host.process (s : Host) : Child := s.children.headD .unstarted

def Host.isAlive (s : Host) : Bool := s.process = .running

/-- `_process` is in another state. -/
def Host.setProcess (s : Host) (c : Child) : Host := { s with children := c :: s.children.tail }

/-- What follows a `join` of `stop`: a look at whether the child has gone. -/
def StopStage.joined : StopStage → StopStage
  | .joining => .rechecking
  | _ => .checkingLast

/-- What `stop` does next with a child that is still there. -/
def StopStage.insist : StopStage → StopStage
  | .checking => .signalling
  | .rechecking => .terminating
  | _ => .killing

/-- The stages in which `stop` asks `is_alive`. -/
def StopStage.isCheck (p : StopStage) : Prop :=
  p = .checking ∨ p = .rechecking ∨ p = .checkingLast

/-- The stages that fail on an object that was never started. -/
def StopStage.needsStarted (p : StopStage) : Prop :=
  p = .joining ∨ p = .terminating ∨ p = .joiningAgain ∨ p = .killing

inductive Step : Host → Host → Prop
  | childDies {s : Host} {i : ℕ} (alive : s.children[i]? = some .running) :
      Step s { s with children := s.children.set i .dead }
  /-- The watchdog breaks out of its loop. -/
  | watchdogBreaks {s : Host} (asleep : s.watchdog = .sleeping) (marked : s.stopping = true) :
      Step s { s with watchdog := .ended }
  | watchdogFires {s : Host} (asleep : s.watchdog = .sleeping) (unmarked : s.stopping = false)
      (dead : s.isAlive = false) : Step s { s with watchdog := .awaiting, restart := .queued }
  | watchdogResumes {s : Host} (awaits : s.watchdog = .awaiting) (done : s.restart = .idle) :
      Step s { s with watchdog := .sleeping }
  | restartRuns {s : Host} (at_queue : s.restart = .queued) :
      Step s { s with restart := .unmarking }
  /-- A cancelled call that no thread has taken up is not run. -/
  | restartDropped {s : Host} (at_queue : s.restart = .queued) (cancelled : s.watchdog = .ended) :
      Step s { s with restart := .idle }
  | restartUnmarks {s : Host} (at_flag : s.restart = .unmarking) :
      Step s { s with restart := .clearing, stopping := false }
  | restartClears {s : Host} (at_event : s.restart = .clearing) :
      Step s { s with restart := .spawning, stopEvent := false }
  | restartSpawns {s : Host} (at_spawn : s.restart = .spawning) :
      Step s { s with restart := .starting, children := .unstarted :: s.children }
  | restartStarts {s : Host} (at_start : s.restart = .starting) :
      Step s { s.setProcess .running with restart := .idle }
  | restartFails {s : Host} (at_start : s.restart = .starting) : Step s { s with restart := .idle }
  /-- `shutdown` cancels the watchdog, wherever it is, and hands `stop` to a thread. -/
  | shutdown {s : Host} (at_shutdown : s.stop = .waiting) :
      Step s { s with watchdog := .ended, stop := .marking }
  | stopMarks {s : Host} (at_flag : s.stop = .marking) :
      Step s { s with stopping := true, stop := .checking }
  | stopInsists {s : Host} (at_check : s.stop.isCheck) (alive : s.isAlive = true) :
      Step s { s with stop := s.stop.insist }
  | stopReturns {s : Host} (at_check : s.stop.isCheck) (dead : s.isAlive = false) :
      Step s { s with stop := .ended }
  | stopSignals {s : Host} (at_event : s.stop = .signalling) :
      Step s { s with stopEvent := true, stop := .joining }
  /-- The child has died in time, or the time is up. -/
  | stopJoins {s : Host} (at_join : s.stop = .joining ∨ s.stop = .joiningAgain)
      (started : s.process ≠ .unstarted) : Step s { s with stop := s.stop.joined }
  /-- What the signal of `terminate` does is up to the child. -/
  | stopTerminates {s : Host} (at_terminate : s.stop = .terminating)
      (started : s.process ≠ .unstarted) : Step s { s with stop := .joiningAgain }
  | stopKills {s : Host} (at_kill : s.stop = .killing) (started : s.process ≠ .unstarted) :
      Step s { s.setProcess .dead with stop := .ended }
  /-- `join`, `terminate` and `kill` raise on an object that was never started. -/
  | stopRaises {s : Host} (at_call : s.stop.needsStarted) (unstarted : s.process = .unstarted) :
      Step s { s with stop := .ended }

def Reach : Host → Host → Prop := Relation.ReflTransGen Step

/-- The manager after `startup`: its first child runs. -/
def initial : Host := {}

/-- `shutdown` is over, and no restart that a thread took up is still to finish. -/
def Host.isComplete (s : Host) : Prop :=
  s.stop = .ended ∧ (s.restart = .idle ∨ s.restart = .queued)

/-- No child runs, and the manager is marked. -/
def NoSurvivor (s : Host) : Prop := (∀ c ∈ s.children, c ≠ .running) ∧ s.stopping = true

/-! ## Restarts that `stop` heeds -/

/-- `stop` has not set the flag yet. -/
def StopStage.isUnmarked (p : StopStage) : Prop := p = .waiting ∨ p = .marking

/-- `stop` has not asked yet whether the child is alive. -/
def StopStage.isUnchecked (p : StopStage) : Prop := p.isUnmarked ∨ p = .checking

/-- A step that is neither a reset of the flag that `stop` has set, nor the start of a child
that `stop` no longer looks for. -/
structure Heeded (s s' : Host) : Prop where
  step : Step s s'
  unmarks : s.restart = .unmarking → s'.restart = .clearing → s.stop.isUnmarked
  starts : s.restart = .starting → s'.isAlive = true → s.stop.isUnchecked

/-- No child runs but the one in `_process`, which does not run beside a restart or after
`stop`, and the flag stays as `stop` set it. -/
structure Orderly (s : Host) : Prop where
  older : ∀ c ∈ s.children.tail, c ≠ .running
  pending : s.restart ≠ .idle → s.process ≠ .running
  marked : ¬ s.stop.isUnmarked → s.stopping = true
  ended : s.stop = .ended → s.process ≠ .running

theorem Host.isAlive_eq_false {s : Host} : s.isAlive = false ↔ s.process ≠ .running := by
  simp [isAlive]

theorem Orderly.quiet {s : Host} (h : Orderly s) (hprocess : s.process ≠ .running) :
    ∀ c ∈ s.children, c ≠ .running := by
  intro c hc
  have holder := h.older
  unfold Host.process at hprocess
  cases hchildren : s.children with
  | nil => rw [hchildren] at hc; cases hc
  | cons first rest =>
      rw [hchildren] at hc hprocess holder
      rcases List.mem_cons.mp hc with rfl | hrest
      · exact hprocess
      · exact holder c hrest

/-- The death of a child starts none. -/
theorem headD_set_dead {l : List Child} (i : ℕ) (h : l.headD .unstarted ≠ .running) :
    (l.set i .dead).headD .unstarted ≠ .running := by
  cases l with
  | nil => exact h
  | cons first rest =>
      cases i with
      | zero => exact fun hrun => (nomatch hrun)
      | succ i => exact h

theorem tail_set_dead {l : List Child} (i : ℕ) (h : ∀ c ∈ l.tail, c ≠ .running) :
    ∀ c ∈ (l.set i .dead).tail, c ≠ .running := by
  cases l with
  | nil => exact h
  | cons first rest =>
      cases i with
      | zero => exact h
      | succ i =>
          intro c hc
          rcases List.mem_or_eq_of_mem_set hc with hold | rfl
          · exact h c hold
          · decide

/-- A step of `stop` behind the flag that leaves the children alone. -/
theorem Orderly.of_stop {s : Host} (h : Orderly s) (hlate : ¬ s.stop.isUnmarked)
    (stopEvent : Bool) (stop : StopStage) (hended : stop = .ended → s.process ≠ .running) :
    Orderly { s with stopEvent, stop } :=
  ⟨h.older, h.pending, fun _ => h.marked hlate, hended⟩

theorem StopStage.isCheck.late {p : StopStage} (h : p.isCheck) : ¬ p.isUnmarked := by
  rintro (hu | hu) <;> rcases h with hp | hp | hp <;> rw [hu] at hp <;> cases hp

theorem StopStage.needsStarted.late {p : StopStage} (h : p.needsStarted) : ¬ p.isUnmarked := by
  rintro (hu | hu) <;> rcases h with hp | hp | hp | hp <;> rw [hu] at hp <;> cases hp

theorem Orderly.step {s s' : Host} (h : Orderly s) (hstep : Heeded s s') : Orderly s' := by
  obtain ⟨hstep, hunmarks, hstarts⟩ := hstep
  cases hstep with
  | childDies =>
      exact ⟨tail_set_dead _ h.older, fun hr => headD_set_dead _ (h.pending hr), h.marked,
        fun he => headD_set_dead _ (h.ended he)⟩
  | watchdogBreaks | watchdogResumes => exact ⟨h.older, h.pending, h.marked, h.ended⟩
  | watchdogFires _ _ dead =>
      have hdead := Host.isAlive_eq_false.mp dead
      exact ⟨h.older, fun _ => hdead, h.marked, fun _ => hdead⟩
  | restartRuns at_queue =>
      have hdead := h.pending (by simp [at_queue])
      exact ⟨h.older, fun _ => hdead, h.marked, fun _ => hdead⟩
  | restartDropped | restartFails =>
      exact ⟨h.older, fun hr => absurd rfl hr, h.marked, h.ended⟩
  | restartUnmarks at_flag =>
      have hdead := h.pending (by simp [at_flag])
      have hearly := hunmarks at_flag rfl
      exact ⟨h.older, fun _ => hdead, fun hlate => absurd hearly hlate, fun _ => hdead⟩
  | restartClears at_event =>
      have hdead := h.pending (by simp [at_event])
      exact ⟨h.older, fun _ => hdead, h.marked, fun _ => hdead⟩
  | restartSpawns at_spawn =>
      have hdead := h.pending (by simp [at_spawn])
      exact ⟨h.quiet hdead, fun _ hrun => (nomatch hrun), h.marked, fun _ hrun => (nomatch hrun)⟩
  | restartStarts at_start =>
      have hearly := hstarts at_start rfl
      refine ⟨h.older, fun hr => absurd rfl hr, h.marked, fun he => ?_⟩
      have hended : s.stop = .ended := he
      simp [StopStage.isUnchecked, StopStage.isUnmarked, hended] at hearly
  | shutdown =>
      exact ⟨h.older, h.pending, fun hlate => absurd (Or.inr rfl) hlate, fun he => (nomatch he)⟩
  | stopMarks => exact ⟨h.older, h.pending, fun _ => rfl, fun he => (nomatch he)⟩
  | stopInsists at_check =>
      refine h.of_stop at_check.late _ _ fun he => ?_
      rcases at_check with hp | hp | hp <;> rw [hp] at he <;> cases he
  | stopReturns at_check dead =>
      exact h.of_stop at_check.late _ _ fun _ => Host.isAlive_eq_false.mp dead
  | stopSignals at_event =>
      exact h.of_stop (by simp [StopStage.isUnmarked, at_event]) _ _ fun he => (nomatch he)
  | stopJoins at_join =>
      have hcall : s.stop.needsStarted := at_join.elim .inl fun hp => .inr (.inr (.inl hp))
      refine h.of_stop hcall.late _ _ fun he => ?_
      rcases at_join with hp | hp <;> rw [hp] at he <;> cases he
  | stopTerminates at_terminate =>
      have hcall : s.stop.needsStarted := .inr (.inl at_terminate)
      exact h.of_stop hcall.late _ _ fun he => (nomatch he)
  | stopKills at_kill =>
      have hcall : s.stop.needsStarted := .inr (.inr (.inr at_kill))
      have hdead : (s.setProcess .dead).process ≠ .running := fun hrun => (nomatch hrun)
      exact ⟨h.older, fun _ => hdead, fun _ => h.marked hcall.late, fun _ => hdead⟩
  | stopRaises at_call unstarted =>
      refine h.of_stop at_call.late _ _ fun _ hrun => ?_
      rw [unstarted] at hrun
      cases hrun

theorem Orderly.of_heeded {s : Host} (hrun : Relation.ReflTransGen Heeded initial s) :
    Orderly s := by
  induction hrun with
  | refl =>
      exact ⟨by decide, fun hr => absurd rfl hr, fun hlate => absurd (Or.inl rfl) hlate,
        fun he => (nomatch he)⟩
  | tail _ hstep ih => exact ih.step hstep

/-- **No worker survives a shutdown**, in every run in which no restart resets the flag after
`stop` has set it, or starts its child after `stop` has looked for one. -/
theorem heededRuns_noSurvivor {s : Host} (hrun : Relation.ReflTransGen Heeded initial s)
    (hcomplete : s.isComplete) : NoSurvivor s := by
  have horderly := Orderly.of_heeded hrun
  have hlate : ¬ s.stop.isUnmarked := by simp [StopStage.isUnmarked, hcomplete.1]
  exact ⟨horderly.quiet (horderly.ended hcomplete.1), horderly.marked hlate⟩

/-- The restart of a dead child comes through before `stop` looks for one, and the new child
has to be killed. -/
theorem earlyRestart_noSurvivor :
    NoSurvivor { initial with
      stopping := true
      stopEvent := true
      children := [.dead, .dead]
      watchdog := .ended
      stop := .ended } := by
  refine heededRuns_noSurvivor ?_ ⟨rfl, .inl rfl⟩
  -- the restart, up to its first write
  refine .head ⟨@Step.childDies _ 0 rfl, fun hr => (nomatch hr), fun hr => (nomatch hr)⟩ ?_
  refine .head ⟨.watchdogFires rfl rfl rfl, fun hr => (nomatch hr), fun hr => (nomatch hr)⟩ ?_
  refine .head ⟨.restartRuns rfl, fun hr => (nomatch hr), fun hr => (nomatch hr)⟩ ?_
  refine .head ⟨.shutdown rfl, fun _ hr => (nomatch hr), fun hr => (nomatch hr)⟩ ?_
  refine .head ⟨.restartUnmarks rfl, fun _ _ => .inr rfl, fun hr => (nomatch hr)⟩ ?_
  -- `stop` sets the flag between its writes
  refine .head ⟨.stopMarks rfl, fun hr => (nomatch hr), fun hr => (nomatch hr)⟩ ?_
  refine .head ⟨.restartClears rfl, fun hr => (nomatch hr), fun hr => (nomatch hr)⟩ ?_
  refine .head ⟨.restartSpawns rfl, fun hr => (nomatch hr), fun hr => (nomatch hr)⟩ ?_
  refine .head ⟨.restartStarts rfl, fun hr => (nomatch hr), fun _ _ => .inr rfl⟩ ?_
  -- and finds the child
  refine .head ⟨.stopInsists (.inl rfl) rfl, fun hr => (nomatch hr), fun hr => (nomatch hr)⟩ ?_
  refine .head ⟨.stopSignals rfl, fun hr => (nomatch hr), fun hr => (nomatch hr)⟩ ?_
  refine .head ⟨.stopJoins (.inl rfl) (by decide), fun hr => (nomatch hr),
    fun hr => (nomatch hr)⟩ ?_
  refine .head ⟨.stopInsists (.inr (.inl rfl)) rfl, fun hr => (nomatch hr),
    fun hr => (nomatch hr)⟩ ?_
  refine .head ⟨.stopTerminates rfl (by decide), fun hr => (nomatch hr), fun hr => (nomatch hr)⟩ ?_
  refine .head ⟨.stopJoins (.inr rfl) (by decide), fun hr => (nomatch hr),
    fun hr => (nomatch hr)⟩ ?_
  refine .head ⟨.stopInsists (.inr (.inr rfl)) rfl, fun hr => (nomatch hr),
    fun hr => (nomatch hr)⟩ ?_
  exact .single ⟨.stopKills rfl (by decide), fun hr => (nomatch hr), fun hr => (nomatch hr)⟩

/-- The child dies just before the shutdown: `stop` finds no child, and the restart then resets
the flag and starts one. -/
theorem lateRestart_survives :
    ∃ s, Reach initial s ∧ s.isComplete ∧ s.isAlive = true ∧ s.stopping = false ∧
      ¬ NoSurvivor s := by
  have hrun : Reach initial { initial with
      children := [.running, .dead]
      watchdog := .ended
      stop := .ended } := by
    refine .head (@Step.childDies _ 0 rfl) <| .head (.watchdogFires rfl rfl rfl) ?_
    refine .head (.restartRuns rfl) <| .head (.shutdown rfl) ?_
    refine .head (.stopMarks rfl) <| .head (.stopReturns (.inl rfl) rfl) ?_
    refine .head (.restartUnmarks rfl) <| .head (.restartClears rfl) ?_
    exact .head (.restartSpawns rfl) <| .single (.restartStarts rfl)
  exact ⟨_, hrun, ⟨rfl, .inl rfl⟩, rfl, rfl, fun hnone => (nomatch hnone.2)⟩

/-! ## A flag reset too late -/

/-- `stop` sets the flag once: reset after that, it stays so. -/
theorem Step.stays_unmarked {s s' : Host} (hstep : Step s s') (hlate : ¬ s.stop.isUnmarked)
    (hflag : s.stopping = false) : ¬ s'.stop.isUnmarked ∧ s'.stopping = false := by
  cases hstep with
  | shutdown at_shutdown => exact absurd (.inl at_shutdown) hlate
  | stopMarks at_flag => exact absurd (.inr at_flag) hlate
  | restartUnmarks => exact ⟨hlate, rfl⟩
  | stopInsists at_check =>
      refine ⟨?_, hflag⟩
      rcases at_check with hp | hp | hp <;> rw [hp] <;>
        simp [StopStage.isUnmarked, StopStage.insist]
  | stopJoins at_join =>
      refine ⟨?_, hflag⟩
      rcases at_join with hp | hp <;> rw [hp] <;> simp [StopStage.isUnmarked, StopStage.joined]
  | stopReturns | stopSignals | stopTerminates | stopKills | stopRaises =>
      exact ⟨by simp [StopStage.isUnmarked], hflag⟩
  | _ => exact ⟨hlate, hflag⟩

/-- The condition on the flag is not too strong: a run past it never ends well. -/
theorem lateUnmark_not_noSurvivor {s s' : Host} (hlate : ¬ s.stop.isUnmarked)
    (hflag : s.stopping = false) (hrun : Reach s s') : ¬ NoSurvivor s' := by
  have hstays : ¬ s'.stop.isUnmarked ∧ s'.stopping = false := by
    induction hrun with
    | refl => exact ⟨hlate, hflag⟩
    | tail _ hstep ih => exact hstep.stays_unmarked ih.1 ih.2
  rintro ⟨-, hmarked⟩
  rw [hstays.2] at hmarked
  cases hmarked

end TradeWorker.ProcessGateway
