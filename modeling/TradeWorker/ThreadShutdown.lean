import Mathlib.Data.List.Basic
import Mathlib.Logic.Relation

/-!
# The end of a thread gateway

`ThreadGatewayOrchestrator` keeps a worker in a thread, which its watchdog replaces when it is
dead; `shutdown` cancels the watchdog, sets the event and joins the thread it knows. Cancelling
the watchdog does not stop a `_spawn` that an executor's thread is at, so a worker may start that
nobody joins. The event it is given is the same, and nothing clears that again.
-/

namespace TradeWorker.ThreadShutdown

/-- A worker thread: it runs until it fails or sees the event. -/
inductive Worker where
  | running | dead
  deriving DecidableEq, Repr

/-- Where the executor's thread stands that `_spawn` was handed to. -/
inductive SpawnStage where
  | idle | queued
  | returned (thread : Nat)
  | raised
  deriving DecidableEq, Repr

inductive WatchdogStage where
  | sleeping | awaiting | ended
  deriving DecidableEq, Repr

inductive ShutdownStage where
  | waiting | cancelled | joining | ended
  deriving DecidableEq, Repr

/-- The orchestrator and the threads of its process. `workers` are all that ever ran, the last one
last; `thread` is the one of `_thread`; `orphaned` says that one was started which no `_thread`
will be, `timedOut` that the join gave up. -/
structure Host where
  stopEvent : Bool := false
  workers : List Worker := [.running]
  thread : Nat := 0
  spawn : SpawnStage := .idle
  watchdog : WatchdogStage := .sleeping
  shutdown : ShutdownStage := .waiting
  orphaned : Bool := false
  timedOut : Bool := false
  deriving DecidableEq, Repr

def Host.Runs (s : Host) (i : Nat) : Prop := s.workers[i]? = some .running

/-- One step of one thread, or of one of the tasks on the loop. -/
inductive Step : Host → Host → Prop
  /-- A crash, a failed connect, or the end of `run_worker` behind the event. -/
  | workerDies {s : Host} {i : Nat} (runs : s.Runs i) :
      Step s { s with workers := s.workers.set i .dead }
  | watchdogBreaks {s : Host} (asleep : s.watchdog = .sleeping) (set : s.stopEvent = true) :
      Step s { s with watchdog := .ended }
  | watchdogFires {s : Host} (asleep : s.watchdog = .sleeping) (clear : s.stopEvent = false)
      (dead : ¬ s.Runs s.thread) : Step s { s with watchdog := .awaiting, spawn := .queued }
  | spawnStarts {s : Host} (at_start : s.spawn = .queued) :
      Step s { s with
        workers := s.workers ++ [.running]
        spawn := .returned s.workers.length
        orphaned := decide (s.shutdown ≠ .waiting) }
  | spawnRaises {s : Host} (at_start : s.spawn = .queued) : Step s { s with spawn := .raised }
  /-- A cancelled call that no thread has taken up is not run. -/
  | spawnDropped {s : Host} (at_start : s.spawn = .queued) (cancelled : s.watchdog = .ended) :
      Step s { s with spawn := .idle }
  | watchdogTakes {s : Host} {i : Nat} (awaits : s.watchdog = .awaiting)
      (done : s.spawn = .returned i) :
      Step s { s with thread := i, spawn := .idle, watchdog := .sleeping }
  /-- The exception is logged, and the watchdog goes on. -/
  | watchdogLogs {s : Host} (awaits : s.watchdog = .awaiting) (failed : s.spawn = .raised) :
      Step s { s with spawn := .idle, watchdog := .sleeping }
  | shutdownCancels {s : Host} (at_shutdown : s.shutdown = .waiting) :
      Step s { s with
        watchdog := .ended
        shutdown := .cancelled
        orphaned := decide (s.spawn = .returned (s.thread + 1)) }
  | shutdownSets {s : Host} (at_event : s.shutdown = .cancelled) :
      Step s { s with stopEvent := true, shutdown := .joining }
  | shutdownJoins {s : Host} (at_join : s.shutdown = .joining) (dead : ¬ s.Runs s.thread) :
      Step s { s with shutdown := .ended }
  | shutdownGivesUp {s : Host} (at_join : s.shutdown = .joining) :
      Step s { s with shutdown := .ended, timedOut := true }

/-- After `startup`: the first worker runs. -/
def initial : Host := {}

/-! ## One worker, and the event it is told by -/

/-- Where the tasks may stand together, and which worker is the one that may run. -/
structure Orderly (s : Host) : Prop where
  last : ∀ i, s.Runs i → i + 1 = s.workers.length
  returned : ∀ i, s.spawn = .returned i → i = s.thread + 1 ∧ s.workers.length = s.thread + 2
  known : (∀ i, s.spawn ≠ .returned i) → s.workers.length = s.thread + 1
  queued : s.spawn = .queued → ∀ i, ¬ s.Runs i
  asleep : s.watchdog = .sleeping → s.spawn = .idle
  waiting : s.shutdown = .waiting → s.orphaned = false
  cancelled : s.shutdown ≠ .waiting → s.watchdog = .ended ∧
    (s.orphaned = true ↔ ∃ i, s.spawn = .returned i)
  told : s.shutdown = .joining ∨ s.shutdown = .ended → s.stopEvent = true
  gone : s.shutdown = .ended → s.timedOut = false → s.orphaned = false → ∀ i, ¬ s.Runs i

variable {s s' : Host}

/-- Where nothing was spawned behind its back, the worker of `_thread` is the only one. -/
theorem Orderly.none_runs (h : Orderly s) (hspawn : ∀ i, s.spawn ≠ .returned i)
    (hdead : ¬ s.Runs s.thread) (i : Nat) : ¬ s.Runs i := by
  intro hruns
  have hlast := h.last i hruns
  have hknown := h.known hspawn
  obtain rfl : i = s.thread := by omega
  exact hdead hruns

/-- A death starts nobody. -/
theorem runs_of_dies {i j : Nat}
    (hruns : Host.Runs { s with workers := s.workers.set i .dead } j) : s.Runs j := by
  by_cases hij : i = j
  · subst hij
    have hset : (s.workers.set i .dead)[i]? = some .running := hruns
    rw [List.getElem?_set] at hset
    split at hset
    · split at hset <;> cases hset
    · exact hset
  · have hset : (s.workers.set i .dead)[j]? = some .running := hruns
    rwa [List.getElem?_set_ne hij] at hset

/-- A worker that starts while the others are dead is the last. -/
theorem runs_of_starts {i : Nat} (hdead : ∀ j, ¬ s.Runs j)
    (hruns : (s.workers ++ [.running])[i]? = some .running) : i = s.workers.length := by
  rcases Nat.lt_trichotomy i s.workers.length with hlt | heq | hgt
  · rw [List.getElem?_append_left hlt] at hruns
    exact absurd hruns (hdead i)
  · exact heq
  · rw [List.getElem?_eq_none (by simpa [Nat.succ_le_iff] using hgt)] at hruns
    cases hruns

theorem initial_orderly : Orderly initial where
  last i hruns := by
    cases i with
    | zero => rfl
    | succ i => cases hruns
  returned _ hspawn := nomatch hspawn
  known _ := rfl
  queued hspawn := nomatch hspawn
  asleep _ := rfl
  waiting _ := rfl
  cancelled h := absurd rfl h
  told h := by rcases h with h | h <;> cases h
  gone h := nomatch h

theorem Orderly.step (h : Orderly s) (hstep : Step s s') : Orderly s' := by
  cases hstep with
  | workerDies =>
      refine ⟨fun j hruns => ?_, fun j hspawn => ?_, fun hspawn => ?_, fun hspawn j hruns => ?_,
        h.asleep, h.waiting, h.cancelled, h.told, fun he ht ho j hruns => ?_⟩
      · rw [List.length_set]
        exact h.last j (runs_of_dies hruns)
      · rw [List.length_set]
        exact h.returned j hspawn
      · rw [List.length_set]
        exact h.known hspawn
      · exact h.queued hspawn j (runs_of_dies hruns)
      · exact h.gone he ht ho j (runs_of_dies hruns)
  | watchdogBreaks asleep set =>
      refine ⟨h.last, h.returned, h.known, h.queued, nofun, h.waiting, fun hs => ?_, h.told, h.gone⟩
      exact ⟨rfl, (h.cancelled hs).2⟩
  | watchdogFires asleep clear dead =>
      have hidle := h.asleep asleep
      have hnone := h.none_runs (fun i hspawn => by rw [hidle] at hspawn; cases hspawn) dead
      have hwaiting : s.shutdown = .waiting := by
        by_contra hs
        rw [(h.cancelled hs).1] at asleep
        cases asleep
      refine ⟨h.last, nofun, fun _ => h.known fun i hspawn => ?_, fun _ => hnone, nofun, h.waiting,
        fun hs => absurd hwaiting hs, h.told, h.gone⟩
      rw [hidle] at hspawn
      cases hspawn
  | spawnStarts at_start =>
      have hdead := h.queued at_start
      have hknown := h.known fun i hspawn => by rw [at_start] at hspawn; cases hspawn
      refine ⟨fun i hruns => ?_, ?_, fun hspawn => absurd rfl (hspawn _), nofun, fun hs => ?_,
        fun hs => ?_, fun hs => ?_, h.told, fun he _ ho => ?_⟩
      · rw [List.length_append, runs_of_starts hdead hruns]
        rfl
      · rintro _ ⟨⟩
        rw [List.length_append, hknown]
        exact ⟨rfl, rfl⟩
      · have hidle := h.asleep hs
        rw [at_start] at hidle
        cases hidle
      · exact decide_eq_false fun hnot => hnot hs
      · exact ⟨(h.cancelled hs).1, iff_of_true (decide_eq_true hs) ⟨_, rfl⟩⟩
      · have hended : s.shutdown = .ended := he
        simp [hended] at ho
  | spawnRaises at_start | spawnDropped at_start =>
      have hspawn : ∀ i, s.spawn ≠ .returned i := fun i hspawn => by
        rw [at_start] at hspawn
        cases hspawn
      refine ⟨h.last, nofun, fun _ => h.known hspawn, nofun, fun hs => ?_, h.waiting, fun hs => ?_,
        h.told, h.gone⟩
      · exact nomatch at_start.symm.trans (h.asleep hs)
      · obtain ⟨hended, horphaned⟩ := h.cancelled hs
        exact ⟨hended, horphaned.trans
          (iff_of_false (fun ⟨i, hi⟩ => hspawn i hi) fun ⟨_, hi⟩ => nomatch hi)⟩
  | watchdogTakes awaits done =>
      obtain ⟨rfl, hlength⟩ := h.returned _ done
      have hwaiting : s.shutdown = .waiting := by
        by_contra hs
        rw [(h.cancelled hs).1] at awaits
        cases awaits
      exact ⟨h.last, nofun, fun _ => hlength, nofun, fun _ => rfl, h.waiting,
        fun hs => absurd hwaiting hs, h.told, h.gone⟩
  | watchdogLogs awaits failed =>
      have hwaiting : s.shutdown = .waiting := by
        by_contra hs
        rw [(h.cancelled hs).1] at awaits
        cases awaits
      refine ⟨h.last, nofun, fun _ => h.known fun i hspawn => ?_, nofun, fun _ => rfl, h.waiting,
        fun hs => absurd hwaiting hs, h.told, h.gone⟩
      rw [failed] at hspawn
      cases hspawn
  | shutdownCancels at_shutdown =>
      refine ⟨h.last, h.returned, h.known, h.queued, nofun, nofun, fun _ => ⟨rfl, ?_⟩,
        fun hs => hs.elim nofun nofun, nofun⟩
      rw [decide_eq_true_iff]
      refine ⟨fun hspawn => ⟨_, hspawn⟩, ?_⟩
      rintro ⟨i, hi⟩
      obtain ⟨rfl, -⟩ := h.returned i hi
      exact hi
  | shutdownSets at_event =>
      have hs : s.shutdown ≠ .waiting := by rw [at_event]; exact nofun
      exact ⟨h.last, h.returned, h.known, h.queued, h.asleep, nofun, fun _ => h.cancelled hs,
        fun _ => rfl, nofun⟩
  | shutdownJoins at_join dead =>
      have hs : s.shutdown ≠ .waiting := by rw [at_join]; exact nofun
      refine ⟨h.last, h.returned, h.known, h.queued, h.asleep, nofun, fun _ => h.cancelled hs,
        fun _ => h.told (.inl at_join), fun _ _ ho => h.none_runs (fun i hspawn => ?_) dead⟩
      have horphaned := (h.cancelled hs).2.mpr ⟨i, hspawn⟩
      rw [ho] at horphaned
      cases horphaned
  | shutdownGivesUp at_join =>
      have hs : s.shutdown ≠ .waiting := by rw [at_join]; exact nofun
      exact ⟨h.last, h.returned, h.known, h.queued, h.asleep, nofun, fun _ => h.cancelled hs,
        fun _ => h.told (.inl at_join), fun _ ht => nomatch ht⟩

/-! ## Runs -/

structure Ends (s : Host) : Prop where
  /-- One worker runs at any time. -/
  one : ∀ i j, s.Runs i → s.Runs j → i = j
  /-- Once the event is set, whoever runs finds it set. -/
  told : s.shutdown = .joining ∨ s.shutdown = .ended → s.stopEvent = true
  /-- One worker at most was started that `_thread` does not know. -/
  few : s.workers.length ≤ s.thread + 2
  /-- None runs behind the shutdown but one it gave up on, or one it never knew. -/
  gone : s.shutdown = .ended → s.timedOut = false → s.orphaned = false → ∀ i, ¬ s.Runs i

/-- **A thread gateway ends with one worker at most, and that one told**, in any interleaving of
the workers, the watchdog, the executor's thread and the shutdown. -/
theorem shutdown_ends {s : Host} (hrun : Relation.ReflTransGen Step initial s) : Ends s := by
  have horderly : Orderly s := by
    induction hrun with
    | refl => exact initial_orderly
    | tail _ hstep ih => exact ih.step hstep
  refine ⟨fun i j hi hj => ?_, horderly.told, ?_, horderly.gone⟩
  · have hi := horderly.last i hi
    have hj := horderly.last j hj
    omega
  · by_cases hspawn : ∃ i, s.spawn = .returned i
    · obtain ⟨i, hi⟩ := hspawn
      exact Nat.le_of_eq (horderly.returned i hi).2
    · have hknown := horderly.known fun i hi => hspawn ⟨i, hi⟩
      omega

/-- The watchdog is cancelled while a new worker is started: the shutdown joins the dead one, and
the new one ends by the event. -/
theorem orphan_ends : Ends { initial with
    stopEvent := true
    workers := [.dead, .dead]
    spawn := .returned 1
    watchdog := .ended
    shutdown := .ended
    orphaned := true } := by
  refine shutdown_ends ?_
  refine .head (@Step.workerDies _ 0 rfl) <| .head (.watchdogFires rfl rfl nofun) ?_
  refine .head (.shutdownCancels rfl) <| .head (.spawnStarts rfl) ?_
  refine .head (.shutdownSets rfl) <| .head (.shutdownJoins rfl nofun) ?_
  exact .single (@Step.workerDies _ 1 rfl)

end TradeWorker.ThreadShutdown
