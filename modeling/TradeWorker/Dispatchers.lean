import Mathlib.Data.Finset.Basic
import Mathlib.Logic.Relation

/-!
# The dispatchers of a thread gateway

`ThreadGatewayOrchestrator` runs the worker in a thread of its own process. `run_worker`
builds its context, starts the two notification jobs, each a daemon thread, and only then
enters the block whose every exit is cleaned up after. The jobs end on the stop event alone,
which the watchdog shares with the next worker thread it spawns: a thread that dies leaves
its jobs running, and the next one starts two more.
-/

namespace TradeWorker.ThreadGateway

/-! ## The threads of the process -/

/-- The two tables that are drained, each by a job of its own. -/
inductive JobKind where
  | notification | cycle
  deriving DecidableEq, Repr

/-- Where a job's `_run` stands: before the check of the stop event, in a poll with the rows
still to be sent, or between a send and the write that settles its row. -/
inductive JobStage where
  | looping
  | polling (rows : List ℕ)
  | settling (row : ℕ) (success : Bool) (rows : List ℕ)
  | ended
  deriving DecidableEq, Repr

structure Job where
  kind : JobKind
  stage : JobStage
  deriving DecidableEq, Repr

/-- A job that has not left its loop. -/
def Job.isRunning (j : Job) : Bool := j.stage ≠ .ended

/-- Where the worker thread stands in `run_worker`: in `WorkerContext(…)`, before the start
of a job, past both, or gone. -/
inductive WorkerStage where
  | building
  | starting (job : JobKind)
  | working
  | exited
  deriving DecidableEq, Repr

/-- The process: the shared event, the thread of `_thread`, every job ever started, the rows
due in either table, and the sends made, by job. -/
structure Host where
  stopEvent : Bool := false
  worker : WorkerStage := .building
  jobs : List Job := []
  due : JobKind → Finset ℕ := fun _ => ∅
  sent : List (ℕ × JobKind × ℕ) := []

def JobKind.next : JobKind → WorkerStage
  | .notification => .starting .cycle
  | .cycle => .working

/-- The job in place `i` has come to a stage. -/
def Host.move (s : Host) (i : ℕ) (stage : JobStage) : Host :=
  { s with jobs := s.jobs.modify i fun j => { j with stage } }

/-- The write after a send: a row that was sent is deleted, one that was not is put off. -/
def Host.settle (s : Host) (kind : JobKind) (row : ℕ) : Host :=
  { s with due := Function.update s.due kind ((s.due kind).erase row) }

/-- One step of one thread, or of what is outside them. -/
inductive Step : Host → Host → Prop
  /-- `WorkerContext` raises, out of `run_worker`. -/
  | contextFails {s : Host} (at_context : s.worker = .building) :
      Step s { s with worker := .exited }
  | contextBuilt {s : Host} (at_context : s.worker = .building) :
      Step s { s with worker := .starting .notification }
  | jobStarted {s : Host} {kind : JobKind} (at_start : s.worker = .starting kind) :
      Step s { s with
        worker := kind.next
        jobs := s.jobs ++ [{ kind, stage := .looping }] }
  | startFails {s : Host} {kind : JobKind} (at_start : s.worker = .starting kind) :
      Step s { s with worker := .exited }
  /-- A failed connect, an exception anywhere behind the jobs, or the end of the loop. -/
  | exits {s : Host} (at_work : s.worker = .working) : Step s { s with worker := .exited }
  /-- The watchdog finds the thread dead. Its check of the event is an earlier step, and
  cancelling the watchdog does not stop the thread that spawns. -/
  | respawned {s : Host} (dead : s.worker = .exited) : Step s { s with worker := .building }
  | stopped {s : Host} : Step s { s with stopEvent := true }
  /-- New rows, and rows whose backoff is over. -/
  | fallDue {s : Host} (due : JobKind → Finset ℕ) : Step s { s with due }
  | jobEnds {s : Host} {i : ℕ} {kind : JobKind} (at_check : s.jobs[i]? = some ⟨kind, .looping⟩)
      (set : s.stopEvent = true) : Step s (s.move i .ended)
  | jobPolls {s : Host} {i : ℕ} {kind : JobKind} (rows : List ℕ)
      (at_check : s.jobs[i]? = some ⟨kind, .looping⟩) (clear : s.stopEvent = false)
      (found : ∀ row ∈ rows, row ∈ s.due kind) : Step s (s.move i (.polling rows))
  /-- The end of a poll, or an exception in it. -/
  | jobLoops {s : Host} {i : ℕ} {j : Job} (at_job : s.jobs[i]? = some j)
      (running : j.isRunning = true) : Step s (s.move i .looping)
  /-- A row whose channel has no notifier. -/
  | jobSkips {s : Host} {i row : ℕ} {kind : JobKind} {rows : List ℕ}
      (at_row : s.jobs[i]? = some ⟨kind, .polling (row :: rows)⟩) :
      Step s (s.move i (.polling rows))
  | jobSends {s : Host} {i row : ℕ} {kind : JobKind} {rows : List ℕ} (success : Bool)
      (at_row : s.jobs[i]? = some ⟨kind, .polling (row :: rows)⟩) :
      Step s { s.move i (.settling row success rows) with sent := s.sent ++ [(i, kind, row)] }
  | jobSettles {s : Host} {i row : ℕ} {success : Bool} {kind : JobKind} {rows : List ℕ}
      (at_row : s.jobs[i]? = some ⟨kind, .settling row success rows⟩) :
      Step s ((s.move i (.polling rows)).settle kind row)

def Reach : Host → Host → Prop := Relation.ReflTransGen Step

/-- The process after `startup`: the first worker thread has been spawned. -/
def initial : Host := {}

/-- One running job of each kind at most, and no row sent by two jobs. -/
structure OneDispatcher (s : Host) : Prop where
  running : ∀ kind, s.jobs.countP (fun j => j.kind = kind ∧ j.isRunning = true) ≤ 1
  sends : ∀ i j kind row, (i, kind, row) ∈ s.sent → (j, kind, row) ∈ s.sent → i = j

/-! ## One thread past its context -/

/-- A step that is not the second context of the process: a worker thread may get past
`WorkerContext` as long as none before it has started a job. -/
def FirstContext (s s' : Host) : Prop :=
  Step s s' ∧ (s.worker = .building → s'.worker = .starting .notification → s.jobs = [])

def Host.kinds (s : Host) : List JobKind := s.jobs.map (·.kind)

/-- The jobs were started by one thread: each kind once, in order. -/
structure OneStarter (s : Host) : Prop where
  kinds : s.kinds.Nodup
  first : s.worker = .starting .notification → s.kinds = []
  second : s.worker = .starting .cycle → s.kinds = [.notification]
  senders : ∀ i kind row, (i, kind, row) ∈ s.sent → s.kinds[i]? = some kind

@[simp] theorem Host.kinds_move (s : Host) (i : ℕ) (stage : JobStage) :
    (s.move i stage).kinds = s.kinds := by
  refine List.ext_getElem? fun n => ?_
  simp only [kinds, move, List.getElem?_map, List.getElem?_modify]
  split <;> cases s.jobs[n]? <;> rfl

/-- A step that neither starts a job nor moves the worker to the start of one. -/
theorem OneStarter.of_same {s s' : Host} (h : OneStarter s) (hkinds : s'.kinds = s.kinds)
    (hworker : ∀ kind, s'.worker = .starting kind → s.worker = .starting kind)
    (hsent : ∀ i kind row, (i, kind, row) ∈ s'.sent →
      (i, kind, row) ∈ s.sent ∨ s.kinds[i]? = some kind) : OneStarter s' where
  kinds := hkinds ▸ h.kinds
  first hw := hkinds ▸ h.first (hworker _ hw)
  second hw := hkinds ▸ h.second (hworker _ hw)
  senders i kind row hmem := by
    rw [hkinds]
    rcases hsent i kind row hmem with hold | hnew
    · exact h.senders i kind row hold
    · exact hnew

theorem OneStarter.step {s s' : Host} (h : OneStarter s) (hstep : FirstContext s s') :
    OneStarter s' := by
  obtain ⟨hstep, hfirst⟩ := hstep
  cases hstep with
  | contextFails at_context | exits at_work | startFails at_start | respawned dead =>
      exact h.of_same rfl (fun _ hw => nomatch hw) fun _ _ _ => Or.inl
  | contextBuilt at_context =>
      have hnone := hfirst at_context rfl
      refine ⟨h.kinds, fun _ => ?_, fun hw => (nomatch hw), h.senders⟩
      rw [Host.kinds, hnone]
      rfl
  | @jobStarted kind at_start =>
      have hkinds : ∀ worker, Host.kinds { s with
          worker, jobs := s.jobs ++ [{ kind, stage := .looping }] } = s.kinds ++ [kind] := by
        simp [Host.kinds]
      have hprefix : ∀ i k row, (i, k, row) ∈ s.sent → (s.kinds ++ [kind])[i]? = some k := by
        intro i k row hmem
        have hold := h.senders i k row hmem
        rw [List.getElem?_append_left (List.getElem?_eq_some_iff.mp hold).1]
        exact hold
      cases kind with
      | notification =>
          have hnone := h.first at_start
          refine ⟨?_, fun hw => (nomatch hw), fun _ => ?_, ?_⟩
          · rw [hkinds, hnone]
            decide
          · rw [hkinds, hnone]
            rfl
          · rw [hkinds]
            exact hprefix
      | cycle =>
          have hone := h.second at_start
          refine ⟨?_, fun hw => (nomatch hw), fun hw => (nomatch hw), ?_⟩
          · rw [hkinds, hone]
            decide
          · rw [hkinds]
            exact hprefix
  | stopped | fallDue => exact h.of_same rfl (fun _ => id) fun _ _ _ => Or.inl
  | jobEnds | jobPolls | jobLoops | jobSkips | jobSettles =>
      exact h.of_same (Host.kinds_move ..) (fun _ => id) fun _ _ _ => Or.inl
  | @jobSends i row kind rows success at_row =>
      refine h.of_same (Host.kinds_move ..) (fun _ => id) fun i' kind' row' hmem => ?_
      rcases List.mem_append.mp hmem with hold | hnew
      · exact Or.inl hold
      · cases List.mem_singleton.mp hnew
        right
        simp [Host.kinds, at_row]

theorem OneStarter.oneDispatcher {s : Host} (h : OneStarter s) : OneDispatcher s where
  running kind := by
    have hcount := List.nodup_iff_count_le_one.mp h.kinds kind
    refine le_trans ?_ hcount
    rw [Host.kinds, List.count, List.countP_map]
    refine List.countP_mono_left fun j _ hj => ?_
    simp only [decide_eq_true_eq] at hj
    simp [hj.1]
  sends i j kind row hi hj := by
    have hi' := h.senders i kind row hi
    have hj' := h.senders j kind row hj
    obtain ⟨hlt, -⟩ := List.getElem?_eq_some_iff.mp hi'
    exact (List.getElem?_inj hlt h.kinds).mp (hi'.trans hj'.symm)

/-- **One dispatcher per process**, in every run in which at most one of the worker threads
gets past the construction of its context. -/
theorem firstContexts_oneDispatcher {s : Host}
    (hrun : Relation.ReflTransGen FirstContext initial s) : OneDispatcher s := by
  have hstarter : OneStarter s := by
    induction hrun with
    | refl =>
        exact ⟨List.nodup_nil, fun hw => (nomatch hw), fun hw => (nomatch hw), by simp [initial]⟩
    | tail _ hstep ih => exact ih.step hstep
  exact hstarter.oneDispatcher

/-- The thread of `initial` fails in its context, the next one starts both jobs and then fails to
connect, and a third fails in its context again. -/
theorem failedConnect_oneDispatcher :
    OneDispatcher { initial with
      worker := .exited
      jobs := [⟨.notification, .looping⟩, ⟨.cycle, .looping⟩] } := by
  refine firstContexts_oneDispatcher ?_
  refine .head ⟨.contextFails rfl, fun _ hw => (nomatch hw)⟩ ?_
  refine .head ⟨.respawned rfl, fun hb => (nomatch hb)⟩ ?_
  refine .head ⟨.contextBuilt rfl, fun _ _ => rfl⟩ ?_
  refine .head ⟨.jobStarted rfl, fun hb => (nomatch hb)⟩ ?_
  refine .head ⟨.jobStarted rfl, fun hb => (nomatch hb)⟩ ?_
  refine .head ⟨.exits rfl, fun hb => (nomatch hb)⟩ ?_
  refine .head ⟨.respawned rfl, fun hb => (nomatch hb)⟩ ?_
  exact .single ⟨.contextFails rfl, fun _ hw => (nomatch hw)⟩

/-- The first thread fails to connect, after its jobs have started. The second starts two more,
and both notification jobs poll the row before either has settled it. -/
theorem failedConnect_twoDispatchers : ∃ s, Reach initial s ∧
    s.jobs.countP (fun j => j.kind = .notification ∧ j.isRunning = true) = 2 ∧
    s.jobs.countP (fun j => j.kind = .cycle ∧ j.isRunning = true) = 2 ∧
    (0, .notification, 7) ∈ s.sent ∧ (2, .notification, 7) ∈ s.sent ∧ ¬ OneDispatcher s := by
  have hrun : Reach initial {
      worker := .working
      jobs := [⟨.notification, .settling 7 true []⟩, ⟨.cycle, .looping⟩,
        ⟨.notification, .settling 7 true []⟩, ⟨.cycle, .looping⟩]
      due := fun _ => {7}
      sent := [(0, .notification, 7), (2, .notification, 7)] } := by
    refine .head (.contextBuilt rfl) <| .head (.jobStarted rfl) <| .head (.jobStarted rfl) ?_
    refine .head (.exits rfl) <| .head (.respawned rfl) ?_
    refine .head (.contextBuilt rfl) <| .head (.jobStarted rfl) <| .head (.jobStarted rfl) ?_
    refine .head (.fallDue fun _ => {7}) ?_
    refine .head (@Step.jobPolls _ 0 .notification [7] rfl rfl (by simp)) ?_
    refine .head (@Step.jobPolls _ 2 .notification [7] rfl rfl (by simp [Host.move])) ?_
    refine .head (@Step.jobSends _ 0 7 .notification [] true rfl) ?_
    exact .single (@Step.jobSends _ 2 7 .notification [] true rfl)
  refine ⟨_, hrun, by decide, by decide, by decide, by decide, fun hone => ?_⟩
  exact absurd (hone.sends 0 2 .notification 7 (by decide) (by decide)) (by decide)

end TradeWorker.ThreadGateway
