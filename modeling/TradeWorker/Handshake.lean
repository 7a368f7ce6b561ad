import TradeWorker.Control
import TradeWorker.EntryPolicy

/-!
# The handshake

The ACK is applied in one go: settings, magic map, market init, and then the replay of
recent signals, which runs through the pipeline live signals run through. What is
configured comes first, so a block restored by the ACK holds for its own replay; and a
FOREX worker left without magics does not begin one.
-/

namespace TradeWorker

/-! ## The reply, applied -/

def AckSections.hasConfig (sections : AckSections) : Bool :=
  sections.settings.isSome || sections.strategyMagicMap.isSome ||
    sections.cryptoLeverageInit.isSome || sections.retrySignals ≠ []

namespace Market

/-- The market with the map its executor holds at the time. -/
def withMagics (mapping : Dict String Int) : Market → Market
  | .forex ex => .forex { ex with strategyMagicMap := mapping.entries }
  | .crypto ex => .crypto ex

end Market

namespace ControlWorker

variable (worker : ControlWorker)

/-- One signal of the replay, at the processor as it is set up by then. -/
def retrySignal (live : LiveWorker) (now : ℚ) (signal : Signal) : Work Unit :=
  ((worker.market.withMagics live.executorMagicMap).processor
    { worker.settings with maxOpenOrders := live.maxOpenOrders }).retrySignal now signal

/-- The loop of `_apply_retry_signals`. -/
def retryEach (now : ℚ) : List Signal → DeskWork Unit
  | [] => pure ()
  | signal :: rest => do
      let live : LiveWorker ← control .live
      Prog.embed (worker.retrySignal live now signal)
      retryEach now rest

def applyRetrySignals (signals : List Signal) : DeskWork Unit := do
  let now : ℚ ← Prog.embed (host .now)
  worker.retryEach now signals

/-- `_replay_blocked_reason`: a FOREX worker needs a magic map. -/
def replayBlocked (live : LiveWorker) : Bool :=
  match worker.market with
  | .forex _ => live.strategyMagicMap.entries = []
  | .crypto _ => false

/-- The replay, unless it is blocked. -/
def replay (signals : List Signal) : DeskWork Unit :=
  if signals = [] then pure ()
  else do
    let live : LiveWorker ← control .live
    if worker.replayBlocked live then pure () else worker.applyRetrySignals signals

def applySections (sections : AckSections) : DeskWork Unit :=
  if sections.hasConfig then do
    sections.settings.elim (pure ()) applyWorkerSettings
    sections.strategyMagicMap.elim (pure ()) worker.applyStrategyMagicMap
    worker.applyMarketInit sections.cryptoLeverageInit
    worker.replay sections.retrySignals
  else pure ()

def applyWorkerConnectedAck (V : Validators) (data : Dict String Json) : DeskWork Unit :=
  match V.workerConnectedAck data with
  | .error _ => pure ()
  | .ok ack => worker.applySections ack.toAckSections

end ControlWorker

/-! ## In order -/

/-- The step of an ACK a call belongs to: settings, magic map, market init, replay. -/
def DeskOp.step : DeskOp → Option Nat
  | .inr .live => none
  | .inr (.setSignalsBlocked _) | .inr (.setMaxOpenOrders _) | .inr (.sendSignalsBlocked _) =>
      some 0
  | .inr (.setStrategyMagicMap _) | .inr (.setExecutorMagicMap _) => some 1
  | .inr (.getMaxLeverage _) | .inr (.setLeverage ..) => some 2
  | .inl _ => some 3

/-- Calls of one step, and looks at the worker's memory. -/
def stepOnly (n : Nat) : Prog.Contract DeskOp DeskOp.Ans Exn where
  guard o := DeskOp.step o = none ∨ DeskOp.step o = some n
  answers _ _ := True

section Steps

variable {n : Nat}

theorem control_stepOnly {o : ControlOp}
    (h : DeskOp.step (.inr o) = none ∨ DeskOp.step (.inr o) = some n) :
    Prog.Sends (stepOnly n) (fun _ => True) (control o) :=
  Prog.sends_perform h fun _ _ => trivial

theorem setSignalsBlocked_stepOnly (blocked : Bool) :
    Prog.Sends (stepOnly 0) (fun _ => True) (setSignalsBlocked blocked) := by
  refine Prog.Sends.bind (control_stepOnly (Or.inl rfl)) fun live _ => ?_
  split
  · simp
  · exact Prog.Sends.bind (control_stepOnly (Or.inr rfl)) fun _ _ =>
      control_stepOnly (Or.inr rfl)

theorem setMaxOpenOrders_stepOnly (maxOpenOrders : Int) :
    Prog.Sends (stepOnly 0) (fun _ => True) (setMaxOpenOrders maxOpenOrders) := by
  refine Prog.Sends.bind (control_stepOnly (Or.inl rfl)) fun live _ => ?_
  split
  · simp
  · exact control_stepOnly (Or.inr rfl)

theorem applyWorkerSettings_stepOnly (settings : PushedSettings) :
    Prog.Sends (stepOnly 0) (fun _ => True) (applyWorkerSettings settings) := by
  refine Prog.Sends.bind (Q := fun _ => True) ?_ fun _ _ => ?_
  · cases settings.signalBlocked with
    | none => simp
    | some blocked => exact setSignalsBlocked_stepOnly blocked
  · cases settings.maxOpenOrders with
    | none => simp
    | some maxOpenOrders => exact setMaxOpenOrders_stepOnly maxOpenOrders

theorem initEach_stepOnly (job : LeverageInitJob) (symbols : List String) :
    Prog.Sends (stepOnly 2) (fun _ => True) (job.initEach symbols) := by
  induction symbols with
  | nil => simp [LeverageInitJob.initEach]
  | cons rawSymbol rest ih =>
      refine Prog.Sends.bind (Q := fun _ => True) ?_ fun _ _ => ih
      refine Prog.Sends.bind (control_stepOnly (Or.inr rfl)) fun maxLev _ => ?_
      split
      · simp
      · split
        · simp
        · exact Prog.Sends.bind (control_stepOnly (Or.inr rfl)) fun _ _ => by simp

theorem runLeverageInit_stepOnly (ex : CryptoExecutor) (settings : LeverageSettings)
    (init : LeverageInit) :
    Prog.Sends (stepOnly 2) (fun _ => True) (runLeverageInit ex settings init) := by
  refine Prog.Sends.tryCatch ?_ fun _ => by simp
  unfold LeverageInitJob.run
  dsimp only
  split
  · simp
  · split
    · simp
    · exact initEach_stepOnly ..

variable (worker : ControlWorker)

theorem applyStrategyMagicMap_stepOnly (pushed : Dict String Int) :
    Prog.Sends (stepOnly 1) (fun _ => True) (worker.applyStrategyMagicMap pushed) := by
  refine Prog.Sends.bind (control_stepOnly (Or.inr rfl)) fun _ _ => ?_
  split
  · exact control_stepOnly (Or.inr rfl)
  · simp

theorem applyMarketInit_stepOnly (init : Option LeverageInit) :
    Prog.Sends (stepOnly 2) (fun _ => True) (worker.applyMarketInit init) := by
  unfold ControlWorker.applyMarketInit
  split
  · simp
  · cases init with
    | none => simp
    | some init => exact runLeverageInit_stepOnly ..

theorem retryEach_stepOnly (now : ℚ) (signals : List Signal) :
    Prog.Sends (stepOnly 3) (fun _ => True) (worker.retryEach now signals) := by
  induction signals with
  | nil => simp [ControlWorker.retryEach]
  | cons signal rest ih =>
      refine Prog.Sends.bind (control_stepOnly (Or.inl rfl)) fun live _ => ?_
      exact Prog.Sends.bind (Prog.sends_embed_inl (fun _ => Or.inr rfl) _) fun _ _ => ih

theorem replay_stepOnly (signals : List Signal) :
    Prog.Sends (stepOnly 3) (fun _ => True) (worker.replay signals) := by
  unfold ControlWorker.replay
  split
  · simp
  · refine Prog.Sends.bind (control_stepOnly (Or.inl rfl)) fun live _ => ?_
    split
    · simp
    · exact Prog.Sends.bind (Prog.sends_embed_inl (fun _ => Or.inr rfl) _) fun _ _ =>
        retryEach_stepOnly ..

end Steps

/-- Whoever serves it, an ACK is applied step by step. -/
theorem applySections_inOrder (worker : ControlWorker) {σ : Type}
    (S : Prog.Server DeskOp DeskOp.Ans Exn σ) (sections : AckSections) (s : σ) :
    Prog.InOrder S DeskOp.step 0 3 (worker.applySections sections) s := by
  have hsettings : ∀ s, Prog.InOrder S DeskOp.step 0 0
      (sections.settings.elim (pure ()) applyWorkerSettings) s := by
    intro s
    refine Prog.inOrder_of_sends (Q := fun _ => True) ?_ le_rfl le_rfl
    cases sections.settings with
    | none => simp
    | some settings => exact applyWorkerSettings_stepOnly settings
  have hmagics : ∀ s, Prog.InOrder S DeskOp.step 0 1
      (sections.strategyMagicMap.elim (pure ()) worker.applyStrategyMagicMap) s := by
    intro s
    refine Prog.inOrder_of_sends (Q := fun _ => True) ?_ (by omega) le_rfl
    cases sections.strategyMagicMap with
    | none => simp
    | some pushed => exact applyStrategyMagicMap_stepOnly worker pushed
  have hmarket : ∀ s, Prog.InOrder S DeskOp.step 1 2
      (worker.applyMarketInit sections.cryptoLeverageInit) s := fun s =>
    Prog.inOrder_of_sends (applyMarketInit_stepOnly worker _) (by omega) le_rfl
  have hreplay : ∀ s, Prog.InOrder S DeskOp.step 2 3 (worker.replay sections.retrySignals) s :=
    fun s => Prog.inOrder_of_sends (replay_stepOnly worker _) (by omega) le_rfl
  unfold ControlWorker.applySections
  split
  · refine (hsettings s).bind (fun _ s₁ _ => ?_) le_rfl (by omega)
    refine (hmagics s₁).bind (fun _ s₂ _ => ?_) (by omega) (by omega)
    exact (hmarket s₂).bind (fun _ s₃ _ => hreplay s₃) (by omega) (by omega)
  · exact Prog.inOrder_ret _

/-! ## What the configuration leaves -/

section Configured

variable {β : Type} (C : ControlBackend β) (desk : ControlDesk β)

theorem run_control (o : ControlOp) :
    Prog.run C.serve (control o) desk = C.serve (.inr o) desk :=
  Prog.run_perform ..

theorem serve_work_live (o : WorkerOp) : (C.serve (.inl o) desk).2.live = desk.live := by
  cases o with
  | db | fx | cx => rfl
  | host o => cases o <;> rfl

/-- Only the first two steps change the worker's memory. -/
theorem serve_live_of_step {o : DeskOp} {n : Nat} (hn : 2 ≤ n)
    (h : DeskOp.step o = none ∨ DeskOp.step o = some n) :
    (C.serve o desk).2.live = desk.live := by
  cases o with
  | inl o => exact serve_work_live C desk o
  | inr o =>
      cases o with
      | live | getMaxLeverage | setLeverage | sendSignalsBlocked => rfl
      | setSignalsBlocked | setMaxOpenOrders | setStrategyMagicMap | setExecutorMagicMap =>
          simp only [DeskOp.step, Option.some.injEq, reduceCtorEq, false_or] at h
          omega

theorem run_live_of_stepOnly {α : Type} {Q : α → Prop} {p : DeskWork α} {n : Nat} (hn : 2 ≤ n)
    (hp : Prog.Sends (stepOnly n) Q p) : (Prog.run C.serve p desk).2.live = desk.live :=
  hp.keeps (I := fun d => d.live = desk.live)
    (fun _ d hd ho => ⟨trivial, (serve_live_of_step C d hn ho).trans hd⟩) rfl

theorem run_setSignalsBlocked_live (blocked : Bool) :
    (Prog.run C.serve (setSignalsBlocked blocked) desk).2.live =
      { desk.live with signalsBlocked := blocked } := by
  unfold setSignalsBlocked
  rw [Prog.run_bind, run_control]
  dsimp only [ControlBackend.serve]
  split
  · rename_i hsame
    rw [← hsame]
    rfl
  · rw [Prog.run_bind, run_control]
    dsimp only [ControlBackend.serve]
    rw [run_control]
    rfl

theorem run_setMaxOpenOrders (maxOpenOrders : Int) :
    (Prog.run C.serve (setMaxOpenOrders maxOpenOrders) desk).2.live =
      { desk.live with maxOpenOrders := some maxOpenOrders } := by
  unfold setMaxOpenOrders
  rw [Prog.run_bind, run_control]
  dsimp only [ControlBackend.serve]
  split
  · rename_i hsame
    rw [← hsame]
    rfl
  · rw [run_control]
    rfl

theorem run_applyWorkerSettings_live {settings : PushedSettings} {u : Unit} {desk' : ControlDesk β}
    (h : Prog.run C.serve (applyWorkerSettings settings) desk = (.ok u, desk')) :
    desk'.live = desk.live.applyWorkerSettings settings := by
  have hblocked : ∀ {u : Unit} {d : ControlDesk β}, Prog.run C.serve
      (settings.signalBlocked.elim (pure ()) setSignalsBlocked) desk = (.ok u, d) →
        d.live = { desk.live with
          signalsBlocked := settings.signalBlocked.getD desk.live.signalsBlocked } := by
    intro u d hrun
    cases hpushed : settings.signalBlocked with
    | none =>
        rw [hpushed] at hrun
        cases hrun
        rfl
    | some blocked =>
        rw [hpushed] at hrun
        have hlive := run_setSignalsBlocked_live C desk blocked
        rw [show Prog.run C.serve (setSignalsBlocked blocked) desk = (.ok u, d) from hrun] at hlive
        exact hlive
  have horders : ∀ d : ControlDesk β, (Prog.run C.serve
      (settings.maxOpenOrders.elim (pure ()) setMaxOpenOrders) d).2.live =
        { d.live with maxOpenOrders := settings.maxOpenOrders <|> d.live.maxOpenOrders } := by
    intro d
    cases settings.maxOpenOrders with
    | none => rfl
    | some maxOpenOrders => exact run_setMaxOpenOrders C d maxOpenOrders
  unfold applyWorkerSettings at h
  rw [Prog.run_bind] at h
  rcases hfirst : Prog.run C.serve
    (settings.signalBlocked.elim (pure ()) setSignalsBlocked) desk with ⟨e | u', d⟩
  · rw [hfirst] at h
    cases h
  · rw [hfirst] at h
    have hlive := horders d
    rw [show Prog.run C.serve (settings.maxOpenOrders.elim (pure ()) setMaxOpenOrders) d =
      (.ok u, desk') from h, hblocked hfirst] at hlive
    exact hlive

theorem run_applyStrategyMagicMap_live (worker : ControlWorker) (pushed : Dict String Int) :
    (Prog.run C.serve (worker.applyStrategyMagicMap pushed) desk).2.live =
      desk.live.applyStrategyMagicMap worker.setup pushed := by
  unfold ControlWorker.applyStrategyMagicMap LiveWorker.applyStrategyMagicMap
  rw [Prog.run_bind, run_control]
  dsimp only [ControlBackend.serve]
  cases hmarket : worker.market with
  | forex ex =>
      dsimp only
      rw [run_control]
      simp [ControlWorker.setup, hmarket, Market.marketType, LiveWorker.setExecutorMagicMap,
        ControlBackend.serve]
  | crypto ex =>
      simp [ControlWorker.setup, hmarket, Market.marketType, LiveWorker.setExecutorMagicMap]

end Configured

end TradeWorker
