import TradeWorker.Handshake
import TradeWorker.Ledger

/-!
# What an ACK puts in force before its replay

The worker's memory is configured and the exchange is asked for the leverage the section
calls for; then signals are replayed. The settings tell the operator when a block changes,
and if that alert is refused the ACK ends there, with the block in force.
-/

namespace TradeWorker

/-! ## What an ACK asks of others -/

/-- A call of the worker, with its reply. -/
abbrev DeskExchange := (o : DeskOp) × Except Exn (DeskOp.Ans o)

namespace DeskExchange

/-- The alert that a block changed was not taken. -/
def NoticeRaised : DeskExchange → Prop
  | ⟨.inr (.sendSignalsBlocked _), .error _⟩ => True
  | _ => False

def LeverageRaised : DeskExchange → Prop
  | ⟨.inr (.getMaxLeverage _), .error _⟩ | ⟨.inr (.setLeverage ..), .error _⟩ => True
  | _ => False

def asked? : DeskExchange → Option String
  | ⟨.inr (.getMaxLeverage symbol), _⟩ => some symbol
  | _ => none

/-- The leverage a reply calls for: the maximum, up to the cap. -/
def wanted? (cap : Int) (minCap : Option Int) : DeskExchange → Option (String × Int × Option Int)
  | ⟨.inr (.getMaxLeverage symbol), .ok (some maxLev)⟩ =>
      if 0 < maxLev then some (symbol, min maxLev cap, minCap) else none
  | _ => none

def set? : DeskExchange → Option (String × Int × Option Int)
  | ⟨.inr (.setLeverage symbol leverage minCap), _⟩ => some (symbol, leverage, minCap)
  | _ => none

variable {x : DeskExchange}

theorem asked?_of_step (h : x.1.step ≠ some 2) : x.asked? = none := by
  rcases x with ⟨o | o, r⟩
  · rfl
  · cases o <;> first | rfl | exact absurd rfl h

theorem set?_of_step (h : x.1.step ≠ some 2) : x.set? = none := by
  rcases x with ⟨o | o, r⟩
  · rfl
  · cases o <;> first | rfl | exact absurd rfl h

theorem wanted?_of_step {cap : Int} {minCap : Option Int} (h : x.1.step ≠ some 2) :
    x.wanted? cap minCap = none := by
  rcases x with ⟨o | o, r⟩
  · rfl
  · cases o <;> first | rfl | exact absurd rfl h

end DeskExchange

open DeskExchange (asked? wanted? set?)

/-- The symbols are asked for in order, all of them if the exchange fails no call, and where
a maximum is known the leverage it calls for is requested. -/
structure LeveragePass (symbols : List String) (cap : Int) (minCap : Option Int)
    (talk : List DeskExchange) : Prop where
  asked : talk.filterMap asked? <+: symbols
  all : (∀ x ∈ talk, ¬x.LeverageRaised) → talk.filterMap asked? = symbols
  set : talk.filterMap set? = talk.filterMap (wanted? cap minCap)

namespace LeveragePass

variable {symbols : List String} {cap : Int} {minCap : Option Int} {talk : List DeskExchange}

theorem empty : LeveragePass [] cap minCap [] :=
  ⟨List.prefix_rfl, fun _ => rfl, rfl⟩

/-- A symbol whose pass went through, and the others. -/
theorem append (h : LeveragePass symbols cap minCap talk) {symbol : String}
    {first : List DeskExchange} (hasked : first.filterMap asked? = [symbol])
    (hset : first.filterMap set? = first.filterMap (wanted? cap minCap)) :
    LeveragePass (symbol :: symbols) cap minCap (first ++ talk) := by
  refine ⟨?_, fun hraised => ?_, ?_⟩
  · rw [List.filterMap_append, hasked, List.singleton_append]
    exact List.prefix_cons_inj symbol |>.mpr h.asked
  · rw [List.filterMap_append, hasked, List.singleton_append,
      h.all fun x hx => hraised x (List.mem_append_right _ hx)]
  · rw [List.filterMap_append, List.filterMap_append, hset, h.set]

/-- A symbol at which the exchange failed a call ends the pass. -/
theorem failed {symbol : String} {first : List DeskExchange}
    (hasked : first.filterMap asked? = [symbol])
    (hset : first.filterMap set? = first.filterMap (wanted? cap minCap))
    (hraised : ∃ x ∈ first, x.LeverageRaised) (symbols : List String) :
    LeveragePass (symbol :: symbols) cap minCap first := by
  refine ⟨?_, fun hnone => ?_, hset⟩
  · rw [hasked]
    exact ⟨symbols, rfl⟩
  · obtain ⟨x, hx, hfailed⟩ := hraised
    exact absurd hfailed (hnone x hx)

/-- What is said of other things before and after does not matter. -/
theorem within (h : LeveragePass symbols cap minCap talk) {before after : List DeskExchange}
    (hbefore : ∀ x ∈ before, x.1.step ≠ some 2) (hafter : ∀ x ∈ after, x.1.step ≠ some 2) :
    LeveragePass symbols cap minCap (before ++ talk ++ after) := by
  have hsame : ∀ {γ : Type} (f : DeskExchange → Option γ), (∀ x, x.1.step ≠ some 2 → f x = none) →
      (before ++ talk ++ after).filterMap f = talk.filterMap f := by
    intro γ f hf
    have hnone : ∀ {l : List DeskExchange}, (∀ x ∈ l, x.1.step ≠ some 2) → l.filterMap f = [] :=
      fun hl => List.filterMap_eq_nil_iff.mpr fun x hx => hf x (hl x hx)
    rw [List.filterMap_append, List.filterMap_append, hnone hbefore, hnone hafter,
      List.nil_append, List.append_nil]
  have hasked := hsame asked? fun _ => DeskExchange.asked?_of_step
  have hset := hsame set? fun _ => DeskExchange.set?_of_step
  have hwanted := hsame (wanted? cap minCap) fun _ => DeskExchange.wanted?_of_step
  refine ⟨?_, fun hraised => ?_, ?_⟩
  · rw [hasked]
    exact h.asked
  · rw [hasked]
    exact h.all fun x hx =>
      hraised x (List.mem_append_left _ (List.mem_append_right _ hx))
  · rw [hset, hwanted]
    exact h.set

end LeveragePass

section Asked

variable {β : Type} (C : ControlBackend β)

/-- One symbol: the job goes on unless the exchange failed a call. -/
theorem dialogue_initOne (job : LeverageInitJob) (rawSymbol : String) (desk : ControlDesk β) :
    (Prog.dialogue C.serve (job.initOne rawSymbol) desk).filterMap asked? =
        [job.resolve rawSymbol] ∧
      (Prog.dialogue C.serve (job.initOne rawSymbol) desk).filterMap set? =
          (Prog.dialogue C.serve (job.initOne rawSymbol) desk).filterMap
            (wanted? job.cap job.minCap) ∧
        ((Prog.run C.serve (job.initOne rawSymbol) desk).1 = .ok () ∨
          ∃ x ∈ Prog.dialogue C.serve (job.initOne rawSymbol) desk,
            DeskExchange.LeverageRaised x) := by
  unfold LeverageInitJob.initOne control
  dsimp only
  rcases hget : C.serve (.inr (.getMaxLeverage (job.resolve rawSymbol))) desk with
    ⟨e | maxLev, desk₁⟩
  · rw [Prog.dialogue_perform_error hget]
    exact ⟨rfl, rfl, Or.inr ⟨_, List.mem_singleton.mpr rfl, trivial⟩⟩
  rw [Prog.dialogue_perform_ok hget, Prog.run_bind_ok _ ((Prog.run_perform _ _ _).trans hget)]
  rcases maxLev with _ | maxLev
  · exact ⟨rfl, rfl, Or.inl rfl⟩
  dsimp only
  by_cases hmax : maxLev ≤ 0
  · have hwanted : wanted? job.cap job.minCap
        ⟨.inr (.getMaxLeverage (job.resolve rawSymbol)), .ok (some maxLev)⟩ = none :=
      if_neg (by omega)
    rw [if_pos hmax]
    refine ⟨rfl, ?_, Or.inl rfl⟩
    rw [List.filterMap_cons_none hwanted]
    rfl
  have hwanted : wanted? job.cap job.minCap
      ⟨.inr (.getMaxLeverage (job.resolve rawSymbol)), .ok (some maxLev)⟩ =
        some (job.resolve rawSymbol, min maxLev job.cap, job.minCap) :=
    if_pos (by omega)
  rw [if_neg hmax]
  rcases hset : C.serve (.inr (.setLeverage (job.resolve rawSymbol) (min maxLev job.cap)
    job.minCap)) desk₁ with ⟨e | applied, desk₂⟩
  · rw [Prog.dialogue_perform_error hset]
    refine ⟨rfl, ?_, Or.inr ⟨_, List.mem_cons_of_mem _ (List.mem_singleton.mpr rfl), trivial⟩⟩
    rw [List.filterMap_cons_some hwanted]
    rfl
  · rw [Prog.dialogue_perform_ok hset, Prog.run_bind_ok _ ((Prog.run_perform _ _ _).trans hset)]
    refine ⟨rfl, ?_, Or.inl rfl⟩
    rw [List.filterMap_cons_some hwanted]
    rfl

theorem dialogue_initEach (job : LeverageInitJob) (symbols : List String) (desk : ControlDesk β) :
    LeveragePass (symbols.map job.resolve) job.cap job.minCap
      (Prog.dialogue C.serve (job.initEach symbols) desk) := by
  induction symbols generalizing desk with
  | nil => exact LeveragePass.empty
  | cons rawSymbol rest ih =>
      obtain ⟨hasked, hset, hend⟩ := dialogue_initOne C job rawSymbol desk
      unfold LeverageInitJob.initEach
      rcases hrun : Prog.run C.serve (job.initOne rawSymbol) desk with ⟨e | u, desk'⟩
      · rw [Prog.dialogue_bind_error hrun]
        rw [hrun] at hend
        exact LeveragePass.failed hasked hset (hend.resolve_left fun h => by cases h) _
      · rw [Prog.dialogue_bind_ok hrun]
        exact (ih desk').append hasked hset

/-- A whole run: nothing is asked without a cap. -/
theorem dialogue_run (job : LeverageInitJob) (desk : ControlDesk β) :
    LeveragePass
      (if job.cap ≤ 0 then [] else ((job.symbols.filter (· ≠ "")).eraseDups.map job.resolve))
      job.cap job.minCap (Prog.dialogue C.serve job.run desk) := by
  unfold LeverageInitJob.run
  dsimp only
  by_cases hnone : (job.symbols.filter (· ≠ "")).eraseDups = []
  · rw [if_pos hnone, hnone, List.map_nil, ite_self]
    exact LeveragePass.empty
  rw [if_neg hnone]
  by_cases hcap : job.cap ≤ 0
  · rw [if_pos hcap, if_pos hcap]
    exact LeveragePass.empty
  · rw [if_neg hcap, if_neg hcap]
    exact dialogue_initEach C job _ desk

end Asked

namespace ControlWorker

/-- The cap of a pass: the worker's own where it is told to use that, or the section names
none. -/
def leverageCap (worker : ControlWorker) (init : LeverageInit) : Int :=
  if worker.leverage.useCustomLeverage then worker.leverage.maxLeverageCap
  else init.defaultLeverage.getD worker.leverage.maxLeverageCap

/-- The symbols a section has a worker ask for: those it names, else the configured ones,
each once, in the exchange's spelling. -/
def leverageSymbols (worker : ControlWorker) : Option LeverageInit → List String
  | none => []
  | some init =>
      match worker.market with
      | .forex _ => []
      | .crypto ex =>
          if worker.leverageCap init ≤ 0 then []
          else ((init.symbols.getD worker.leverage.initSymbols).filter (· ≠ "")).eraseDups.map
            ex.getSymbol

/-- The floor a request falls back to. -/
def leverageFloor (worker : ControlWorker) : Option Int :=
  if worker.leverage.minLeverageCap = 0 then none else some worker.leverage.minLeverageCap

/-- What is asked of the exchange is what the section calls for. -/
def LeverageApplied (worker : ControlWorker) (init : Option LeverageInit)
    (talk : List DeskExchange) : Prop :=
  LeveragePass (worker.leverageSymbols init) (worker.leverageCap (init.getD {}))
    worker.leverageFloor talk

theorem leverageInitJob_cap (worker : ControlWorker) (ex : CryptoExecutor) (init : LeverageInit) :
    (leverageInitJob ex worker.leverage init).cap = worker.leverageCap init := by
  unfold leverageInitJob leverageCap
  dsimp only
  split_ifs <;> rfl

theorem applyMarketInit_applied {β : Type} (worker : ControlWorker) (C : ControlBackend β)
    (init : Option LeverageInit) (desk : ControlDesk β) :
    worker.LeverageApplied init (Prog.dialogue C.serve (worker.applyMarketInit init) desk) := by
  unfold LeverageApplied applyMarketInit leverageSymbols
  cases init with
  | none => cases worker.market <;> exact LeveragePass.empty
  | some init =>
      cases worker.market with
      | forex ex => exact LeveragePass.empty
      | crypto ex =>
          have hrun := dialogue_run C (leverageInitJob ex worker.leverage init) desk
          rw [worker.leverageInitJob_cap ex init] at hrun
          show LeveragePass _ _ _
            (Prog.dialogue C.serve (runLeverageInit ex worker.leverage init) desk)
          rw [runLeverageInit, Prog.dialogue_swallow]
          exact hrun

end ControlWorker

/-! ## The configuration as a whole -/

section Sections

variable {β : Type} (C : ControlBackend β) (desk : ControlDesk β)

theorem mem_dialogue_stepOnly {α : Type} {Q : α → Prop} {p : DeskWork α} {n : Nat}
    (hp : Prog.Sends (stepOnly n) Q p) {x : DeskExchange} (hx : x ∈ Prog.dialogue C.serve p desk) :
    x.1.step = none ∨ x.1.step = some n := by
  refine hp.calls (S := C.serve) (fun _ _ => trivial) desk x.1 ?_
  rw [Prog.calls_eq_map_dialogue]
  exact List.mem_map_of_mem hx

theorem DeskExchange.NoticeRaised.step {x : DeskExchange} (h : x.NoticeRaised) :
    x.1.step = some 0 := by
  rcases x with ⟨o | o, r⟩
  · exact absurd h id
  · cases o <;> first | rfl | exact absurd h id

theorem notice_stepOnly {α : Type} {Q : α → Prop} {p : DeskWork α} {n : Nat} (hn : n ≠ 0)
    (hp : Prog.Sends (stepOnly n) Q p) :
    ∀ x ∈ Prog.dialogue C.serve p desk, ¬DeskExchange.NoticeRaised x := by
  intro x hx hnotice
  have hzero := hnotice.step
  rcases mem_dialogue_stepOnly C desk hp hx with hnone | hstep
  · rw [hzero] at hnone
    cases hnone
  · rw [hzero] at hstep
    exact hn (Option.some.inj hstep).symm

theorem setSignalsBlocked_notice (blocked : Bool) :
    (Prog.run C.serve (setSignalsBlocked blocked) desk).1 = .ok () ↔
      ∀ x ∈ Prog.dialogue C.serve (setSignalsBlocked blocked) desk,
        ¬DeskExchange.NoticeRaised x := by
  have hlive : C.serve (.inr .live) desk = (.ok desk.live, desk) := rfl
  unfold setSignalsBlocked control
  rw [Prog.run_bind_ok _ ((Prog.run_perform _ _ _).trans hlive), Prog.dialogue_perform_ok hlive]
  by_cases hsame : desk.live.signalsBlocked = blocked
  · rw [if_pos hsame]
    exact iff_of_true rfl (List.forall_mem_singleton.mpr id)
  rw [if_neg hsame]
  obtain ⟨desk', hset⟩ : ∃ desk', C.serve (.inr (.setSignalsBlocked blocked)) desk =
      (.ok (), desk') := ⟨_, rfl⟩
  rw [Prog.run_bind_ok _ ((Prog.run_perform _ _ _).trans hset), Prog.dialogue_perform_ok hset,
    Prog.run_perform, Prog.dialogue_perform]
  have hquiet : ∀ r, (∀ x ∈ ([⟨.inr .live, .ok desk.live⟩,
      ⟨.inr (.setSignalsBlocked blocked), .ok ()⟩,
      ⟨.inr (.sendSignalsBlocked blocked), r⟩] : List DeskExchange), ¬x.NoticeRaised) ↔
        ¬DeskExchange.NoticeRaised ⟨.inr (.sendSignalsBlocked blocked), r⟩ := by
    intro r
    rw [List.forall_mem_cons, List.forall_mem_cons, List.forall_mem_singleton]
    exact ⟨fun h => h.2.2, fun h => ⟨id, id, h⟩⟩
  rw [hquiet]
  rcases C.serve (.inr (.sendSignalsBlocked blocked)) desk' with ⟨e | u, d⟩
  · exact iff_of_false (fun h => nomatch h) fun h => h trivial
  · exact iff_of_true rfl id

theorem setMaxOpenOrders_notice (maxOpenOrders : Int) :
    (Prog.run C.serve (setMaxOpenOrders maxOpenOrders) desk).1 = .ok () ∧
      ∀ x ∈ Prog.dialogue C.serve (setMaxOpenOrders maxOpenOrders) desk,
        ¬DeskExchange.NoticeRaised x := by
  have hlive : C.serve (.inr .live) desk = (.ok desk.live, desk) := rfl
  unfold setMaxOpenOrders control
  rw [Prog.run_bind_ok _ ((Prog.run_perform _ _ _).trans hlive), Prog.dialogue_perform_ok hlive]
  split_ifs
  · exact ⟨rfl, List.forall_mem_singleton.mpr id⟩
  · refine ⟨rfl, List.forall_mem_cons.mpr ⟨id, ?_⟩⟩
    rw [Prog.dialogue_perform]
    exact List.forall_mem_singleton.mpr id

/-- The settings go through exactly if the alert of a changed block is taken. -/
theorem applyWorkerSettings_notice (settings : PushedSettings) :
    (Prog.run C.serve (applyWorkerSettings settings) desk).1 = .ok () ↔
      ∀ x ∈ Prog.dialogue C.serve (applyWorkerSettings settings) desk,
        ¬DeskExchange.NoticeRaised x := by
  have hblocked : (Prog.run C.serve (settings.signalBlocked.elim (pure ()) setSignalsBlocked)
      desk).1 = .ok () ↔ ∀ x ∈ Prog.dialogue C.serve
        (settings.signalBlocked.elim (pure ()) setSignalsBlocked) desk,
          ¬DeskExchange.NoticeRaised x := by
    cases settings.signalBlocked with
    | none => exact iff_of_true rfl (List.forall_mem_nil _)
    | some blocked => exact setSignalsBlocked_notice C desk blocked
  have horders : ∀ d, (Prog.run C.serve (settings.maxOpenOrders.elim (pure ()) setMaxOpenOrders)
      d).1 = .ok () ∧ ∀ x ∈ Prog.dialogue C.serve
        (settings.maxOpenOrders.elim (pure ()) setMaxOpenOrders) d,
          ¬DeskExchange.NoticeRaised x := by
    intro d
    cases settings.maxOpenOrders with
    | none => exact ⟨rfl, List.forall_mem_nil _⟩
    | some maxOpenOrders => exact setMaxOpenOrders_notice C d maxOpenOrders
  unfold applyWorkerSettings
  rcases hrun : Prog.run C.serve (settings.signalBlocked.elim (pure ()) setSignalsBlocked) desk
    with ⟨e | u, d⟩
  · rw [Prog.run_bind_error _ hrun, Prog.dialogue_bind_error hrun, ← hblocked, hrun]
  · rw [Prog.run_bind_ok _ hrun, Prog.dialogue_bind_ok hrun]
    rw [hrun] at hblocked
    refine iff_of_true (horders d).1 fun x hx => ?_
    rcases List.mem_append.mp hx with hx | hx
    · exact hblocked.mp rfl x hx
    · exact (horders d).2 x hx

/-- The flag is set before the alert is sent. -/
theorem run_applyWorkerSettings_signalsBlocked (settings : PushedSettings) :
    (Prog.run C.serve (applyWorkerSettings settings) desk).2.live.signalsBlocked =
      settings.signalBlocked.getD desk.live.signalsBlocked := by
  have hblocked : (Prog.run C.serve (settings.signalBlocked.elim (pure ()) setSignalsBlocked)
      desk).2.live.signalsBlocked = settings.signalBlocked.getD desk.live.signalsBlocked := by
    cases settings.signalBlocked with
    | none => rfl
    | some blocked => exact congrArg _ (run_setSignalsBlocked_live C desk blocked)
  have horders : ∀ d : ControlDesk β, (Prog.run C.serve
      (settings.maxOpenOrders.elim (pure ()) setMaxOpenOrders) d).2.live.signalsBlocked =
        d.live.signalsBlocked := by
    intro d
    cases settings.maxOpenOrders with
    | none => rfl
    | some maxOpenOrders =>
        have hlive := congrArg LiveWorker.signalsBlocked (run_setMaxOpenOrders C d maxOpenOrders)
        exact hlive
  unfold applyWorkerSettings
  rcases hrun : Prog.run C.serve (settings.signalBlocked.elim (pure ()) setSignalsBlocked) desk
    with ⟨e | u, d⟩
  · rw [hrun] at hblocked
    rw [Prog.run_bind_error _ hrun]
    exact hblocked
  · rw [hrun] at hblocked
    rw [Prog.run_bind_ok _ hrun, horders]
    exact hblocked

theorem run_applyStrategyMagicMap_ok (worker : ControlWorker) (pushed : Dict String Int) :
    (Prog.run C.serve (worker.applyStrategyMagicMap pushed) desk).1 = .ok () := by
  unfold ControlWorker.applyStrategyMagicMap
  cases worker.market <;> rfl

theorem run_applyMarketInit_ok (worker : ControlWorker) (init : Option LeverageInit) :
    (Prog.run C.serve (worker.applyMarketInit init) desk).1 = .ok () := by
  unfold ControlWorker.applyMarketInit
  cases worker.market with
  | forex ex => rfl
  | crypto ex =>
      cases init with
      | none => rfl
      | some init =>
          show (Prog.run C.serve (runLeverageInit ex worker.leverage init) desk).1 = .ok ()
          rw [runLeverageInit, Prog.run_tryCatch]
          rcases Prog.run C.serve (leverageInitJob ex worker.leverage init).run desk
            with ⟨e | u, d⟩ <;> rfl

variable (worker : ControlWorker) (sections : AckSections)

/-- The settings section, if there is one. -/
def AckSections.restore : DeskWork Unit :=
  sections.settings.elim (pure ()) applyWorkerSettings

/-- How an ACK with something to apply goes on: if the alert of its settings raises, that was
all. Otherwise the memory is configured, the market's section is asked for, and the replay
comes at a worker so configured. -/
theorem applySections_outcome (hconfig : sections.hasConfig = true) :
    (∃ e d, Prog.run C.serve sections.restore desk = (.error e, d) ∧
      Prog.run C.serve (worker.applySections sections) desk = (.error e, d) ∧
        Prog.dialogue C.serve (worker.applySections sections) desk =
          Prog.dialogue C.serve sections.restore desk) ∨
    ∃ d₁ d₂ d₃, Prog.run C.serve sections.restore desk = (.ok (), d₁) ∧
      d₃.live = desk.live.configure worker.setup sections ∧
      Prog.run C.serve (worker.applySections sections) desk =
        Prog.run C.serve (worker.replay sections.retrySignals) d₃ ∧
      Prog.dialogue C.serve (worker.applySections sections) desk =
        Prog.dialogue C.serve sections.restore desk ++
          Prog.dialogue C.serve
            (sections.strategyMagicMap.elim (pure ()) worker.applyStrategyMagicMap) d₁ ++
          Prog.dialogue C.serve (worker.applyMarketInit sections.cryptoLeverageInit) d₂ ++
          Prog.dialogue C.serve (worker.replay sections.retrySignals) d₃ := by
  have hwhole : worker.applySections sections = (do
      sections.restore
      sections.strategyMagicMap.elim (pure ()) worker.applyStrategyMagicMap
      worker.applyMarketInit sections.cryptoLeverageInit
      worker.replay sections.retrySignals) := if_pos hconfig
  rw [hwhole]
  rcases hrun₁ : Prog.run C.serve sections.restore desk with ⟨e | u, d₁⟩
  · exact Or.inl ⟨e, d₁, rfl, Prog.run_bind_error _ hrun₁, Prog.dialogue_bind_error hrun₁⟩
  right
  have hlive₁ : d₁.live = sections.settings.elim desk.live desk.live.applyWorkerSettings := by
    unfold AckSections.restore at hrun₁
    cases hsettings : sections.settings with
    | none =>
        rw [hsettings] at hrun₁
        cases hrun₁
        rfl
    | some settings =>
        rw [hsettings] at hrun₁
        exact run_applyWorkerSettings_live C desk hrun₁
  obtain ⟨d₂, hrun₂, hlive₂⟩ : ∃ d₂, Prog.run C.serve
      (sections.strategyMagicMap.elim (pure ()) worker.applyStrategyMagicMap) d₁ = (.ok (), d₂) ∧
        d₂.live = desk.live.configure worker.setup sections := by
    unfold LiveWorker.configure
    rw [← hlive₁]
    cases sections.strategyMagicMap with
    | none => exact ⟨d₁, rfl, rfl⟩
    | some pushed =>
        exact ⟨_, Prod.ext (run_applyStrategyMagicMap_ok C d₁ worker pushed) rfl,
          run_applyStrategyMagicMap_live C d₁ worker pushed⟩
  obtain ⟨d₃, hrun₃, hlive₃⟩ : ∃ d₃, Prog.run C.serve
      (worker.applyMarketInit sections.cryptoLeverageInit) d₂ = (.ok (), d₃) ∧
        d₃.live = d₂.live :=
    ⟨_, Prod.ext (run_applyMarketInit_ok C d₂ worker _) rfl,
      run_live_of_stepOnly C d₂ le_rfl (applyMarketInit_stepOnly worker _)⟩
  refine ⟨d₁, d₂, d₃, rfl, hlive₃.trans hlive₂, ?_, ?_⟩
  · rw [Prog.run_bind_ok _ hrun₁, Prog.run_bind_ok _ hrun₂, Prog.run_bind_ok _ hrun₃]
  · rw [Prog.dialogue_bind_ok hrun₁, Prog.dialogue_bind_ok hrun₂, Prog.dialogue_bind_ok hrun₃,
      List.append_assoc, List.append_assoc]

end Sections

/-! ## A blocked replay -/

/-- What a signal still does under a block: it is looked up in the log, and the flag and
the clock are read. -/
def WorkerOp.Suppressed : WorkerOp → Prop
  | .db o => o.isRead = true
  | .host .signalsBlocked | .host .now => True
  | _ => False

/-- The signal path under a block. -/
def suppressing : Prog.Contract WorkerOp WorkerOp.Ans Exn where
  guard := WorkerOp.Suppressed
  answers
    | .host .signalsBlocked, r => r = .ok true
    | _, _ => True

/-- And the worker's own looks at its memory. -/
def suppressingDesk : Prog.Contract DeskOp DeskOp.Ans Exn where
  guard
    | .inl o => o.Suppressed
    | .inr o => o = .live
  answers
    | .inl o, r => suppressing.answers o r
    | .inr _, _ => True

theorem signalExists_suppressed (id : String) :
    Prog.Sends suppressing (fun _ => True) (signalExists id) := by
  unfold signalExists
  split
  · simp
  · exact Prog.Sends.tryCatch (Prog.sends_perform rfl fun _ _ => trivial) fun _ => by simp

/-- A block turns every signal away at the door. -/
theorem processSignal_suppressed {Pos : Type} [LivePosition Pos] (P : Processor Pos)
    (signal : Signal) : Prog.Sends suppressing (fun _ => True) (P.processSignal signal) := by
  have hflag : Prog.Sends suppressing (fun blocked : Bool => blocked = true)
      (host .signalsBlocked) :=
    Prog.sends_perform trivial fun blocked h => Except.ok.inj h
  refine Prog.Sends.bind hflag fun blocked hblocked => ?_
  rw [if_pos hblocked]
  simp

theorem retrySignal_suppressed {Pos : Type} [LivePosition Pos] (P : Processor Pos) (now : ℚ)
    (signal : Signal) : Prog.Sends suppressing (fun _ => True) (P.retrySignal now signal) := by
  have hfresh : ∀ seen : Bool, Prog.Sends suppressing (fun _ => True)
      (if seen then pure ()
      else if Processor.maxRetryTimeout < now - signal.timestamp then pure ()
      else Prog.tryCatch (P.processSignal signal) fun _ => pure ()) := by
    intro seen
    split
    · simp
    · split
      · simp
      · exact Prog.Sends.tryCatch (processSignal_suppressed P signal) fun _ => by simp
  unfold Processor.retrySignal
  dsimp only
  split
  · exact Prog.Sends.bind (signalExists_suppressed _) fun seen _ => hfresh seen
  · exact hfresh false

theorem replay_suppressed (worker : ControlWorker) (signals : List Signal) :
    Prog.Sends suppressingDesk (fun _ => True) (worker.replay signals) := by
  have hembed : ∀ {α : Type} {p : Work α}, Prog.Sends suppressing (fun _ => True) p →
      Prog.Sends suppressingDesk (fun _ => True) (Prog.embed p) := fun hp => Prog.sends_embed hp
  have hlive : Prog.Sends suppressingDesk (fun _ => True) (control .live) :=
    Prog.sends_perform rfl fun _ _ => trivial
  have heach : ∀ now,
      Prog.Sends suppressingDesk (fun _ => True) (worker.retryEach now signals) := by
    intro now
    induction signals with
    | nil => simp [ControlWorker.retryEach]
    | cons signal rest ih =>
        refine Prog.Sends.bind hlive fun live _ => ?_
        exact Prog.Sends.bind (hembed (retrySignal_suppressed _ now signal)) fun _ _ => ih
  unfold ControlWorker.replay
  split
  · simp
  · refine Prog.Sends.bind hlive fun live _ => ?_
    split
    · simp
    · exact Prog.Sends.bind (hembed (Prog.sends_perform trivial fun _ _ => trivial))
        fun now _ => heach now

/-! ## The handshake as a whole -/

section Handshake

variable {β : Type} (C : ControlBackend β) (desk : ControlDesk β) (worker : ControlWorker)

theorem restore_stepOnly (sections : AckSections) :
    Prog.Sends (stepOnly 0) (fun _ => True) sections.restore := by
  unfold AckSections.restore
  cases sections.settings with
  | none => simp
  | some settings => exact applyWorkerSettings_stepOnly settings

theorem magics_stepOnly (sections : AckSections) : Prog.Sends (stepOnly 1) (fun _ => True)
    (sections.strategyMagicMap.elim (pure ()) worker.applyStrategyMagicMap) := by
  cases sections.strategyMagicMap with
  | none => simp
  | some pushed => exact applyStrategyMagicMap_stepOnly worker pushed

/-- A call of the signal path belongs to the replay, which found the worker configured. -/
theorem mem_calls_applySections {sections : AckSections} {o : WorkerOp}
    (h : .inl o ∈ Prog.calls C.serve (worker.applySections sections) desk) :
    (∃ d, Prog.run C.serve sections.restore desk = (.ok (), d)) ∧
      ∃ desk', desk'.live = desk.live.configure worker.setup sections ∧
        .inl o ∈ Prog.calls C.serve (worker.replay sections.retrySignals) desk' := by
  have hearlier : ∀ {n : Nat} {p : DeskWork Unit} {d : ControlDesk β} {x : DeskExchange}, n ≠ 3 →
      Prog.Sends (stepOnly n) (fun _ => True) p → x.1 = .inl o →
        x ∉ Prog.dialogue C.serve p d := by
    intro n p d x hn hp hx hmem
    rcases mem_dialogue_stepOnly C d hp hmem with hstep | hstep
    · rw [hx] at hstep
      cases hstep
    · rw [hx] at hstep
      exact hn (Option.some.inj hstep).symm
  by_cases hconfig : sections.hasConfig = true
  swap
  · rw [ControlWorker.applySections, if_neg hconfig] at h
    cases h
  rw [Prog.calls_eq_map_dialogue] at h
  obtain ⟨x, hx, hxo⟩ := List.mem_map.mp h
  rcases applySections_outcome C desk worker sections hconfig with
    ⟨e, d, -, -, htalk⟩ | ⟨d₁, d₂, d₃, hrestore, hlive, -, htalk⟩
  · rw [htalk] at hx
    exact absurd hx (hearlier (by omega) (restore_stepOnly sections) hxo)
  rw [htalk] at hx
  refine ⟨⟨d₁, hrestore⟩, d₃, hlive, ?_⟩
  rcases List.mem_append.mp hx with hx | hx
  · rcases List.mem_append.mp hx with hx | hx
    · rcases List.mem_append.mp hx with hx | hx
      · exact absurd hx (hearlier (by omega) (restore_stepOnly sections) hxo)
      · exact absurd hx (hearlier (by omega) (magics_stepOnly worker sections) hxo)
    · exact absurd hx (hearlier (by omega) (applyMarketInit_stepOnly worker _) hxo)
  · rw [Prog.calls_eq_map_dialogue, ← hxo]
    exact List.mem_map_of_mem hx

/-- No alert was refused. -/
def Announced (talk : List DeskExchange) : Prop := ∀ x ∈ talk, ¬DeskExchange.NoticeRaised x

theorem restore_announced (sections : AckSections) :
    (Prog.run C.serve sections.restore desk).1 = .ok () ↔
      Announced (Prog.dialogue C.serve sections.restore desk) := by
  unfold AckSections.restore
  cases sections.settings with
  | none => exact iff_of_true rfl (List.forall_mem_nil _)
  | some settings => exact applyWorkerSettings_notice C desk settings

/-- Only the settings send alerts, so the rest is reached exactly if none was refused. -/
theorem applySections_announced {sections : AckSections} {d : ControlDesk β}
    (hconfig : sections.hasConfig = true)
    (hrestore : Prog.run C.serve sections.restore desk = (.ok (), d)) :
    Announced (Prog.dialogue C.serve (worker.applySections sections) desk) := by
  have hfirst := (restore_announced C desk sections).mp (by rw [hrestore])
  rcases applySections_outcome C desk worker sections hconfig with
    ⟨e, d, herror, -, -⟩ | ⟨d₁, d₂, d₃, -, -, -, htalk⟩
  · rw [hrestore] at herror
    cases herror
  rw [htalk]
  intro x hx
  rcases List.mem_append.mp hx with hx | hx
  · rcases List.mem_append.mp hx with hx | hx
    · rcases List.mem_append.mp hx with hx | hx
      · exact hfirst x hx
      · exact notice_stepOnly C d₁ (by omega) (magics_stepOnly worker sections) x hx
    · exact notice_stepOnly C d₂ (by omega) (applyMarketInit_stepOnly worker _) x hx
  · exact notice_stepOnly C d₃ (by omega) (replay_stepOnly worker _) x hx

/-- What an ACK leaves, and what it asks of the exchange, unless an alert was refused. -/
theorem applySections_applied {sections : AckSections}
    (hannounced : Announced (Prog.dialogue C.serve (worker.applySections sections) desk)) :
    (Prog.run C.serve (worker.applySections sections) desk).2.live =
        desk.live.configure worker.setup sections ∧
      worker.LeverageApplied sections.cryptoLeverageInit
        (Prog.dialogue C.serve (worker.applySections sections) desk) := by
  by_cases hconfig : sections.hasConfig = true
  · rcases applySections_outcome C desk worker sections hconfig with
      ⟨e, d, herror, -, htalk⟩ | ⟨d₁, d₂, d₃, -, hlive, hrun, htalk⟩
    · rw [htalk] at hannounced
      have hok := (restore_announced C desk sections).mpr hannounced
      rw [herror] at hok
      cases hok
    refine ⟨?_, ?_⟩
    · rw [hrun, run_live_of_stepOnly C d₃ (by omega) (replay_stepOnly worker _), hlive]
    · rw [htalk]
      refine LeveragePass.within (worker.applyMarketInit_applied C _ d₂) ?_ fun x hx => ?_
      · intro x hx
        rcases List.mem_append.mp hx with hx | hx
        · rcases mem_dialogue_stepOnly C desk (restore_stepOnly sections) hx with h | h <;>
            simp [h]
        · rcases mem_dialogue_stepOnly C d₁ (magics_stepOnly worker sections) hx with h | h <;>
            simp [h]
      · rcases mem_dialogue_stepOnly C d₃ (replay_stepOnly worker _) hx with h | h <;> simp [h]
  · -- a reply with nothing to apply
    have hnone : sections.settings = none ∧ sections.strategyMagicMap = none ∧
        sections.cryptoLeverageInit = none := by
      unfold AckSections.hasConfig at hconfig
      simp only [Bool.or_eq_true, not_or, Bool.not_eq_true, Option.isSome_eq_false_iff,
        Option.isNone_iff_eq_none] at hconfig
      exact ⟨hconfig.1.1.1, hconfig.1.1.2, hconfig.1.2⟩
    obtain ⟨hsettings, hmagics, hinit⟩ := hnone
    rw [ControlWorker.applySections, if_neg hconfig, hinit]
    unfold LiveWorker.configure
    rw [hsettings, hmagics]
    exact ⟨rfl, LeveragePass.empty⟩

/-- A refused alert does not undo the block it tells of. -/
theorem applySections_signalsBlocked (sections : AckSections) :
    (Prog.run C.serve (worker.applySections sections) desk).2.live.signalsBlocked =
      (desk.live.configure worker.setup sections).signalsBlocked := by
  by_cases hannounced : Announced (Prog.dialogue C.serve (worker.applySections sections) desk)
  · rw [(applySections_applied C desk worker hannounced).1]
  have hconfig : sections.hasConfig = true := by
    by_contra hnone
    rw [ControlWorker.applySections, if_neg hnone] at hannounced
    exact hannounced (List.forall_mem_nil _)
  rcases applySections_outcome C desk worker sections hconfig with
    ⟨e, d, herror, hrun, -⟩ | ⟨d₁, d₂, d₃, hrestore, -⟩
  swap
  · exact absurd (applySections_announced C desk worker hconfig hrestore) hannounced
  have hmagics : (desk.live.configure worker.setup sections).signalsBlocked =
      (sections.settings.elim desk.live desk.live.applyWorkerSettings).signalsBlocked := by
    unfold LiveWorker.configure
    dsimp only
    cases sections.strategyMagicMap with
    | none => rfl
    | some pushed =>
        show (LiveWorker.applyStrategyMagicMap _ worker.setup pushed).signalsBlocked = _
        unfold LiveWorker.applyStrategyMagicMap LiveWorker.setExecutorMagicMap
        cases worker.setup.marketType <;> rfl
  rw [hrun, hmagics]
  unfold AckSections.restore at herror
  cases hsettings : sections.settings with
  | none =>
      rw [hsettings] at herror
      cases herror
  | some settings =>
      rw [hsettings] at herror
      have hflag := run_applyWorkerSettings_signalsBlocked C desk settings
      rw [show Prog.run C.serve (applyWorkerSettings settings) desk = _ from herror] at hflag
      exact hflag

/-- Under a block nothing more than lookups is left of the replay. -/
theorem applySections_suppressed {sections : AckSections}
    (hblocked : (desk.live.configure worker.setup sections).signalsBlocked = true) {o : WorkerOp}
    (h : .inl o ∈ Prog.calls C.serve (worker.applySections sections) desk) : o.Suppressed := by
  obtain ⟨-, desk', hlive, hmem⟩ := mem_calls_applySections C desk worker h
  refine (replay_suppressed worker sections.retrySignals).obeys
    (I := fun d => d.live.signalsBlocked = true) ?_ (hlive ▸ hblocked) (.inl o) hmem
  intro o d hd ho
  cases o with
  | inr o =>
      obtain rfl : o = .live := ho
      exact ⟨trivial, hd⟩
  | inl o =>
      refine ⟨?_, by rwa [serve_work_live]⟩
      cases o with
      | db | fx | cx => trivial
      | host o =>
          cases o with
          | signalsBlocked => exact congrArg Except.ok hd
          | ensureConnected | now | uuidHex | currentFooter | handling | notify
          | notifyChannel | recordCycle => trivial

/-- Without magics a FOREX worker does not begin it. -/
theorem applySections_unrouted {sections : AckSections}
    (hforex : worker.market.marketType = .forex)
    (hmagics : (desk.live.configure worker.setup sections).strategyMagicMap.entries = [])
    (o : WorkerOp) : .inl o ∉ Prog.calls C.serve (worker.applySections sections) desk := by
  intro h
  obtain ⟨-, desk', hlive, hmem⟩ := mem_calls_applySections C desk worker h
  have hreplay : worker.replayBlocked desk'.live = true := by
    unfold ControlWorker.replayBlocked
    cases hmarket : worker.market with
    | forex ex => simp [hlive, hmagics]
    | crypto ex => simp [hmarket, Market.marketType] at hforex
  unfold ControlWorker.replay at hmem
  split at hmem
  · cases hmem
  rcases Prog.mem_calls_bind hmem with hmem | ⟨live, d, hrun, hmem, -⟩
  · exact absurd (List.mem_singleton.mp hmem) (by simp)
  · rw [run_control] at hrun
    obtain ⟨rfl, rfl⟩ : desk'.live = live ∧ desk' = d := by
      cases hrun
      exact ⟨rfl, rfl⟩
    rw [if_pos hreplay] at hmem
    cases hmem

end Handshake

/-- An ACK is applied settings first, then the magic map, then the market's section, then the
replay. The settings and maps are in force when it is done, and the leverage its section calls
for was requested; only a refused alert of a changed block ends it before, with the block in
force and nothing replayed. A block in force after the settings lets no replayed signal reach
the handler, the broker or the store, and a FOREX worker left without magics touches none of
the batch. -/
theorem handshake_configuresFirst (V : Validators) (worker : ControlWorker) {β : Type}
    (C : ControlBackend β) (data : Dict String Json) (desk : ControlDesk β) :
    let reply := worker.applyWorkerConnectedAck V data
    let talk := Prog.dialogue C.serve reply desk
    let configured := desk.live.afterAck V worker.setup data
    (talk.filterMap (·.1.step)).Pairwise (· ≤ ·) ∧
      (Announced talk → (Prog.run C.serve reply desk).2.live = configured ∧
        ∀ ack, V.workerConnectedAck data = .ok ack →
          worker.LeverageApplied ack.cryptoLeverageInit talk) ∧
      (Prog.run C.serve reply desk).2.live.signalsBlocked = configured.signalsBlocked ∧
      (∀ o, .inl o ∈ Prog.calls C.serve reply desk → Announced talk) ∧
      (configured.signalsBlocked = true →
        ∀ o, .inl o ∈ Prog.calls C.serve reply desk → o.Suppressed) ∧
      (worker.market.marketType = .forex → configured.strategyMagicMap.entries = [] →
        ∀ o, .inl o ∉ Prog.calls C.serve reply desk) := by
  unfold ControlWorker.applyWorkerConnectedAck LiveWorker.afterAck
  cases V.workerConnectedAck data with
  | error err =>
      refine ⟨List.Pairwise.nil, fun _ => ⟨rfl, fun _ h => nomatch h⟩, rfl, fun o h => ?_,
        fun _ o h => ?_, fun _ _ o h => ?_⟩ <;> cases h
  | ok ack =>
      dsimp only
      refine ⟨?_, fun hannounced => ?_,
        applySections_signalsBlocked C desk worker ack.toAckSections, fun o h => ?_,
        fun hblocked o h => applySections_suppressed C desk worker hblocked h,
        fun hforex hmagics o => applySections_unrouted C desk worker hforex hmagics o⟩
      · have horder := (applySections_inOrder worker C.serve ack.toAckSections desk).1
        rw [Prog.calls_eq_map_dialogue, List.filterMap_map] at horder
        exact horder
      · obtain ⟨hlive, hleverage⟩ := applySections_applied C desk worker hannounced
        refine ⟨hlive, fun ack' hack => ?_⟩
        obtain rfl := Except.ok.inj hack
        exact hleverage
      · obtain ⟨⟨d, hrestore⟩, -⟩ := mem_calls_applySections C desk worker h
        refine applySections_announced C desk worker ?_ hrestore
        by_contra hnone
        rw [ControlWorker.applySections, if_neg hnone] at h
        cases h

/-! ## A replay after its configuration -/

/-- An exchange with a maximum of twenty, in reach. -/
def leveragedExchange : ControlBackend Unit where
  fx _ s := (.error (.other "no platform"), s)
  cx _ s := (.error (.other "not asked"), s)
  host
    | .now, s => (.ok 0, s)
    | .ensureConnected, s => (.ok true, s)
    | .handling _, s => (.ok (), s)
    | _, s => (.error (.other "not asked"), s)
  sendSignalsBlocked _ s := (.ok (), s)
  getMaxLeverage _ s := (.ok (some 20), s)
  setLeverage _ leverage _ s := (.ok (some leverage), s)

def leveragedWorker : ControlWorker where
  market := .crypto { config := {} }
  leverage := { initSymbols := ["BTCUSDT"] }

def freshDesk : ControlDesk Unit where
  live := { strategyMagicMap := .empty, executorMagicMap := .empty }
  world := { db := .empty, rest := () }

/-- An ACK with a cap on open orders, a leverage section and one signal to replay. -/
def leveragedAck : Dict String Json :=
  .ofPairs [("account_id", .str "CRYPTO-BINANCE-1"),
    ("settings", .obj [("max_open_orders", .int 3)]), ("crypto_leverage_init", .obj []),
    ("retry_signals", .arr [.obj [("strategy", .str "TREND"), ("symbol", .str "BTCUSDT"),
      ("action", .str "FLAT")]])]

def DeskOp.handed? : DeskOp → Option Signal
  | .inl (.host (.handling signal)) => some signal
  | _ => none

/-- The replayed signal reaches the handler with the cap in force and the leverage
requested. -/
theorem leveragedAck_configured :
    let reply := leveragedWorker.applyWorkerConnectedAck plainValidators leveragedAck
    ((Prog.calls leveragedExchange.serve reply freshDesk).filterMap DeskOp.handed?).map
        (·.symbol) = ["BTCUSDT"] ∧
      (Prog.run leveragedExchange.serve reply freshDesk).2.live.maxOpenOrders = some 3 ∧
      (Prog.dialogue leveragedExchange.serve reply freshDesk).filterMap set? =
        [("BTCUSDT", 10, some 5)] := by
  intro reply
  obtain ⟨-, happlied, -, hreplayed, -⟩ :=
    handshake_configuresFirst plainValidators leveragedWorker leveragedExchange leveragedAck
      freshDesk
  have hhanded : ((Prog.calls leveragedExchange.serve reply freshDesk).filterMap
      DeskOp.handed?).map (·.symbol) = ["BTCUSDT"] := by decide +kernel
  obtain ⟨o, hmem⟩ : ∃ o, .inl o ∈ Prog.calls leveragedExchange.serve reply freshDesk := by
    have hsymbol := List.mem_singleton.mpr (Eq.refl "BTCUSDT")
    rw [← hhanded] at hsymbol
    obtain ⟨signal, hsignal, -⟩ := List.mem_map.mp hsymbol
    obtain ⟨o, ho, hsome⟩ := List.mem_filterMap.mp hsignal
    cases o with
    | inl o => exact ⟨o, ho⟩
    | inr o => cases hsome
  obtain ⟨hlive, hleverage⟩ := happlied (hreplayed o hmem)
  have hack : (plainValidators.workerConnectedAck leveragedAck).toOption.map
      (·.cryptoLeverageInit) = some (some {}) := by decide +kernel
  refine ⟨hhanded, ?_, ?_⟩
  · rw [hlive]
    decide +kernel
  · cases hack' : plainValidators.workerConnectedAck leveragedAck with
    | error e =>
        rw [hack'] at hack
        cases hack
    | ok ack =>
        have hinit : ack.cryptoLeverageInit = some {} := by
          rw [hack'] at hack
          exact Option.some.inj hack
        rw [(hleverage ack hack').set, hinit]
        decide +kernel

end TradeWorker
