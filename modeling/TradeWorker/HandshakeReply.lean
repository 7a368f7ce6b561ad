import TradeWorker.Routing

/-!
# The reply that ends the handshake

The reply to `WORKER_CONNECTED` is text from outside, and it is read while the worker
starts: what escapes its handler ends `connect`. An ACK's faults are all caught, those of
its envelope included, and what is not an ACK changes nothing. Two faults are caught
nowhere. The handler looks an `action` up in whatever the text decodes to, and only an
object has such a lookup; and a `WORKER_CONNECTED_ERROR` is validated outside the `try`.
-/

namespace TradeWorker

/-! ## The handler -/

/-- The values of `SystemActionEnum`. -/
def SystemAction.value : SystemAction → String
  | .cryptoLeverageInit => "CRYPTO_LEVERAGE_INIT"
  | .workerSettingsUpdate => "WORKER_SETTINGS_UPDATE"
  | .workerConnected => "WORKER_CONNECTED"
  | .workerConnectedAck => "WORKER_CONNECTED_ACK"
  | .workerConnectedError => "WORKER_CONNECTED_ERROR"

/-- `SystemActionEnum(value)`: the member with that value, of whatever type it is. -/
def SystemAction.ofValue? : Option Json → Option SystemAction
  | some (.str value) =>
      [cryptoLeverageInit, workerSettingsUpdate, workerConnected, workerConnectedAck,
        workerConnectedError].find? (·.value = value)
  | _ => none

structure WorkerConnectedError extends SystemEnvelope where
  reason : Option String

/-- `WorkerConnectedErrorSchema(**data)`. -/
def ControlValidators.workerConnectedError (V : ControlValidators) (data : Dict String Json) :
    Except ValidationError WorkerConnectedError :=
  (bothFields (V.envelope (some .workerConnectedError) data)
    (fieldOr none V.optionalText (data.get? "reason"))).map fun fields =>
    { toSystemEnvelope := fields.1, reason := fields.2 }

def ControlWorker.handleWorkerConnectedResponse (worker : ControlWorker) (V : ControlValidators)
    (raw : RawMessage) : DeskWork Unit :=
  match raw.json with
  | none => pure ()
  | some json =>
      match json.dict? with
      -- `data.get` of a list, a text, a number, a boolean or `None`
      | none => .raise (.other "AttributeError: object has no attribute get")
      | some data =>
          match SystemAction.ofValue? (data.get? "action") with
          | none => pure ()
          | some .workerConnectedError =>
              match V.workerConnectedError data with
              | .error err => .raise (.valueError err.why)
              | .ok _ => pure ()
          | some .workerConnectedAck => worker.applyWorkerConnectedAck V.toValidators data
          | some _ => pure ()

/-! ## What is asked of it -/

namespace RawMessage

variable (V : ControlValidators) (raw : RawMessage)

/-- The object the text decodes to names this action. -/
def Names (data : Dict String Json) (action : SystemAction) : Prop :=
  raw.json.bind Json.dict? = some data ∧
    SystemAction.ofValue? (data.get? "action") = some action

def ValidAck : Prop :=
  ∃ data ack, raw.Names data .workerConnectedAck ∧ V.workerConnectedAck data = .ok ack

/-- What the handler can take: no JSON at all, or an object, which validates if it is an
error reply. -/
def Readable : Prop :=
  (raw.json = none ∨ ∃ data, raw.json.bind Json.dict? = some data) ∧
    ∀ data, raw.Names data .workerConnectedError → ∃ error, V.workerConnectedError data = .ok error

end RawMessage

section Reply

variable {β : Type} (worker : ControlWorker) (V : ControlValidators) (C : ControlBackend β)
  (raw : RawMessage) (desk : ControlDesk β)

def AlertSent (blocked : Bool) : Prop :=
  blocked ≠ desk.live.signalsBlocked →
    ∃ u, (C.sendSignalsBlocked blocked desk.world.rest).1 = .ok u

/-- The alert of the block an ACK pushes, if it pushes one. -/
def AckAlertSent : Prop :=
  ∀ data ack blocked, raw.Names data .workerConnectedAck → V.workerConnectedAck data = .ok ack →
    ack.settings.bind (·.signalBlocked) = some blocked → AlertSent C desk blocked

/-- The handler returns; unless the reply is a valid ACK, the worker's memory, its rows
and the broker are as they were, and nothing was asked of anyone. -/
structure SurvivesReply : Prop where
  returns : Prog.Returns C.serve (worker.handleWorkerConnectedResponse V raw) desk
  untouched : ¬ raw.ValidAck V →
    (Prog.run C.serve (worker.handleWorkerConnectedResponse V raw) desk).2 = desk ∧
      Prog.calls C.serve (worker.handleWorkerConnectedResponse V raw) desk = []

end Reply

/-! ## An ACK, applied without raising -/

section Returns

variable {β : Type} (C : ControlBackend β)

theorem returns_setSignalsBlocked_iff (blocked : Bool) (desk : ControlDesk β) :
    Prog.Returns C.serve (setSignalsBlocked blocked) desk ↔ AlertSent C desk blocked := by
  have hlive : Prog.run C.serve (control .live) desk = (.ok desk.live, desk) :=
    run_control C desk .live
  unfold setSignalsBlocked AlertSent
  rw [Prog.returns_bind_of _ hlive]
  by_cases hsame : desk.live.signalsBlocked = blocked
  · rw [if_pos hsame]
    exact ⟨fun _ h => absurd hsame.symm h, fun _ => Prog.returns_ret _ _ _⟩
  · rw [if_neg hsame, Prog.returns_bind_of _ (run_control C desk (.setSignalsBlocked blocked))]
    unfold Prog.Returns
    rw [run_control]
    constructor
    · rintro ⟨u, s', hsent⟩ -
      exact ⟨u, congrArg Prod.fst hsent⟩
    · intro h
      obtain ⟨u, hsent⟩ := h (Ne.symm hsame)
      exact ⟨u, _, Prod.ext hsent rfl⟩

theorem returns_setMaxOpenOrders (maxOpenOrders : Int) (desk : ControlDesk β) :
    Prog.Returns C.serve (setMaxOpenOrders maxOpenOrders) desk := by
  have hlive : Prog.run C.serve (control .live) desk = (.ok desk.live, desk) :=
    run_control C desk .live
  unfold setMaxOpenOrders
  rw [Prog.returns_bind_of _ hlive]
  split
  · exact Prog.returns_ret _ _ _
  · exact ⟨(), _, run_control C desk (.setMaxOpenOrders maxOpenOrders)⟩

theorem returns_applyWorkerSettings_iff (settings : PushedSettings) (desk : ControlDesk β) :
    Prog.Returns C.serve (applyWorkerSettings settings) desk ↔
      ∀ blocked, settings.signalBlocked = some blocked → AlertSent C desk blocked := by
  have horders : ∀ (u : Unit) (d : ControlDesk β), Prog.Returns C.serve
      (settings.maxOpenOrders.elim (pure ()) setMaxOpenOrders) d := by
    intro _ d
    cases settings.maxOpenOrders with
    | none => exact Prog.returns_ret _ _ _
    | some maxOpenOrders => exact returns_setMaxOpenOrders C maxOpenOrders d
  unfold applyWorkerSettings
  rw [Prog.returns_bind_of_forall _ horders]
  cases settings.signalBlocked with
  | none => simp [Prog.returns_ret]
  | some blocked =>
      simp only [Option.elim_some, Option.some.injEq, forall_eq']
      exact returns_setSignalsBlocked_iff C blocked desk

variable (worker : ControlWorker)

theorem returns_applyStrategyMagicMap (pushed : Dict String Int) (desk : ControlDesk β) :
    Prog.Returns C.serve (worker.applyStrategyMagicMap pushed) desk := by
  unfold ControlWorker.applyStrategyMagicMap
  rw [Prog.returns_bind_of _ (run_control C desk (.setStrategyMagicMap _))]
  split
  · exact ⟨(), _, run_control C _ (.setExecutorMagicMap _)⟩
  · exact Prog.returns_ret _ _ _

/-- What the leverage job raises is only logged. -/
theorem returns_applyMarketInit (init : Option LeverageInit) (desk : ControlDesk β) :
    Prog.Returns C.serve (worker.applyMarketInit init) desk := by
  unfold ControlWorker.applyMarketInit
  split
  · exact Prog.returns_ret _ _ _
  · cases init with
    | none => exact Prog.returns_ret _ _ _
    | some init => exact Prog.returns_swallow _ _ _ _

/-- A signal of the replay fails alone, and a lookup that fails counts as a hit. -/
theorem returns_retrySignal {σ ω : Type} [LivePosition ω]
    (S : Prog.Server WorkerOp WorkerOp.Ans Exn σ) (P : Processor ω) (now : ℚ) (signal : Signal)
    (s : σ) :
    Prog.Returns S (P.retrySignal now signal) s := by
  have hfresh : ∀ seen s', Prog.Returns S
      (if seen = true then pure ()
        else if Processor.maxRetryTimeout < now - signal.timestamp then pure ()
        else Prog.tryCatch (P.processSignal signal) fun _ => pure ()) s' := by
    intro seen s'
    split
    · exact Prog.returns_ret _ _ _
    · split
      · exact Prog.returns_ret _ _ _
      · exact Prog.returns_swallow _ _ _ _
  unfold Processor.retrySignal
  dsimp only
  split
  · rw [Prog.returns_bind_of_forall _ hfresh]
    unfold signalExists
    split
    · exact Prog.returns_ret _ _ _
    · exact Prog.returns_swallow _ _ _ _
  · exact hfresh false s

theorem returns_retryEach (now : ℚ) (signals : List Signal) (desk : ControlDesk β) :
    Prog.Returns C.serve (worker.retryEach now signals) desk := by
  induction signals generalizing desk with
  | nil => exact Prog.returns_ret _ _ _
  | cons signal rest ih =>
      have hlive : Prog.run C.serve (control .live) desk = (.ok desk.live, desk) :=
        run_control C desk .live
      unfold ControlWorker.retryEach
      rw [Prog.returns_bind_of _ hlive, Prog.returns_bind_of_forall _ fun _ => ih]
      unfold Prog.Returns
      rw [Prog.run_embed]
      exact returns_retrySignal ..

/-- The replay reads the clock outside its `try`. -/
theorem returns_replay (hclock : ∀ s, ∃ now, (C.host .now s).1 = .ok now) (signals : List Signal)
    (desk : ControlDesk β) : Prog.Returns C.serve (worker.replay signals) desk := by
  have hlive : Prog.run C.serve (control .live) desk = (.ok desk.live, desk) :=
    run_control C desk .live
  unfold ControlWorker.replay
  split
  · exact Prog.returns_ret _ _ _
  · rw [Prog.returns_bind_of _ hlive]
    split
    · exact Prog.returns_ret _ _ _
    · unfold ControlWorker.applyRetrySignals
      rw [Prog.returns_bind_of_forall _ fun now d => returns_retryEach C worker now signals d]
      obtain ⟨now, hnow⟩ := hclock desk.world.rest
      unfold Prog.Returns
      rw [Prog.run_embed]
      exact ⟨now, _, (Prog.run_perform ..).trans (Prod.ext hnow rfl)⟩

/-- Of an ACK's sections only the settings can raise, by their alert. -/
theorem returns_applySections_iff (hclock : ∀ s, ∃ now, (C.host .now s).1 = .ok now)
    (sections : AckSections) (desk : ControlDesk β) :
    Prog.Returns C.serve (worker.applySections sections) desk ↔
      ∀ blocked, sections.settings.bind (·.signalBlocked) = some blocked →
        AlertSent C desk blocked := by
  have hmagics : ∀ (u : Unit) (d : ControlDesk β), Prog.Returns C.serve
      (sections.strategyMagicMap.elim (pure ()) worker.applyStrategyMagicMap) d := by
    intro _ d
    cases sections.strategyMagicMap with
    | none => exact Prog.returns_ret _ _ _
    | some pushed => exact returns_applyStrategyMagicMap C worker pushed d
  have hrest : ∀ (u : Unit) (d : ControlDesk β), Prog.Returns C.serve (do
      sections.strategyMagicMap.elim (pure ()) worker.applyStrategyMagicMap
      worker.applyMarketInit sections.cryptoLeverageInit
      worker.replay sections.retrySignals) d := by
    intro u d
    rw [Prog.returns_bind_of_forall _ fun _ d' => ?_]
    · exact hmagics u d
    · rw [Prog.returns_bind_of_forall _ fun _ d'' => returns_replay C worker hclock _ d'']
      exact returns_applyMarketInit C worker _ d'
  unfold ControlWorker.applySections
  split
  · rw [Prog.returns_bind_of_forall _ hrest]
    cases sections.settings with
    | none => simp [Prog.returns_ret]
    | some settings => exact returns_applyWorkerSettings_iff C settings desk
  · rename_i hnone
    have hsettings : sections.settings = none := by
      unfold AckSections.hasConfig at hnone
      cases hsections : sections.settings with
      | none => rfl
      | some settings => simp [hsections] at hnone
    simp [hsettings, Prog.returns_ret]

end Returns

/-! ## Which replies it survives -/

section Reply

variable {β : Type} (worker : ControlWorker) (V : ControlValidators) (C : ControlBackend β)
  (raw : RawMessage) (desk : ControlDesk β)

/-- Whatever is no valid ACK ends without a call, raised or not. -/
theorem handleWorkerConnectedResponse_untouched (h : ¬ raw.ValidAck V) :
    (Prog.run C.serve (worker.handleWorkerConnectedResponse V raw) desk).2 = desk ∧
      Prog.calls C.serve (worker.handleWorkerConnectedResponse V raw) desk = [] := by
  unfold ControlWorker.handleWorkerConnectedResponse
  split
  · exact ⟨rfl, rfl⟩
  · rename_i json hjson
    split
    · exact ⟨rfl, rfl⟩
    · rename_i data hdata
      split
      · exact ⟨rfl, rfl⟩
      · split <;> exact ⟨rfl, rfl⟩
      · rename_i hack
        unfold ControlWorker.applyWorkerConnectedAck
        split
        · exact ⟨rfl, rfl⟩
        · rename_i ack hvalid
          have hnames : raw.Names data .workerConnectedAck := ⟨by rw [hjson]; exact hdata, hack⟩
          exact absurd ⟨data, ack, hnames, hvalid⟩ h
      · exact ⟨rfl, rfl⟩

variable {raw}

/-- The object a text decodes to is the only one. -/
theorem RawMessage.names_iff {data data' : Dict String Json} {action : SystemAction}
    (hdata : raw.json.bind Json.dict? = some data) :
    raw.Names data' action ↔
      data' = data ∧ SystemAction.ofValue? (data.get? "action") = some action := by
  unfold RawMessage.Names
  rw [hdata, Option.some.injEq]
  constructor
  · rintro ⟨rfl, haction⟩
    exact ⟨rfl, haction⟩
  · rintro ⟨rfl, haction⟩
    exact ⟨rfl, haction⟩

theorem returns_applyWorkerConnectedAck_iff (hclock : ∀ s, ∃ now, (C.host .now s).1 = .ok now)
    (data : Dict String Json) :
    Prog.Returns C.serve (worker.applyWorkerConnectedAck V.toValidators data) desk ↔
      ∀ ack blocked, V.workerConnectedAck data = .ok ack →
        ack.settings.bind (·.signalBlocked) = some blocked → AlertSent C desk blocked := by
  unfold ControlWorker.applyWorkerConnectedAck
  cases V.workerConnectedAck data with
  | error err => simp [Prog.returns_ret]
  | ok ack =>
      dsimp only
      rw [returns_applySections_iff C worker hclock]
      constructor
      · rintro h ack' blocked heq
        cases heq
        exact h blocked
      · exact fun h blocked => h ack blocked rfl

/-- One case for each thing the text may decode to. -/
theorem returns_handleWorkerConnectedResponse_iff
    (hclock : ∀ s, ∃ now, (C.host .now s).1 = .ok now) :
    Prog.Returns C.serve (worker.handleWorkerConnectedResponse V raw) desk ↔
      raw.Readable V ∧ AckAlertSent V C raw desk := by
  unfold RawMessage.Readable AckAlertSent ControlWorker.handleWorkerConnectedResponse
  cases hjson : raw.json with
  | none => simp [Prog.returns_ret, RawMessage.Names, hjson]
  | some json =>
      dsimp only
      cases hdict : json.dict? with
      | none =>
          have hraises : ¬ Prog.Returns C.serve (.raise (.other
              "AttributeError: object has no attribute get") : DeskWork Unit) desk := by
            rintro ⟨u, s', h⟩
            cases h
          simp [hraises, hdict]
      | some data =>
          have hdata : raw.json.bind Json.dict? = some data := by rw [hjson]; exact hdict
          simp only [RawMessage.names_iff hdata, Option.bind_some, hdict]
          cases haction : SystemAction.ofValue? (data.get? "action") with
          | none => simp [Prog.returns_ret]
          | some action =>
              cases action with
              | cryptoLeverageInit | workerSettingsUpdate | workerConnected =>
                  simp [Prog.returns_ret]
              | workerConnectedAck =>
                  dsimp only
                  rw [returns_applyWorkerConnectedAck_iff worker V C desk hclock]
                  constructor
                  · intro h
                    refine ⟨⟨Or.inr ⟨data, rfl⟩, fun _ hnames => ?_⟩, ?_⟩
                    · cases hnames.2
                    · rintro _ ack blocked ⟨rfl, -⟩
                      exact h ack blocked
                  · rintro ⟨-, h⟩ ack blocked
                    exact h data ack blocked ⟨rfl, rfl⟩
              | workerConnectedError =>
                  cases herror : V.workerConnectedError data with
                  | ok error => simp [Prog.returns_ret, herror]
                  | error err => simp [Prog.Returns, herror]

/-- A reply is survived exactly when it is readable and, where it is an ACK that changes
the signal block, the alert of the change goes out. -/
theorem survivesReply_iff (hclock : ∀ s, ∃ now, (C.host .now s).1 = .ok now) :
    SurvivesReply worker V C raw desk ↔ raw.Readable V ∧ AckAlertSent V C raw desk := by
  rw [← returns_handleWorkerConnectedResponse_iff worker V C desk hclock]
  constructor
  · rintro ⟨hreturns, -⟩
    exact hreturns
  · intro hreturns
    exact ⟨hreturns, handleWorkerConnectedResponse_untouched worker V C raw desk⟩

end Reply

/-! ## Two replies -/

/-- A clock, and a notifier that takes the alert. -/
def alertedDesk : ControlBackend Unit where
  fx _ s := (.error (.other "no platform"), s)
  cx _ s := (.error (.other "no exchange"), s)
  host
    | .now, s => (.ok 0, s)
    | _, s => (.error (.other "not asked"), s)
  sendSignalsBlocked _ s := (.ok (), s)
  getMaxLeverage _ s := (.error (.other "no exchange"), s)
  setLeverage _ _ _ s := (.error (.other "no exchange"), s)

/-- Plain messages, with every action of the enumeration known. -/
def knownActions : ControlValidators :=
  { plainControl with
    action := fun raw =>
      match SystemAction.ofValue? (some raw) with
      | some action => .ok action
      | none => refused "Input should be an action" }

def cryptoWorker : ControlWorker where
  market := .crypto { config := {} }

def idleDesk : ControlDesk Unit where
  live := { strategyMagicMap := .empty, executorMagicMap := .empty }
  world := { db := .empty, rest := () }

/-- An ACK that blocks the signals. -/
def blockingReply : RawMessage where
  text := "\x7b\"action\": \"WORKER_CONNECTED_ACK\", \"account_id\": \"CRYPTO-BINANCE-1\", " ++
    "\"settings\": \x7b\"signal_blocked\": true\x7d\x7d"
  json := some (.obj [("action", .str "WORKER_CONNECTED_ACK"),
    ("account_id", .str "CRYPTO-BINANCE-1"),
    ("settings", .obj [("signal_blocked", .bool true)])])

theorem blockingReply_survived :
    SurvivesReply cryptoWorker knownActions alertedDesk blockingReply idleDesk := by
  refine (survivesReply_iff cryptoWorker knownActions alertedDesk idleDesk
    fun _ => ⟨0, rfl⟩).mpr ⟨⟨Or.inr ⟨_, rfl⟩, ?_⟩, ?_⟩
  · rintro data ⟨hdata, haction⟩
    obtain rfl := Option.some.inj hdata
    exact absurd haction (by decide +kernel)
  · rintro data ack blocked - - - -
    exact ⟨(), rfl⟩

/-- An error reply that names no account. -/
def anonymousError : RawMessage where
  text := "\x7b\"action\": \"WORKER_CONNECTED_ERROR\"\x7d"
  json := some (.obj [("action", .str "WORKER_CONNECTED_ERROR")])

/-- A reply that is a list, and the error reply above, end the worker's start. -/
theorem anonymousError_aborts :
    (¬ SurvivesReply cryptoWorker knownActions alertedDesk anonymousError idleDesk) ∧
      ¬ SurvivesReply cryptoWorker knownActions alertedDesk
        { text := "[]", json := some (.arr []) } idleDesk := by
  constructor
  · rintro ⟨⟨u, s', hreturns⟩, -⟩
    have houtcome : (Prog.run alertedDesk.serve
        (cryptoWorker.handleWorkerConnectedResponse knownActions anonymousError) idleDesk).1 =
          .error (.valueError "account_id: Field required") := by decide +kernel
    rw [hreturns] at houtcome
    cases houtcome
  · rintro ⟨⟨u, s', hreturns⟩, -⟩
    cases hreturns

end TradeWorker
