import TradeWorker.ChatTargets
import TradeWorker.Monitor
import TradeWorker.Work

/-!
# The life of a worker

`run_worker` builds a processor, connects it, and lets it work until it is told to stop. What it
may do depends on what it was told: the account must be of the kind the settings rely on before
anything trades, the broker hears of no strategy the worker did not ask to listen to, and what was
opened is closed however the work ended. The thread of the publisher, which announces the worker
again when it reconnects, is not part of it.
-/

namespace TradeWorker

namespace WorkerRun

/-! ## Settings -/

/-- What the forex settings say of positions that share a symbol. -/
structure ForexToggles where
  allowMultiStrategyPerSymbol : Bool := false
  allowMultiPositionsPerSymbol : Bool := false
  hedgeMode : Bool := false
  deriving DecidableEq, Repr

def ForexToggles.validateMultiPositionsNeedsHedging (market : MarketType) (t : ForexToggles) :
    Except Exn ForexToggles :=
  if !(market = .forex && t.allowMultiPositionsPerSymbol) then .ok t
  else if !t.hedgeMode then
    .error (.valueError ("FOREX_ALLOW_MULTI_POSITIONS_PER_SYMBOL=true requires " ++
      "FOREX_HEDGE_MODE=true: multiple positions on one symbol are only isolated on a hedging " ++
      "account."))
  else .ok t

/-- The settings a worker runs under, which were validated when they were read. -/
structure RunSettings where
  market : MarketType
  gateway : String
  /-- `_account_id`, by which the private subject is named. -/
  account : String
  /-- `account_id`, by which the worker announces itself. -/
  accountId : String
  natsSubjects : String
  toggles : ForexToggles := {}
  cryptoHedgeMode : Bool := true
  logErrors : Bool := false
  validated : toggles.validateMultiPositionsNeedsHedging market = .ok toggles

namespace RunSettings

variable (cfg : RunSettings)

/-- The account has to be a hedging account. -/
def needsHedging : Bool :=
  cfg.market = .forex && (cfg.toggles.hedgeMode || cfg.toggles.allowMultiPositionsPerSymbol)

theorem needsHedging_eq : cfg.needsHedging = (cfg.market = .forex && cfg.toggles.hedgeMode) := by
  have hvalid := cfg.validated
  unfold ForexToggles.validateMultiPositionsNeedsHedging at hvalid
  unfold needsHedging
  cases hmulti : cfg.toggles.allowMultiPositionsPerSymbol with
  | false => simp
  | true =>
      cases hforex : decide (cfg.market = .forex) with
      | false => simp
      | true =>
          cases hhedge : cfg.toggles.hedgeMode with
          | true => simp
          | false => simp [hmulti, hforex, hhedge] at hvalid

/-! ## Subjects -/

/-- The control subjects of `NatsSubjectEnum`. -/
def controlSubjects : List String := ["SIGNAL", "ADMIN", "SYSTEM", "TRADE"]

/-- The entries of `NATS_SUBJECTS`. -/
def entries : List String :=
  ((cfg.natsSubjects.toList.splitOn ',').map fun cs => strip (String.ofList cs)).filter (· ≠ "")

def parseNatsSubjects : List String := keepNew (["ADMIN", "SYSTEM"] ++ cfg.entries)

def parseStrategySubjects : List String :=
  keepNew (cfg.entries.filter fun s => !controlSubjects.contains s)

def privateAdminSubject : Option String :=
  if cfg.gateway = "" ∨ cfg.account = "" then none
  else some s!"ADMIN.{cfg.market.value}.{cfg.gateway}.{cfg.account}"

/-- What `connect` subscribes to. -/
def subjects : List String := appendNew? cfg.parseNatsSubjects cfg.privateAdminSubject
where
  appendNew? (acc : List String) : Option String → List String
    | none => acc
    | some s => appendNew acc s

theorem mem_subjects {s : String} :
    s ∈ cfg.subjects ↔ s ∈ ["ADMIN", "SYSTEM"] ∨ s ∈ cfg.entries ∨
      cfg.privateAdminSubject = some s := by
  unfold subjects
  cases cfg.privateAdminSubject with
  | none => simp [subjects.appendNew?, parseNatsSubjects, mem_keepNew, or_assoc]
  | some subject =>
      simp only [subjects.appendNew?, mem_appendNew, parseNatsSubjects, mem_keepNew,
        List.mem_append, or_assoc, Option.some.injEq]
      rw [@eq_comm _ subject]

structure WorkerConnected where
  accountId : String
  market : String
  gateway : String
  strategies : List String
  deriving DecidableEq, Repr

def workerConnectedPayload : Option WorkerConnected :=
  if cfg.accountId = "" then none
  else some ⟨cfg.accountId, cfg.market.value, cfg.gateway, cfg.parseStrategySubjects⟩

/-- The subjects tell the worker all that its announcement asks for. -/
def Hears (subjects : List String) (w : WorkerConnected) : Prop :=
  "SYSTEM" ∈ subjects ∧ ∀ s ∈ w.strategies, s ∈ subjects

theorem hears_subjects {w : WorkerConnected} (h : cfg.workerConnectedPayload = some w) :
    Hears cfg.subjects w := by
  unfold workerConnectedPayload at h
  split at h
  · cases h
  obtain rfl := Option.some.inj h
  refine ⟨cfg.mem_subjects.mpr (Or.inl (by simp)), fun s hs => ?_⟩
  have hentry := List.mem_of_mem_filter (mem_keepNew.mp hs)
  exact cfg.mem_subjects.mpr (Or.inr (Or.inl hentry))

end RunSettings

open RunSettings (WorkerConnected)

/-! ## Calls -/

inductive Job where
  | notification
  | cycleNotification
  | positionCdc
  | health
  | closeDetection
  | eventStream
  | reconcile
  deriving DecidableEq, Repr

/-- The gateway, the two NATS connections, the channel, the threads, and what is done with a
message or with the reply to the handshake. -/
inductive RunOp where
  | startJob (job : Job)
  | startLogHandler
  | stopLogHandler
  | build
  | platformReconnect (maxAttempts : Nat) (delaySeconds : ℚ)
  | getAccount
  | accountFooter
  | needsHedgingAccount (marginMode : Option Int) (footer : String)
  | strategiesWillMerge (marginMode : Int) (footer : String)
  | exchangeConnect
  | setPositionMode (hedgeMode : Bool)
  | subscriberConnect (subjects : List String)
  | publisherConnect
  | waitSubscribed (timeout : ℚ)
  | jitter
  | request (w : WorkerConnected) (timeout : ℚ)
  | sleep (seconds : ℚ)
  | handleReply (raw : String)
  | startupBanner (footer : String)
  | createEventStream
  | stopped
  | receive (timeout : ℚ)
  | processMessage (subject raw : String)
  | subscriberClose
  | publisherClose
  | disconnect
  | shutdownBanner (footer : String)

/-- The account is answered by its margin mode, where it has one. -/
@[reducible] def RunOp.Ans : RunOp → Type
  | .startJob _ => Unit
  | .startLogHandler => Unit
  | .stopLogHandler => Unit
  | .build => Unit
  | .platformReconnect .. => Bool
  | .getAccount => Option Int
  | .accountFooter => String
  | .needsHedgingAccount .. => Unit
  | .strategiesWillMerge .. => Unit
  | .exchangeConnect => Bool
  | .setPositionMode _ => Bool
  | .subscriberConnect _ => Unit
  | .publisherConnect => Unit
  | .waitSubscribed _ => Bool
  | .jitter => Unit
  | .request .. => String
  | .sleep _ => Unit
  | .handleReply _ => Unit
  | .startupBanner _ => Unit
  | .createEventStream => Bool
  | .stopped => Bool
  | .receive _ => String × String
  | .processMessage .. => Unit
  | .subscriberClose => Unit
  | .publisherClose => Unit
  | .disconnect => Unit
  | .shutdownBanner _ => Unit

abbrev RunWork (α : Type) := Prog RunOp RunOp.Ans Exn α

def host (o : RunOp) : RunWork o.Ans := Prog.perform o

/-! ## Connecting -/

def marginModeHedging : Int := 2

section Connect

variable (cfg : RunSettings)

def enforceHedgeMode : RunWork Bool :=
  if !cfg.toggles.hedgeMode then pure true
  else do
    let marginMode : Option Int ← host .getAccount
    if marginMode = some marginModeHedging then pure true
    else do
      let footer : String ← host .accountFooter
      let _ : Unit ← host (.needsHedgingAccount marginMode footer)
      pure false

def warnIfMultiStrategyNeedsHedging : RunWork Unit :=
  if !cfg.toggles.allowMultiStrategyPerSymbol then pure ()
  else do
    let marginMode : Option Int ← host .getAccount
    match marginMode with
    | none => pure ()
    | some mode =>
        if mode = marginModeHedging then pure ()
        else do
          let footer : String ← host .accountFooter
          host (.strategiesWillMerge mode footer)

/-- `_connect_broker` of the forex worker. -/
def connectPlatform : RunWork Bool := do
  let connected : Bool ← host (.platformReconnect 0 10)
  if !connected then pure false
  else do
    let verified ← enforceHedgeMode cfg
    if !verified then pure false
    else do
      warnIfMultiStrategyNeedsHedging cfg
      pure true

/-- `_connect_broker` of the crypto worker. -/
def connectExchange : RunWork Bool := do
  let connected : Bool ← host .exchangeConnect
  if !connected then pure false
  else do
    let _ : Bool ← host (.setPositionMode cfg.cryptoHedgeMode)
    pure true

def connectBroker : RunWork Bool :=
  match cfg.market with
  | .forex => connectPlatform cfg
  | .crypto => connectExchange cfg

def handshakeBackoff : List ℚ := [5, 10, 20]

/-- The loop of `_announce_worker_connected`, for as many attempts as are left: whether the
broker replied. -/
def request (w : WorkerConnected) (attempt : Nat) : Nat → RunWork Bool
  | 0 => pure false
  | left + 1 => do
      let reply : Option String ← Prog.tryCatch
        (do
          let raw : String ← host (.request w 5)
          pure (some raw))
        fun _ => pure none
      match reply with
      | none => do
          let _ : Unit ←
            host (.sleep (handshakeBackoff.getD (min attempt (handshakeBackoff.length - 1)) 0))
          request w (attempt + 1) left
      | some raw => do
          let _ : Unit ← host (.handleReply raw)
          pure true

/-- `_announce_worker_connected`; with nothing to announce it is done. -/
def announceWorkerConnected (tries : Nat) : RunWork Bool :=
  match cfg.workerConnectedPayload with
  | none => pure true
  | some w => do
      let _ : Bool ← host (.waitSubscribed 10)
      let _ : Unit ← host .jitter
      request w 0 tries

end Connect

/-! ## Working -/

def startBrokerJobs : MarketType → RunWork Unit
  | .forex => do
      let _ : Unit ← host (.startJob .health)
      let _ : Unit ← host (.startJob .closeDetection)
      host (.startJob .reconcile)
  | .crypto => do
      let pushes : Bool ← host .createEventStream
      let _ : Unit ← if pushes then host (.startJob .eventStream) else pure ()
      host (.startJob .reconcile)

def startMarketJobs (market : MarketType) : RunWork Unit := do
  let _ : Unit ← host (.startJob .positionCdc)
  startBrokerJobs market

/-- The first rounds of `run`, through `listen`: whether the listener was stopped. -/
def listen : Nat → RunWork Bool
  | 0 => pure false
  | n + 1 => do
      let stopped : Bool ← host .stopped
      if stopped then pure true
      else do
        -- an empty queue raises too
        let next : Option (String × String) ← Prog.tryCatch
          (do
            let message : String × String ← host (.receive (1 / 2))
            pure (some message))
          fun _ => pure none
        match next with
        | none => listen n
        | some message => do
            let _ : Unit ← Prog.tryCatch (host (.processMessage message.1 message.2))
              fun _ => pure ()
            listen n

/-! ## The whole life -/

/-- What the `finally` block finds: the attributes of the processor that are set by then. -/
structure Found where
  subscriber : Bool := false
  publisher : Bool := false
  footer : String := ""
  started : Bool := false

def shutdown (found : Found) : RunWork Unit := do
  let _ : Unit ← if found.subscriber then host .subscriberClose else pure ()
  let _ : Unit ← if found.publisher then host .publisherClose else pure ()
  host .disconnect

section Life

variable (cfg : RunSettings)

/-- What is left of the `finally` block after the processor. -/
def leave : RunWork Bool := do
  let _ : Unit ← if cfg.logErrors then host .stopLogHandler else pure ()
  pure true

/-- The `finally` block, where the processor was built. -/
def finish (found : Found) : RunWork Bool := do
  let _ : Unit ← Prog.tryCatch (shutdown found) fun _ => pure ()
  let _ : Unit ←
    if found.started then Prog.tryCatch (host (.shutdownBanner found.footer)) fun _ => pure ()
    else pure ()
  leave cfg

/-- A part of the `try` block and what follows it, with what `finally` finds if it raises. -/
def orFinish {α : Type} (found : Found) (p : RunWork α) (k : α → RunWork Bool) :
    RunWork Bool := do
  let done : Option α ← Prog.tryCatch
    (do
      let a ← p
      pure (some a))
    fun _ => pure none
  done.elim (finish cfg found) k

/-- The jobs and the loop, up to a number of rounds: whether the worker returned by then. -/
def work (rounds : Nat) (found : Found) : RunWork Bool :=
  orFinish cfg found
    (do
      startMarketJobs cfg.market
      listen rounds)
    fun ended => if !ended then pure false else finish cfg found

/-- The handshake, up to a number of tries, the banner, and what follows them. -/
def announce (tries rounds : Nat) (found : Found) : RunWork Bool :=
  orFinish cfg found (announceWorkerConnected cfg tries) fun announced =>
    if !announced then pure false
    else
      orFinish cfg found (host (.startupBanner found.footer)) fun _ =>
        work cfg rounds { found with started := true }

/-- The rest of `connect`, on a connected broker. -/
def goOnline (tries rounds : Nat) : RunWork Bool :=
  orFinish cfg { subscriber := true } (host (.subscriberConnect cfg.subjects)) fun _ =>
  orFinish cfg { subscriber := true, publisher := true } (host .publisherConnect) fun _ =>
  orFinish cfg { subscriber := true, publisher := true } (host .accountFooter)
    fun (footer : String) =>
      announce cfg tries rounds { subscriber := true, publisher := true, footer }

def startLogHandler : RunWork Unit := if cfg.logErrors then host .startLogHandler else pure ()

/-- `run_worker`, up to a number of tries of the handshake and of rounds of the listener:
whether it returned by then. -/
def runWorker (tries rounds : Nat) : RunWork Bool := do
  let _ : Unit ← host (.startJob .notification)
  let _ : Unit ← host (.startJob .cycleNotification)
  startLogHandler cfg
  let built : Bool ← Prog.tryCatch
    (do
      let _ : Unit ← host .build
      pure true)
    fun _ => pure false
  if !built then leave cfg
  else
    orFinish cfg {} (connectBroker cfg) fun connected =>
      if !connected then finish cfg {} else goOnline cfg tries rounds

end Life

/-! ## What the worker may do -/

/-- What is known from the answers: whether the processor was built, the broker is connected and
an account was seen to be a hedging account, what the subscriber was asked to listen to and
whether the wait for it is over, what is open, whether the reply was handled and the banner sent,
and of the end, what was closed and whether a close raised. -/
structure Seen where
  built : Bool := false
  connected : Bool := false
  verified : Bool := false
  asked : Option (List String) := none
  waited : Bool := false
  publishing : Bool := false
  replied : Bool := false
  banner : Bool := false
  subscriberClosed : Bool := false
  publisherClosed : Bool := false
  disconnected : Bool := false
  closeRaised : Bool := false
  farewell : Bool := false

namespace Seen

def note : (o : RunOp) → Except Exn o.Ans → Seen → Seen
  | .build, .ok _, m => { m with built := true }
  | .platformReconnect .., .ok connected, m => { m with connected := connected }
  | .exchangeConnect, .ok connected, m => { m with connected := connected }
  | .getAccount, .ok mode, m =>
      { m with verified := m.verified || mode = some marginModeHedging }
  | .subscriberConnect subjects, _, m => { m with asked := some subjects }
  | .publisherConnect, _, m => { m with publishing := true }
  -- the worker goes on whether or not the subscriptions were confirmed
  | .waitSubscribed _, .ok _, m => { m with waited := true }
  | .handleReply _, .ok _, m => { m with replied := true }
  | .startupBanner _, .ok _, m => { m with banner := true }
  | .subscriberClose, .ok _, m => { m with subscriberClosed := true }
  | .subscriberClose, .error _, m => { m with subscriberClosed := true, closeRaised := true }
  | .publisherClose, .ok _, m => { m with publisherClosed := true }
  | .publisherClose, .error _, m => { m with publisherClosed := true, closeRaised := true }
  | .disconnect, _, m => { m with disconnected := true }
  | .shutdownBanner _, _, m => { m with farewell := true }
  | _, _, m => m

variable (cfg : RunSettings)

/-- The broker is connected, by an account of the kind that is needed, and nothing was closed
yet. -/
structure Sound (m : Seen) : Prop where
  connected : m.connected = true
  verified : cfg.needsHedging = true → m.verified = true
  subscriberOpen : m.subscriberClosed = false
  publisherOpen : m.publisherClosed = false
  brokerOpen : m.disconnected = false

/-- The jobs that trade or report trades. -/
def works : Job → Bool
  | .notification | .cycleNotification => false
  | _ => true

def allows : RunOp → Seen → Prop
  | .subscriberConnect _, m => m.Sound cfg ∧ m.asked = none
  | .publisherConnect, m => m.Sound cfg ∧ m.asked.isSome ∧ m.publishing = false
  | .request w _, m =>
      m.Sound cfg ∧ m.publishing = true ∧ m.waited = true ∧
        ∃ subjects ∈ m.asked, RunSettings.Hears subjects w
  | .handleReply _, m => m.Sound cfg
  | .startupBanner _, m =>
      m.Sound cfg ∧ m.banner = false ∧ (cfg.workerConnectedPayload.isSome → m.replied = true)
  | .startJob job, m => works job = true → m.Sound cfg ∧ m.banner = true
  | .processMessage .., m => m.Sound cfg ∧ m.banner = true
  | .subscriberClose, m => m.asked.isSome ∧ m.subscriberClosed = false
  | .publisherClose, m => m.publishing = true ∧ m.publisherClosed = false
  | .disconnect, m => m.built = true ∧ m.disconnected = false
  | .shutdownBanner _, m => m.banner = true ∧ m.farewell = false ∧
      (m.disconnected = true ∨ m.closeRaised = true)
  | _, _ => True

/-- Nothing that was opened stays open, unless a close before it raised, and the channel heard
of the end if it heard of the start. -/
structure Released (m : Seen) : Prop where
  subscriber : m.asked.isSome → m.subscriberClosed = true
  publisher : m.publishing = true → m.publisherClosed = true ∨ m.closeRaised = true
  broker : m.built = true → m.disconnected = true ∨ m.closeRaised = true
  farewell : m.farewell = m.banner

end Seen

def protocol (cfg : RunSettings) : Prog.Monitor RunOp RunOp.Ans Exn Seen where
  note := Seen.note
  allows := Seen.allows cfg

/-! ## The worker keeps it -/

/-- The processor is built, and has the attributes that `found` says. -/
structure Stage (found : Found) (m : Seen) : Prop where
  built : m.built = true
  subscriber : m.asked.isSome = found.subscriber
  publisher : m.publishing = found.publisher
  banner : m.banner = found.started
  subscriberOpen : m.subscriberClosed = false
  publisherOpen : m.publisherClosed = false
  brokerOpen : m.disconnected = false
  calm : m.closeRaised = false
  farewell : m.farewell = false

/-- What a run that returned leaves. -/
def Ended (r : Except Exn Bool) (m : Seen) : Prop := r ≠ .ok false → m.Released

section Kept

variable {cfg : RunSettings} {found : Found} {m : Seen}

theorem wp_leave (h : m.Released) : Prog.wp (protocol cfg).env Ended (leave cfg) m := by
  unfold leave
  cases cfg.logErrors with
  | false => exact fun _ => h
  | true => exact Prog.Monitor.wp_step trivial (fun _ _ => h) fun _ _ => h

/-- What `shutdown` leaves, whatever raises. -/
structure Shut (found : Found) (m : Seen) : Prop where
  subscriber : m.asked.isSome → m.subscriberClosed = true
  publisher : m.publishing = true → m.publisherClosed = true ∨ m.closeRaised = true
  broker : m.disconnected = true ∨ m.closeRaised = true
  banner : m.banner = found.started
  farewell : m.farewell = false

theorem wp_disconnect (hbuilt : m.built = true) (hopen : m.disconnected = false)
    (h : Shut found { m with disconnected := true }) :
    Prog.wp (protocol cfg).env (fun _ m' => Shut found m') (host .disconnect) m := by
  refine Prog.wp_perform.mpr ⟨⟨hbuilt, hopen⟩, ?_⟩
  rintro r m' rfl
  cases r with
  | ok _ => exact h
  | error _ => exact h

theorem wp_closePublisher (hbuilt : m.built = true) (hopen : m.disconnected = false)
    (hpublisher : m.publishing = found.publisher) (hclosed : m.publisherClosed = false)
    (hsubscriber : m.asked.isSome → m.subscriberClosed = true)
    (hbanner : m.banner = found.started) (hfarewell : m.farewell = false) :
    Prog.wp (protocol cfg).env (fun _ m' => Shut found m')
      (do
        let _ : Unit ← if found.publisher then host .publisherClose else pure ()
        host .disconnect) m := by
  cases hp : found.publisher with
  | false =>
      rw [hp] at hpublisher
      refine wp_disconnect hbuilt hopen ⟨hsubscriber, fun h => ?_, Or.inl rfl, hbanner, hfarewell⟩
      exact absurd h (by simp [hpublisher])
  | true =>
      rw [hp] at hpublisher
      refine Prog.Monitor.wp_step ⟨hpublisher, hclosed⟩ (fun _ => ?_) fun _ => ?_
      · exact wp_disconnect hbuilt hopen
          ⟨hsubscriber, fun _ => Or.inl rfl, Or.inl rfl, hbanner, hfarewell⟩
      · exact ⟨hsubscriber, fun _ => Or.inl rfl, Or.inr rfl, hbanner, hfarewell⟩

theorem wp_shutdown (h : Stage found m) :
    Prog.wp (protocol cfg).env (fun _ m' => Shut found m') (shutdown found) m := by
  unfold shutdown
  cases hs : found.subscriber with
  | false =>
      have hnone := h.subscriber
      rw [hs] at hnone
      exact wp_closePublisher h.built h.brokerOpen h.publisher h.publisherOpen
        (fun hsome => absurd hsome (by simp [hnone])) h.banner h.farewell
  | true =>
      have hsome := h.subscriber
      rw [hs] at hsome
      refine Prog.Monitor.wp_step ⟨hsome, h.subscriberOpen⟩ (fun _ => ?_) fun _ => ?_
      · exact wp_closePublisher h.built h.brokerOpen h.publisher h.publisherOpen (fun _ => rfl)
          h.banner h.farewell
      · exact ⟨fun _ => rfl, fun _ => Or.inr rfl, Or.inr rfl, h.banner, h.farewell⟩

theorem wp_finish (h : Stage found m) :
    Prog.wp (protocol cfg).env Ended (finish cfg found) m := by
  have hshut : Prog.wp (protocol cfg).env (fun r m' => r = .ok () ∧ Shut found m')
      (Prog.tryCatch (shutdown found) fun _ => pure ()) m := by
    refine Prog.wp_tryCatch.mpr (Prog.wp_mono (wp_shutdown h) fun r m' h' => ?_)
    cases r with
    | ok _ => exact ⟨rfl, h'⟩
    | error _ => exact ⟨rfl, h'⟩
  refine Prog.wp_bind_of hshut (fun _ m₁ h₁ => ?_) fun e m₁ h₁ => nomatch h₁.1
  obtain ⟨-, hclosed⟩ := h₁
  cases hstarted : found.started with
  | false =>
      have hbanner := hclosed.banner
      rw [hstarted] at hbanner
      exact wp_leave ⟨hclosed.subscriber, hclosed.publisher, fun _ => hclosed.broker,
        hclosed.farewell.trans hbanner.symm⟩
  | true =>
      have hbanner := hclosed.banner
      rw [hstarted] at hbanner
      have hreleased : ({ m₁ with farewell := true } : Seen).Released :=
        ⟨hclosed.subscriber, hclosed.publisher, fun _ => hclosed.broker, hbanner.symm⟩
      refine Prog.wp_bind_of (R := fun r m' => r = .ok () ∧ m' = { m₁ with farewell := true })
        (Prog.wp_tryCatch.mpr (Prog.wp_perform.mpr
          ⟨⟨hbanner, hclosed.farewell, hclosed.broker⟩, ?_⟩)) (fun _ m₂ h₂ => ?_)
        fun e m₂ h₂ => nomatch h₂.1
      · rintro r m' rfl
        cases r with
        | ok _ => exact ⟨rfl, rfl⟩
        | error _ => exact ⟨rfl, rfl⟩
      · rw [h₂.2]
        exact wp_leave hreleased

/-- A part of the `try` block: what it raises is followed by the `finally` block. -/
theorem wp_orFinish {α : Type} {p : RunWork α} {k : α → RunWork Bool}
    {R : Except Exn α → Seen → Prop} (hp : Prog.wp (protocol cfg).env R p m)
    (hok : ∀ a m', R (.ok a) m' → Prog.wp (protocol cfg).env Ended (k a) m')
    (herror : ∀ e m', R (.error e) m' → Stage found m') :
    Prog.wp (protocol cfg).env Ended (orFinish cfg found p k) m := by
  refine Prog.wp_bind_of (R := fun r m' => ∃ done, r = .ok done ∧
    (∀ a, done = some a → R (.ok a) m') ∧ (done = none → Stage found m')) ?_ ?_ ?_
  · refine Prog.wp_tryCatch.mpr (Prog.wp_bind_of hp (fun a m' ha => ?_) fun e m' he => ?_)
    · refine ⟨some a, rfl, ?_, nofun⟩
      rintro _ ⟨⟩
      exact ha
    · exact ⟨none, rfl, nofun, fun _ => herror e m' he⟩
  · rintro done m' ⟨_, ⟨⟩, hsome, hnone⟩
    cases done with
    | none => exact wp_finish (hnone rfl)
    | some a => exact hok a m' (hsome a rfl)
  · rintro e m' ⟨_, ⟨⟩, -⟩

/-- The broker may be used: it is connected, by an account of the kind that is needed. -/
structure Ready (cfg : RunSettings) (m : Seen) : Prop where
  connected : m.connected = true
  verified : cfg.needsHedging = true → m.verified = true

theorem Stage.sound (h : Stage found m) (hready : Ready cfg m) : m.Sound cfg :=
  ⟨hready.connected, hready.verified, h.subscriberOpen, h.publisherOpen, h.brokerOpen⟩

/-- The account was read: the processor is where it was, and what was verified stays so. -/
theorem Stage.read (h : Stage found m) (mode : Option Int) :
    Stage found (Seen.note .getAccount (.ok mode) m) :=
  ⟨h.built, h.subscriber, h.publisher, h.banner, h.subscriberOpen, h.publisherOpen, h.brokerOpen,
    h.calm, h.farewell⟩

theorem wp_enforceHedgeMode (h : Stage found m) (hconnected : m.connected = true) :
    Prog.wp (protocol cfg).env
      (fun r m' => Stage found m' ∧ m'.connected = true ∧
        (r = .ok true → cfg.toggles.hedgeMode = true → m'.verified = true))
      (enforceHedgeMode cfg) m := by
  unfold enforceHedgeMode
  cases hhedge : cfg.toggles.hedgeMode with
  | false => exact ⟨h, hconnected, fun _ hfalse => nomatch hfalse⟩
  | true =>
      refine Prog.Monitor.wp_step trivial (fun mode => ?_)
        fun e => ⟨h, hconnected, fun hfalse => nomatch hfalse⟩
      by_cases hmode : mode = some marginModeHedging
      · rw [if_pos hmode]
        refine ⟨h.read mode, hconnected, fun _ _ => ?_⟩
        show (m.verified || decide (mode = some marginModeHedging)) = true
        rw [decide_eq_true hmode, Bool.or_true]
      · rw [if_neg hmode]
        have hrefused : ∀ r : Except Exn Bool, r ≠ .ok true →
            Stage found (Seen.note .getAccount (.ok mode) m) ∧ m.connected = true ∧
              (r = .ok true → true = true →
                (Seen.note .getAccount (.ok mode) m).verified = true) :=
          fun r hr => ⟨h.read mode, hconnected, fun hok => absurd hok hr⟩
        exact Prog.Monitor.wp_step trivial
          (fun _ => Prog.Monitor.wp_step trivial (fun _ => hrefused _ (by simp))
            fun _ => hrefused _ (by simp))
          fun _ => hrefused _ (by simp)

/-- The warning reads the account again, and whatever it reads the worker goes on. -/
theorem wp_warnIfMultiStrategyNeedsHedging (h : Stage found m) (hready : Ready cfg m) :
    Prog.wp (protocol cfg).env (fun _ m' => Stage found m' ∧ Ready cfg m')
      (warnIfMultiStrategyNeedsHedging cfg) m := by
  unfold warnIfMultiStrategyNeedsHedging
  split
  · exact ⟨h, hready⟩
  refine Prog.Monitor.wp_step trivial (fun mode => ?_) fun e => ⟨h, hready⟩
  have hread : Ready cfg (Seen.note .getAccount (.ok mode) m) := by
    refine ⟨hready.connected, fun hneeds => ?_⟩
    show (m.verified || decide (mode = some marginModeHedging)) = true
    rw [hready.verified hneeds, Bool.true_or]
  have hdone := And.intro (h.read mode) hread
  cases mode with
  | none => exact hdone
  | some mode =>
      dsimp only
      split
      · exact hdone
      · refine Prog.Monitor.wp_step trivial (fun _ => ?_) fun _ => hdone
        refine Prog.wp_perform.mpr ⟨trivial, ?_⟩
        rintro r m' rfl
        cases r with
        | ok _ => exact hdone
        | error _ => exact hdone

theorem Stage.connects (h : Stage found m) (connected : Bool) :
    Stage found { m with connected := connected } :=
  ⟨h.built, h.subscriber, h.publisher, h.banner, h.subscriberOpen, h.publisherOpen, h.brokerOpen,
    h.calm, h.farewell⟩

theorem wp_connectBroker (h : Stage found m) :
    Prog.wp (protocol cfg).env (fun r m' => Stage found m' ∧ (r = .ok true → Ready cfg m'))
      (connectBroker cfg) m := by
  have hfailed : ∀ {m' : Seen} (e : Exn), Stage found m' →
      Stage found m' ∧ (Except.error (α := Bool) e = .ok true → Ready cfg m') :=
    fun e h' => ⟨h', nofun⟩
  have hrefused : ∀ {m' : Seen}, Stage found m' →
      Stage found m' ∧ (Except.ok (ε := Exn) false = .ok true → Ready cfg m') :=
    fun h' => ⟨h', nofun⟩
  unfold connectBroker
  cases hmarket : cfg.market with
  | forex =>
      refine Prog.Monitor.wp_step trivial (fun connected => ?_) fun e => hfailed e h
      cases connected with
      | false => exact hrefused (h.connects false)
      | true =>
          refine Prog.wp_bind_of (wp_enforceHedgeMode (h.connects true) rfl)
            (fun verified m₁ h₁ => ?_) fun e m₁ h₁ => hfailed e h₁.1
          obtain ⟨hstage, hconnected, hverified⟩ := h₁
          cases verified with
          | false => exact hrefused hstage
          | true =>
              have hready : Ready cfg m₁ := by
                refine ⟨hconnected, fun hneeds => hverified rfl ?_⟩
                rw [cfg.needsHedging_eq, Bool.and_eq_true] at hneeds
                exact hneeds.2
              exact Prog.wp_bind_of (wp_warnIfMultiStrategyNeedsHedging hstage hready)
                (fun _ m₂ h₂ => ⟨h₂.1, fun _ => h₂.2⟩) fun e m₂ h₂ => hfailed e h₂.1
  | crypto =>
      refine Prog.Monitor.wp_step trivial (fun connected => ?_) fun e => hfailed e h
      cases connected with
      | false => exact hrefused (h.connects false)
      | true =>
          refine Prog.Monitor.wp_step trivial (fun _ => ⟨h.connects true, fun _ => ⟨rfl, ?_⟩⟩)
            fun e => hfailed e (h.connects true)
          intro hneeds
          rw [RunSettings.needsHedging, hmarket] at hneeds
          cases hneeds

/-! ### The handshake -/

/-- The worker asked to listen and may publish, and its broker is connected. -/
structure Online (cfg : RunSettings) (found : Found) (m : Seen) : Prop where
  stage : Stage found m
  ready : Ready cfg m
  asked : m.asked = some cfg.subjects
  publishing : m.publishing = true

def Seen.handled (m : Seen) : Seen := { m with replied := true }

theorem Online.handled (h : Online cfg found m) : Online cfg found m.handled :=
  ⟨⟨h.stage.built, h.stage.subscriber, h.stage.publisher, h.stage.banner, h.stage.subscriberOpen,
    h.stage.publisherOpen, h.stage.brokerOpen, h.stage.calm, h.stage.farewell⟩,
    ⟨h.ready.connected, h.ready.verified⟩, h.asked, h.publishing⟩

/-- The wait for the subscriptions is over. -/
def Seen.awaited (m : Seen) : Seen := { m with waited := true }

theorem Online.awaited (h : Online cfg found m) : Online cfg found m.awaited :=
  ⟨⟨h.stage.built, h.stage.subscriber, h.stage.publisher, h.stage.banner, h.stage.subscriberOpen,
    h.stage.publisherOpen, h.stage.brokerOpen, h.stage.calm, h.stage.farewell⟩,
    ⟨h.ready.connected, h.ready.verified⟩, h.asked, h.publishing⟩

def Announced (cfg : RunSettings) (found : Found) (r : Except Exn Bool) (m : Seen) : Prop :=
  Online cfg found m ∧ (r = .ok true → cfg.workerConnectedPayload.isSome → m.replied = true)

theorem wp_request {w : WorkerConnected} (hw : cfg.workerConnectedPayload = some w)
    (left attempt : Nat) (h : Online cfg found m) (hwaited : m.waited = true) :
    Prog.wp (protocol cfg).env (Announced cfg found) (request w attempt left) m := by
  induction left generalizing attempt with
  | zero => exact ⟨h, nofun⟩
  | succ left ih =>
      have hallowed : Seen.allows cfg (.request w 5) m :=
        ⟨h.stage.sound h.ready, h.publishing, hwaited, cfg.subjects, h.asked,
          cfg.hears_subjects hw⟩
      have hreply : Prog.wp (protocol cfg).env (fun r m' => m' = m ∧ ∃ reply, r = .ok reply)
          (Prog.tryCatch
            (do
              let raw : String ← host (.request w 5)
              pure (some raw))
            fun _ => pure none) m :=
        Prog.wp_tryCatch.mpr (Prog.Monitor.wp_step hallowed (fun raw => ⟨rfl, _, rfl⟩)
          fun _ => ⟨rfl, _, rfl⟩)
      refine Prog.wp_bind_of hreply (fun reply m₁ h₁ => ?_) fun e m₁ h₁ => ?_
      · obtain ⟨rfl, -⟩ := h₁
        cases reply with
        | none => exact Prog.Monitor.wp_step trivial (fun _ => ih (attempt + 1)) fun _ => ⟨h, nofun⟩
        | some raw =>
            exact Prog.Monitor.wp_step (h.stage.sound h.ready)
              (fun _ => ⟨h.handled, fun _ _ => rfl⟩) fun _ => ⟨h, nofun⟩
      · obtain ⟨-, reply, hreply⟩ := h₁
        cases hreply

theorem wp_announceWorkerConnected (tries : Nat) (h : Online cfg found m) :
    Prog.wp (protocol cfg).env (Announced cfg found) (announceWorkerConnected cfg tries) m := by
  unfold announceWorkerConnected
  cases hw : cfg.workerConnectedPayload with
  | none => exact ⟨h, fun _ hsome => by simp [hw] at hsome⟩
  | some w =>
      refine Prog.Monitor.wp_step trivial (fun _ => ?_) fun _ => ⟨h, nofun⟩
      exact Prog.Monitor.wp_step trivial (fun _ => wp_request hw tries 0 h.awaited rfl)
        fun _ => ⟨h.awaited, nofun⟩

/-! ### The work -/

/-- The worker is online and said so. -/
structure Working (cfg : RunSettings) (found : Found) (m : Seen) : Prop extends
    Online cfg found m where
  banner : m.banner = true

theorem Working.sound (h : Working cfg found m) : m.Sound cfg ∧ m.banner = true :=
  ⟨h.stage.sound h.ready, h.banner⟩

/-- A call of a working worker that tells the monitor nothing. -/
theorem wp_works {α : Type} {Q : Except Exn α → Seen → Prop} {job : Job}
    {f : Unit → RunWork α} (h : Working cfg found m)
    (hf : Prog.wp (protocol cfg).env Q (f ()) m) (hQ : ∀ e, Q (.error e) m) :
    Prog.wp (protocol cfg).env Q (host (.startJob job) >>= f) m :=
  Prog.Monitor.wp_step (fun _ => h.sound) (fun _ => hf) hQ

theorem wp_startsLast {job : Job} (h : Working cfg found m) :
    Prog.wp (protocol cfg).env (fun _ m' => m' = m) (host (.startJob job)) m := by
  refine Prog.wp_perform.mpr ⟨fun _ => h.sound, ?_⟩
  rintro r m' rfl
  cases r <;> rfl

theorem wp_startMarketJobs (h : Working cfg found m) :
    Prog.wp (protocol cfg).env (fun _ m' => m' = m) (startMarketJobs cfg.market) m := by
  refine wp_works h ?_ fun _ => rfl
  unfold startBrokerJobs
  cases cfg.market with
  | forex => exact wp_works h (wp_works h (wp_startsLast h) fun _ => rfl) fun _ => rfl
  | crypto =>
      refine Prog.Monitor.wp_step trivial (fun pushes => ?_) fun _ => rfl
      cases pushes with
      | false => exact wp_startsLast h
      | true => exact wp_works h (wp_startsLast h) fun _ => rfl

theorem wp_listen (rounds : Nat) (h : Working cfg found m) :
    Prog.wp (protocol cfg).env (fun _ m' => m' = m) (listen rounds) m := by
  induction rounds with
  | zero => rfl
  | succ rounds ih =>
      refine Prog.Monitor.wp_step trivial (fun stopped => ?_) fun _ => rfl
      cases stopped with
      | true => rfl
      | false =>
          have hreceive : Prog.wp (protocol cfg).env (fun r m' => m' = m ∧ ∃ next, r = .ok next)
              (Prog.tryCatch
                (do
                  let message : String × String ← host (.receive (1 / 2))
                  pure (some message))
                fun _ => pure none) m :=
            Prog.wp_tryCatch.mpr (Prog.Monitor.wp_step trivial (fun _ => ⟨rfl, _, rfl⟩)
              fun _ => ⟨rfl, _, rfl⟩)
          refine Prog.wp_bind_of hreceive (fun next m₁ h₁ => ?_) fun e m₁ h₁ => h₁.1
          obtain ⟨rfl, -⟩ := h₁
          cases next with
          | none => exact ih
          | some message =>
              have hprocess : Prog.wp (protocol cfg).env (fun r m' => m' = m₁ ∧ r = .ok ())
                  (Prog.tryCatch (host (.processMessage message.1 message.2))
                    fun _ => pure ()) m₁ := by
                refine Prog.wp_tryCatch.mpr (Prog.wp_perform.mpr ⟨h.sound, ?_⟩)
                rintro r m' rfl
                cases r <;> exact ⟨rfl, rfl⟩
              refine Prog.wp_bind_of hprocess (fun _ m₂ h₂ => ?_) fun e m₂ h₂ => h₂.1
              obtain ⟨rfl, -⟩ := h₂
              exact ih

/-! ### The whole life -/

/-- Before the processor is built. -/
theorem Seen.released_start : ({} : Seen).Released := ⟨nofun, nofun, nofun, rfl⟩

theorem wp_work (rounds : Nat) (h : Working cfg found m) :
    Prog.wp (protocol cfg).env Ended (work cfg rounds found) m := by
  refine wp_orFinish (R := fun _ m' => m' = m)
    (Prog.wp_bind_of (wp_startMarketJobs h) (fun _ m₁ h₁ => ?_) fun e m₁ h₁ => h₁) ?_ ?_
  · rw [h₁]
    exact wp_listen rounds h
  · rintro ended m' rfl
    cases ended with
    | false => exact fun hne => absurd rfl hne
    | true => exact wp_finish h.stage
  · rintro e m' rfl
    exact h.stage

theorem wp_announce (tries rounds : Nat) (hnew : found.started = false)
    (h : Online cfg found m) :
    Prog.wp (protocol cfg).env Ended (announce cfg tries rounds found) m := by
  refine wp_orFinish (wp_announceWorkerConnected tries h) (fun announced m₁ h₁ => ?_)
    fun e m₁ h₁ => h₁.1.stage
  obtain ⟨honline, hreplied⟩ := h₁
  cases announced with
  | false => exact fun hne => absurd rfl hne
  | true =>
      have hstage := honline.stage
      have hworking : Working cfg { found with started := true } { m₁ with banner := true } :=
        ⟨⟨⟨hstage.built, hstage.subscriber, hstage.publisher, rfl, hstage.subscriberOpen,
          hstage.publisherOpen, hstage.brokerOpen, hstage.calm, hstage.farewell⟩,
          ⟨honline.ready.connected, honline.ready.verified⟩, honline.asked,
          honline.publishing⟩, rfl⟩
      refine wp_orFinish (R := fun r m' => (r = .ok () → m' = { m₁ with banner := true }) ∧
        ((∃ e, r = .error e) → m' = m₁))
        (Prog.wp_perform.mpr
          ⟨⟨hstage.sound honline.ready, hstage.banner.trans hnew, fun hsome => hreplied rfl hsome⟩,
            ?_⟩)
        (fun _ m₂ h₂ => ?_) fun e m₂ h₂ => ?_
      · rintro r m' rfl
        cases r with
        | ok _ => exact ⟨fun _ => rfl, fun ⟨e, he⟩ => nomatch he⟩
        | error e => exact ⟨nofun, fun _ => rfl⟩
      · rw [h₂.1 rfl]
        exact wp_work rounds hworking
      · rw [h₂.2 ⟨e, rfl⟩]
        exact hstage

/-- A call whose answer the monitor takes down the same way if it raises. -/
theorem wp_opening {o : RunOp} {m₁ : Seen} (hallowed : Seen.allows cfg o m)
    (hnote : ∀ r, Seen.note o r m = m₁) :
    Prog.wp (protocol cfg).env (fun _ m' => m' = m₁) (host o) m := by
  refine Prog.wp_perform.mpr ⟨hallowed, ?_⟩
  rintro r m' rfl
  exact hnote r

theorem wp_goOnline (tries rounds : Nat) (h : Stage {} m) (hready : Ready cfg m) :
    Prog.wp (protocol cfg).env Ended (goOnline cfg tries rounds) m := by
  have hasked : m.asked = none := by simpa using h.subscriber
  have hasks : Stage { subscriber := true }
      { m with asked := some cfg.subjects } :=
    ⟨h.built, rfl, h.publisher, h.banner, h.subscriberOpen, h.publisherOpen, h.brokerOpen, h.calm,
      h.farewell⟩
  have hpublishes : ∀ footer, Online cfg { subscriber := true, publisher := true, footer }
      { m with asked := some cfg.subjects, publishing := true } :=
    fun footer => ⟨⟨h.built, rfl, rfl, h.banner, h.subscriberOpen, h.publisherOpen, h.brokerOpen,
      h.calm, h.farewell⟩, ⟨hready.connected, hready.verified⟩, rfl, rfl⟩
  refine wp_orFinish (wp_opening ⟨h.sound hready, hasked⟩ fun _ => rfl) ?_ ?_
  · rintro - _ rfl
    refine wp_orFinish (wp_opening
      ⟨hasks.sound ⟨hready.connected, hready.verified⟩, rfl, h.publisher⟩ fun _ => rfl) ?_ ?_
    · rintro - _ rfl
      refine wp_orFinish (wp_opening trivial fun _ => rfl) ?_ ?_
      · rintro footer _ rfl
        exact wp_announce tries rounds rfl (hpublishes footer)
      · rintro e _ rfl
        exact (hpublishes "").stage
    · rintro e _ rfl
      exact (hpublishes "").stage
  · rintro e _ rfl
    exact hasks

theorem wp_runWorker (tries rounds : Nat) :
    Prog.wp (protocol cfg).env Ended (runWorker cfg tries rounds) {} := by
  have hstart : ∀ {r : Except Exn Bool}, Ended r {} := fun _ => Seen.released_start
  have hjob : ∀ {job : Job}, Seen.works job = false → Seen.allows cfg (.startJob job) {} :=
    fun h hworks => absurd hworks (by simp [h])
  refine Prog.Monitor.wp_step (hjob rfl) (fun _ => ?_) fun _ => hstart
  refine Prog.Monitor.wp_step (hjob rfl) (fun _ => ?_) fun _ => hstart
  have hlog : Prog.wp (protocol cfg).env (fun _ m' => m' = ({} : Seen))
      (startLogHandler cfg) {} := by
    unfold startLogHandler
    split
    · exact wp_opening trivial fun _ => rfl
    · rfl
  refine Prog.wp_bind_of hlog (fun _ m₁ h₁ => ?_) fun e m₁ h₁ => ?_
  · obtain rfl := h₁
    have hbuild : Prog.wp (protocol cfg).env
        (fun r m' => ∃ built, r = .ok built ∧ m' = { built := built })
        (Prog.tryCatch
          (do
            let _ : Unit ← host .build
            pure true)
          fun _ => pure false) {} :=
      Prog.wp_tryCatch.mpr (Prog.Monitor.wp_step trivial (fun _ => ⟨true, rfl, rfl⟩)
        fun _ => ⟨false, rfl, rfl⟩)
    refine Prog.wp_bind_of hbuild (fun built m₂ h₂ => ?_) fun e m₂ h₂ => ?_
    · obtain ⟨_, ⟨⟩, rfl⟩ := h₂
      cases built with
      | false => exact wp_leave Seen.released_start
      | true =>
          have hbuilt : Stage {} ({ built := true } : Seen) :=
            ⟨rfl, rfl, rfl, rfl, rfl, rfl, rfl, rfl, rfl⟩
          refine wp_orFinish (wp_connectBroker hbuilt) (fun connected m₃ h₃ => ?_)
            fun e m₃ h₃ => h₃.1
          obtain ⟨hstage, hready⟩ := h₃
          cases connected with
          | false => exact wp_finish hstage
          | true => exact wp_goOnline tries rounds hstage (hready rfl)
    · obtain ⟨_, ⟨⟩, -⟩ := h₂
  · rw [h₁]
    exact hstart

end Kept

/-- **The life of a worker keeps its protocol**, whatever its gateway, its connections and its
handlers answer or raise. Nothing is subscribed to, announced or handled and no job that trades or
reports trades is started before the broker is connected, and where the settings rely on a hedging
account, none of it unless an account was seen to be one; the handshake follows the request to
listen to SYSTEM and to every strategy it names, and the wait for it, whether or not that was
confirmed; these jobs and messages follow the banner. And when the worker returns, both
connections and the broker's are closed unless a close raised, and the channel heard of the end
just if it heard of the start. -/
theorem worker_accepted {σ : Type} (cfg : RunSettings) (tries rounds : Nat)
    (S : Prog.Server RunOp RunOp.Ans Exn σ) (s : σ) :
    (protocol cfg).Accepts {} (Prog.dialogue S (runWorker cfg tries rounds) s) ∧
      ((Prog.run S (runWorker cfg tries rounds) s).1 ≠ .ok false →
        ((protocol cfg).after {} (Prog.dialogue S (runWorker cfg tries rounds) s)).Released) :=
  (protocol cfg).accepts_of_wp (wp_runWorker tries rounds) S s

end WorkerRun

end TradeWorker
