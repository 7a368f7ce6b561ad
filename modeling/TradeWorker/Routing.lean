import TradeWorker.EntryPolicy
import TradeWorker.Handshake

/-!
# Whom a control message is for

SYSTEM messages are broadcast and carry an `account_id`; a private ADMIN message comes on
a subject of the worker's own and carries the whole identity again. Either is checked
before anything is done, but not in the same way: the ADMIN check is an equality, the
SYSTEM check lets an `account_id` pass that is blank.
-/

namespace TradeWorker

/-! ## Messages -/

/-- A message: its text, and the document `json.loads` makes of it, if any. -/
structure RawMessage where
  text : String
  json : Option Json

inductive AdminAction where
  | flat | blockSignal | allowSignal
  deriving DecidableEq, Repr

/-- The validators of control messages; an identity may be sent as a number. -/
structure ControlValidators extends Validators where
  adminAction : Json → Except ValidationError AdminAction
  identityText : Json → Except ValidationError String
  optionalText : Json → Except ValidationError (Option String)

namespace ControlValidators

variable (V : ControlValidators)

/-- `AdminMessageSchema`. -/
def adminMessage (data : Dict String Json) : Except ValidationError AdminAction :=
  (bothFields (requiredField "action" V.adminAction (data.get? "action"))
    (requiredField "timestamp" V.timestamp (data.get? "timestamp"))).map (·.1)

/-- `PrivateAdminSchema`: the identity is required in full. -/
def privateAdmin (data : Dict String Json) : Except ValidationError AdminFlat :=
  (bothFields (V.adminMessage data)
    (bothFields (requiredField "market" V.identityText (data.get? "market"))
      (bothFields (requiredField "gateway" V.identityText (data.get? "gateway"))
        (requiredField "account_id" V.identityText (data.get? "account_id"))))).map fun fields =>
    { market := some fields.2.1, gateway := some fields.2.2.1, accountId := some fields.2.2.2 }

/-- `PrivateAdminFlatSchema`. -/
def privateAdminFlat (data : Dict String Json) : Except ValidationError AdminFlat :=
  (bothFields (V.privateAdmin data)
    (bothFields (fieldOr none V.optionalText (data.get? "strategy"))
      (bothFields (fieldOr none V.optionalText (data.get? "symbol"))
        (fieldOr none V.optionalText (data.get? "ref_id"))))).map fun fields =>
    { fields.1 with strategy := fields.2.1, symbol := fields.2.2.1, refId := fields.2.2.2 }

/-- `SystemWorkerSettingsUpdateSchema`, with its settings salvaged. -/
def systemWorkerSettingsUpdate (data : Dict String Json) :
    Except ValidationError (Option PushedSettings) := do
  let (settings, _dropped) ← (Validators.given data "settings").elim (.ok (none, []))
    fun raw => V.salvageSettings raw []
  (V.envelope (some .workerSettingsUpdate) data).map fun _ => settings

/-- `SystemCryptoLeverageInitSchema`: the leverage fields stand next to the envelope. -/
def systemCryptoLeverageInit (data : Dict String Json) : Except ValidationError LeverageInit :=
  (bothFields (V.envelope (some .cryptoLeverageInit) data)
    (V.leverageInit (.obj data.entries))).map (·.2)

end ControlValidators

/-! ## SYSTEM -/

namespace ControlWorker

variable (worker : ControlWorker) (V : ControlValidators)

def applySystemSettingsUpdate (data : Dict String Json) : DeskWork Unit :=
  match V.systemWorkerSettingsUpdate data with
  | .error _ => pure ()
  | .ok none => pure ()
  | .ok (some settings) => applyWorkerSettings settings

/-- The crypto worker's own SYSTEM action; it asks for a connection itself. -/
def systemLeverageInit (ex : CryptoExecutor) (data : Dict String Json) : DeskWork Unit := do
  let connected : Bool ← Prog.embed (host .ensureConnected)
  if connected then
    match V.systemCryptoLeverageInit data with
    | .error err => .raise (.valueError err.why)
    | .ok init => runLeverageInit ex worker.leverage init
  else pure ()

/-- `_handle_system_action`: what a market does not know is ignored. -/
def handleSystemAction (action : SystemAction) (data : Dict String Json) : DeskWork Unit :=
  match action, worker.market with
  | .workerSettingsUpdate, _ => applySystemSettingsUpdate V data
  | .cryptoLeverageInit, .crypto ex => worker.systemLeverageInit V ex data
  | _, _ => pure ()

/-- `_handle_system_message`: a document that is no object cannot be unpacked. -/
def handleSystemMessage (raw : RawMessage) : DeskWork Unit :=
  match raw.json with
  | none => pure ()
  | some json =>
      match json.dict? with
      | none => .raise (.typeError "argument after ** must be a mapping")
      | some data =>
          match V.envelope none data with
          | .error _ => pure ()
          | .ok system =>
              if system.accountId ≠ "" ∧ some system.accountId ≠ worker.systemAccountId then
                pure ()
              else worker.handleSystemAction V system.action data

/-! ## Private ADMIN -/

/-- `_flat_targets_this_worker`, for a private message. -/
def targetedBy (admin : AdminFlat) : Bool :=
  match worker.market with
  | .forex ex => (forexDesk ex worker.gateway worker.accountId).flatTargetsThisWorker admin true
  | .crypto ex => (cryptoDesk ex worker.gateway worker.accountId).flatTargetsThisWorker admin true

/-- `_handle_admin_flat` at the worker's market, with the executor's magics of the time. -/
def handleAdminFlat (live : LiveWorker) (admin : AdminFlat) (raw : String) : Work Unit :=
  match worker.market.withMagics live.executorMagicMap with
  | .forex ex => (forexDesk ex worker.gateway worker.accountId).handleAdminFlat admin true raw
  | .crypto ex => (cryptoDesk ex worker.gateway worker.accountId).handleAdminFlat admin true raw

/-- `_handle_signal_control`, on the private subject. -/
def handleSignalControl (blocked : Bool) (data : Dict String Json) : DeskWork Unit :=
  match V.privateAdmin data with
  | .error _ => pure ()
  | .ok ctrl => if worker.targetedBy ctrl then setSignalsBlocked blocked else pure ()

/-- The FLAT branch of `_handle_admin_message`; going flat needs a connection. -/
def handlePrivateFlat (data : Dict String Json) (raw : String) : DeskWork Unit := do
  let connected : Bool ← Prog.embed (host .ensureConnected)
  if connected then
    match V.privateAdminFlat data with
    | .error _ => pure ()
    | .ok admin => do
        let live : LiveWorker ← control .live
        Prog.embed (worker.handleAdminFlat live admin raw)
  else pure ()

/-- `_handle_admin_message`, on the private subject. -/
def handlePrivateAdmin (raw : RawMessage) : DeskWork Unit :=
  match raw.json with
  | none => pure ()
  | some json =>
      match json.dict? with
      | none => .raise (.typeError "argument after ** must be a mapping")
      | some data =>
          match V.adminMessage data with
          | .error _ => pure ()
          | .ok .flat => worker.handlePrivateFlat V data raw.text
          | .ok .blockSignal => worker.handleSignalControl V true data
          | .ok .allowSignal => worker.handleSignalControl V false data

end ControlWorker

/-- A message on one of the two subjects. -/
inductive ControlMessage where
  | system (raw : RawMessage)
  | privateAdmin (raw : RawMessage)

namespace ControlWorker

variable (worker : ControlWorker) (V : ControlValidators)

/-- The control branches of `_process_message`. -/
def handleControl : ControlMessage → DeskWork Unit
  | .system raw => worker.handleSystemMessage V raw
  | .privateAdmin raw => worker.handlePrivateAdmin V raw

/-! ## Whom it is for, and what it does -/

/-- The identity the message carries is the worker's. -/
def Addressed : ControlMessage → Prop
  | .system raw => ∃ data system, raw.json.bind Json.dict? = some data ∧
      V.envelope none data = .ok system ∧ some system.accountId = worker.systemAccountId
  | .privateAdmin raw => ∃ data admin, raw.json.bind Json.dict? = some data ∧
      V.privateAdmin data = .ok admin ∧ worker.targetedBy admin = true

end ControlWorker

/-- Orders, closes, changes of a stop, and leverage. -/
def DeskOp.requests : DeskOp → Bool
  | .inl o => o.acts
  | .inr (.setLeverage ..) => true
  | .inr _ => false

/-- However it is answered, the program leaves the worker's memory and rows as they are
and requests nothing of the broker. -/
def Unmoving (live : LiveWorker) (p : DeskWork Unit) : Prop :=
  ∀ (β : Type) (C : ControlBackend β) (world : World β),
    (Prog.run C.serve p { live, world }).2.live = live ∧
      (Prog.run C.serve p { live, world }).2.world.db = world.db ∧
        ∀ o ∈ Prog.calls C.serve p { live, world }, DeskOp.requests o = false

/-- A value pushed is not the one in force. -/
def PushedSettings.Differs (settings : PushedSettings) (live : LiveWorker) : Prop :=
  (∃ blocked, settings.signalBlocked = some blocked ∧ live.signalsBlocked ≠ blocked) ∨
    ∃ cap, settings.maxOpenOrders = some cap ∧ live.maxOpenOrders ≠ some cap

theorem PushedSettings.differs_iff (settings : PushedSettings) (live : LiveWorker) :
    settings.Differs live ↔ live.applyWorkerSettings settings ≠ live := by
  rcases live with ⟨signalsBlocked, maxOpenOrders, strategyMagicMap, executorMagicMap⟩
  rcases settings with ⟨_ | blocked, _ | cap⟩ <;>
    simp [PushedSettings.Differs, LiveWorker.applyWorkerSettings, eq_comm, imp_iff_not_or]

/-- What a SYSTEM message would do to this worker, were it for it. -/
def ControlWorker.Moves (worker : ControlWorker) (V : ControlValidators) (live : LiveWorker)
    (data : Dict String Json) : SystemAction → Prop
  | .workerSettingsUpdate => ∃ settings, V.systemWorkerSettingsUpdate data = .ok (some settings) ∧
      settings.Differs live
  | .cryptoLeverageInit => ∃ ex init, worker.market = .crypto ex ∧
      V.systemCryptoLeverageInit data = .ok init ∧
        (∃ symbol ∈ (leverageInitJob ex worker.leverage init).symbols, symbol ≠ "") ∧
          0 < (leverageInitJob ex worker.leverage init).cap
  | _ => False

/-- A SYSTEM message with a blank `account_id` that changes or requests something. -/
def ControlWorker.BlankAndMoving (worker : ControlWorker) (V : ControlValidators)
    (live : LiveWorker) : ControlMessage → Prop
  | .system raw => ∃ data system, raw.json.bind Json.dict? = some data ∧
      V.envelope none data = .ok system ∧ system.accountId = "" ∧
        worker.Moves V live data system.action
  | .privateAdmin _ => False

/-! ## A message for someone else -/

/-- The worker asks for a connection and looks at its memory, which stands as it stood. -/
def looksOnly (live : LiveWorker) : Prog.Contract DeskOp DeskOp.Ans Exn where
  guard o := o = .inl (.host .ensureConnected) ∨ o = .inr .live
  answers
    | .inr .live, r => r = .ok live
    | _, _ => True

section Unmoving

variable {live : LiveWorker}

theorem unmoving_of_sends {Q : Unit → Prop} {p : DeskWork Unit}
    (hp : Prog.Sends (looksOnly live) Q p) : Unmoving live p := by
  intro β C world
  have hserve : ∀ o (d : ControlDesk β), (d.live = live ∧ d.world.db = world.db) →
      (looksOnly live).guard o → (looksOnly live).answers o (C.serve o d).1 ∧
        (C.serve o d).2.live = live ∧ (C.serve o d).2.world.db = world.db := by
    rintro o d ⟨hlive, hdb⟩ (rfl | rfl)
    · exact ⟨trivial, hlive, hdb⟩
    · exact ⟨congrArg Except.ok hlive, hlive, hdb⟩
  have hstart : ({ live, world } : ControlDesk β).live = live ∧
      ({ live, world } : ControlDesk β).world.db = world.db := ⟨rfl, rfl⟩
  obtain ⟨hlive, hdb⟩ := hp.keeps hserve hstart
  refine ⟨hlive, hdb, fun o ho => ?_⟩
  rcases hp.obeys hserve hstart o ho with rfl | rfl <;> rfl

theorem unmoving_ret : Unmoving live (.ret ()) :=
  unmoving_of_sends (Q := fun _ => True) (by simp)

theorem unmoving_raise (e : Exn) : Unmoving live (.raise e) :=
  unmoving_of_sends (Q := fun _ => True) (by simp)

theorem connected_looksOnly :
    Prog.Sends (looksOnly live) (fun _ => True) (Prog.embed (host .ensureConnected)) :=
  ⟨Or.inl rfl, fun r _ _ => by cases r <;> simp [Prog.embed]⟩

theorem live_looksOnly : Prog.Sends (looksOnly live) (· = live) (control .live) :=
  Prog.sends_perform (Or.inr rfl) fun _ h => Except.ok.inj h

/-- Settings that are in force already are only compared. -/
theorem applyWorkerSettings_looksOnly {settings : PushedSettings}
    (h : live.applyWorkerSettings settings = live) :
    Prog.Sends (looksOnly live) (fun _ => True) (applyWorkerSettings settings) := by
  refine Prog.Sends.bind (Q := fun _ => True) ?_ fun _ _ => ?_
  · cases hpushed : settings.signalBlocked with
    | none => simp
    | some blocked =>
        refine Prog.Sends.bind live_looksOnly fun l hl => ?_
        have hsame := congrArg LiveWorker.signalsBlocked h
        simp only [LiveWorker.applyWorkerSettings, hpushed, Option.getD_some] at hsame
        rw [hl, if_pos hsame.symm]
        simp
  · cases hpushed : settings.maxOpenOrders with
    | none => simp
    | some maxOpenOrders =>
        refine Prog.Sends.bind live_looksOnly fun l hl => ?_
        have hsame := congrArg LiveWorker.maxOpenOrders h
        simp only [LiveWorker.applyWorkerSettings, hpushed] at hsame
        rw [hl, if_pos (by simpa using hsame.symm)]
        simp

end Unmoving

/-- A job without symbols, or without a cap, asks nothing. -/
theorem LeverageInitJob.run_eq_ret (job : LeverageInitJob)
    (h : ¬((∃ symbol ∈ job.symbols, symbol ≠ "") ∧ 0 < job.cap)) : job.run = .ret () := by
  unfold LeverageInitJob.run
  dsimp only
  split
  · rfl
  · rename_i hsymbols
    have hsome : ∃ symbol ∈ job.symbols, symbol ≠ "" := by
      obtain ⟨symbol, hmem⟩ := List.exists_mem_of_ne_nil _ hsymbols
      have hkept := List.mem_eraseDups.mp hmem
      exact ⟨symbol, by simpa using hkept⟩
    rw [if_pos (by simpa [hsome] using h)]
    rfl

section Routed

variable (worker : ControlWorker) (V : ControlValidators) {live : LiveWorker}

theorem handleSystemAction_unmoving {data : Dict String Json} {action : SystemAction}
    (h : ¬worker.Moves V live data action) :
    Unmoving live (worker.handleSystemAction V action data) := by
  unfold ControlWorker.handleSystemAction
  split
  · unfold ControlWorker.applySystemSettingsUpdate
    split
    · exact unmoving_ret
    · exact unmoving_ret
    · rename_i settings hparsed
      refine unmoving_of_sends (applyWorkerSettings_looksOnly ?_)
      by_contra hchanged
      exact h ⟨settings, hparsed, (settings.differs_iff live).mpr hchanged⟩
  · rename_i ex hmarket
    refine unmoving_of_sends (Q := fun _ => True)
      (Prog.Sends.bind connected_looksOnly fun connected _ => ?_)
    split
    · split
      · simp
      · rename_i init hparsed
        have hidle : ¬((∃ symbol ∈ (leverageInitJob ex worker.leverage init).symbols,
            symbol ≠ "") ∧ 0 < (leverageInitJob ex worker.leverage init).cap) :=
          fun hjob => h ⟨ex, init, hmarket, hparsed, hjob⟩
        unfold runLeverageInit
        rw [LeverageInitJob.run_eq_ret _ hidle]
        simp
    · simp
  · exact unmoving_ret

/-- A private FLAT carries the identity a private message carries. -/
theorem privateAdminFlat_identity {data : Dict String Json} {admin : AdminFlat}
    (h : V.privateAdminFlat data = .ok admin) : ∃ identity, V.privateAdmin data = .ok identity ∧
      worker.targetedBy identity = worker.targetedBy admin := by
  unfold ControlValidators.privateAdminFlat at h
  rcases hboth : bothFields (V.privateAdmin data)
    (bothFields (fieldOr none V.optionalText (data.get? "strategy"))
      (bothFields (fieldOr none V.optionalText (data.get? "symbol"))
        (fieldOr none V.optionalText (data.get? "ref_id")))) with err | fields
  · rw [hboth] at h
    cases h
  · rw [hboth] at h
    cases h
    exact ⟨fields.1, (bothFields_ok_iff.mp hboth).1, rfl⟩

/-- Going flat is left alone unless the identity is the worker's. -/
theorem handleAdminFlat_eq_ret {admin : AdminFlat} (h : worker.targetedBy admin ≠ true)
    (raw : String) : worker.handleAdminFlat live admin raw = .ret () := by
  unfold ControlWorker.targetedBy at h
  unfold ControlWorker.handleAdminFlat
  cases hmarket : worker.market with
  | forex ex =>
      rw [hmarket] at h
      exact if_neg h
  | crypto ex =>
      rw [hmarket] at h
      exact if_neg h

theorem handlePrivateAdmin_unmoving {raw : RawMessage}
    (h : ¬worker.Addressed V (.privateAdmin raw)) :
    Unmoving live (worker.handlePrivateAdmin V raw) := by
  have hcontrol : ∀ {data : Dict String Json}, raw.json.bind Json.dict? = some data →
      ∀ blocked, Unmoving live (worker.handleSignalControl V blocked data) := by
    intro data hdata blocked
    unfold ControlWorker.handleSignalControl
    split
    · exact unmoving_ret
    · rename_i ctrl hparsed
      rw [if_neg fun htargeted => h ⟨data, ctrl, hdata, hparsed, htargeted⟩]
      exact unmoving_ret
  unfold ControlWorker.handlePrivateAdmin
  split
  · exact unmoving_ret
  rename_i json hjson
  split
  · exact unmoving_raise _
  rename_i data hdict
  have hdata : raw.json.bind Json.dict? = some data := by rw [hjson]; exact hdict
  split
  · exact unmoving_ret
  · refine unmoving_of_sends (Q := fun _ => True)
      (Prog.Sends.bind connected_looksOnly fun connected _ => ?_)
    split
    · split
      · simp
      · rename_i admin hparsed
        obtain ⟨identity, hidentity, hsame⟩ := privateAdminFlat_identity worker V hparsed
        refine Prog.Sends.bind live_looksOnly fun l _ => ?_
        rw [handleAdminFlat_eq_ret worker fun htargeted =>
          h ⟨data, identity, hdata, hidentity, hsame.trans htargeted⟩]
        simp [Prog.embed]
    · simp
  · exact hcontrol hdata true
  · exact hcontrol hdata false

theorem handleSystemMessage_unmoving {raw : RawMessage}
    (haddressed : ¬worker.Addressed V (.system raw))
    (hblank : ¬worker.BlankAndMoving V live (.system raw)) :
    Unmoving live (worker.handleSystemMessage V raw) := by
  unfold ControlWorker.handleSystemMessage
  split
  · exact unmoving_ret
  rename_i json hjson
  split
  · exact unmoving_raise _
  rename_i data hdict
  have hdata : raw.json.bind Json.dict? = some data := by rw [hjson]; exact hdict
  split
  · exact unmoving_ret
  rename_i system hparsed
  split
  · exact unmoving_ret
  rename_i hroute
  -- what passes the check without being addressed is blank
  have hempty : system.accountId = "" := by
    by_contra hne
    refine hroute ⟨hne, fun hsame => haddressed ⟨data, system, hdata, hparsed, hsame⟩⟩
  exact handleSystemAction_unmoving worker V fun hmoves =>
    hblank ⟨data, system, hdata, hparsed, hempty, hmoves⟩

end Routed

/-! ## A blank message that moves -/

def takingBroker : ControlBackend Unit where
  fx _ s := (.error (.other "no platform"), s)
  cx _ s := (.error (.other "no exchange"), s)
  host
    | .ensureConnected, s => (.ok true, s)
    | _, s => (.error (.other "not asked"), s)
  sendSignalsBlocked _ s := (.ok (), s)
  getMaxLeverage _ s := (.ok (some 1), s)
  setLeverage _ leverage _ s := (.ok (some leverage), s)

theorem applyWorkerSettings_taken (settings : PushedSettings) (desk : ControlDesk Unit) :
    (Prog.run takingBroker.serve (applyWorkerSettings settings) desk).2.live =
      desk.live.applyWorkerSettings settings := by
  have hblocked : ∀ d, (Prog.run takingBroker.serve
      (settings.signalBlocked.elim (pure ()) setSignalsBlocked) d).1 = .ok () := by
    intro d
    cases settings.signalBlocked with
    | none => rfl
    | some blocked =>
        show (Prog.run takingBroker.serve (setSignalsBlocked blocked) d).1 = .ok ()
        unfold setSignalsBlocked
        rw [Prog.run_bind, run_control]
        dsimp only [ControlBackend.serve]
        split <;> rfl
  have horders : ∀ d, (Prog.run takingBroker.serve
      (settings.maxOpenOrders.elim (pure ()) setMaxOpenOrders) d).1 = .ok () := by
    intro d
    cases settings.maxOpenOrders with
    | none => rfl
    | some maxOpenOrders =>
        show (Prog.run takingBroker.serve (setMaxOpenOrders maxOpenOrders) d).1 = .ok ()
        unfold setMaxOpenOrders
        rw [Prog.run_bind, run_control]
        dsimp only [ControlBackend.serve]
        split <;> rfl
  have hrun : (Prog.run takingBroker.serve (applyWorkerSettings settings) desk).1 = .ok () := by
    unfold applyWorkerSettings
    rw [Prog.run_bind_ok _ (Prod.ext (hblocked desk) rfl)]
    exact horders _
  exact run_applyWorkerSettings_live takingBroker desk (Prod.ext hrun rfl)

theorem LeverageInitJob.run_requests (job : LeverageInitJob) (desk : ControlDesk Unit)
    (hsymbols : ∃ symbol ∈ job.symbols, symbol ≠ "") (hcap : 0 < job.cap) :
    ∃ o ∈ Prog.calls takingBroker.serve job.run desk, DeskOp.requests o = true := by
  obtain ⟨symbol, hmem, hne⟩ := hsymbols
  have hkept : symbol ∈ (job.symbols.filter (· ≠ "")).eraseDups :=
    List.mem_eraseDups.mpr (by simpa using ⟨hmem, hne⟩)
  have hnonempty := List.ne_nil_of_mem hkept
  unfold LeverageInitJob.run
  dsimp only
  rw [if_neg hnonempty, if_neg (by omega)]
  cases hlist : (job.symbols.filter (· ≠ "")).eraseDups with
  | nil => exact absurd hlist hnonempty
  | cons first rest =>
      refine ⟨.inr (.setLeverage (job.resolve first) (min 1 job.cap) job.minCap),
        Prog.mem_calls_bind_left ?_, rfl⟩
      exact List.mem_cons_of_mem _ List.mem_cons_self

theorem handleSystemAction_moving (worker : ControlWorker) (V : ControlValidators)
    {live : LiveWorker} {data : Dict String Json} {action : SystemAction}
    (h : worker.Moves V live data action) :
    ¬Unmoving live (worker.handleSystemAction V action data) := by
  intro hunmoving
  obtain ⟨hlive, -, hcalls⟩ := hunmoving Unit takingBroker { db := .empty, rest := () }
  unfold ControlWorker.handleSystemAction at hlive hcalls
  cases action with
  | workerConnected | workerConnectedAck | workerConnectedError => exact h
  | workerSettingsUpdate =>
      obtain ⟨settings, hparsed, hdiffers⟩ := h
      dsimp only at hlive
      unfold ControlWorker.applySystemSettingsUpdate at hlive
      rw [hparsed] at hlive
      exact (settings.differs_iff live).mp hdiffers
        ((applyWorkerSettings_taken settings _).symm.trans hlive)
  | cryptoLeverageInit =>
      obtain ⟨ex, init, hmarket, hparsed, hsymbols, hcap⟩ := h
      rw [hmarket] at hcalls
      dsimp only at hcalls
      obtain ⟨o, ho, hrequests⟩ := LeverageInitJob.run_requests
        (leverageInitJob ex worker.leverage init) { live, world := { db := .empty, rest := () } }
        hsymbols hcap
      have hmem : o ∈ Prog.calls takingBroker.serve (worker.systemLeverageInit V ex data)
          { live, world := { db := .empty, rest := () } } := by
        refine Prog.mem_calls_bind_right (a := true) rfl ?_
        rw [if_pos rfl, hparsed]
        unfold runLeverageInit
        rwa [Prog.calls_swallow]
      rw [hcalls o hmem] at hrequests
      cases hrequests

/-! ## Whom it acts on -/

/-- A message that is not the worker's own leaves it alone, save for one kind: a SYSTEM
message with a blank `account_id`, whose settings differ from those in force, or whose
leverage job has a symbol and a cap. The check takes blank for no address at all, where
its comment has it match nobody. -/
theorem handleControl_unmoving_iff (V : ControlValidators) (worker : ControlWorker)
    (live : LiveWorker) (msg : ControlMessage) :
    (¬worker.Addressed V msg → Unmoving live (worker.handleControl V msg)) ↔
      ¬worker.BlankAndMoving V live msg := by
  cases msg with
  | privateAdmin raw => exact ⟨fun _ h => h, fun _ h => handlePrivateAdmin_unmoving worker V h⟩
  | system raw =>
      refine ⟨fun h hblank => ?_, fun h haddressed =>
        handleSystemMessage_unmoving worker V haddressed h⟩
      obtain ⟨data, system, hdata, hparsed, hempty, hmoves⟩ := hblank
      have haddressed : ¬worker.Addressed V (.system raw) := by
        rintro ⟨data', system', hdata', hparsed', hsame⟩
        obtain rfl := Option.some.inj (hdata.symm.trans hdata')
        obtain rfl := Except.ok.inj (hparsed.symm.trans hparsed')
        rw [hempty] at hsame
        exact (text?_eq_some.mp hsame.symm).2 rfl
      have hunmoving := h haddressed
      obtain ⟨json, hjson, hdict⟩ := Option.bind_eq_some_iff.mp hdata
      change Unmoving live (worker.handleSystemMessage V raw) at hunmoving
      unfold ControlWorker.handleSystemMessage at hunmoving
      rw [hjson] at hunmoving
      dsimp only at hunmoving
      rw [hdict] at hunmoving
      dsimp only at hunmoving
      rw [hparsed] at hunmoving
      dsimp only at hunmoving
      rw [if_neg fun hroute => hroute.1 hempty] at hunmoving
      exact handleSystemAction_moving worker V hmoves hunmoving

def plainControl : ControlValidators where
  toValidators := plainValidators
  adminAction
    | .str "FLAT" => .ok .flat
    | .str "BLOCK_SIGNAL" => .ok .blockSignal
    | .str "ALLOW_SIGNAL" => .ok .allowSignal
    | _ => refused "Input should be an action"
  identityText
    | .str s => .ok s
    | _ => refused "Input should be a valid string"
  optionalText
    | .str s => .ok (some s)
    | .null => .ok none
    | _ => refused "Input should be a valid string"

def blockedWorker : ControlWorker where
  market := .forex { config := {}, strategyMagicMap := [("GOLD", 7)] }
  identity := some "FOREX-MT5-1"
  gateway := "MT5"
  accountId := "1"

/-- A push that lifts a block, addressed to nobody. -/
def blankAllow : RawMessage where
  text := ""
  json := some (.obj [("action", .str "WORKER_SETTINGS_UPDATE"), ("account_id", .str ""),
    ("settings", .obj [("signal_blocked", .bool false)])])

/-- The blocked worker takes it for its own. -/
theorem blankAllow_unblocks :
    ¬(¬blockedWorker.Addressed plainControl (.system blankAllow) →
      Unmoving { goldLive with signalsBlocked := true }
        (blockedWorker.handleControl plainControl (.system blankAllow))) := by
  intro h
  have haddressed : ¬blockedWorker.Addressed plainControl (.system blankAllow) := by
    rintro ⟨data, system, hdata, hparsed, hsame⟩
    obtain rfl := Option.some.inj hdata
    obtain rfl := Except.ok.inj hparsed
    exact absurd hsame (by decide +kernel)
  obtain ⟨hlive, -, -⟩ := h haddressed Unit takingBroker { db := .empty, rest := () }
  have hblocked := congrArg LiveWorker.signalsBlocked hlive
  cases hblocked

end TradeWorker
