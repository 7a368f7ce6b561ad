import TradeWorker.Domain
import TradeWorker.Json

/-!
# The handshake's reply

`WORKER_CONNECTED_ACK` brings a worker's whole configuration in one message: settings,
magic map, leverage, and the signals to replay. A strict parse would lose all of it to
one bad value, so each section is salvaged on its own, and within a section each entry;
what is discarded leaves a reason. A second, strict pass then validates what survived,
and finds nothing to object to.

How a single value is validated is pydantic's; here it is a parameter, a verdict on a
document.
-/

namespace TradeWorker

/-! ## The schemas -/

inductive SystemAction where
  | cryptoLeverageInit | workerSettingsUpdate
  | workerConnected | workerConnectedAck | workerConnectedError
  deriving DecidableEq, Repr

structure FieldError where
  loc : List String
  msg : String

/-- `ValidationError`: its errors, of which there is one at least. -/
structure ValidationError where
  first : FieldError
  others : List FieldError := []

def ValidationError.why (err : ValidationError) : String :=
  let loc := joinText "." err.first.loc
  let more := if err.others.length = 0 then "" else s!" (+{err.others.length} more)"
  (if loc = "" then "value" else loc) ++ ": " ++ err.first.msg ++ more

/-- Two fields of one model, with the errors of both. -/
def bothFields {α β : Type} :
    Except ValidationError α → Except ValidationError β → Except ValidationError (α × β)
  | .ok a, .ok b => .ok (a, b)
  | .ok _, .error e => .error e
  | .error e, .ok _ => .error e
  | .error e, .error e' =>
      .error { first := e.first, others := e.others ++ e'.first :: e'.others }

theorem bothFields_ok_iff {α β : Type} {x : Except ValidationError α}
    {y : Except ValidationError β} {p : α × β} :
    bothFields x y = .ok p ↔ x = .ok p.1 ∧ y = .ok p.2 := by
  obtain ⟨a, b⟩ := p
  cases x <;> cases y <;> simp [bothFields]

def fieldOr {α : Type} (default : α) (validate : Json → Except ValidationError α) :
    Option Json → Except ValidationError α
  | none => .ok default
  | some raw => validate raw

def requiredField {α : Type} (name : String) (validate : Json → Except ValidationError α) :
    Option Json → Except ValidationError α
  | none => .error { first := { loc := [name], msg := "Field required" } }
  | some raw => validate raw

/-- `WorkerSettingsSchema`. -/
structure PushedSettings where
  signalBlocked : Option Bool := none
  maxOpenOrders : Option Int := none
  deriving DecidableEq, Repr

/-- `CryptoLeverageInitSchema`. -/
structure LeverageInit where
  symbols : Option (List String) := none
  defaultLeverage : Option Int := none
  deriving DecidableEq, Repr

/-- What pydantic makes of a value, field by field. -/
structure Validators where
  action : Json → Except ValidationError SystemAction
  timestamp : Json → Except ValidationError ℚ
  accountId : Json → Except ValidationError String
  signalBlocked : Json → Except ValidationError (Option Bool)
  maxOpenOrders : Json → Except ValidationError (Option Int)
  magic : Json → Except ValidationError Int
  leverageInit : Json → Except ValidationError LeverageInit
  signal : Json → Except ValidationError Signal

/-- `SystemSchema`; without a `timestamp` it is the time of the parse. -/
structure SystemEnvelope where
  action : SystemAction
  timestamp : Option ℚ
  accountId : String
  deriving DecidableEq, Repr

/-- The sections of an ACK, and why parts of them were discarded. -/
structure AckSections where
  settings : Option PushedSettings
  strategyMagicMap : Option (Dict String Int)
  cryptoLeverageInit : Option LeverageInit
  retrySignals : List Signal
  dropped : List String

structure WorkerConnectedAck extends SystemEnvelope, AckSections

namespace Validators

variable (V : Validators)

def envelope (defaultAction : Option SystemAction) (data : Dict String Json) :
    Except ValidationError SystemEnvelope :=
  let action :=
    match defaultAction with
    | some action => fieldOr action V.action (data.get? "action")
    | none => requiredField "action" V.action (data.get? "action")
  let timestamp := fieldOr none (fun raw => (V.timestamp raw).map some) (data.get? "timestamp")
  let accountId := requiredField "account_id" V.accountId (data.get? "account_id")
  (bothFields action (bothFields timestamp accountId)).map fun fields =>
    { action := fields.1, timestamp := fields.2.1, accountId := fields.2.2 }

/-- `WorkerSettingsSchema(**fields)`: other keys are ignored. -/
def workerSettings (fields : Dict String Json) : Except ValidationError PushedSettings :=
  (bothFields (fieldOr none V.signalBlocked (fields.get? "signal_blocked"))
    (fieldOr none V.maxOpenOrders (fields.get? "max_open_orders"))).map fun fields =>
    { signalBlocked := fields.1, maxOpenOrders := fields.2 }

/-! ## Salvage -/

/-- `WorkerSettingsSchema.model_fields`. -/
def settingNames : List String := ["signal_blocked", "max_open_orders"]

/-- One setting: an unknown name is refused, a known one is validated alone. -/
def checkSetting (entry : String × Json) : Except String (String × Json) :=
  if entry.1 ∉ settingNames then
    .error ("settings[" ++ quoted entry.1 ++ "] — unknown setting, this worker ignores it")
  else
    match V.workerSettings (Dict.ofPairs [entry]) with
    | .ok _ => .ok entry
    | .error err => .error ("settings[" ++ quoted entry.1 ++ "] — " ++ err.why)

def salvageSettings (raw : Json) (dropped : List String) :
    Except ValidationError (Option PushedSettings × List String) :=
  match raw.dict? with
  | none => .ok (none, dropped ++ ["settings — not an object"])
  | some fields =>
      let (kept, dropped) := sift V.checkSetting fields.entries [] dropped
      if kept = [] then .ok (none, dropped)
      else (V.workerSettings (Dict.ofPairs kept)).map fun settings => (some settings, dropped)

def salvageSection {α : Type} (raw : Json) (validate : Json → Except ValidationError α)
    (label : String) (dropped : List String) : Option α × List String :=
  match validate raw with
  | .ok a => (some a, dropped)
  | .error err => (none, dropped ++ [label ++ " — " ++ err.why])

def checkMagic (entry : String × Json) : Except String (String × Int) :=
  match V.magic entry.2 with
  | .ok magic => .ok (entry.1, magic)
  | .error err => .error ("strategy_magic_map[" ++ quoted entry.1 ++ "] — " ++ err.why)

def salvageMagicMap (raw : Json) (dropped : List String) :
    Option (Dict String Int) × List String :=
  match raw.dict? with
  | none => (none, dropped ++ ["strategy_magic_map — not an object"])
  | some entries =>
      let (kept, dropped) := sift V.checkMagic entries.entries [] dropped
      (if kept ≠ [] ∨ entries.entries = [] then some (Dict.ofPairs kept) else none, dropped)

/-- One signal of the replay, with its place in the batch. -/
def checkSignal (entry : Json × Nat) : Except String Signal :=
  match V.signal entry.1 with
  | .ok signal => .ok signal
  | .error err => .error (s!"retry_signals[{entry.2}] — " ++ err.why)

def salvageSignals (raw : Option Json) (dropped : List String) : List Signal × List String :=
  match raw with
  | none => ([], dropped)
  | some raw =>
      match raw.items? with
      | none => ([], dropped ++ ["retry_signals — not a list"])
      | some entries => sift V.checkSignal entries.zipIdx [] dropped

/-- `data.get(key)`: a missing key and `null` are both `None`. -/
def given (data : Dict String Json) (key : String) : Option Json :=
  match data.get? key with
  | some .null => none
  | raw => raw

/-- `if data.get(key) is not None`. -/
def whenGiven {α : Type} (raw : Option Json)
    (salvage : Json → List String → Option α × List String) (dropped : List String) :
    Option α × List String :=
  match raw with
  | none => (none, dropped)
  | some raw => salvage raw dropped

def salvageSections (data : Dict String Json) : Except ValidationError AckSections := do
  let (settings, dropped) ←
    (given data "settings").elim (.ok (none, [])) fun raw => V.salvageSettings raw []
  let (strategyMagicMap, dropped) :=
    whenGiven (given data "strategy_magic_map") V.salvageMagicMap dropped
  let (cryptoLeverageInit, dropped) :=
    whenGiven (given data "crypto_leverage_init")
      (fun raw => salvageSection raw V.leverageInit "crypto_leverage_init") dropped
  let (retrySignals, dropped) := V.salvageSignals (given data "retry_signals") dropped
  pure { settings, strategyMagicMap, cryptoLeverageInit, retrySignals, dropped }

/-- The strict pass over a salvaged map: every magic is validated again. Instances of a
model, which the other sections hold by then, pass as they are. -/
def strictMagicMap : Option (Dict String Int) →
    Except ValidationError (Option (Dict String Int))
  | none => .ok none
  | some map =>
      (map.entries.mapM fun entry => (V.magic (.int entry.2)).map (entry.1, ·)).map
        fun entries => some (Dict.ofPairs entries)

/-- `WorkerConnectedAckSchema(**data)`: the salvage, then the strict pass. -/
def workerConnectedAck (data : Dict String Json) :
    Except ValidationError WorkerConnectedAck := do
  let sections ← V.salvageSections data
  let (envelope, strategyMagicMap) ← bothFields (V.envelope (some .workerConnectedAck) data)
    (V.strictMagicMap sections.strategyMagicMap)
  pure
    { toSystemEnvelope := envelope
      toAckSections := { sections with strategyMagicMap } }

/-! ## What is kept, and why the rest is not -/

/-- The settings that validate alone. -/
def survivingSettings (fields : Dict String Json) : Dict String Json :=
  fields.filterMap fun name raw => ((V.checkSetting (name, raw)).toOption).map (·.2)

/-- The magics that validate alone. -/
def survivingMagics (entries : Dict String Json) : Dict String Int :=
  entries.filterMap fun _ raw => (V.magic raw).toOption

/-- What the `settings` section is worth. -/
def settingsOf (raw : Option Json) : Option PushedSettings :=
  (raw.bind Json.dict?).bind fun fields =>
    let kept := V.survivingSettings fields
    if kept.entries = [] then none
    else some
      { signalBlocked :=
          (kept.get? "signal_blocked").bind fun raw => (V.signalBlocked raw).toOption.join
        maxOpenOrders :=
          (kept.get? "max_open_orders").bind fun raw => (V.maxOpenOrders raw).toOption.join }

/-- What the `strategy_magic_map` section is worth. -/
def magicMapOf (raw : Option Json) : Option (Dict String Int) :=
  (raw.bind Json.dict?).bind fun entries =>
    let kept := V.survivingMagics entries
    if kept.entries ≠ [] ∨ entries.entries = [] then some kept else none

/-- What the `crypto_leverage_init` section is worth. -/
def leverageOf (raw : Option Json) : Option LeverageInit :=
  raw.bind fun raw => (V.leverageInit raw).toOption

/-- What the `retry_signals` section is worth. -/
def signalsOf (raw : Option Json) : List Signal :=
  ((raw.bind Json.items?).getD []).filterMap fun entry => (V.signal entry).toOption

/-- Why a section that is not there, is of the wrong shape, or has entries refused. -/
def reasonsOf {α β γ : Type} (view : Json → Option α) (entries : α → List β)
    (check : β → Except String γ) (misfit : String) : Option Json → List String
  | none => []
  | some raw =>
      match view raw with
      | none => [misfit]
      | some found => (entries found).filterMap fun entry => refusal? (check entry)

def settingsReasons : Option Json → List String :=
  reasonsOf Json.dict? Dict.entries V.checkSetting "settings — not an object"

/-- The reasons of the `strategy_magic_map` section. -/
def magicReasons : Option Json → List String :=
  reasonsOf Json.dict? Dict.entries V.checkMagic "strategy_magic_map — not an object"

/-- The reasons of the `crypto_leverage_init` section. -/
def leverageReasons : Option Json → List String :=
  reasonsOf some (fun raw => [raw]) (fun raw => (V.leverageInit raw).mapError fun err =>
    "crypto_leverage_init — " ++ err.why) ""

/-- The reasons of the `retry_signals` section. -/
def signalReasons : Option Json → List String :=
  reasonsOf Json.items? List.zipIdx V.checkSignal "retry_signals — not a list"

/-! ## Salvage keeps what validates -/

section Salvage

variable {V}

theorem checkSetting_ok {entry kept : String × Json} (h : V.checkSetting entry = .ok kept) :
    kept = entry := by
  unfold checkSetting at h
  split at h
  · cases h
  · split at h
    · cases h
      rfl
    · cases h

/-- The loop over the settings keeps the survivors. -/
theorem sift_checkSetting (fields : Dict String Json) (dropped : List String) :
    sift V.checkSetting fields.entries [] dropped =
      ((V.survivingSettings fields).entries,
        dropped ++ fields.entries.filterMap fun entry => refusal? (V.checkSetting entry)) := by
  have hkept : ∀ entry : String × Json, (V.checkSetting entry).toOption =
      (((V.checkSetting (entry.1, entry.2)).toOption).map (·.2)).map (entry.1, ·) := by
    intro entry
    cases h : V.checkSetting entry with
    | error r => rfl
    | ok kept =>
        rw [checkSetting_ok h]
        rfl
  rw [sift_eq, List.nil_append, Prod.mk.injEq]
  refine ⟨?_, rfl⟩
  unfold survivingSettings Dict.filterMap
  exact congrArg (List.filterMap · fields.entries) (funext hkept)

theorem workerSettings_ok {fields : Dict String Json} {settings : PushedSettings}
    (h : V.workerSettings fields = .ok settings) :
    fieldOr none V.signalBlocked (fields.get? "signal_blocked") = .ok settings.signalBlocked ∧
      fieldOr none V.maxOpenOrders (fields.get? "max_open_orders") =
        .ok settings.maxOpenOrders := by
  unfold workerSettings at h
  rcases hboth : bothFields (fieldOr none V.signalBlocked (fields.get? "signal_blocked"))
    (fieldOr none V.maxOpenOrders (fields.get? "max_open_orders")) with e | p
  · rw [hboth] at h
    cases h
  · rw [hboth] at h
    cases h
    exact bothFields_ok_iff.mp hboth

/-- A surviving setting was accepted by the model that holds it alone. -/
theorem workerSettings_of_survives {fields : Dict String Json} {name : String} {raw : Json}
    (h : (V.survivingSettings fields).get? name = some raw) :
    ∃ settings, V.workerSettings (Dict.ofPairs [(name, raw)]) = .ok settings := by
  rw [survivingSettings, Dict.get?_filterMap] at h
  obtain ⟨given, -, h⟩ := Option.bind_eq_some_iff.mp h
  cases hcheck : V.checkSetting (name, given) with
  | error r =>
      rw [hcheck] at h
      cases h
  | ok kept =>
      rw [hcheck] at h
      obtain rfl : kept.2 = raw := Option.some.inj h
      obtain rfl := checkSetting_ok hcheck
      unfold checkSetting at hcheck
      split at hcheck
      · cases hcheck
      · split at hcheck
        · rename_i settings hsettings
          exact ⟨settings, hsettings⟩
        · cases hcheck

/-- What survived one by one, the model accepts together. -/
theorem workerSettings_survivingSettings (fields : Dict String Json) :
    V.workerSettings (V.survivingSettings fields) =
      .ok
        { signalBlocked := ((V.survivingSettings fields).get? "signal_blocked").bind
            fun raw => (V.signalBlocked raw).toOption.join
          maxOpenOrders := ((V.survivingSettings fields).get? "max_open_orders").bind
            fun raw => (V.maxOpenOrders raw).toOption.join } := by
  have hblocked : fieldOr none V.signalBlocked
      ((V.survivingSettings fields).get? "signal_blocked") =
        .ok (((V.survivingSettings fields).get? "signal_blocked").bind
          fun raw => (V.signalBlocked raw).toOption.join) := by
    cases hget : (V.survivingSettings fields).get? "signal_blocked" with
    | none => rfl
    | some raw =>
        obtain ⟨settings, hsettings⟩ := workerSettings_of_survives hget
        have hfield := (workerSettings_ok hsettings).1
        rw [Dict.get?_singleton, if_pos rfl] at hfield
        change V.signalBlocked raw = _ at hfield
        simp [fieldOr, hfield, Except.toOption]
  have horders : fieldOr none V.maxOpenOrders
      ((V.survivingSettings fields).get? "max_open_orders") =
        .ok (((V.survivingSettings fields).get? "max_open_orders").bind
          fun raw => (V.maxOpenOrders raw).toOption.join) := by
    cases hget : (V.survivingSettings fields).get? "max_open_orders" with
    | none => rfl
    | some raw =>
        obtain ⟨settings, hsettings⟩ := workerSettings_of_survives hget
        have hfield := (workerSettings_ok hsettings).2
        rw [Dict.get?_singleton, if_pos rfl] at hfield
        change V.maxOpenOrders raw = _ at hfield
        simp [fieldOr, hfield, Except.toOption]
  rw [workerSettings, hblocked, horders]
  rfl

/-! ### Section by section -/

theorem salvageSettings_eq (raw : Json) (dropped : List String) :
    V.salvageSettings raw dropped =
      .ok (V.settingsOf (some raw), dropped ++ V.settingsReasons (some raw)) := by
  unfold salvageSettings settingsOf settingsReasons reasonsOf
  dsimp only [Option.bind_some]
  cases raw.dict? with
  | none => rfl
  | some fields =>
      dsimp only [Option.bind_some]
      rw [sift_checkSetting]
      dsimp only
      split
      · rfl
      · rw [Dict.ofPairs_entries, workerSettings_survivingSettings]
        rfl

theorem survivingMagics_entries (entries : Dict String Json) :
    (V.survivingMagics entries).entries =
      entries.entries.filterMap fun entry => (V.checkMagic entry).toOption := by
  have hkept : (fun entry : String × Json => (V.checkMagic entry).toOption) =
      fun entry => ((V.magic entry.2).toOption).map (entry.1, ·) := by
    funext entry
    unfold checkMagic
    cases V.magic entry.2 <;> rfl
  rw [hkept]
  rfl

theorem salvageMagicMap_eq (raw : Json) (dropped : List String) :
    V.salvageMagicMap raw dropped =
      (V.magicMapOf (some raw), dropped ++ V.magicReasons (some raw)) := by
  unfold salvageMagicMap magicMapOf magicReasons reasonsOf
  dsimp only [Option.bind_some]
  cases raw.dict? with
  | none => rfl
  | some entries =>
      dsimp only [Option.bind_some]
      rw [sift_eq, List.nil_append, ← survivingMagics_entries, Dict.ofPairs_entries]

theorem salvageSection_eq (raw : Json) (dropped : List String) :
    salvageSection raw V.leverageInit "crypto_leverage_init" dropped =
      (V.leverageOf (some raw), dropped ++ V.leverageReasons (some raw)) := by
  unfold salvageSection leverageOf leverageReasons reasonsOf
  cases h : V.leverageInit raw with
  | ok init => simp [h, Except.mapError, Except.toOption]
  | error err => simp [h, Except.mapError, Except.toOption]

/-- The place of a signal in the batch plays no part in its validation. -/
theorem filterMap_checkSignal (l : List Json) (n : Nat) :
    (l.zipIdx n).filterMap (fun entry => (V.checkSignal entry).toOption) =
      l.filterMap fun entry => (V.signal entry).toOption := by
  induction l generalizing n with
  | nil => rfl
  | cons entry rest ih =>
      rw [List.zipIdx_cons, List.filterMap_cons, List.filterMap_cons, ih]
      unfold checkSignal
      cases V.signal entry <;> rfl

theorem salvageSignals_eq (raw : Option Json) (dropped : List String) :
    V.salvageSignals raw dropped = (V.signalsOf raw, dropped ++ V.signalReasons raw) := by
  unfold salvageSignals signalsOf signalReasons reasonsOf
  cases raw with
  | none => simp
  | some raw =>
      dsimp only [Option.bind_some]
      cases raw.items? with
      | none => rfl
      | some entries =>
          dsimp only
          rw [sift_eq, List.nil_append, filterMap_checkSignal]
          rfl

/-- Validating the magics that were kept changes none of them. -/
theorem strictMagicMap_eq (hint : ∀ n, V.magic (.int n) = .ok n)
    (map : Option (Dict String Int)) : V.strictMagicMap map = .ok map := by
  cases map with
  | none => rfl
  | some map =>
      have hentries : ∀ l : List (String × Int),
          (l.mapM fun entry => (V.magic (.int entry.2)).map (entry.1, ·)) = .ok l := by
        intro l
        induction l with
        | nil => rfl
        | cons entry rest ih =>
            rw [List.mapM_cons, hint, ih]
            rfl
      unfold strictMagicMap
      dsimp only
      rw [hentries]
      show Except.ok (some (Dict.ofPairs map.entries)) = _
      rw [Dict.ofPairs_entries]

end Salvage

/-! ## The whole reply -/

/-- Each section is worth what its own raw value is worth, and the reasons follow in the
order of the sections. -/
structure Salvaged (V : Validators) (data : Dict String Json) (ack : WorkerConnectedAck) :
    Prop where
  settings : ack.settings = V.settingsOf (given data "settings")
  strategyMagicMap : ack.strategyMagicMap = V.magicMapOf (given data "strategy_magic_map")
  cryptoLeverageInit :
    ack.cryptoLeverageInit = V.leverageOf (given data "crypto_leverage_init")
  retrySignals : ack.retrySignals = V.signalsOf (given data "retry_signals")
  dropped : ack.dropped =
    V.settingsReasons (given data "settings") ++
      V.magicReasons (given data "strategy_magic_map") ++
      V.leverageReasons (given data "crypto_leverage_init") ++
      V.signalReasons (given data "retry_signals")

theorem salvageSections_eq (data : Dict String Json) : ∃ sections,
    V.salvageSections data = .ok sections ∧ ∀ envelope,
      Salvaged V data { toSystemEnvelope := envelope, toAckSections := sections } := by
  have hsettings : ((given data "settings").elim (.ok (none, [])) fun raw =>
      V.salvageSettings raw []) =
        .ok (V.settingsOf (given data "settings"), V.settingsReasons (given data "settings")) := by
    cases given data "settings" with
    | none => rfl
    | some raw => exact salvageSettings_eq raw []
  have hmagics : ∀ dropped,
      whenGiven (given data "strategy_magic_map") V.salvageMagicMap dropped =
        (V.magicMapOf (given data "strategy_magic_map"),
          dropped ++ V.magicReasons (given data "strategy_magic_map")) := by
    intro dropped
    cases given data "strategy_magic_map" with
    | none => simp [whenGiven, magicMapOf, magicReasons, reasonsOf]
    | some raw => exact salvageMagicMap_eq raw dropped
  have hleverage : ∀ dropped,
      whenGiven (given data "crypto_leverage_init")
          (fun raw => salvageSection raw V.leverageInit "crypto_leverage_init") dropped =
        (V.leverageOf (given data "crypto_leverage_init"),
          dropped ++ V.leverageReasons (given data "crypto_leverage_init")) := by
    intro dropped
    cases given data "crypto_leverage_init" with
    | none => simp [whenGiven, leverageOf, leverageReasons, reasonsOf]
    | some raw => exact salvageSection_eq raw dropped
  refine ⟨{ settings := V.settingsOf (given data "settings")
            strategyMagicMap := V.magicMapOf (given data "strategy_magic_map")
            cryptoLeverageInit := V.leverageOf (given data "crypto_leverage_init")
            retrySignals := V.signalsOf (given data "retry_signals")
            dropped := _ }, ?_, fun envelope => ⟨rfl, rfl, rfl, rfl, rfl⟩⟩
  unfold salvageSections
  rw [hsettings]
  simp only [bind, Except.bind, hmagics, hleverage, salvageSignals_eq]
  rfl

/-- A valid envelope is all a reply needs. -/
theorem workerConnectedAck_salvaged (hint : ∀ n, V.magic (.int n) = .ok n)
    {data : Dict String Json} {envelope : SystemEnvelope}
    (henvelope : V.envelope (some .workerConnectedAck) data = .ok envelope) : ∃ ack,
      V.workerConnectedAck data = .ok ack ∧ ack.toSystemEnvelope = envelope ∧
        Salvaged V data ack := by
  obtain ⟨sections, hsections, hsalvaged⟩ := V.salvageSections_eq data
  refine ⟨_, ?_, rfl, hsalvaged envelope⟩
  unfold workerConnectedAck
  rw [hsections]
  show (bothFields (V.envelope (some .workerConnectedAck) data)
    (V.strictMagicMap sections.strategyMagicMap) >>= _) = _
  rw [henvelope, strictMagicMap_eq hint]
  rfl

/-- And one it cannot do without. -/
theorem salvaged_of_ok (hint : ∀ n, V.magic (.int n) = .ok n) {data : Dict String Json}
    {ack : WorkerConnectedAck} (h : V.workerConnectedAck data = .ok ack) :
    V.envelope (some .workerConnectedAck) data = .ok ack.toSystemEnvelope ∧
      Salvaged V data ack := by
  cases henvelope : V.envelope (some .workerConnectedAck) data with
  | ok envelope =>
      obtain ⟨ack', hack', htop, hsalvaged⟩ := V.workerConnectedAck_salvaged hint henvelope
      obtain rfl : ack' = ack := Except.ok.inj (hack'.symm.trans h)
      exact ⟨congrArg Except.ok htop.symm, hsalvaged⟩
  | error err =>
      obtain ⟨sections, hsections, -⟩ := V.salvageSections_eq data
      unfold workerConnectedAck at h
      rw [hsections] at h
      change (bothFields (V.envelope (some .workerConnectedAck) data)
        (V.strictMagicMap sections.strategyMagicMap) >>= _) = _ at h
      rw [henvelope, V.strictMagicMap_eq hint] at h
      cases h

/-! ## No section costs another -/

/-- Two replies that agree on the raw value of a section agree on its parsed value. -/
def SameSections (data data' : Dict String Json) (ack ack' : WorkerConnectedAck) : Prop :=
  (given data "settings" = given data' "settings" → ack.settings = ack'.settings) ∧
    (given data "strategy_magic_map" = given data' "strategy_magic_map" →
      ack.strategyMagicMap = ack'.strategyMagicMap) ∧
    (given data "crypto_leverage_init" = given data' "crypto_leverage_init" →
      ack.cryptoLeverageInit = ack'.cryptoLeverageInit) ∧
    (given data "retry_signals" = given data' "retry_signals" →
      ack.retrySignals = ack'.retrySignals)

theorem Salvaged.sameSections {data data' : Dict String Json} {ack ack' : WorkerConnectedAck}
    (h : Salvaged V data ack) (h' : Salvaged V data' ack') :
    SameSections data data' ack ack' := by
  refine ⟨fun heq => ?_, fun heq => ?_, fun heq => ?_, fun heq => ?_⟩
  · rw [h.settings, h'.settings, heq]
  · rw [h.strategyMagicMap, h'.strategyMagicMap, heq]
  · rw [h.cryptoLeverageInit, h'.cryptoLeverageInit, heq]
  · rw [h.retrySignals, h'.retrySignals, heq]

/-- Entries given, entries kept, and reasons: the first are the other two together. -/
structure Accounted (V : Validators) (data : Dict String Json) : Prop where
  settings : ∀ raw fields, given data "settings" = some raw → raw.dict? = some fields →
    (V.survivingSettings fields).entries.length + (V.settingsReasons (some raw)).length =
      fields.entries.length
  strategyMagicMap : ∀ raw entries, given data "strategy_magic_map" = some raw →
    raw.dict? = some entries →
      (V.survivingMagics entries).entries.length + (V.magicReasons (some raw)).length =
        entries.entries.length
  retrySignals : ∀ raw entries, given data "retry_signals" = some raw →
    raw.items? = some entries →
      (V.signalsOf (some raw)).length + (V.signalReasons (some raw)).length = entries.length

theorem accounted (data : Dict String Json) : Accounted V data where
  settings raw fields _ hfields := by
    have hsift := congrArg Prod.fst (sift_checkSetting (V := V) fields [])
    rw [sift_eq, List.nil_append] at hsift
    dsimp only at hsift
    simp only [settingsReasons, reasonsOf, hfields, ← hsift]
    exact length_survivors_add_reasons V.checkSetting fields.entries
  strategyMagicMap raw entries _ hentries := by
    simp only [magicReasons, reasonsOf, hentries, survivingMagics_entries]
    exact length_survivors_add_reasons V.checkMagic entries.entries
  retrySignals raw entries _ hentries := by
    have hcount := length_survivors_add_reasons V.checkSignal entries.zipIdx
    rw [filterMap_checkSignal, List.length_zipIdx] at hcount
    simpa only [signalsOf, signalReasons, reasonsOf, Option.bind_some, hentries,
      Option.getD_some] using hcount

theorem magicMapOf_eq_empty {raw : Option Json} {map : Dict String Int}
    (h : V.magicMapOf raw = some map) (hmap : map.entries = []) : raw = some (.obj []) := by
  obtain ⟨entries, hentries, hkept⟩ := Option.bind_eq_some_iff.mp h
  obtain ⟨raw, rfl, hdict⟩ := Option.bind_eq_some_iff.mp hentries
  dsimp only at hkept
  split at hkept
  · rename_i hor
    obtain rfl := Option.some.inj hkept
    rcases hor with hne | hnil
    · exact absurd hmap hne
    · rw [Json.eq_obj_nil hdict hnil]
  · cases hkept

/-- A reply with a valid envelope is always read; what each section is read as is up to
that section, entry by entry and in order; whatever is lost leaves one reason; and the
magic map is read as empty only where it was sent empty. -/
theorem ack_salvage (V : Validators) (hint : ∀ n, V.magic (.int n) = .ok n)
    (data : Dict String Json) (envelope : SystemEnvelope)
    (henvelope : V.envelope (some .workerConnectedAck) data = .ok envelope) : ∃ ack,
      V.workerConnectedAck data = .ok ack ∧ Salvaged V data ack ∧ Accounted V data ∧
        (∀ data' ack', V.workerConnectedAck data' = .ok ack' → SameSections data data' ack ack') ∧
        ∀ map, ack.strategyMagicMap = some map → map.entries = [] →
          given data "strategy_magic_map" = some (.obj []) := by
  obtain ⟨ack, hack, -, hsalvaged⟩ := V.workerConnectedAck_salvaged hint henvelope
  refine ⟨ack, hack, hsalvaged, V.accounted data, fun data' ack' hack' => ?_,
    fun map hmap hnil => ?_⟩
  · exact Salvaged.sameSections V hsalvaged (V.salvaged_of_ok hint hack').2
  · rw [hsalvaged.strategyMagicMap] at hmap
    exact V.magicMapOf_eq_empty hmap hnil

end Validators

/-! ## A reply in need of salvage -/

/-- A refusal with nothing to say about where. -/
def refused {α : Type} (msg : String) : Except ValidationError α :=
  .error { first := { loc := [], msg } }

def Json.text? : Json → Option String
  | .str s => some s
  | _ => none

def plainSignal (fields : Dict String Json) : Option Signal := do
  let strategy ← (fields.get? "strategy").bind Json.text?
  let symbol ← (fields.get? "symbol").bind Json.text?
  let action ← (fields.get? "action").bind Json.text?
  let action ← if action = "LONG" then some SignalAction.long
    else if action = "FLAT" then some SignalAction.flat else none
  some { strategy, symbol, action, timestamp := 0 }

/-- Validators for plain values: each is taken as it is, or refused. -/
def plainValidators : Validators where
  action
    | .str "WORKER_CONNECTED_ACK" => .ok .workerConnectedAck
    | .str "WORKER_CONNECTED" => .ok .workerConnected
    | .str "WORKER_SETTINGS_UPDATE" => .ok .workerSettingsUpdate
    | .str "CRYPTO_LEVERAGE_INIT" => .ok .cryptoLeverageInit
    | _ => refused "Input should be an action"
  timestamp
    | .int n => .ok n
    | _ => refused "Input should be a valid datetime"
  accountId
    | .str s => .ok s
    | _ => refused "Input should be a valid string"
  signalBlocked
    | .bool b => .ok (some b)
    | .null => .ok none
    | _ => refused "Input should be a valid boolean"
  maxOpenOrders
    | .int n => if 0 ≤ n then .ok (some n) else refused "Input should be at least 0"
    | .null => .ok none
    | _ => refused "Input should be a valid integer"
  magic
    | .int n => .ok n
    | _ => refused "Input should be a valid integer"
  leverageInit
    | .obj [] => .ok {}
    | _ => refused "Input should be a valid dictionary"
  signal raw :=
    match raw.dict?.bind plainSignal with
    | some signal => .ok signal
    | none => refused "Field required"

/-- A reply with one bad setting, one bad magic and one bad signal. -/
def mixedReply : Dict String Json :=
  .ofPairs
    [("account_id", .str "FOREX-MT5-1"),
      ("settings", .obj [("signal_blocked", .bool true), ("max_open_orders", .int (-1))]),
      ("strategy_magic_map", .obj [("GOLD", .int 7), ("OIL", .str "seven")]),
      ("retry_signals", .arr [.null, .obj [("strategy", .str "GOLD"), ("symbol", .str "XAUUSD"),
        ("action", .str "FLAT")]])]

theorem mixedReply_salvage : ∃ ack,
    plainValidators.workerConnectedAck mixedReply = .ok ack ∧
      ack.settings = some { signalBlocked := some true } ∧
        ack.strategyMagicMap.map (·.entries) = some [("GOLD", 7)] ∧
          ack.retrySignals.map (·.action) = [.flat] ∧ ack.dropped.length = 3 := by
  obtain ⟨ack, hack, hsalvaged, -⟩ := plainValidators.ack_salvage (fun _ => rfl) mixedReply
    { action := .workerConnectedAck, timestamp := none, accountId := "FOREX-MT5-1" } rfl
  refine ⟨ack, hack, ?_, ?_, ?_, ?_⟩
  · rw [hsalvaged.settings]
    decide +kernel
  · rw [hsalvaged.strategyMagicMap]
    decide +kernel
  · rw [hsalvaged.retrySignals]
    decide +kernel
  · rw [hsalvaged.dropped]
    decide +kernel

end TradeWorker
