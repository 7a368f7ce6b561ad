import TradeWorker.ChangeFeed
import TradeWorker.Inbox
import TradeWorker.MarketFootprint

/-!
# The magic map at run time

The broker owns the map from strategies to magic numbers and pushes it with every
`WORKER_CONNECTED_ACK`. Three components hold it: the live settings, the executor, and
the change-data-capture job. Three laws are asked of it here: that only an explicit `{}`
clears it, that it keeps strategies apart, and that the three agree. The checks that
would give the first two stand elsewhere, in the salvage and at start-up; the third
fails where the job keeps the map it was built with.
-/

namespace TradeWorker

/-! ## What an ACK changes in memory -/

/-- The settings and maps a control message may change while the worker runs. -/
structure LiveWorker where
  signalsBlocked : Bool := false
  maxOpenOrders : Option Int := none
  strategyMagicMap : Dict String Int
  executorMagicMap : Dict String Int

/-- What is fixed for the life of a worker. -/
structure WorkerSetup where
  marketType : MarketType
  subscribedStrategies : List String

/-- The entries `_apply_strategy_magic_map` keeps. -/
def WorkerSetup.subscribedOnly (setup : WorkerSetup) (pushed : Dict String Int) :
    Dict String Int :=
  pushed.filterMap fun strategy magic =>
    if strategy ∈ setup.subscribedStrategies then some magic else none

namespace LiveWorker

variable (live : LiveWorker)

/-- `_set_executor_magic_map`: crypto has no magics on its executor. -/
def setExecutorMagicMap (marketType : MarketType) (mapping : Dict String Int) : LiveWorker :=
  match marketType with
  | .forex => { live with executorMagicMap := mapping }
  | .crypto => live

def applyStrategyMagicMap (setup : WorkerSetup) (pushed : Dict String Int) : LiveWorker :=
  let mapping := setup.subscribedOnly pushed
  { live with strategyMagicMap := mapping }.setExecutorMagicMap setup.marketType mapping

/-- `_apply_worker_settings`: what was not pushed stays. -/
def applyWorkerSettings (settings : PushedSettings) : LiveWorker :=
  { live with
    signalsBlocked := settings.signalBlocked.getD live.signalsBlocked
    maxOpenOrders := settings.maxOpenOrders <|> live.maxOpenOrders }

/-- The settings section, then the magic map. -/
def configure (setup : WorkerSetup) (sections : AckSections) : LiveWorker :=
  let restored := sections.settings.elim live live.applyWorkerSettings
  sections.strategyMagicMap.elim restored (restored.applyStrategyMagicMap setup)

/-- What `_apply_worker_connected_ack` leaves in memory; an invalid envelope is
dropped. -/
def afterAck (V : Validators) (setup : WorkerSetup) (data : Dict String Json) : LiveWorker :=
  match V.workerConnectedAck data with
  | .ok ack => live.configure setup ack.toAckSections
  | .error _ => live

@[simp] theorem setExecutorMagicMap_strategyMagicMap (marketType : MarketType)
    (mapping : Dict String Int) :
    (live.setExecutorMagicMap marketType mapping).strategyMagicMap = live.strategyMagicMap := by
  cases marketType <;> rfl

end LiveWorker

/-- The map an ACK puts in force, if it puts one. -/
def Validators.pushedMap (V : Validators) (setup : WorkerSetup) (data : Dict String Json) :
    Option (Dict String Int) :=
  match V.workerConnectedAck data with
  | .ok ack => ack.strategyMagicMap.map setup.subscribedOnly
  | .error _ => none

section Ack

variable {V : Validators} {setup : WorkerSetup} {data : Dict String Json} (live : LiveWorker)

theorem afterAck_strategyMagicMap :
    (live.afterAck V setup data).strategyMagicMap =
      (V.pushedMap setup data).getD live.strategyMagicMap := by
  unfold LiveWorker.afterAck Validators.pushedMap LiveWorker.configure
  cases V.workerConnectedAck data with
  | error err => rfl
  | ok ack =>
      dsimp only
      cases ack.strategyMagicMap with
      | none => cases ack.settings <;> rfl
      | some pushed => simp [LiveWorker.applyStrategyMagicMap]

theorem afterAck_executorMagicMap :
    (live.afterAck V setup data).executorMagicMap =
      match setup.marketType with
      | .forex => (V.pushedMap setup data).getD live.executorMagicMap
      | .crypto => live.executorMagicMap := by
  unfold LiveWorker.afterAck Validators.pushedMap LiveWorker.configure
  cases V.workerConnectedAck data with
  | error err => cases setup.marketType <;> rfl
  | ok ack =>
      dsimp only
      cases ack.strategyMagicMap with
      | none => cases ack.settings <;> cases setup.marketType <;> rfl
      | some pushed =>
          unfold LiveWorker.applyStrategyMagicMap
          cases ack.settings <;> cases setup.marketType <;> rfl

/-- The map pushed is the salvaged one, under a valid envelope. -/
theorem pushedMap_of_envelope (hint : ∀ n, V.magic (.int n) = .ok n)
    {envelope : SystemEnvelope}
    (henvelope : V.envelope (some .workerConnectedAck) data = .ok envelope) :
    V.pushedMap setup data =
      (V.magicMapOf (Validators.given data "strategy_magic_map")).map setup.subscribedOnly := by
  obtain ⟨ack, hack, -, hsalvaged⟩ := V.workerConnectedAck_salvaged hint henvelope
  simp only [Validators.pushedMap, hack, hsalvaged.strategyMagicMap]

theorem pushedMap_of_invalid (hint : ∀ n, V.magic (.int n) = .ok n) {err : ValidationError}
    (henvelope : V.envelope (some .workerConnectedAck) data = .error err) :
    V.pushedMap setup data = none := by
  unfold Validators.pushedMap
  cases hack : V.workerConnectedAck data with
  | error _ => rfl
  | ok ack =>
      have hvalid := (V.salvaged_of_ok hint hack).1
      rw [henvelope] at hvalid
      cases hvalid

end Ack

/-! ## Only `{}` clears the map -/

/-- Where an ACK empties the stored map, it pushed `{}`. -/
def ClearedOnlyByEmpty (V : Validators) (setup : WorkerSetup) (data : Dict String Json)
    (live : LiveWorker) : Prop :=
  live.strategyMagicMap.entries ≠ [] →
    (live.afterAck V setup data).strategyMagicMap.entries = [] →
      Validators.given data "strategy_magic_map" = some (.obj [])

def Validators.Parses (V : Validators) (entry : String × Json) : Prop :=
  ∃ magic, V.magic entry.2 = .ok magic

/-- If any entry of a pushed map parses, one of a subscribed strategy does. -/
def PushesSubscribed (V : Validators) (setup : WorkerSetup) (data : Dict String Json) : Prop :=
  ∀ entries, (Validators.given data "strategy_magic_map").bind Json.dict? = some entries →
    (∃ entry ∈ entries.entries, V.Parses entry) →
      ∃ entry ∈ entries.entries, V.Parses entry ∧ entry.1 ∈ setup.subscribedStrategies

section Cleared

variable {V : Validators} {setup : WorkerSetup}

theorem mem_survivingMagics {entries : Dict String Json} {strategy : String} {magic : Int} :
    (strategy, magic) ∈ (V.survivingMagics entries).entries ↔
      ∃ raw, (strategy, raw) ∈ entries.entries ∧ V.magic raw = .ok magic := by
  have hok : ∀ raw, (V.magic raw).toOption = some magic ↔ V.magic raw = .ok magic := by
    intro raw
    cases V.magic raw <;> simp [Except.toOption]
  unfold Validators.survivingMagics
  rw [Dict.mem_filterMap]
  simp only [hok]

/-- What is left of a salvaged map is empty when no entry of a subscribed strategy
parses. -/
theorem subscribedOnly_survivingMagics_eq_nil_iff {entries : Dict String Json} :
    (setup.subscribedOnly (V.survivingMagics entries)).entries = [] ↔
      ¬ ∃ entry ∈ entries.entries, V.Parses entry ∧ entry.1 ∈ setup.subscribedStrategies := by
  rw [List.eq_nil_iff_forall_not_mem]
  constructor
  · rintro hnone ⟨⟨strategy, raw⟩, hmem, ⟨magic, hmagic⟩, hsubscribed⟩
    refine hnone (strategy, magic) (Dict.mem_filterMap.mpr ⟨magic, ?_, by simp [hsubscribed]⟩)
    exact mem_survivingMagics.mpr ⟨raw, hmem, hmagic⟩
  · rintro hnone ⟨strategy, magic⟩ hmem
    obtain ⟨magic', hkept, hif⟩ := Dict.mem_filterMap.mp hmem
    obtain ⟨raw, hraw, hmagic⟩ := mem_survivingMagics.mp hkept
    refine hnone ⟨(strategy, raw), hraw, ⟨magic', hmagic⟩, ?_⟩
    by_contra hother
    simp [hother] at hif

theorem survivingMagics_ne_nil {entries : Dict String Json}
    (h : ∃ entry ∈ entries.entries, V.Parses entry) :
    (V.survivingMagics entries).entries ≠ [] := by
  obtain ⟨⟨strategy, raw⟩, hmem, magic, hmagic⟩ := h
  exact List.ne_nil_of_mem (mem_survivingMagics.mpr ⟨raw, hmem, hmagic⟩)

theorem magicMapOf_some {raw : Option Json} {kept : Dict String Int}
    (h : V.magicMapOf raw = some kept) :
    ∃ entries, raw.bind Json.dict? = some entries ∧ V.survivingMagics entries = kept := by
  obtain ⟨entries, hentries, hkept⟩ := Option.bind_eq_some_iff.mp h
  refine ⟨entries, hentries, ?_⟩
  dsimp only at hkept
  split at hkept
  · exact Option.some.inj hkept
  · cases hkept

end Cleared

/-- Only an explicit `{}` clears a worker's magics, as long as whatever parses of a push
includes a strategy of the worker's. -/
theorem clearedOnlyByEmpty_iff (V : Validators) (hint : ∀ n, V.magic (.int n) = .ok n)
    (setup : WorkerSetup) (data : Dict String Json) (live : LiveWorker) :
    ClearedOnlyByEmpty V setup data live ↔
      live.strategyMagicMap.entries = [] ∨
        (∃ err, V.envelope (some .workerConnectedAck) data = .error err) ∨
          PushesSubscribed V setup data := by
  unfold ClearedOnlyByEmpty
  rw [afterAck_strategyMagicMap]
  rcases henvelope : V.envelope (some .workerConnectedAck) data with err | envelope
  · rw [pushedMap_of_invalid hint henvelope]
    exact iff_of_true (fun hne hnil => absurd hnil hne) (Or.inr (Or.inl ⟨err, rfl⟩))
  rw [pushedMap_of_envelope hint henvelope]
  generalize hraw : Validators.given data "strategy_magic_map" = raw
  constructor
  · intro hcleared
    by_cases hlive : live.strategyMagicMap.entries = []
    · exact Or.inl hlive
    refine Or.inr (Or.inr fun entries hentries ⟨entry, hmem, hparses⟩ => ?_)
    by_contra hother
    rw [hraw] at hentries
    have hkept : V.magicMapOf raw = some (V.survivingMagics entries) := by
      unfold Validators.magicMapOf
      rw [hentries]
      exact if_pos (Or.inl (survivingMagics_ne_nil ⟨entry, hmem, hparses⟩))
    have hempty := subscribedOnly_survivingMagics_eq_nil_iff.mpr hother
    rw [hkept] at hcleared
    obtain rfl := hcleared hlive hempty
    obtain rfl := Option.some.inj hentries
    cases hmem
  · rintro (hnil | ⟨err, herr⟩ | hpush) hne hempty
    · exact absurd hnil hne
    · cases herr
    cases hmap : V.magicMapOf raw with
    | none =>
        rw [hmap] at hempty
        exact absurd hempty hne
    | some kept =>
        by_cases hkept : kept.entries = []
        · exact V.magicMapOf_eq_empty hmap hkept
        -- something parsed, so something of the worker's own did, and that stays
        obtain ⟨entries, hentries, rfl⟩ := magicMapOf_some hmap
        obtain ⟨⟨strategy, magic⟩, hmem⟩ := List.exists_mem_of_ne_nil _ hkept
        obtain ⟨raw', hraw', hmagic⟩ := mem_survivingMagics.mp hmem
        rw [hmap] at hempty
        refine absurd ?_ (subscribedOnly_survivingMagics_eq_nil_iff.mp hempty)
        exact hpush entries (hraw ▸ hentries) ⟨(strategy, raw'), hraw', magic, hmagic⟩

/-- A FOREX worker for one strategy, trading under magic 7. -/
def goldWorker : WorkerSetup where
  marketType := .forex
  subscribedStrategies := ["GOLD"]

def goldLive : LiveWorker where
  strategyMagicMap := .ofPairs [("GOLD", 7)]
  executorMagicMap := .ofPairs [("GOLD", 7)]

theorem mixedReply_keepsMap :
    ClearedOnlyByEmpty plainValidators goldWorker mixedReply goldLive := by
  refine (clearedOnlyByEmpty_iff plainValidators (fun _ => rfl) goldWorker mixedReply
    goldLive).mpr (Or.inr (Or.inr fun entries hentries _ => ?_))
  obtain rfl := Option.some.inj hentries
  exact ⟨("GOLD", .int 7), List.mem_cons_self, ⟨7, rfl⟩, List.mem_cons_self⟩

/-- The worker's own magic is malformed, another strategy's is not. -/
def malformedGold : Dict String Json :=
  .ofPairs
    [("account_id", .str "FOREX-MT5-1"),
      ("strategy_magic_map", .obj [("GOLD", .str "seven"), ("OIL", .int 8)])]

/-- It empties the worker's map. -/
theorem malformedGold_clears :
    ¬ ClearedOnlyByEmpty plainValidators goldWorker malformedGold goldLive := by
  intro hcleared
  have hliteral := hcleared (by decide +kernel) (by decide +kernel)
  have hpushed : Validators.given malformedGold "strategy_magic_map" =
      some (.obj [("GOLD", .str "seven"), ("OIL", .int 8)]) := rfl
  rw [hpushed] at hliteral
  cases hliteral

/-! ## Strategies under one magic -/

/-- No two strategies share a magic. -/
def MagicsDistinct (map : Dict String Int) : Prop :=
  ∀ strategy strategy' magic, map.get? strategy = some magic →
    map.get? strategy' = some magic → strategy = strategy'

/-- The loop of `_validate_multi_strategy_magics`. -/
def magicCollisions : List (String × Int) → Dict Int String → List String → List String
  | [], _, collisions => collisions
  | (strategy, magic) :: rest, seen, collisions =>
      match seen.get? magic with
      | some holder =>
          magicCollisions rest seen
            (collisions ++ [holder ++ " + " ++ strategy ++ " → " ++ toString magic])
      | none => magicCollisions rest (seen.insert magic strategy) collisions

def validateMultiStrategyMagics (marketType : MarketType) (allowMultiStrategy : Bool)
    (magicMap : Dict String Int) : Except Exn Unit :=
  if marketType = .forex ∧ allowMultiStrategy then
    let collisions := magicCollisions magicMap.entries .empty []
    if collisions = [] then .ok ()
    else .error (.valueError ("FOREX_ALLOW_MULTI_STRATEGY_PER_SYMBOL=true requires a unique " ++
      "magic number per strategy in STRATEGY_MAGIC_MAP; duplicates: " ++
      joinText "; " collisions))
  else .ok ()

/-- The loop finds nothing when the magics are new and differ. -/
theorem magicCollisions_eq_nil_iff {entries : List (String × Int)} {seen : Dict Int String}
    {collisions : List String} :
    magicCollisions entries seen collisions = [] ↔
      collisions = [] ∧ (entries.map Prod.snd).Nodup ∧
        ∀ entry ∈ entries, seen.get? entry.2 = none := by
  induction entries generalizing seen collisions with
  | nil => simp [magicCollisions]
  | cons entry rest ih =>
      obtain ⟨strategy, magic⟩ := entry
      unfold magicCollisions
      cases hseen : seen.get? magic with
      | some holder =>
          dsimp only
          rw [ih]
          simp [hseen]
      | none =>
          dsimp only
          rw [ih, List.map_cons, List.nodup_cons, List.forall_mem_cons]
          simp only [hseen, true_and, Dict.get?_insert]
          constructor
          · rintro ⟨hnil, hnodup, hnew⟩
            refine ⟨hnil, ⟨fun hmem => ?_, hnodup⟩, fun entry hentry => ?_⟩
            · obtain ⟨entry, hentry, heq⟩ := List.mem_map.mp hmem
              have := hnew entry hentry
              rw [if_pos heq] at this
              cases this
            · have := hnew entry hentry
              split at this
              · cases this
              · exact this
          · rintro ⟨hnil, ⟨hmagic, hnodup⟩, hnew⟩
            refine ⟨hnil, hnodup, fun entry hentry => ?_⟩
            rw [if_neg, hnew entry hentry]
            rintro rfl
            exact hmagic (List.mem_map_of_mem hentry)

/-- What start-up accepts keeps strategies apart. -/
theorem magicsDistinct_of_validate {magicMap : Dict String Int}
    (h : validateMultiStrategyMagics .forex true magicMap = .ok ()) : MagicsDistinct magicMap := by
  unfold validateMultiStrategyMagics at h
  rw [if_pos ⟨rfl, rfl⟩] at h
  dsimp only at h
  split at h
  · rename_i hnil
    obtain ⟨-, hnodup, -⟩ := magicCollisions_eq_nil_iff.mp hnil
    intro strategy strategy' magic hget hget'
    have hmem := Dict.mem_of_get? hget
    have hmem' := Dict.mem_of_get? hget'
    have hsame := List.inj_on_of_nodup_map hnodup hmem hmem' rfl
    exact congrArg Prod.fst hsame
  · cases h

/-! ## A life of pushes -/

/-- A worker starts with the map of its environment, which its executor is built with. -/
def LiveWorker.atStart (magicMap : Dict String Int) : LiveWorker where
  strategyMagicMap := magicMap
  executorMagicMap := magicMap

/-- The states between ACKs, the first one included. -/
def ackStates (V : Validators) (setup : WorkerSetup) (acks : List (Dict String Json))
    (live : LiveWorker) : List LiveWorker :=
  acks.scanl (fun live data => live.afterAck V setup data) live

/-- The state after the last of them. -/
def afterAcks (V : Validators) (setup : WorkerSetup) (acks : List (Dict String Json))
    (live : LiveWorker) : LiveWorker :=
  acks.foldl (fun live data => live.afterAck V setup data) live

/-- A push with a valid envelope and a usable map puts in force one that meets `P`. -/
def PushMeets (V : Validators) (setup : WorkerSetup) (P : Dict String Int → Prop)
    (data : Dict String Json) : Prop :=
  (∃ err, V.envelope (some .workerConnectedAck) data = .error err) ∨
    ∀ entries, (Validators.given data "strategy_magic_map").bind Json.dict? = some entries →
      (entries.entries = [] ∨ ∃ entry ∈ entries.entries, V.Parses entry) →
        P (setup.subscribedOnly (V.survivingMagics entries))

section Life

variable {V : Validators} {setup : WorkerSetup} {P : Dict String Int → Prop}

theorem ackStates_cons (data : Dict String Json) (rest : List (Dict String Json))
    (live : LiveWorker) :
    ackStates V setup (data :: rest) live =
      live :: ackStates V setup rest (live.afterAck V setup data) :=
  List.scanl_cons ..

theorem afterAcks_mem (acks : List (Dict String Json)) (live : LiveWorker) :
    afterAcks V setup acks live ∈ ackStates V setup acks live := by
  induction acks generalizing live with
  | nil => simp [afterAcks, ackStates]
  | cons data rest ih =>
      rw [ackStates_cons]
      exact List.mem_cons_of_mem _ (ih _)

theorem pushMeets_iff (hint : ∀ n, V.magic (.int n) = .ok n) {data : Dict String Json} :
    PushMeets V setup P data ↔ ∀ map, V.pushedMap setup data = some map → P map := by
  unfold PushMeets
  rcases henvelope : V.envelope (some .workerConnectedAck) data with err | envelope
  · rw [pushedMap_of_invalid hint henvelope]
    exact iff_of_true (Or.inl ⟨err, rfl⟩) fun map h => by cases h
  rw [pushedMap_of_envelope hint henvelope]
  constructor
  · rintro (⟨err, h⟩ | hmeets) map hmap
    · cases h
    obtain ⟨kept, hkept, rfl⟩ := Option.map_eq_some_iff.mp hmap
    obtain ⟨entries, hentries, rfl⟩ := magicMapOf_some hkept
    refine hmeets entries hentries ?_
    by_cases hnil : (V.survivingMagics entries).entries = []
    · have hliteral := V.magicMapOf_eq_empty hkept hnil
      rw [hliteral] at hentries
      obtain rfl := Option.some.inj hentries
      exact Or.inl rfl
    · obtain ⟨⟨strategy, magic⟩, hmem⟩ := List.exists_mem_of_ne_nil _ hnil
      obtain ⟨raw, hraw, hmagic⟩ := mem_survivingMagics.mp hmem
      exact Or.inr ⟨(strategy, raw), hraw, magic, hmagic⟩
  · intro hmeets
    refine Or.inr fun entries hentries husable => hmeets _ ?_
    refine Option.map_eq_some_iff.mpr ⟨_, ?_, rfl⟩
    unfold Validators.magicMapOf
    rw [hentries]
    refine if_pos ?_
    rcases husable with hnil | hparses
    · exact Or.inr hnil
    · exact Or.inl (survivingMagics_ne_nil hparses)

/-- What every push keeps, the map in force keeps throughout. -/
theorem forall_ackStates_iff (hint : ∀ n, V.magic (.int n) = .ok n)
    {acks : List (Dict String Json)} (live : LiveWorker) (hlive : P live.strategyMagicMap) :
    (∀ state ∈ ackStates V setup acks live, P state.strategyMagicMap) ↔
      ∀ data ∈ acks, PushMeets V setup P data := by
  induction acks generalizing live with
  | nil => simpa [ackStates] using hlive
  | cons data rest ih =>
      have hfirst : P (live.afterAck V setup data).strategyMagicMap ↔ PushMeets V setup P data := by
        rw [afterAck_strategyMagicMap, pushMeets_iff hint]
        cases V.pushedMap setup data with
        | none => simpa using hlive
        | some map => simp
      rw [List.forall_mem_cons, ← hfirst]
      rw [ackStates_cons, List.forall_mem_cons]
      constructor
      · rintro ⟨-, hrest⟩
        have hnext : P (live.afterAck V setup data).strategyMagicMap :=
          hrest _ (by cases rest <;> simp [ackStates])
        exact ⟨hnext, (ih _ hnext).mp hrest⟩
      · rintro ⟨hnext, hrest⟩
        exact ⟨hlive, (ih _ hnext).mpr hrest⟩

/-- A FOREX executor holds what the live settings hold. -/
theorem executorMagicMap_eq (hforex : setup.marketType = .forex)
    {acks : List (Dict String Json)} (live : LiveWorker) {state : LiveWorker}
    (hlive : live.executorMagicMap = live.strategyMagicMap)
    (hstate : state ∈ ackStates V setup acks live) :
    state.executorMagicMap = state.strategyMagicMap := by
  induction acks generalizing live with
  | nil =>
      obtain rfl : state = live := by simpa [ackStates] using hstate
      exact hlive
  | cons data rest ih =>
      rw [ackStates_cons] at hstate
      rcases List.mem_cons.mp hstate with rfl | hrest
      · exact hlive
      · refine ih _ ?_ hrest
        rw [afterAck_executorMagicMap, afterAck_strategyMagicMap, hforex, hlive]

end Life

/-- Strategies keep magics of their own on the executor exactly while no push gives two
subscribed ones the same. -/
theorem executorMagics_distinct_iff (V : Validators) (hint : ∀ n, V.magic (.int n) = .ok n)
    (setup : WorkerSetup) (hforex : setup.marketType = .forex) (magicMap : Dict String Int)
    (hvalid : validateMultiStrategyMagics .forex true magicMap = .ok ())
    (acks : List (Dict String Json)) :
    (∀ live ∈ ackStates V setup acks (.atStart magicMap),
        MagicsDistinct live.executorMagicMap) ↔
      ∀ data ∈ acks, PushMeets V setup MagicsDistinct data := by
  rw [← forall_ackStates_iff hint (.atStart magicMap) (magicsDistinct_of_validate hvalid)]
  refine forall_congr' fun live => forall_congr' fun hlive => ?_
  rw [executorMagicMap_eq hforex (.atStart magicMap) rfl hlive]

def goldAndOilWorker : WorkerSetup where
  marketType := .forex
  subscribedStrategies := ["GOLD", "OIL"]

def sharedMagic : Dict String Json :=
  .ofPairs
    [("account_id", .str "FOREX-MT5-1"),
      ("strategy_magic_map", .obj [("GOLD", .int 7), ("OIL", .int 7)])]

theorem sharedMagic_pushed_iff :
    (∀ live ∈ ackStates plainValidators goldAndOilWorker [sharedMagic]
        (.atStart (.ofPairs [("GOLD", 7), ("OIL", 8)])), MagicsDistinct live.executorMagicMap) ↔
      ∀ data ∈ [sharedMagic], PushMeets plainValidators goldAndOilWorker MagicsDistinct data :=
  executorMagics_distinct_iff plainValidators (fun _ => rfl) goldAndOilWorker rfl
    (.ofPairs [("GOLD", 7), ("OIL", 8)]) rfl [sharedMagic]

/-- Start-up would refuse the map that a push puts in force. -/
theorem sharedMagic_inForce :
    validateMultiStrategyMagics .forex true (.ofPairs [("GOLD", 7), ("OIL", 8)]) = .ok () ∧
      ¬ ∀ live ∈ ackStates plainValidators goldAndOilWorker [sharedMagic]
        (.atStart (.ofPairs [("GOLD", 7), ("OIL", 8)])), MagicsDistinct live.executorMagicMap := by
  refine ⟨rfl, fun hdistinct => ?_⟩
  have hlast := hdistinct _ (List.mem_cons_of_mem _ List.mem_cons_self)
  have hsame := hlast "GOLD" "OIL" 7 (by decide +kernel) (by decide +kernel)
  exact absurd hsame (by decide)

/-! ## One magic for all who ask -/

/-- The magic of a strategy in a map; an empty name is no strategy. -/
def magicIn (map : Dict String Int) (strategy : String) : Option Int :=
  if strategy = "" then none else map.get? strategy

/-- The job of `start_market_jobs`, built with the map then in the settings. -/
def positionCdc (base : CdcConfig) (live : LiveWorker) : CdcConfig :=
  { base with strategyMagicMap := live.strategyMagicMap.entries }

/-- The executor resolves every strategy as the live settings do. -/
def ExecutorAgrees (config : ExecutionConfig) (live : LiveWorker) : Prop :=
  ∀ strategy,
    (ForexExecutor.magicFor { config, strategyMagicMap := live.executorMagicMap.entries }
      (some strategy)).toOption = magicIn live.strategyMagicMap strategy

/-- So does the job, for a row without a code of its own. -/
def CdcAgrees (cdc : CdcConfig) (live : LiveWorker) : Prop :=
  ∀ strategy, cdc.magicFor strategy = magicIn live.strategyMagicMap strategy

theorem executorAgrees_of_eq {config : ExecutionConfig} {live : LiveWorker}
    (h : live.executorMagicMap = live.strategyMagicMap) : ExecutorAgrees config live := by
  intro strategy
  unfold ForexExecutor.magicFor magicIn Dict.get?
  rw [h]
  by_cases hname : strategy = ""
  · simp [hname, text?, Except.toOption]
  · have htext : text? (some strategy) = some strategy := text?_eq_some.mpr ⟨rfl, hname⟩
    rw [htext, if_neg hname]
    dsimp only
    cases live.strategyMagicMap.entries.lookup strategy <;> rfl

/-- A map resolves every strategy as another does. -/
def SameMagics (map map' : Dict String Int) : Prop :=
  ∀ strategy, magicIn map strategy = magicIn map' strategy

theorem cdcAgrees_iff {base : CdcConfig} {started live : LiveWorker} :
    CdcAgrees (positionCdc base started) live ↔
      SameMagics live.strategyMagicMap started.strategyMagicMap := by
  refine forall_congr' fun strategy => ?_
  exact eq_comm

/-- At every moment of a worker's life: before the jobs start, and from then on. -/
def MagicsAgree (V : Validators) (setup : WorkerSetup) (config : ExecutionConfig)
    (base : CdcConfig) (start : LiveWorker) (before after : List (Dict String Json)) : Prop :=
  (∀ live ∈ ackStates V setup before start,
      setup.marketType = .forex → ExecutorAgrees config live) ∧
    ∀ live ∈ ackStates V setup after (afterAcks V setup before start),
      (setup.marketType = .forex → ExecutorAgrees config live) ∧
        CdcAgrees (positionCdc base (afterAcks V setup before start)) live

/-- Settings, executor and job resolve magics alike for as long as no ACK after the
start of the jobs changes one. -/
theorem magicsAgree_iff (V : Validators) (hint : ∀ n, V.magic (.int n) = .ok n)
    (setup : WorkerSetup) (config : ExecutionConfig) (base : CdcConfig)
    (magicMap : Dict String Int) (before after : List (Dict String Json)) :
    MagicsAgree V setup config base (.atStart magicMap) before after ↔
      ∀ data ∈ after, PushMeets V setup
        (SameMagics · (afterAcks V setup before (.atStart magicMap)).strategyMagicMap) data := by
  have hlast : afterAcks V setup before (.atStart magicMap) ∈
      ackStates V setup before (.atStart magicMap) := afterAcks_mem before _
  unfold MagicsAgree
  generalize afterAcks V setup before (.atStart magicMap) = started at hlast ⊢
  rw [← forall_ackStates_iff hint started (fun _ => rfl)]
  constructor
  · rintro ⟨-, hagree⟩ live hlive
    exact cdcAgrees_iff.mp (hagree live hlive).2
  · intro hsame
    refine ⟨fun live hlive hforex => executorAgrees_of_eq ?_, fun live hlive =>
      ⟨fun hforex => executorAgrees_of_eq ?_, cdcAgrees_iff.mpr (hsame live hlive)⟩⟩
    · exact executorMagicMap_eq hforex (.atStart magicMap) rfl hlive
    · have hstarted := executorMagicMap_eq hforex (.atStart magicMap) rfl hlast
      exact executorMagicMap_eq hforex started hstarted hlive

def movedGold : Dict String Json :=
  .ofPairs
    [("account_id", .str "FOREX-MT5-1"), ("strategy_magic_map", .obj [("GOLD", .int 9)])]

theorem movedGold_pushed_iff :
    MagicsAgree plainValidators goldWorker {} { accountId := "1" }
        (.atStart (.ofPairs [("GOLD", 7)])) [movedGold] [mixedReply] ↔
      ∀ data ∈ [mixedReply], PushMeets plainValidators goldWorker
        (SameMagics · (afterAcks plainValidators goldWorker [movedGold]
          (.atStart (.ofPairs [("GOLD", 7)]))).strategyMagicMap) data :=
  magicsAgree_iff plainValidators (fun _ => rfl) goldWorker {} { accountId := "1" }
    (.ofPairs [("GOLD", 7)]) [movedGold] [mixedReply]

/-- Pushed before the jobs start it reaches all three, pushed after them it does not reach
the job. -/
theorem movedGold_notAgreed :
    ¬ MagicsAgree plainValidators goldWorker {} { accountId := "1" }
      (.atStart (.ofPairs [("GOLD", 7)])) [] [movedGold] := by
  rintro ⟨-, hagree⟩
  have hlast := (hagree _ (List.mem_cons_of_mem _ List.mem_cons_self)).2 "GOLD"
  exact absurd hlast (by decide +kernel)

end TradeWorker
