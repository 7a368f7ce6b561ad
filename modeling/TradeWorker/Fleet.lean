import TradeWorker.MagicMap
import TradeWorker.Routing
import TradeWorker.WorkerRun

/-!
# A fleet of workers

Every worker of a broker hears the SYSTEM subject. The validators of its settings refuse to start
a worker without the credential of its market and make its `account_id` of the market, the gateway
and that credential, so two workers that were started for different accounts have different ids;
and a message that is addressed to one of them leaves the other as it is.
-/

namespace TradeWorker

/-! ## Settings -/

inductive ForexPlatform where
  | mt5
  deriving DecidableEq, Repr

def ForexPlatform.value : ForexPlatform → String
  | mt5 => "MT5"

inductive CryptoExchange where
  | binance
  deriving DecidableEq, Repr

def CryptoExchange.value : CryptoExchange → String
  | binance => "BINANCE"

/-- The fields of `Settings` that its validators read. -/
structure Settings where
  marketType : MarketType := .forex
  platform : ForexPlatform := .mt5
  server : Option String := none
  login : Option Int := none
  password : Option String := none
  toggles : WorkerRun.ForexToggles := {}
  magicMap : Dict String Int := .empty
  exchange : CryptoExchange := .binance
  quoteAsset : String := "USDT"
  apiKey : Option String := none
  apiSecret : Option String := none
  cryptoAccountId : Option String := none
  natsSubjects : String := ""
  cryptoHedgeMode : Bool := true
  logErrors : Bool := false

namespace Settings

variable (s : Settings)

def gatewayValue : String :=
  match s.marketType with
  | .forex => s.platform.value
  | .crypto => s.exchange.value

/-- `_account_id`: `str` of the login, or the account's name. -/
def account : String :=
  match s.marketType with
  | .forex => s.login.elim "None" toString
  | .crypto => s.cryptoAccountId.getD ""

/-- The names of the settings that are required and empty. -/
def missing : List String :=
  match s.marketType with
  | .forex =>
      ([("MT5_SERVER", (text? s.server).isNone),
        ("MT5_LOGIN", s.login = none ∨ s.login = some 0),
        ("MT5_PASSWORD", (text? s.password).isNone)].filter (·.2)).map (·.1)
  | .crypto =>
      ([("CRYPTO_QUOTE_ASSET", (text? (some s.quoteAsset)).isNone),
        ("CRYPTO_API_KEY", (text? s.apiKey).isNone),
        ("CRYPTO_API_SECRET", (text? s.apiSecret).isNone),
        ("CRYPTO_ACCOUNT_ID", (text? s.cryptoAccountId).isNone)].filter (·.2)).map (·.1)

/-- What the error of a missing setting begins with. -/
def requires : String :=
  match s.marketType with
  | .forex => "MARKET_TYPE=FOREX requires: "
  | .crypto => "MARKET_TYPE=CRYPTO (BINANCE) requires: "

/-- `_validate_market_requirements`: the `account_id` it derives. -/
def validateMarketRequirements : Except Exn String :=
  if s.missing ≠ [] then .error (.valueError (s.requires ++ joinText ", " s.missing))
  else .ok (s.marketType.value ++ "-" ++ s.gatewayValue ++ "-" ++ s.account)

def load : Except Exn String := do
  let accountId ← s.validateMarketRequirements
  validateMultiStrategyMagics s.marketType s.toggles.allowMultiStrategyPerSymbol s.magicMap
  let _ ← s.toggles.validateMultiPositionsNeedsHedging s.marketType
  pure accountId

def identity : MarketType × String × String := (s.marketType, s.gatewayValue, s.account)

variable {s}

theorem hedging_of_validate {marketType : MarketType} {t t' : WorkerRun.ForexToggles}
    (h : t.validateMultiPositionsNeedsHedging marketType = .ok t') : t' = t := by
  unfold WorkerRun.ForexToggles.validateMultiPositionsNeedsHedging at h
  split at h
  · exact (Except.ok.inj h).symm
  split at h
  · cases h
  · exact (Except.ok.inj h).symm

/-- What loads lacks nothing, and is known by all it was made of. -/
theorem load_eq {accountId : String} (h : s.load = .ok accountId) :
    s.missing = [] ∧
      accountId = s.marketType.value ++ "-" ++ s.gatewayValue ++ "-" ++ s.account ∧
      s.toggles.validateMultiPositionsNeedsHedging s.marketType = .ok s.toggles := by
  unfold load validateMarketRequirements at h
  split at h
  · cases h
  rename_i hmissing
  cases hmagics : validateMultiStrategyMagics s.marketType
    s.toggles.allowMultiStrategyPerSymbol s.magicMap with
  | error e =>
      simp only [hmagics, bind, Except.bind] at h
      cases h
  | ok _ =>
      cases hhedging : s.toggles.validateMultiPositionsNeedsHedging s.marketType with
      | error e =>
          simp only [hmagics, hhedging, bind, Except.bind] at h
          cases h
      | ok t =>
          simp only [hmagics, hhedging, bind, Except.bind] at h
          rw [hedging_of_validate hhedging]
          exact ⟨not_not.mp hmissing, (Except.ok.inj h).symm, rfl⟩

/-- A name that has the market, the gateway and the account in it tells them. -/
theorem identity_of_name {s' : Settings} (start sep : List Char)
    (h : start ++ s.marketType.value.toList ++ sep ++ s.gatewayValue.toList ++ sep ++
        s.account.toList =
      start ++ s'.marketType.value.toList ++ sep ++ s'.gatewayValue.toList ++ sep ++
        s'.account.toList) : s.identity = s'.identity := by
  have hmarkets : s.marketType = s'.marketType := by
    simp only [List.append_assoc] at h
    have hnames := List.append_cancel_left h
    cases hmarket : s.marketType <;> cases hmarket' : s'.marketType <;>
      simp [hmarket, hmarket', MarketType.value] at hnames ⊢
  have hgateways : s.gatewayValue = s'.gatewayValue := by
    unfold gatewayValue
    rw [hmarkets]
  rw [hmarkets, hgateways] at h
  rw [identity, identity, hmarkets, hgateways,
    String.toList_injective (List.append_cancel_left h)]

/-- The id of a worker that was started names its market, its gateway and its account. -/
theorem identity_of_load {s' : Settings} {accountId : String} (h : s.load = .ok accountId)
    (h' : s'.load = .ok accountId) : s.identity = s'.identity := by
  have hids := congrArg String.toList ((load_eq h).2.1.symm.trans (load_eq h').2.1)
  simp only [String.toList_append] at hids
  exact identity_of_name [] _ hids

theorem accountId_ne_empty {accountId : String} (h : s.load = .ok accountId) : accountId ≠ "" := by
  rintro rfl
  have hlist := congrArg String.toList (load_eq h).2.1
  simp only [String.toList_append] at hlist
  cases hmarket : s.marketType <;> simp [hmarket, MarketType.value] at hlist

end Settings

/-! ## Workers -/

/-- A worker of the fleet: settings that loaded, and what it was made with besides. -/
structure Member where
  settings : Settings
  accountId : String
  loads : settings.load = .ok accountId
  market : Market
  ofMarket : market.marketType = settings.marketType
  execution : WorkerSettings := {}
  leverage : LeverageSettings := {}

namespace Member

variable (m : Member)

def run : WorkerRun.RunSettings where
  market := m.settings.marketType
  gateway := m.settings.gatewayValue
  account := m.settings.account
  accountId := m.accountId
  natsSubjects := m.settings.natsSubjects
  toggles := m.settings.toggles
  cryptoHedgeMode := m.settings.cryptoHedgeMode
  logErrors := m.settings.logErrors
  validated := (Settings.load_eq m.loads).2.2

def worker : ControlWorker where
  market := m.market
  settings := m.execution
  leverage := m.leverage
  subscribedStrategies := m.run.parseStrategySubjects
  identity := some m.accountId
  gateway := m.settings.gatewayValue
  accountId := m.settings.account

variable {m} {m' : Member}

theorem systemAccountId_eq : m.worker.systemAccountId = some m.accountId := by
  have hid := Settings.accountId_ne_empty m.loads
  unfold ControlWorker.systemAccountId worker text?
  split
  · rename_i h
    exact absurd (Option.some.inj h) hid
  · rfl

theorem targetedBy_iff {admin : AdminFlat} : m.worker.targetedBy admin = true ↔
    admin.market = some m.settings.marketType.value ∧
      admin.gateway = some m.settings.gatewayValue ∧ admin.accountId = some m.settings.account := by
  have hmarket := m.ofMarket
  unfold ControlWorker.targetedBy worker
  cases h : m.market with
  | forex ex =>
      rw [h] at hmarket
      simp only [AdminDesk.flatTargetsThisWorker, forexDesk, ← hmarket, Market.marketType,
        MarketType.value, if_true]
      exact decide_eq_true_iff
  | crypto ex =>
      rw [h] at hmarket
      simp only [AdminDesk.flatTargetsThisWorker, cryptoDesk, ← hmarket, Market.marketType,
        MarketType.value, if_true]
      exact decide_eq_true_iff

theorem identity_of_addressed {V : ControlValidators} {message : ControlMessage}
    (h : m.worker.Addressed V message) (h' : m'.worker.Addressed V message) :
    m.settings.identity = m'.settings.identity := by
  cases message with
  | system raw =>
      obtain ⟨data, system, hdata, hparsed, hid⟩ := h
      obtain ⟨data', system', hdata', hparsed', hid'⟩ := h'
      obtain rfl := Option.some.inj (hdata.symm.trans hdata')
      obtain rfl := Except.ok.inj (hparsed.symm.trans hparsed')
      rw [systemAccountId_eq] at hid hid'
      have hloads := m.loads
      rw [← Option.some.inj hid, Option.some.inj hid'] at hloads
      exact Settings.identity_of_load hloads m'.loads
  | privateAdmin raw =>
      obtain ⟨data, admin, hdata, hparsed, htargeted⟩ := h
      obtain ⟨data', admin', hdata', hparsed', htargeted'⟩ := h'
      obtain rfl := Option.some.inj (hdata.symm.trans hdata')
      obtain rfl := Except.ok.inj (hparsed.symm.trans hparsed')
      obtain ⟨hmarket, hgateway, haccount⟩ := targetedBy_iff.mp htargeted
      obtain ⟨hmarket', hgateway', haccount'⟩ := targetedBy_iff.mp htargeted'
      have hvalue := Option.some.inj (hmarket.symm.trans hmarket')
      have hsame : m.settings.marketType = m'.settings.marketType := by
        cases hm : m.settings.marketType <;> cases hm' : m'.settings.marketType <;>
          simp [hm, hm', MarketType.value] at hvalue ⊢
      rw [Settings.identity, Settings.identity, hsame,
        Option.some.inj (hgateway.symm.trans hgateway'),
        Option.some.inj (haccount.symm.trans haccount')]

/-- A subject of one's own is named after the market, the gateway and the account. -/
theorem identity_of_privateAdminSubject {subject : String}
    (h : m.run.privateAdminSubject = some subject)
    (h' : m'.run.privateAdminSubject = some subject) :
    m.settings.identity = m'.settings.identity := by
  unfold WorkerRun.RunSettings.privateAdminSubject at h h'
  split at h
  · cases h
  split at h'
  · cases h'
  have hnames := congrArg String.toList ((Option.some.inj h).trans (Option.some.inj h').symm)
  simp only [String.toList_append, run, toString] at hnames
  exact Settings.identity_of_name _ _ hnames

end Member

/-- **A message for one account moves no other worker.** In a fleet of workers that were started
with settings of different accounts, a SYSTEM message or a private ADMIN message that is addressed
to one of them leaves any other's memory and rows as they are and asks nothing of its broker,
whatever that worker's state; and no two of them have one private subject. -/
theorem addressed_alone {m m' : Member} (hother : m.settings.identity ≠ m'.settings.identity)
    (V : ControlValidators) {message : ControlMessage} (h : m.worker.Addressed V message)
    (live : LiveWorker) :
    Unmoving live (m'.worker.handleControl V message) ∧
      ∀ subject, m.run.privateAdminSubject = some subject →
        m'.run.privateAdminSubject ≠ some subject := by
  have hnot : ¬ m'.worker.Addressed V message := fun h' =>
    hother (Member.identity_of_addressed h h')
  refine ⟨?_, fun subject hs hs' => hother (Member.identity_of_privateAdminSubject hs hs')⟩
  cases message with
  | system raw =>
      refine handleSystemMessage_unmoving m'.worker V hnot ?_
      rintro ⟨data, system, hdata, hparsed, hblank, -⟩
      obtain ⟨data', system', hdata', hparsed', hid⟩ := h
      obtain rfl := Option.some.inj (hdata.symm.trans hdata')
      obtain rfl := Except.ok.inj (hparsed.symm.trans hparsed')
      -- what is addressed to somebody is not blank
      rw [Member.systemAccountId_eq, hblank] at hid
      exact Settings.accountId_ne_empty m.loads (Option.some.inj hid).symm
  | privateAdmin raw => exact handlePrivateAdmin_unmoving m'.worker V hnot

/-- Two accounts of one platform. -/
def goldMember (login : Int) (hlogin : login ≠ 0) : Member where
  settings :=
    { server := some "Demo", login := some login, password := some "secret"
      natsSubjects := "GOLD" }
  accountId := "FOREX-MT5-" ++ toString login
  loads := by
    simp [Settings.load, Settings.validateMarketRequirements, Settings.missing, text?, hlogin,
      validateMultiStrategyMagics, WorkerRun.ForexToggles.validateMultiPositionsNeedsHedging,
      bind, Except.bind, pure, Except.pure]
    rfl
  market := .forex { config := {}, strategyMagicMap := [("GOLD", 7)] }
  ofMarket := rfl

def blockFirst : RawMessage where
  text := ""
  json := some (.obj [("action", .str "WORKER_SETTINGS_UPDATE"), ("account_id", .str "FOREX-MT5-1"),
    ("settings", .obj [("signal_blocked", .bool true)])])

theorem blockFirst_alone :
    Unmoving goldLive
        ((goldMember 2 (by decide)).worker.handleControl plainControl (.system blockFirst)) ∧
      ∀ subject, (goldMember 1 (by decide)).run.privateAdminSubject = some subject →
        (goldMember 2 (by decide)).run.privateAdminSubject ≠ some subject := by
  refine addressed_alone (m := goldMember 1 (by decide)) ?_ plainControl ?_ goldLive
  · intro hsame
    exact absurd hsame (by decide +kernel)
  · exact ⟨_, _, rfl, rfl, by decide +kernel⟩

end TradeWorker
