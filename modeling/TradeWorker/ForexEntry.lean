import TradeWorker.ForexExecutor
import TradeWorker.Implement
import TradeWorker.NumericSizing

/-!
# A forex entry comes back

What the platform answers to an entry may be missing at every step, and `open_position`
turns that into a refusal. What it does not look at is what it divides and what it makes
integers of: a payload quantity that is not there, a divisor of zero, a quotient of doubles
that is infinite or no number.
-/

namespace TradeWorker.Numeric

open Arith

/-! ## What an entry reads -/

/-- The fields of `SignalSchema` an entry is made of; `scaling.quantity` where there is a
`scaling`. -/
structure EntrySignal (N : Type) where
  strategy : String
  action : SignalAction
  symbol : String
  signalId : Option String := none
  quantity : Option N := none
  sl : Option N := none
  tp2 : Option N := none
  riskPercent : Option N := none
  isScalePosition : Option Bool := none
  scaleQuantity : Option N := none
  useEquitySizing : Option Bool := none

/-- `ForexExecutor`: the modes of its configuration, and the numbers. -/
structure Executor (N : Type) where
  modes : ExecutionConfig
  capital : N
  riskPercentage : N
  strategyMagicMap : List (String × Int)

/-- The account snapshot, as far as an entry looks into it. -/
structure Account (N : Type) where
  equity : Option N := none
  marginFree : Option N := none
  freeMargin : Option N := none

/-- The arguments of `place_order`. -/
structure OrderRequest (N : Type) where
  symbol : String
  side : Side
  volume : N
  price : N
  sl : Option N
  tp : Option N
  magic : Int
  comment : String

/-- The calls of an entry. `R` is what the platform reports of an order. -/
inductive EntryOp (N R : Type) where
  | resolveSymbol (baseSymbol : String)
  | getSymbolSpec (symbol : String)
  | getTick (symbol : String)
  | getAccount
  | calcMargin (symbol : String) (side : Side) (volume price : N)
  | placeOrder (req : OrderRequest N)

@[reducible] def EntryOp.Ans {N R : Type} : EntryOp N R → Type
  | .resolveSymbol _ => String
  | .getSymbolSpec _ => Option (SymbolSpec N)
  | .getTick _ => Option (Tick N)
  | .getAccount => Option (Account N)
  | .calcMargin .. => Option N
  | .placeOrder _ => R

abbrev EntryWork (N R α : Type) := Prog (EntryOp N R) EntryOp.Ans Exn α

def ask {N R : Type} (o : EntryOp N R) : EntryWork N R o.Ans := Prog.perform o

/-- A refusal, or the report of the order with the lot that was asked for where it was cut. -/
inductive EntryResult (N R : Type) where
  | fail (comment : String)
  | insufficientMargin (symbol : String) (requested : Option N)
  | placed (report : R) (requested : Option N)

/-! ## The entry -/

namespace Executor

variable {N R : Type} [Arith N]

def magicFor (ex : Executor N) (strategy : String) : Except Exn Int :=
  ForexExecutor.magicFor ⟨ex.modes, ex.strategyMagicMap⟩ (some strategy)

def entryQuote (side : Side) (tick : Tick N) : N :=
  match side with
  | .long => tick.ask
  | .short => tick.bid

/-- `_spec`. -/
def symbolSpec (baseSymbol : String) : EntryWork N R (Option (SymbolSpec N)) := do
  let symbol : String ← ask (.resolveSymbol baseSymbol)
  ask (.getSymbolSpec symbol)

def resolveCapital (ex : Executor N) (equitySizing : Option Bool) :
    EntryWork N R (Option N) :=
  if equitySizing = some true then do
    let account : Option (Account N) ← ask .getAccount
    pure (account.bind (·.equity))
  else pure (some ex.capital)

def freeMargin : EntryWork N R (Option N) := do
  let account : Option (Account N) ← ask .getAccount
  pure (account.bind fun a => a.marginFree <|> a.freeMargin)

section Sizing

variable [BEq N]

/-- `if not sl`: a level of zero is none. -/
def level? : Option N → Option N
  | some sl => if sl == near 0 then none else some sl
  | none => none

variable [Mul N] [LT N] [DecidableLT N]

/-- The risk percent an entry is sized with, scale-in factor applied. -/
def entryRisk (ex : Executor N) (signal : EntrySignal N) : N :=
  let risk :=
    if ex.modes.useCustomRiskPercentage then ex.riskPercentage
    else
      match signal.riskPercent with
      | some r => if near 0 < r then r else ex.riskPercentage
      | none => ex.riskPercentage
  risk * (if signal.isScalePosition = some true then signal.scaleQuantity.getD (near 1)
    else near 1)

variable [Add N] [Sub N] [Div N] [LE N] [DecidableLE N]

def resolveEntryVolume (ex : Executor N) (signal : EntrySignal N)
    (spec : Option (SymbolSpec N)) (price : N) (sl : Option N) : EntryWork N R (Option N) :=
  let equitySizing := ex.modes.resolveEquitySizing signal.useEquitySizing
  if ex.modes.usesPayloadQuantity signal.useEquitySizing then do
    let spec ← symbolSpec signal.symbol
    Prog.ofExcept (convertQuantityToLots spec signal.quantity)
  else
    match level? sl with
    | none => pure (some ((spec.map (·.volumeMin)).getD (near (1 / 100))))
    | some sl => do
        let capital ← ex.resolveCapital equitySizing
        match capital with
        | none => pure (some (near (1 / 100)))
        | some capital =>
            let lot ← Prog.ofExcept
              (calculateLotSize spec price sl (ex.entryRisk signal) capital)
            pure (some lot)

/-- What the account may spend: `free * _MARGIN_USABLE_FRACTION`. -/
def budget (free : N) : N := free * near (95 / 100)

/-- `_fit_volume_to_margin`. The margin call answers `None` to a missing
volume, which then comes back as it is. -/
def fitVolumeToMargin (symbol : String) (side : Side) (volume : Option N) (price : N)
    (spec : Option (SymbolSpec N)) : EntryWork N R (Option N) :=
  match volume with
  | none => pure none
  | some volume => do
      let required : Option N ← ask (.calcMargin symbol side volume price)
      match required, spec with
      | some required, some spec =>
          if required ≤ near 0 then pure (some volume)
          else do
            let free ← freeMargin
            match free with
            | none => pure (some volume)
            | some free =>
                if required ≤ budget free then pure (some volume)
                else do
                  let normalized ← Prog.ofExcept (spec.fit (volume * budget free / required))
                  let affordable := smaller volume normalized
                  let affordableMargin : Option N ←
                    ask (.calcMargin symbol side affordable price)
                  match affordableMargin with
                  | some margin =>
                      if budget free < margin then pure none else pure (some affordable)
                  | none => pure (some affordable)
      | _, _ => pure (some volume)

def openPosition (ex : Executor N) (signal : EntrySignal N) : EntryWork N R (EntryResult N R) :=
  match signal.action.side? with
  | none => pure (.fail "Action Mapping Failed")
  | some side => do
      let symbol : String ← ask (.resolveSymbol signal.symbol)
      let spec ← ask (.getSymbolSpec symbol)
      let tick ← ask (.getTick symbol)
      match tick with
      | none => pure (.fail "No tick / market data unavailable")
      | some tick =>
          let price := entryQuote side tick
          if price ≤ near 0 then pure (.fail "No tick / market data unavailable")
          else do
            let stops := validateStops spec side tick signal.sl signal.tp2
            let requested ← ex.resolveEntryVolume signal spec price stops.1
            let volume ← fitVolumeToMargin symbol side requested price spec
            match volume with
            | none => pure (.insufficientMargin symbol requested)
            | some volume => do
                let magic ← Prog.ofExcept (ex.magicFor signal.strategy)
                let report : R ← ask (.placeOrder
                  { symbol, side, volume, price, sl := stops.1, tp := stops.2, magic
                    comment := ForexExecutor.entryComment signal.strategy signal.signalId
                      ForexExecutor.orderCommentMax })
                if requested.any (volume == ·) then pure (.placed report none)
                else pure (.placed report requested)

end Sizing

end Executor

/-! ## What the platform answers -/

/-- The answers to the calls of one entry: the n-th of each kind. The quote is asked for
once, and so is the order placed. -/
structure EntryReplies (N R : Type) where
  symbols : Nat → String
  specs : Nat → Option (SymbolSpec N)
  tick : Option (Tick N)
  accounts : Nat → Option (Account N)
  margins : Nat → Option N
  report : R

namespace EntryReplies

section Answers

variable {N R : Type}

def serve : Prog.Server (EntryOp N R) EntryOp.Ans Exn (EntryReplies N R)
  | .resolveSymbol _, r => (.ok (r.symbols 0), { r with symbols := fun n => r.symbols (n + 1) })
  | .getSymbolSpec _, r => (.ok (r.specs 0), { r with specs := fun n => r.specs (n + 1) })
  | .getTick _, r => (.ok r.tick, r)
  | .getAccount, r => (.ok (r.accounts 0), { r with accounts := fun n => r.accounts (n + 1) })
  | .calcMargin .., r => (.ok (r.margins 0), { r with margins := fun n => r.margins (n + 1) })
  | .placeOrder _, r => (.ok r.report, r)

theorem run_ask (o : EntryOp N R) (r : EntryReplies N R) :
    Prog.run serve (ask o) r = serve o r :=
  Prog.run_perform ..

theorem run_symbolSpec (baseSymbol : String) (r : EntryReplies N R) :
    Prog.run serve (Executor.symbolSpec baseSymbol) r =
      (.ok (r.specs 0), { r with
        symbols := fun n => r.symbols (n + 1), specs := fun n => r.specs (n + 1) }) :=
  rfl

/-- The margin an account has free, under the first of its two spellings. -/
def marginFree? (account : Option (Account N)) : Option N :=
  account.bind fun a => a.marginFree <|> a.freeMargin

theorem run_freeMargin (r : EntryReplies N R) : Prog.run serve Executor.freeMargin r =
    (.ok (marginFree? (r.accounts 0)), { r with accounts := fun n => r.accounts (n + 1) }) :=
  rfl

def raised {α σ : Type} : Except Exn α × σ → Option Exn
  | (.error e, _) => some e
  | (.ok _, _) => none

theorem not_returns_of_raised {α : Type} {p : EntryWork N R α} {r : EntryReplies N R} {e : Exn}
    (h : raised (Prog.run serve p r) = some e) : ¬Prog.Returns serve p r := by
  rintro ⟨a, r', hrun⟩
  rw [hrun] at h
  cases h

/-- The capital an entry is sized with; the account may not tell its equity. -/
def capital? (ex : Executor N) (signal : EntrySignal N) (account : Option (Account N)) :
    Option N :=
  if ex.modes.resolveEquitySizing signal.useEquitySizing = some true then
    account.bind (·.equity)
  else some ex.capital

theorem run_resolveCapital {ex : Executor N} {signal : EntrySignal N} {r : EntryReplies N R} :
    Prog.run serve (ex.resolveCapital (ex.modes.resolveEquitySizing signal.useEquitySizing)) r =
      (.ok (capital? ex signal (r.accounts 0)),
        if ex.modes.resolveEquitySizing signal.useEquitySizing = some true then
          { r with accounts := fun n => r.accounts (n + 1) }
        else r) := by
  unfold Executor.resolveCapital capital?
  split <;> rfl

end Answers

variable {N R : Type} [Arith N] [BEq N] [Mul N] [LT N] [DecidableLT N] [Add N] [Sub N] [Div N]
  [LE N] [DecidableLE N]

/-! ## Sizing -/

section Sizing

variable (ex : Executor N) (signal : EntrySignal N)

/-- The entry is sized against the account's equity: there is a stop to size it by. -/
def asksEquity (sl : Option N) : Bool :=
  !ex.modes.usesPayloadQuantity signal.useEquitySizing && (Executor.level? sl).isSome &&
    ex.modes.resolveEquitySizing signal.useEquitySizing = some true

/-- The lot an entry asks for, from what it has read: the conversion of a payload quantity
looks the symbol up once more. -/
def entryLot (converted spec : Option (SymbolSpec N)) (account : Option (Account N)) (price : N)
    (sl : Option N) : Except Exn (Option N) :=
  if ex.modes.usesPayloadQuantity signal.useEquitySizing then
    convertQuantityToLots converted signal.quantity
  else
    match Executor.level? sl, capital? ex signal account with
    | none, _ => .ok (some ((spec.map (·.volumeMin)).getD (near (1 / 100))))
    | some _, none => .ok (some (near (1 / 100)))
    | some level, some capital =>
        (calculateLotSize spec price level (ex.entryRisk signal) capital).map some

/-- The sizing divides by nothing that is missing or zero, and counts its steps. -/
structure Sizes (converted spec : Option (SymbolSpec N)) (account : Option (Account N))
    (price : N) (sl : Option N) : Prop where
  payload : ex.modes.usesPayloadQuantity signal.useEquitySizing = true →
    ∀ given ∈ converted, ¬given.contractSize ≤ near 0 →
      ∃ units ∈ signal.quantity, given.Fits (units / given.contractSize)
  risk : ex.modes.usesPayloadQuantity signal.useEquitySizing = false →
    ∀ level ∈ Executor.level? sl, ∀ capital ∈ capital? ex signal account, ∀ given ∈ spec,
      given.Prices price level → given.Risks price level (ex.entryRisk signal) capital

variable {ex signal} {r : EntryReplies N R} {converted spec : Option (SymbolSpec N)}
  {account : Option (Account N)} {price : N} {sl : Option N}

theorem entryLot_ok_iff : (∃ lot, entryLot ex signal converted spec account price sl = .ok lot) ↔
    Sizes ex signal converted spec account price sl := by
  unfold entryLot
  cases hmode : ex.modes.usesPayloadQuantity signal.useEquitySizing with
  | true =>
      rw [if_pos rfl, convertQuantityToLots_ok_iff]
      exact ⟨fun h => ⟨fun _ => h, fun hrisk => (nomatch hmode.symm.trans hrisk)⟩,
        fun h => h.payload hmode⟩
  | false =>
      have hpayload : ∀ {P : Prop},
          ex.modes.usesPayloadQuantity signal.useEquitySizing = true → P :=
        fun h => (nomatch hmode.symm.trans h)
      rw [if_neg Bool.false_ne_true]
      cases hlevel : Executor.level? sl with
      | none =>
          refine ⟨fun _ => ⟨hpayload, fun _ level h => ?_⟩, fun _ => ⟨_, rfl⟩⟩
          rw [hlevel] at h
          cases h
      | some level =>
          cases hcapital : capital? ex signal account with
          | none =>
              refine ⟨fun _ => ⟨hpayload, fun _ _ _ capital h => ?_⟩, fun _ => ⟨_, rfl⟩⟩
              rw [hcapital] at h
              cases h
          | some capital =>
              have hmap : (∃ lot, (calculateLotSize spec price level (ex.entryRisk signal)
                  capital).map some = .ok lot) ↔
                  ∃ lot, calculateLotSize spec price level (ex.entryRisk signal) capital =
                    .ok lot := by
                rcases calculateLotSize spec price level (ex.entryRisk signal) capital with e | lot
                · simp [Except.map]
                · simp [Except.map]
              rw [hmap, calculateLotSize_ok_iff]
              constructor
              · intro h
                refine ⟨hpayload, fun _ level' hlevel' capital' hcapital' => ?_⟩
                obtain rfl := Option.some.inj (hlevel.symm.trans hlevel')
                obtain rfl := Option.some.inj (hcapital.symm.trans hcapital')
                exact h
              · exact fun h => h.risk hmode level hlevel capital hcapital

variable (ex signal r spec price sl) in
/-- What the sizing comes to, and what it has used up by then. -/
theorem run_resolveEntryVolume :
    (Prog.run serve (ex.resolveEntryVolume signal spec price sl) r).1 =
        entryLot ex signal (r.specs 0) spec (r.accounts 0) price sl ∧
      (Prog.run serve (ex.resolveEntryVolume signal spec price sl) r).2.margins = r.margins ∧
        (Prog.run serve (ex.resolveEntryVolume signal spec price sl) r).2.accounts 0 =
          r.accounts (if asksEquity ex signal sl then 1 else 0) := by
  unfold Executor.resolveEntryVolume entryLot asksEquity
  dsimp only
  cases hmode : ex.modes.usesPayloadQuantity signal.useEquitySizing with
  | true =>
      rw [if_pos rfl, if_pos rfl, Prog.run_bind_ok serve (run_symbolSpec signal.symbol r),
        Prog.run_ofExcept]
      exact ⟨rfl, rfl, rfl⟩
  | false =>
      rw [if_neg Bool.false_ne_true, if_neg Bool.false_ne_true]
      cases hlevel : Executor.level? sl with
      | none => exact ⟨rfl, rfl, rfl⟩
      | some level =>
          have hlot : ∀ (capital : N) (q : EntryReplies N R),
              Prog.run serve (Prog.ofExcept
                (calculateLotSize spec price level (ex.entryRisk signal) capital) >>=
                  fun lot => .ret (some lot)) q =
                ((calculateLotSize spec price level (ex.entryRisk signal) capital).map some,
                  q) := by
            intro capital q
            rw [Prog.run_bind, Prog.run_ofExcept]
            cases calculateLotSize spec price level (ex.entryRisk signal) capital <;> rfl
          dsimp only
          rw [Prog.run_bind_ok serve run_resolveCapital]
          by_cases hequity : ex.modes.resolveEquitySizing signal.useEquitySizing = some true
          · cases capital? ex signal (r.accounts 0) with
            | none => simp [hequity]
            | some capital => simp [hequity, hlot]
          · cases capital? ex signal (r.accounts 0) with
            | none => simp [hequity]
            | some capital => simp [hequity, hlot]

end Sizing

/-! ## Fitting the margin -/

/-- Where a lot has to be cut, the cut one can be counted in steps. -/
def Cuts (lot : N) (required free : Option N) (spec : Option (SymbolSpec N)) : Prop :=
  ∀ margin ∈ required, ¬margin ≤ near 0 → ∀ given ∈ spec, ∀ funds ∈ free,
    ¬margin ≤ Executor.budget funds → given.Fits (lot * Executor.budget funds / margin)

omit [Sub N] in
theorem returns_fitVolumeToMargin {r : EntryReplies N R} {symbol : String} {side : Side}
    {volume : Option N} {price : N} {spec : Option (SymbolSpec N)} :
    Prog.Returns serve (Executor.fitVolumeToMargin symbol side volume price spec) r ↔
      ∀ lot ∈ volume, Cuts lot (r.margins 0) (marginFree? (r.accounts 0)) spec := by
  unfold Executor.fitVolumeToMargin
  cases volume with
  | none => exact ⟨fun _ _ h => (nomatch h), fun _ => Prog.returns_ret serve _ _⟩
  | some lot =>
      simp only [Option.mem_def, Option.some.injEq, forall_eq']
      rw [Prog.returns_bind_of serve (run_ask (.calcMargin symbol side lot price) r)]
      cases hmargin : r.margins 0 with
      | none => exact ⟨fun _ margin h => (nomatch h), fun _ => Prog.returns_ret serve _ _⟩
      | some required =>
          cases spec with
          | none =>
              exact ⟨fun _ _ _ _ given h => (nomatch h), fun _ => Prog.returns_ret serve _ _⟩
          | some given =>
              simp only [Cuts, Option.mem_def, Option.some.injEq, forall_eq']
              split
              · rename_i hfree
                exact ⟨fun _ hpos => absurd hfree hpos, fun _ => Prog.returns_ret serve _ _⟩
              rename_i hpos
              rw [Prog.returns_bind_of serve (run_freeMargin _)]
              dsimp only
              cases marginFree? (r.accounts 0) with
              | none =>
                  exact ⟨fun _ _ funds h => (nomatch h), fun _ => Prog.returns_ret serve _ _⟩
              | some funds =>
                  simp only [Option.some.injEq, forall_eq']
                  split
                  · rename_i hfits
                    exact ⟨fun _ _ hcut => absurd hfits hcut,
                      fun _ => Prog.returns_ret serve _ _⟩
                  rename_i hcut
                  simp only [hpos, hcut, not_false_eq_true, forall_const]
                  refine (Prog.returns_bind_of_forall serve fun normalized q => ?_).trans
                    ((Prog.returns_ofExcept serve).trans fit_ok_iff)
                  -- the cut lot is priced once more, and any answer will do
                  rw [Prog.returns_bind_of serve (run_ask _ q)]
                  split
                  · split <;> exact Prog.returns_ret serve _ _
                  · exact Prog.returns_ret serve _ _

/-! ## The entry -/

/-- Nothing an entry computes raises. -/
structure Clears (ex : Executor N) (signal : EntrySignal N) (r : EntryReplies N R) (price : N)
    (sl : Option N) : Prop where
  sizes : Sizes ex signal (r.specs 1) (r.specs 0) (r.accounts 0) price sl
  cuts : ∀ lot, entryLot ex signal (r.specs 1) (r.specs 0) (r.accounts 0) price sl =
    .ok (some lot) → Cuts lot (r.margins 0)
      (marginFree? (r.accounts (if asksEquity ex signal sl then 1 else 0))) (r.specs 0)

/-- The entry of a mapped strategy, computed in doubles, comes back, whatever the platform
answers, exactly when the quote is no price at all or nothing it computes raises. -/
theorem returns_openPosition_iff (ex : Executor Float) (signal : EntrySignal Float)
    (r : EntryReplies Float R) {side : Side} (hside : signal.action.side? = some side)
    {magic : Int} (hmapped : ex.magicFor signal.strategy = .ok magic) :
    Prog.Returns serve (ex.openPosition signal) r ↔
      ∀ tick ∈ r.tick, ¬Executor.entryQuote side tick ≤ 0 →
        Clears ex signal r (Executor.entryQuote side tick)
          (validateStops (r.specs 0) side tick signal.sl signal.tp2).1 := by
  unfold Executor.openPosition
  rw [hside]
  dsimp only
  rw [Prog.returns_bind_of serve (run_ask _ r), Prog.returns_bind_of serve (run_ask _ _),
    Prog.returns_bind_of serve (run_ask _ _)]
  cases htick : r.tick with
  | none => exact ⟨fun _ tick h => (nomatch h), fun _ => Prog.returns_ret serve _ _⟩
  | some tick =>
      simp only [Option.mem_def, Option.some.injEq, forall_eq']
      split
      · rename_i hquote
        exact ⟨fun _ hpos => absurd hquote hpos, fun _ => Prog.returns_ret serve _ _⟩
      rename_i hpos
      have hquote : ¬Executor.entryQuote side tick ≤ 0 := by rwa [near_zero] at hpos
      simp only [hquote, not_false_eq_true, forall_const]
      -- the symbol has been resolved and looked up by now
      obtain ⟨hlot, hmargins, haccounts⟩ := run_resolveEntryVolume ex signal
        { r with
          symbols := fun n => r.symbols (n + 1), specs := fun n => r.specs (n + 1)
          tick := some tick }
        (r.specs 0) (Executor.entryQuote side tick)
        (validateStops (r.specs 0) side tick signal.sl signal.tp2).1
      rw [Prog.returns_bind]
      constructor
      · rintro ⟨volume, q, hsized, hrest⟩
        rw [hsized] at hlot hmargins haccounts
        have hlot : _ = entryLot .. := hlot
        obtain ⟨fitted, q', hfitted, -⟩ := (Prog.returns_bind serve).mp hrest
        have hcuts := returns_fitVolumeToMargin.mp ⟨fitted, q', hfitted⟩
        refine ⟨entryLot_ok_iff.mp ⟨volume, hlot.symm⟩, fun lot hasked => ?_⟩
        obtain rfl : volume = some lot := Except.ok.inj (hlot.trans hasked)
        have hcuts := hcuts lot rfl
        rwa [hmargins, haccounts] at hcuts
      · intro h
        obtain ⟨volume, hvolume⟩ := entryLot_ok_iff.mpr h.sizes
        refine ⟨volume, _, Prod.ext (hlot.trans hvolume) rfl, ?_⟩
        rw [Prog.returns_bind]
        obtain ⟨fitted, q', hfitted⟩ := returns_fitVolumeToMargin.mpr fun lot hmem => by
          rw [hmargins, haccounts]
          exact h.cuts lot (hvolume.trans (congrArg Except.ok hmem))
        refine ⟨fitted, q', hfitted, ?_⟩
        cases fitted with
        | none => exact Prog.returns_ret serve _ _
        | some fitted =>
            dsimp only
            rw [hmapped, Prog.ofExcept_ok, Prog.ret_bind,
              Prog.returns_bind_of serve (run_ask _ q')]
            split <;> exact Prog.returns_ret serve _ _

/-- The platform quotes the symbol, has no account to show, and takes the order. -/
def quoting (spec : SymbolSpec Float) : EntryReplies Float TradeResult where
  symbols _ := "EURUSD"
  specs _ := some spec
  tick := some { bid := 1, ask := 1 }
  accounts _ := none
  margins _ := none
  report := { success := true }

def hundredths (contractSize : Float) : SymbolSpec Float where
  resolvedName := "EURUSD"
  point := 0.00001
  digits := 5
  volumeMin := 0.01
  volumeStep := 0.01
  volumeMax := 100
  tickValue := 1
  tickSize := 0.00001
  contractSize := contractSize
  stopsLevel := 0

def trendExecutor : Executor Float where
  modes := {}
  capital := 1000
  riskPercentage := 1
  strategyMagicMap := [("trend", 1)]

def payloadEntry (quantity : Option Float) : EntrySignal Float where
  strategy := "trend"
  action := .long
  symbol := "EURUSD"
  quantity := quantity
  useEquitySizing := some false

/-- With its quantity the entry comes back. -/
theorem payloadEntry_returns :
    Prog.Returns serve (trendExecutor.openPosition (payloadEntry (some 100000)))
      (quoting (hundredths 100000)) := by
  refine (@returns_openPosition_iff TradeResult trendExecutor (payloadEntry (some 100000))
    (quoting (hundredths 100000)) .long rfl 1 rfl).mpr fun tick _ _ => ⟨⟨?_, nofun⟩, ?_⟩
  · rintro - spec hspec -
    obtain rfl := Option.some.inj hspec
    refine ⟨100000, rfl, by decide +kernel, ?_, ?_⟩
    · exact (hasValue_iff_isFinite _).mpr (by decide +kernel)
    · exact (hasValue_iff_isFinite _).mpr (by decide +kernel)
  · rintro lot - margin h
    cases h

/-- Without it nothing refuses the entry, and its division raises; so does the floor of what
overflows. -/
theorem payloadEntry_raises :
    trendExecutor.magicFor "trend" = .ok 1 ∧
    (raised (Prog.run serve (trendExecutor.openPosition (payloadEntry none))
        (quoting (hundredths 100000))) =
      some (.typeError "unsupported operand type(s) for /: 'NoneType' and 'float'") ∧
      ¬Prog.Returns serve (trendExecutor.openPosition (payloadEntry none))
        (quoting (hundredths 100000))) ∧
    raised (Prog.run serve (trendExecutor.openPosition (payloadEntry (some 1e308)))
        (quoting (hundredths 1))) =
      some (.other "OverflowError: cannot convert float infinity to integer") ∧
      ¬Prog.Returns serve (trendExecutor.openPosition (payloadEntry (some 1e308)))
        (quoting (hundredths 1)) := by
  have hmissing : raised (Prog.run serve (trendExecutor.openPosition (payloadEntry none))
      (quoting (hundredths 100000))) =
        some (.typeError "unsupported operand type(s) for /: 'NoneType' and 'float'") := rfl
  have hoverflow : raised (Prog.run serve (trendExecutor.openPosition (payloadEntry (some 1e308)))
      (quoting (hundredths 1))) =
        some (.other "OverflowError: cannot convert float infinity to integer") := by
    decide +kernel
  exact ⟨rfl, ⟨hmissing, not_returns_of_raised hmissing⟩, hoverflow,
    not_returns_of_raised hoverflow⟩

end EntryReplies

/-! ## With rationals -/

section Exact

def exactSignal (signal : Signal) : EntrySignal ℚ where
  strategy := signal.strategy
  action := signal.action
  symbol := signal.symbol
  signalId := signal.signalId
  quantity := signal.quantity
  sl := signal.sl
  tp2 := signal.tp2
  riskPercent := signal.riskPercent
  isScalePosition := signal.isScalePosition
  scaleQuantity := signal.scaling.bind (·.quantity)
  useEquitySizing := signal.useEquitySizing

def exactExecutor (ex : ForexExecutor) : Executor ℚ where
  modes := ex.config
  capital := ex.config.capital
  riskPercentage := ex.config.riskPercentage
  strategyMagicMap := ex.strategyMagicMap

def exactAccount (account : TradeWorker.Account) : Account ℚ where
  equity := account.equity
  marginFree := account.marginFree
  freeMargin := account.freeMargin

/-- The calls of an entry are the platform's. -/
def exactOp : (o : EntryOp ℚ TradeResult) → Work o.Ans
  | .resolveSymbol baseSymbol => platform (.resolveSymbol baseSymbol)
  | .getSymbolSpec symbol => platform (.getSymbolSpec symbol) >>= fun spec =>
      .ret (Option.map exactSpec spec)
  | .getTick symbol => platform (.getTick symbol) >>= fun tick => .ret (Option.map exactTick tick)
  | .getAccount => platform .getAccount >>= fun account => .ret (Option.map exactAccount account)
  | .calcMargin symbol side volume price => platform (.calcMargin symbol side volume price)
  | .placeOrder req => platform (.placeOrder
      { symbol := req.symbol, side := req.side, volume := req.volume, price := req.price
        sl := req.sl, tp := req.tp, magic := req.magic, comment := req.comment })

def EntryResult.exact : EntryResult ℚ TradeResult → TradeResult
  | .fail comment => .fail comment
  | .insufficientMargin symbol requested => ForexExecutor.insufficientMargin symbol requested
  | .placed report none => report
  | .placed report (some requested) => { report with requestedVolume := some requested }

theorem implement_ask (o : EntryOp ℚ TradeResult) :
    Prog.implement exactOp (ask o) = exactOp o :=
  Prog.implement_perform exactOp o

theorem implement_ofExcept {α : Type} (x : Except Exn α) :
    Prog.implement exactOp (Prog.ofExcept x) = Prog.ofExcept x := by
  cases x <;> rfl

theorem level?_exact (sl : Option ℚ) : Executor.level? sl = num? sl := by
  cases sl with
  | none => rfl
  | some sl =>
      unfold Executor.level? num?
      exact if_congr beq_iff_eq rfl rfl

theorem symbolSpec_exact (baseSymbol : String) :
    Prog.implement exactOp (Executor.symbolSpec baseSymbol) =
      (ForexExecutor.symbolSpec baseSymbol >>= fun spec => .ret (spec.map exactSpec)) := by
  unfold Executor.symbolSpec ForexExecutor.symbolSpec
  rw [Prog.implement_bind, implement_ask, bind_assoc]
  exact bind_congr fun symbol => implement_ask _

theorem freeMargin_exact :
    Prog.implement exactOp Executor.freeMargin = ForexExecutor.freeMargin := by
  unfold Executor.freeMargin ForexExecutor.freeMargin
  rw [Prog.implement_bind, implement_ask]
  show ((platform .getAccount >>= _) >>= _) = _
  rw [bind_assoc]
  refine bind_congr fun account => ?_
  cases account <;> rfl

theorem resolveCapital_exact (ex : ForexExecutor) (equitySizing : Option Bool) :
    Prog.implement exactOp ((exactExecutor ex).resolveCapital equitySizing) =
      ex.resolveCapital equitySizing := by
  unfold Executor.resolveCapital ForexExecutor.resolveCapital
  split
  · rw [Prog.implement_bind, implement_ask]
    show ((platform .getAccount >>= _) >>= _) = _
    rw [bind_assoc]
    refine bind_congr fun account => ?_
    cases account <;> rfl
  · rfl

theorem entryRisk_exact (ex : ForexExecutor) (signal : Signal) :
    (exactExecutor ex).entryRisk (exactSignal signal) = ex.entryRisk signal := by
  unfold Executor.entryRisk ForexExecutor.entryRisk Signal.scaleQuantityFactor
  cases hrisk : signal.riskPercent <;> simp only [exactSignal, exactExecutor, hrisk] <;> rfl

theorem resolveEntryVolume_exact (ex : ForexExecutor) (signal : Signal)
    (spec : Option TradeWorker.SymbolSpec) (price : ℚ) (sl : Option ℚ) :
    Prog.implement exactOp ((exactExecutor ex).resolveEntryVolume (exactSignal signal)
        (spec.map exactSpec) price sl) = ex.resolveEntryVolume signal spec price sl := by
  unfold Executor.resolveEntryVolume ForexExecutor.resolveEntryVolume
  rw [level?_exact]
  show Prog.implement exactOp (if ex.config.usesPayloadQuantity signal.useEquitySizing then _
    else _) = _
  split
  · rw [Prog.implement_bind]
    show (Prog.implement exactOp (Executor.symbolSpec signal.symbol) >>= _) = _
    rw [symbolSpec_exact, bind_assoc]
    refine bind_congr fun spec => ?_
    show Prog.implement exactOp (Prog.ofExcept _) = _
    rw [implement_ofExcept, convertQuantityToLots_exact]
    rfl
  · cases num? sl with
    | none => cases spec <;> rfl
    | some sl =>
        dsimp only
        rw [Prog.implement_bind]
        show (Prog.implement exactOp ((exactExecutor ex).resolveCapital
          (ex.config.resolveEquitySizing signal.useEquitySizing)) >>= _) = _
        rw [resolveCapital_exact]
        refine bind_congr fun capital => ?_
        cases capital with
        | none => rfl
        | some capital =>
            dsimp only
            rw [Prog.implement_bind, implement_ofExcept, calculateLotSize_exact, entryRisk_exact]
            rfl

theorem fitVolumeToMargin_exact (symbol : String) (side : Side) (volume : Option ℚ) (price : ℚ)
    (spec : Option TradeWorker.SymbolSpec) :
    Prog.implement exactOp
        (Executor.fitVolumeToMargin symbol side volume price (spec.map exactSpec)) =
      ForexExecutor.fitVolumeToMargin symbol side volume price spec := by
  cases volume with
  | none => rfl
  | some volume =>
      unfold Executor.fitVolumeToMargin ForexExecutor.fitVolumeToMargin
      dsimp only
      rw [Prog.implement_bind, implement_ask]
      refine bind_congr fun required => ?_
      cases required with
      | none => rfl
      | some required =>
          cases spec with
          | none => rfl
          | some spec =>
              dsimp only [Option.map_some]
              show Prog.implement exactOp (if required ≤ 0 then _ else _) = _
              split
              · rfl
              rw [Prog.implement_bind, freeMargin_exact]
              refine bind_congr fun free => ?_
              cases free with
              | none => rfl
              | some free =>
                  dsimp only
                  show Prog.implement exactOp
                    (if required ≤ free * ForexExecutor.marginUsableFraction then _ else _) = _
                  split
                  · rfl
                  rw [Prog.implement_bind, implement_ofExcept, fit_exact]
                  refine bind_congr fun normalized => ?_
                  have hsmaller : smaller volume normalized = min volume normalized := by
                    rw [smaller, min_comm, min_def_lt]
                  rw [hsmaller, Prog.implement_bind, implement_ask]
                  refine bind_congr fun margin => ?_
                  cases margin with
                  | none => rfl
                  | some margin =>
                      show Prog.implement exactOp
                          (if free * ForexExecutor.marginUsableFraction < margin then _ else _) =
                        if free * ForexExecutor.marginUsableFraction < margin then _ else _
                      split <;> rfl

/-- Where the numbers are rationals, the entry is the one of the executor. -/
theorem openPosition_exact (ex : ForexExecutor) (signal : Signal) :
    (Prog.implement exactOp ((exactExecutor ex).openPosition (exactSignal signal)) >>=
      fun result => .ret result.exact) = ex.openPosition signal := by
  unfold Executor.openPosition ForexExecutor.openPosition
  show (Prog.implement exactOp (match signal.action.side? with | none => _ | some side => _) >>=
    _) = _
  cases signal.action.side? with
  | none => rfl
  | some side =>
      dsimp only
      rw [Prog.implement_bind, implement_ask, bind_assoc]
      refine bind_congr fun symbol => ?_
      rw [Prog.implement_bind, implement_ask, bind_assoc]
      show ((platform (.getSymbolSpec symbol) >>= _) >>= _) = _
      rw [bind_assoc]
      refine bind_congr fun spec => ?_
      rw [Prog.ret_bind, Prog.implement_bind, implement_ask, bind_assoc]
      show ((platform (.getTick symbol) >>= _) >>= _) = _
      rw [bind_assoc]
      refine bind_congr fun tick => ?_
      cases tick with
      | none => rfl
      | some tick =>
          have hstops : validateStops (spec.map exactSpec) side (exactTick tick)
              (exactSignal signal).sl (exactSignal signal).tp2 = _ :=
            validateStops_exact spec side tick signal.sl signal.tp2
          rw [Prog.ret_bind]
          dsimp only [Option.map_some]
          have hquote : Executor.entryQuote side (exactTick tick) =
              ForexExecutor.entryQuote side tick := by
            cases side <;> rfl
          rw [hstops, hquote]
          generalize TradeWorker.validateStops spec side tick signal.sl signal.tp2 = stops
          show (Prog.implement exactOp
            (if ForexExecutor.entryQuote side tick ≤ 0 then _ else _) >>= _) = _
          split
          · rfl
          rw [Prog.implement_bind, resolveEntryVolume_exact, bind_assoc]
          refine bind_congr fun requested => ?_
          rw [Prog.implement_bind, fitVolumeToMargin_exact, bind_assoc]
          cases requested with
          | none => rfl
          | some requested =>
              refine bind_congr fun volume => ?_
              cases volume with
              | none => rfl
              | some volume =>
                  dsimp only
                  rw [Prog.implement_bind, implement_ofExcept, bind_assoc]
                  refine bind_congr fun magic => ?_
                  rw [Prog.implement_bind, implement_ask, bind_assoc]
                  refine bind_congr fun report => ?_
                  by_cases huncut : volume = requested
                  · rw [if_pos (by simp [huncut]), if_pos (by rw [huncut])]
                    rfl
                  · rw [if_neg (by simp [huncut]), if_neg (by simp [huncut])]
                    rfl

end Exact

end TradeWorker.Numeric
