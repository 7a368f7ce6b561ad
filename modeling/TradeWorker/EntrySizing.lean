import TradeWorker.MarginFit
import TradeWorker.StopRules

/-!
# The volume of a forex entry

A broker takes a lot that is a multiple of its step within its bounds. Every branch of the
sizing clamps and rounds to the symbol's own grid, except two: a contract size that is not
positive lets the signal's quantity through as it is, and an account without equity is sized
with the literal 0.01.
-/

namespace TradeWorker

open Grid (points)

/-! ## Lots a broker takes -/

namespace SymbolSpec

/-- A step that is a positive decimal, and bounds on its grid. -/
structure Gridded (spec : SymbolSpec) : Prop where
  step_pos : 0 < spec.volumeStep
  decimal : IsDecimal spec.volumeStep
  min_mem : spec.volumeMin ∈ points spec.volumeStep
  min_pos : 0 < spec.volumeMin
  max_mem : spec.volumeMax ∈ points spec.volumeStep
  max_pos : 0 < spec.volumeMax

/-- A broker-valid volume. -/
structure Accepts (spec : SymbolSpec) (volume : ℚ) : Prop where
  mem : volume ∈ points spec.volumeStep
  min_le : spec.volumeMin ≤ volume
  le_max : volume ≤ spec.volumeMax

namespace Gridded

variable {spec : SymbolSpec} (h : spec.Gridded) (hbounds : spec.volumeMin ≤ spec.volumeMax)

include h hbounds

theorem accepts_min : spec.Accepts spec.volumeMin := ⟨h.min_mem, le_rfl, hbounds⟩

theorem accepts_clamp {volume : ℚ} (hmem : volume ∈ points spec.volumeStep) :
    spec.Accepts (spec.clamp volume) where
  mem := Grid.max_mem_points h.min_mem (Grid.min_mem_points hmem h.max_mem)
  min_le := le_max_left _ _
  le_max := max_le hbounds (min_le_right _ _)

theorem accepts_rounded_clamp {volume : ℚ} (hmem : volume ∈ points spec.volumeStep) :
    spec.Accepts (pyRoundTo (spec.clamp volume) (decimalsForStep spec.volumeStep)) := by
  have hclamp := h.accepts_clamp hbounds hmem
  rw [pyRoundTo_decimalsForStep h.decimal hclamp.mem]
  exact hclamp

theorem accepts_normalized (volume : ℚ) : spec.Accepts (spec.normalized volume) :=
  h.accepts_rounded_clamp hbounds (spec.floored_mem volume)

omit h hbounds in
theorem accepts_min_of {volume other : ℚ} (hvolume : spec.Accepts volume)
    (hother : spec.Accepts other) : spec.Accepts (min volume other) where
  mem := Grid.min_mem_points hvolume.mem hother.mem
  min_le := le_min hvolume.min_le hother.min_le
  le_max := (min_le_left _ _).trans hvolume.le_max

/-- `convert_quantity_to_lots` answers a valid lot wherever it divides by a contract size. -/
theorem accepts_convertSignalQuantity (hcontract : 0 < spec.contractSize) {quantity lot : Option ℚ}
    (hlot : convertSignalQuantity (some spec) quantity = .ok lot) :
    ∀ v ∈ lot, spec.Accepts v := by
  have hcontract' : ¬spec.contractSize ≤ 0 := not_le.mpr hcontract
  cases quantity with
  | none => simp [convertSignalQuantity, hcontract'] at hlot
  | some quantity =>
      simp only [convertSignalQuantity, convertQuantityToLots, if_neg hcontract',
        if_neg h.step_pos.ne', Except.map, Except.ok.injEq] at hlot
      subst hlot
      rintro v ⟨⟩
      exact h.accepts_rounded_clamp hbounds (Grid.down_mem _ _)

/-- `calculate_lot_size` rounds to two decimals where the step is a hundredth or more. Where a
hundredth of a lot is valid the step is then a hundredth. -/
theorem accepts_calculateLotSize (hhundredth : spec.Accepts (1 / 100))
    {price sl risk capital lot : ℚ}
    (hlot : calculateLotSize (some spec) price sl risk capital = .ok lot) : spec.Accepts lot := by
  have hmin := h.accepts_min hbounds
  have hclamp : ∀ n : ℤ, spec.Accepts (spec.clamp (n * spec.volumeStep)) := fun n =>
    h.accepts_clamp hbounds (Grid.mul_mem_points n)
  unfold calculateLotSize at hlot
  simp only [if_neg h.step_pos.ne'] at hlot
  split_ifs at hlot with hpoint hdistance htick hstep <;> obtain rfl := Except.ok.inj hlot
  · exact hmin
  · exact hmin
  · exact hmin
  · have hstep' : spec.volumeStep = 1 / 10 ^ 2 := by
      have hle := Grid.add_step_le_of_lt h.step_pos Grid.zero_mem_points hhundredth.mem
        (by norm_num)
      linarith
    rw [pyRoundTo_of_mem (hstep' ▸ (hclamp _).mem)]
    exact hclamp _
  · exact hclamp _

end Gridded

end SymbolSpec

/-! ## Every entry, however the platform answers -/

/-- A platform that gives one spec for a symbol, where it gives any answer; every order sent to it
has a valid volume. -/
def sizedOrders (spec : SymbolSpec) : Prog.Contract WorkerOp WorkerOp.Ans Exn where
  guard
    | .fx (.placeOrder req) => spec.Accepts req.volume
    | _ => True
  answers
    | .fx (.getSymbolSpec _), r => ∀ given, r = .ok given → given = some spec
    | _, _ => True

/-- Under a configuration every entry has a valid volume: for every signal, magic map, account,
quote and margin. -/
def EntriesSized (config : ExecutionConfig) (spec : SymbolSpec) : Prop :=
  ∀ (ex : ForexExecutor) (signal : Signal), ex.config = config →
    Prog.Sends (sizedOrders spec) (fun _ => True) (ex.openPosition signal)

/-- What a configuration asks of a spec. Payload quantities are possible unless the account's
equity is forced, and missing equity unless payload quantities are. -/
structure SizesOnGrid (config : ExecutionConfig) (spec : SymbolSpec) : Prop where
  bounds : spec.volumeMin ≤ spec.volumeMax
  contract : config.useAccountEquity ≠ some true → 0 < spec.contractSize
  hundredth : config.useAccountEquity ≠ some false → spec.Accepts (1 / 100)

theorem ExecutionConfig.usesPayloadQuantity_env {config : ExecutionConfig} {flag : Option Bool}
    {payload : Bool} (h : config.usesPayloadQuantity flag = payload) :
    config.useAccountEquity ≠ some payload := by
  intro henv
  simp [usesPayloadQuantity, resolveEquitySizing, henv] at h

section Sends

variable {spec : SymbolSpec}

theorem sized_getSymbolSpec (symbol : String) :
    Prog.Sends (sizedOrders spec) (fun given => given = some spec)
      (platform (.getSymbolSpec symbol)) :=
  Prog.sends_perform trivial fun given hgiven => hgiven given rfl

/-- A call that places no order is free to answer anything. -/
theorem sized_platform {o : ForexOp} (ho : (sizedOrders spec).guard (.fx o)) :
    Prog.Sends (sizedOrders spec) (fun _ => True) (platform o) :=
  Prog.sends_perform ho fun _ _ => trivial

variable {ex : ForexExecutor} (hspec : spec.Gridded) (hsizes : SizesOnGrid ex.config spec)

include hspec hsizes

theorem sized_resolveEntryVolume (signal : Signal) (price : ℚ) (sl : Option ℚ) :
    Prog.Sends (sizedOrders spec) (fun volume => ∀ v ∈ volume, spec.Accepts v)
      (ex.resolveEntryVolume signal (some spec) price sl) := by
  unfold ForexExecutor.resolveEntryVolume
  dsimp only
  split
  · rename_i hpayload
    have hcontract := hsizes.contract (ExecutionConfig.usesPayloadQuantity_env hpayload)
    refine Prog.Sends.bind (Q := fun given => given = some spec) ?_ fun given hgiven => ?_
    · exact Prog.Sends.bind (sized_platform trivial) fun symbol _ => sized_getSymbolSpec symbol
    · rw [hgiven, Prog.sends_ofExcept]
      exact fun lot hlot =>
        hspec.accepts_convertSignalQuantity hsizes.bounds hcontract hlot
  · rename_i hpayload
    have hhundredth := hsizes.hundredth
      (ExecutionConfig.usesPayloadQuantity_env (Bool.not_eq_true _ ▸ hpayload))
    split
    · rw [Prog.pure_eq, Prog.sends_ret]
      rintro v ⟨⟩
      exact hspec.accepts_min hsizes.bounds
    · refine Prog.Sends.bind (Q := fun _ => True) ?_ fun capital _ => ?_
      · unfold ForexExecutor.resolveCapital
        split
        · exact Prog.Sends.bind (sized_platform trivial) fun _ _ => by simp
        · simp
      · cases capital with
        | none =>
            rw [Prog.pure_eq, Prog.sends_ret]
            rintro v ⟨⟩
            exact hhundredth
        | some capital =>
            refine Prog.Sends.bind (Q := fun lot => spec.Accepts lot) ?_ fun lot hlot => ?_
            · rw [Prog.sends_ofExcept]
              exact fun lot hlot =>
                hspec.accepts_calculateLotSize hsizes.bounds hhundredth hlot
            · rw [Prog.pure_eq, Prog.sends_ret]
              rintro v ⟨⟩
              exact hlot

/-- The fit keeps a valid volume, cuts it to another, or refuses the entry. -/
theorem sized_fitVolumeToMargin (symbol : String) (side : Side) {volume : Option ℚ}
    (hvolume : ∀ v ∈ volume, spec.Accepts v) (price : ℚ) :
    Prog.Sends (sizedOrders spec) (fun fitted => ∀ v ∈ fitted, spec.Accepts v)
      (ForexExecutor.fitVolumeToMargin symbol side volume price (some spec)) := by
  unfold ForexExecutor.fitVolumeToMargin
  cases volume with
  | none => simp
  | some volume =>
      have haccepts := hvolume volume rfl
      refine Prog.Sends.bind (sized_platform trivial) fun required _ => ?_
      cases required with
      | none => simpa using haccepts
      | some required =>
          dsimp only
          split
          · simpa using haccepts
          · refine Prog.Sends.bind (Q := fun _ => True) ?_ fun free _ => ?_
            · exact Prog.Sends.bind (sized_platform trivial) fun _ _ => by simp
            · cases free with
              | none => simpa using haccepts
              | some free =>
                  dsimp only
                  split
                  · simpa using haccepts
                  · rw [SymbolSpec.normalizeVolume_eq hspec.step_pos, Prog.ofExcept_ok,
                      Prog.ret_bind]
                    have hcut := SymbolSpec.Gridded.accepts_min_of haccepts
                      (hspec.accepts_normalized hsizes.bounds
                        (volume * (free * ForexExecutor.marginUsableFraction) / required))
                    refine Prog.Sends.bind (sized_platform trivial) fun margin _ => ?_
                    split
                    · split <;> simp [hcut]
                    · simpa using hcut

theorem sized_openPosition (signal : Signal) :
    Prog.Sends (sizedOrders spec) (fun _ => True) (ex.openPosition signal) := by
  unfold ForexExecutor.openPosition
  split
  · simp
  · refine Prog.Sends.bind (sized_platform trivial) fun symbol _ => ?_
    refine Prog.Sends.bind (sized_getSymbolSpec symbol) fun given hgiven => ?_
    refine Prog.Sends.bind (sized_platform trivial) fun tick _ => ?_
    subst hgiven
    cases tick with
    | none => simp
    | some tick =>
        dsimp only
        split
        · simp
        · refine Prog.Sends.bind (sized_resolveEntryVolume hspec hsizes ..) fun requested hreq => ?_
          refine Prog.Sends.bind (sized_fitVolumeToMargin hspec hsizes _ _ hreq _)
            fun volume hvol => ?_
          cases volume with
          | none => simp
          | some volume =>
              refine Prog.Sends.bind (Q := fun _ => True) (by simp) fun magic _ => ?_
              refine Prog.Sends.bind (sized_platform (hvol volume rfl)) fun _ _ => ?_
              split <;> simp

end Sends

/-! ## What an entry may be sized with -/

/-- A quote for every symbol, an account as given, and no price for margin. -/
def entryDesk (spec : SymbolSpec) (account : Option Account) :
    Prog.Server WorkerOp WorkerOp.Ans Exn Unit
  | .fx (.resolveSymbol symbol), _ => (.ok symbol, ())
  | .fx (.getSymbolSpec _), _ => (.ok (some spec), ())
  | .fx (.getTick _), _ => (.ok (some { bid := 1, ask := 1 }), ())
  | .fx .getAccount, _ => (.ok account, ())
  | .fx (.calcMargin ..), _ => (.ok none, ())
  | _, _ => (.error (.gateway "offline"), ())

theorem entryDesk_answers (spec : SymbolSpec) (account : Option Account) (o : WorkerOp) (s : Unit) :
    (sizedOrders spec).answers o (entryDesk spec account o s).1 := by
  rcases o with o | o | o | o <;> try trivial
  cases o <;> try trivial
  rintro given ⟨⟩
  rfl

/-- A LONG of strategy `trend`. -/
def longEntry (sl quantity : Option ℚ) (useEquitySizing : Option Bool) : Signal where
  strategy := "trend"
  timestamp := 0
  action := .long
  symbol := "EURUSD"
  sl := sl
  quantity := quantity
  useEquitySizing := useEquitySizing

/-- What sizing asks for is what is placed there. -/
theorem EntriesSized.accepts {config : ExecutionConfig} {spec : SymbolSpec}
    (h : EntriesSized config spec) {account : Option Account} {sl quantity : Option ℚ}
    {flag : Option Bool} {volume : ℚ}
    (hvolume : Prog.run (entryDesk spec account)
      (({ config, strategyMagicMap := [("trend", 1)] } : ForexExecutor).resolveEntryVolume
        (longEntry sl quantity flag) (some spec) 1
        (validateStops (some spec) .long { bid := 1, ask := 1 } sl none).1) () =
      (.ok (some volume), ())) : spec.Accepts volume := by
  have hobeys := (h { config, strategyMagicMap := [("trend", 1)] } (longEntry sl quantity flag)
    rfl).obeys (S := entryDesk spec account) (I := fun _ => True)
      (fun o s _ _ => ⟨entryDesk_answers spec account o s, trivial⟩) (s := ()) trivial
  have hsymbol := (Prog.obeys_bind.mp hobeys).2 "EURUSD" () rfl
  have hspec := (Prog.obeys_bind.mp hsymbol).2 (some spec) () rfl
  have htick := (Prog.obeys_bind.mp hspec).2 (some { bid := 1, ask := 1 }) () rfl
  have hquote : ¬(ForexExecutor.entryQuote .long { bid := 1, ask := 1 } ≤ 0) := by
    decide +kernel
  simp only [if_neg hquote] at htick
  have hsized := (Prog.obeys_bind.mp htick).2 (some volume) () hvolume
  have hfitted := (Prog.obeys_bind.mp hsized).2 (some volume) () rfl
  have hmagic := (Prog.obeys_bind.mp hfitted).2 1 () (Prog.run_ofExcept _ (.ok 1) ())
  exact (Prog.obeys_bind.mp hmagic).1 _ (List.mem_singleton_self _)

/-- A stop that is not zero stays one, moved or not. -/
theorem SymbolSpec.resolve_ne_zero {spec : SymbolSpec} {tick : Tick} {away : Away} {level : ℚ}
    (h : level ≠ 0) : spec.resolve tick away level ≠ 0 := by
  by_cases hclear : spec.Clears tick away level
  · rwa [resolve_of_clears hclear]
  · rw [resolve_of_not_clears hclear, resolveStop]
    split
    · exact h
    · rename_i hpos
      exact (not_le.mp hpos).ne'

/-- An environment that does not say the opposite leaves the mode to the signal. -/
theorem ExecutionConfig.resolveEquitySizing_some {config : ExecutionConfig} {equity : Bool}
    (h : config.useAccountEquity ≠ some (!equity)) :
    config.resolveEquitySizing (some equity) = some equity := by
  unfold resolveEquitySizing
  split
  · rename_i env henv
    cases env <;> cases equity <;> simp_all
  · rfl

theorem ExecutionConfig.usesPayloadQuantity_some {config : ExecutionConfig} {equity : Bool}
    (h : config.useAccountEquity ≠ some (!equity)) :
    config.usesPayloadQuantity (some equity) = !equity := by
  rw [usesPayloadQuantity, resolveEquitySizing_some h]

section Desk

variable {ex : ForexExecutor} {spec : SymbolSpec} {account : Option Account} {signal : Signal}
  {price : ℚ} {sl : Option ℚ}

theorem run_payloadVolume (hpayload : ex.config.usesPayloadQuantity signal.useEquitySizing = true)
    {lot : Option ℚ} (hlot : convertSignalQuantity (some spec) signal.quantity = .ok lot) :
    Prog.run (entryDesk spec account) (ex.resolveEntryVolume signal (some spec) price sl) () =
      (.ok lot, ()) := by
  rw [ForexExecutor.resolveEntryVolume, if_pos hpayload]
  have hread : Prog.run (entryDesk spec account) (ForexExecutor.symbolSpec signal.symbol) () =
      (.ok (some spec), ()) := rfl
  rw [Prog.run_bind_ok _ hread, Prog.run_ofExcept, hlot]

theorem run_minimumVolume
    (hpayload : ex.config.usesPayloadQuantity signal.useEquitySizing = false) :
    Prog.run (entryDesk spec account) (ex.resolveEntryVolume signal (some spec) price none) () =
      (.ok (some spec.volumeMin), ()) := by
  rw [ForexExecutor.resolveEntryVolume, if_neg (by simp [hpayload])]
  rfl

/-- Equity sizing without an account falls back to a literal. -/
theorem run_unknownEquityVolume
    (hpayload : ex.config.usesPayloadQuantity signal.useEquitySizing = false)
    (hequity : ex.config.resolveEquitySizing signal.useEquitySizing = some true) {level : ℚ}
    (hlevel : level ≠ 0) :
    Prog.run (entryDesk spec none) (ex.resolveEntryVolume signal (some spec) price (some level))
      () = (.ok (some (1 / 100)), ()) := by
  have hnum : num? (some level) = some level := if_neg hlevel
  rw [ForexExecutor.resolveEntryVolume, if_neg (by simp [hpayload])]
  simp only [hnum, hequity, ForexExecutor.resolveCapital, if_true]
  rfl

end Desk

/-- **Every forex entry order has a broker-valid volume** exactly under these configurations. -/
theorem entriesSized_iff {spec : SymbolSpec} (hspec : spec.Gridded) (config : ExecutionConfig) :
    EntriesSized config spec ↔ SizesOnGrid config spec := by
  constructor
  · intro h
    refine ⟨?_, fun henv => ?_, fun henv => ?_⟩
    · -- some entry is placed in either mode, and no volume is valid between crossed bounds
      obtain ⟨volume, haccepts⟩ : ∃ volume, spec.Accepts volume := by
        by_cases hpayload : config.usesPayloadQuantity none = true
        · obtain ⟨lot, hlot⟩ : ∃ lot, convertSignalQuantity (some spec) (some 1) =
              .ok (some lot) := by
            simp only [convertSignalQuantity, convertQuantityToLots, if_neg hspec.step_pos.ne']
            split
            · exact ⟨_, rfl⟩
            · exact ⟨_, rfl⟩
          exact ⟨lot, @EntriesSized.accepts _ _ h none none (some 1) none _
            (run_payloadVolume hpayload hlot)⟩
        · refine ⟨spec.volumeMin, @EntriesSized.accepts _ _ h none none none none _ ?_⟩
          have hnone : (validateStops (some spec) .long { bid := 1, ask := 1 } none none).1 =
              none := by
            rw [validateStops_eq (by norm_num) (by norm_num)]
            rfl
          rw [hnone]
          exact run_minimumVolume (Bool.not_eq_true _ ▸ hpayload)
      exact haccepts.min_le.trans haccepts.le_max
    · by_contra hcontract
      have hraw : convertSignalQuantity (some spec) (some (spec.volumeMin / 2)) =
          .ok (some (spec.volumeMin / 2)) := by
        simp [convertSignalQuantity, convertQuantityToLots, not_lt.mp hcontract, Except.map]
      have haccepts := @EntriesSized.accepts _ _ h none none (some (spec.volumeMin / 2))
        (some false) _ (run_payloadVolume (ExecutionConfig.usesPayloadQuantity_some henv) hraw)
      have hmin := haccepts.min_le
      have hpos := hspec.min_pos
      linarith
    · refine @EntriesSized.accepts _ _ h none (some (1 / 2)) none (some true) _ ?_
      rw [validateStops_eq (by norm_num) (by norm_num)]
      exact run_unknownEquityVolume (ExecutionConfig.usesPayloadQuantity_some henv)
        (ExecutionConfig.resolveEquitySizing_some henv)
        (SymbolSpec.resolve_ne_zero (by norm_num))
  · rintro hsizes ex signal rfl
    exact sized_openPosition hspec hsizes signal

theorem hundredths_gridded : hundredths.Gridded where
  step_pos := by decide +kernel
  decimal := hundredths_decimal
  min_mem := ⟨1, by norm_num [hundredths]⟩
  min_pos := by decide +kernel
  max_mem := ⟨5000, by norm_num [hundredths]⟩
  max_pos := by decide +kernel

theorem hundredths_sized : EntriesSized {} hundredths := by
  refine (entriesSized_iff hundredths_gridded {}).mpr ⟨by decide +kernel, fun _ => ?_, fun _ => ?_⟩
  · decide +kernel
  · exact ⟨⟨1, by norm_num [hundredths]⟩, by decide +kernel, by decide +kernel⟩

/-- An index traded by the tenth of a lot, and an account that gives no equity: 0.01 is sent. -/
theorem tenths_unsized :
    ({ hundredths with volumeMin := 1 / 10, volumeStep := 1 / 10 } : SymbolSpec).Gridded ∧
      ¬EntriesSized { useAccountEquity := some true }
        { hundredths with volumeMin := 1 / 10, volumeStep := 1 / 10 } := by
  refine ⟨⟨by decide +kernel, ⟨1, 1, by norm_num⟩, ⟨1, by norm_num⟩, by decide +kernel,
    ⟨500, by norm_num [hundredths]⟩, by decide +kernel⟩, fun h => ?_⟩
  have haccepts := @EntriesSized.accepts _ _ h none (some (1 / 2)) none none (1 / 100) (by
    rw [validateStops_eq (by norm_num) (by norm_num)]
    exact run_unknownEquityVolume rfl rfl (SymbolSpec.resolve_ne_zero (by norm_num)))
  exact absurd haccepts.min_le (by decide +kernel)

end TradeWorker
