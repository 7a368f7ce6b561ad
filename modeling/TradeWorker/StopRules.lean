import TradeWorker.Guard
import TradeWorker.ForexExecutor
import TradeWorker.Rounding

/-!
# Stops against the quote

`StopValidator` puts a level at one point beyond the broker's minimum distance when it is not
beyond that distance already. Its four checks are one check, of a level above or below the
quote. The staleness guard looks at the same levels from the side of the quote the entry fills
at, the validator from the side that triggers them, and the spread lies between.
-/

namespace TradeWorker

/-! ## One level -/

/-- The side of the quote a level rests on. -/
inductive Away where
  | above | below
  deriving DecidableEq, Repr

/-- A stop rests where the position loses. -/
def Side.slAway : Side → Away
  | .long => .below
  | .short => .above

/-- A target rests where the position gains. -/
def Side.tpAway : Side → Away
  | .long => .above
  | .short => .below

/-- Strictly further from the quote. -/
def Away.Further : Away → ℚ → ℚ → Prop
  | .above, x, y => x < y
  | .below, x, y => y < x

namespace SymbolSpec

variable (spec : SymbolSpec) (tick : Tick)

def stopDist : ℚ := spec.stopsLevel * spec.point

/-- The nearest a level may rest: `ask + stop_dist` above the quote, `bid - stop_dist` below. -/
def limit : Away → ℚ
  | .above => tick.ask + spec.stopDist
  | .below => tick.bid - spec.stopDist

/-- The documented minimum distance. -/
def Allows : Away → ℚ → Prop
  | .above, level => spec.limit tick .above ≤ level
  | .below, level => level ≤ spec.limit tick .below

/-- The price one point beyond the limit, rounded to the symbol's digits. -/
def adjusted : Away → ℚ
  | .above => pyRoundTo (spec.limit tick .above + spec.point) spec.digits
  | .below => pyRoundTo (spec.limit tick .below - spec.point) spec.digits

/-- What the validator makes of one level. -/
def resolve : Away → ℚ → ℚ
  | .above, level =>
      if level ≤ spec.limit tick .above then resolveStop (spec.adjusted tick .above) level
      else level
  | .below, level =>
      if spec.limit tick .below ≤ level then resolveStop (spec.adjusted tick .below) level
      else level

/-- The validator leaves exactly the levels strictly beyond the limit. -/
def Clears (away : Away) (level : ℚ) : Prop := away.Further (spec.limit tick away) level

variable {spec tick}

theorem Clears.allows {away : Away} {level : ℚ} (h : spec.Clears tick away level) :
    spec.Allows tick away level := by
  cases away <;> exact le_of_lt h

theorem resolve_of_clears {away : Away} {level : ℚ} (h : spec.Clears tick away level) :
    spec.resolve tick away level = level := by
  cases away <;> exact if_neg (not_le.mpr h)

theorem resolve_of_not_clears {away : Away} {level : ℚ} (h : ¬spec.Clears tick away level) :
    spec.resolve tick away level = resolveStop (spec.adjusted tick away) level := by
  cases away <;> exact if_pos (not_lt.mp h)

/-- A level no price can replace stays, and so does one that is its own replacement. -/
theorem resolve_eq_self_iff {away : Away} {level : ℚ} :
    spec.resolve tick away level = level ↔
      spec.Clears tick away level ∨ spec.adjusted tick away ≤ 0 ∨
        spec.adjusted tick away = level := by
  by_cases h : spec.Clears tick away level
  · simp [resolve_of_clears h, h]
  · rw [resolve_of_not_clears h, resolveStop]
    split
    · rename_i hneg
      simp [hneg]
    · rename_i hpos
      simp [h, hpos]

end SymbolSpec

/-- The four checks of `_validate_buy_stops` and `_validate_sell_stops` are one. -/
theorem validateStops_eq {tick : Tick} (hbid : 0 < tick.bid) (hask : 0 < tick.ask)
    (spec : SymbolSpec) (side : Side) (sl tp : Option ℚ) :
    validateStops (some spec) side tick sl tp =
      (sl.map (spec.resolve tick side.slAway), tp.map (spec.resolve tick side.tpAway)) := by
  have hquote : ¬(tick.bid ≤ 0 ∨ tick.ask ≤ 0) := by
    rw [not_or, not_le, not_le]
    exact ⟨hbid, hask⟩
  simp only [validateStops, if_neg hquote]
  cases side <;> rfl

/-! ## The validator keeps its distance -/

/-- A symbol and a quote as a broker gives them: distances are not negative, and a point is no
finer than the digits. -/
structure SymbolSpec.Quoted (spec : SymbolSpec) (tick : Tick) : Prop where
  stopsLevel : 0 ≤ spec.stopsLevel
  point : 1 / 10 ^ spec.digits ≤ spec.point
  bid : 0 < tick.bid
  ask : tick.bid ≤ tick.ask

namespace SymbolSpec.Quoted

variable {spec : SymbolSpec} {tick : Tick} (h : spec.Quoted tick)

include h

theorem point_pos : 0 < spec.point :=
  lt_of_lt_of_le (by positivity) h.point

/-- Rounding takes back half a point at most of the one that was added. -/
theorem adjusted_clears (away : Away) : spec.Clears tick away (spec.adjusted tick away) := by
  have hpoint := h.point
  have hpos := h.point_pos
  have hround : ∀ x, |pyRoundTo x spec.digits - x| ≤ spec.point / 2 := fun x =>
    (abs_pyRoundTo_sub_le x spec.digits).trans (by linarith)
  cases away with
  | above =>
      have hlow := (abs_le.mp (hround (spec.limit tick .above + spec.point))).1
      show spec.limit tick .above < pyRoundTo _ _
      linarith
  | below =>
      have hhigh := (abs_le.mp (hround (spec.limit tick .below - spec.point))).2
      show pyRoundTo _ _ < spec.limit tick .below
      linarith

end SymbolSpec.Quoted

structure SymbolSpec.Validated (spec : SymbolSpec) (tick : Tick) (away : Away)
    (level result : ℚ) : Prop where
  /-- Far enough, or kept because there is no price to replace it. -/
  distance : spec.Allows tick away result ∨ result = level ∧ spec.adjusted tick away ≤ 0
  further : result ≠ level → away.Further level result

theorem SymbolSpec.Quoted.validated {spec : SymbolSpec} {tick : Tick} (h : spec.Quoted tick)
    (away : Away) (level : ℚ) :
    spec.Validated tick away level (spec.resolve tick away level) := by
  by_cases hclear : spec.Clears tick away level
  · rw [resolve_of_clears hclear]
    exact ⟨Or.inl hclear.allows, fun hne => absurd rfl hne⟩
  · rw [resolve_of_not_clears hclear, resolveStop]
    split
    · rename_i hneg
      exact ⟨Or.inr ⟨rfl, hneg⟩, fun hne => absurd rfl hne⟩
    · have hadjusted := h.adjusted_clears away
      refine ⟨Or.inl hadjusted.allows, fun _ => ?_⟩
      cases away with
      | above => exact lt_of_le_of_lt (not_lt.mp hclear) hadjusted
      | below => exact lt_of_lt_of_le hadjusted (not_lt.mp hclear)

/-- A second pass finds nothing to do: a moved level clears the limit, and one that could not be
moved cannot be moved again. -/
theorem SymbolSpec.Quoted.resolve_resolve {spec : SymbolSpec} {tick : Tick}
    (h : spec.Quoted tick) (away : Away) (level : ℚ) :
    spec.resolve tick away (spec.resolve tick away level) = spec.resolve tick away level := by
  by_cases hclear : spec.Clears tick away level
  · rw [resolve_of_clears hclear, resolve_of_clears hclear]
  · rw [resolve_of_not_clears hclear, resolveStop]
    split
    · rename_i hneg
      exact resolve_eq_self_iff.mpr (Or.inr (Or.inl hneg))
    · exact resolve_of_clears (h.adjusted_clears away)

/-- **`StopValidator` is correct, one-directional and idempotent.** -/
theorem validateStops_correct {spec : SymbolSpec} {tick : Tick} (h : spec.Quoted tick)
    (side : Side) (sl tp : Option ℚ) :
    let stops := validateStops (some spec) side tick sl tp
    Option.Rel (spec.Validated tick side.slAway) sl stops.1 ∧
      Option.Rel (spec.Validated tick side.tpAway) tp stops.2 ∧
      validateStops (some spec) side tick stops.1 stops.2 = stops := by
  have hask : 0 < tick.ask := lt_of_lt_of_le h.bid h.ask
  have hrel : ∀ away (level : Option ℚ),
      Option.Rel (spec.Validated tick away) level (level.map (spec.resolve tick away)) := by
    intro away level
    cases level with
    | none => exact Option.Rel.none
    | some level => exact Option.Rel.some (h.validated away level)
  simp only [validateStops_eq h.bid hask, Option.map_map]
  refine ⟨hrel _ _, hrel _ _, ?_⟩
  have hidem : ∀ away, spec.resolve tick away ∘ spec.resolve tick away = spec.resolve tick away :=
    fun away => funext (h.resolve_resolve away)
  rw [hidem, hidem]

/-- A EURUSD-like symbol with a stops level of ten points. -/
def tightQuote : SymbolSpec where
  resolvedName := "EURUSD"
  point := 1 / 100000
  digits := 5
  volumeMin := 1 / 100
  volumeStep := 1 / 100
  volumeMax := 50
  tickValue := 1
  tickSize := 1 / 100000
  contractSize := 100000
  stopsLevel := 10

def onePip : Tick where
  bid := 108 / 100
  ask := 10801 / 10000

theorem tightQuote_quoted : tightQuote.Quoted onePip :=
  ⟨by decide, by norm_num [tightQuote], by norm_num [onePip], by norm_num [onePip]⟩

theorem tightQuote_correct :
    let stops := validateStops (some tightQuote) .long onePip (some (108 / 100)) (some 0)
    Option.Rel (tightQuote.Validated onePip .below) (some (108 / 100)) stops.1 ∧
      Option.Rel (tightQuote.Validated onePip .above) (some 0) stops.2 ∧
      validateStops (some tightQuote) .long onePip stops.1 stops.2 = stops :=
  validateStops_correct tightQuote_quoted .long _ _

/-! ## The guard and the validator -/

namespace Guard

/-- What a signal the guard accepts has not passed: its target and its stop, where it has them. -/
theorem staleSignalRejection_none {signal : Signal} {side : Side}
    (hside : signal.action.side? = some side) {price : ℚ} (hprice : 0 < price)
    {settings : WorkerSettings} (h : staleSignalRejection signal (some price) settings = none) :
    (∀ tp ∈ num? signal.tp2, side.tpAway.Further price tp) ∧
      ∀ sl ∈ num? signal.sl, side.slAway.Further price sl := by
  unfold staleSignalRejection at h
  simp only [if_neg (not_le.mpr hprice)] at h
  by_cases htp : (num? signal.tp2).any (passed (signal.action = .long) price)
  · simp [if_pos htp] at h
  rw [if_neg htp] at h
  by_cases hsl : (num? signal.sl).any (passed (!(signal.action = .long)) price)
  · simp [if_pos hsl] at h
  constructor
  · intro tp hmem
    rw [hmem] at htp
    cases hs : signal.action <;> rw [hs] at hside htp <;> cases hside <;>
      simpa [passed, Side.tpAway, Away.Further] using htp
  · intro sl hmem
    rw [hmem] at hsl
    cases hs : signal.action <;> rw [hs] at hside hsl <;> cases hside <;>
      simpa [passed, Side.slAway, Away.Further] using hsl

end Guard


/-- A stop beyond the side of the quote that triggers it: the bid closes a LONG, the ask a
SHORT. -/
def Tick.OutsideSpread (tick : Tick) : Side → ℚ → Prop
  | .long, sl => sl < tick.bid
  | .short, sl => tick.ask < sl

/-- Without a stops level a level rests on the right side of the quote or is moved. -/
theorem SymbolSpec.clears_slAway_iff {spec : SymbolSpec} (hlevel : spec.stopsLevel = 0)
    (tick : Tick) (side : Side) (sl : ℚ) :
    spec.Clears tick side.slAway sl ↔ tick.OutsideSpread side sl := by
  cases side <;> simp [Clears, Side.slAway, Away.Further, limit, stopDist, hlevel,
    Tick.OutsideSpread]

theorem SymbolSpec.clears_tpAway_iff {spec : SymbolSpec} (hlevel : spec.stopsLevel = 0)
    (tick : Tick) (side : Side) (tp : ℚ) :
    spec.Clears tick side.tpAway tp ↔
      side.tpAway.Further (ForexExecutor.entryQuote side tick) tp := by
  cases side <;> simp [Clears, Side.tpAway, Away.Further, limit, stopDist, hlevel,
    ForexExecutor.entryQuote]

/-- **The guard and the validator agree** on the levels of an accepted entry exactly when its
stop does not rest inside the spread. The target fills and is triggered at the same side. -/
theorem acceptedLevels_kept_iff {signal : Signal} {side : Side}
    (hside : signal.action.side? = some side) {spec : SymbolSpec} (hlevel : spec.stopsLevel = 0)
    {tick : Tick} (hbid : 0 < tick.bid) (hask : tick.bid ≤ tick.ask)
    (htp : signal.tp2 ≠ some 0) {settings : WorkerSettings}
    (haccepted : Guard.staleSignalRejection signal
      (some (ForexExecutor.entryQuote side tick)) settings = none) :
    validateStops (some spec) side tick signal.sl signal.tp2 = (signal.sl, signal.tp2) ↔
      ∀ sl ∈ signal.sl, tick.OutsideSpread side sl ∨ spec.adjusted tick side.slAway ≤ 0 ∨
        spec.adjusted tick side.slAway = sl := by
  have haskpos : 0 < tick.ask := lt_of_lt_of_le hbid hask
  have hprice : 0 < ForexExecutor.entryQuote side tick := by
    cases side <;> assumption
  obtain ⟨htarget, -⟩ := Guard.staleSignalRejection_none hside hprice haccepted
  rw [validateStops_eq hbid haskpos, Prod.mk.injEq]
  have hkept : signal.tp2.map (spec.resolve tick side.tpAway) = signal.tp2 := by
    cases hs : signal.tp2 with
    | none => rfl
    | some tp =>
        have hne : tp ≠ 0 := fun h0 => htp (h0 ▸ hs)
        have hfurther := htarget tp (by simp [hs, num?, hne])
        have hclears := (SymbolSpec.clears_tpAway_iff hlevel tick side tp).mpr hfurther
        rw [Option.map_some, SymbolSpec.resolve_of_clears hclears]
  rw [and_iff_left hkept]
  cases hs : signal.sl with
  | none => simp
  | some sl =>
      simp [SymbolSpec.resolve_eq_self_iff, SymbolSpec.clears_slAway_iff hlevel]

/-- A LONG at the ask of `onePip`. -/
def longAtAsk (sl : ℚ) : Signal where
  strategy := "trend"
  timestamp := 0
  action := .long
  symbol := "EURUSD"
  price := some (10801 / 10000)
  sl := some sl
  tp2 := some (109 / 100)

theorem longAtAsk_kept :
    validateStops (some { tightQuote with stopsLevel := 0 }) .long onePip
      (longAtAsk (107 / 100)).sl (longAtAsk (107 / 100)).tp2 =
        ((longAtAsk (107 / 100)).sl, (longAtAsk (107 / 100)).tp2) := by
  have haccepted : Guard.staleSignalRejection (longAtAsk (107 / 100))
      (some (ForexExecutor.entryQuote .long onePip)) {} = none := by
    decide +kernel
  refine (acceptedLevels_kept_iff rfl rfl (by decide +kernel) (by decide +kernel)
    (by decide +kernel) haccepted).mpr ?_
  rintro sl ⟨⟩
  exact Or.inl (by decide +kernel : (107 / 100 : ℚ) < 108 / 100)

/-- A stop between bid and ask passes the guard, and the validator puts another in its place. -/
theorem stopInSpread_moved :
    Guard.staleSignalRejection (longAtAsk (108005 / 100000))
        (some (ForexExecutor.entryQuote .long onePip)) {} = none ∧
      validateStops (some { tightQuote with stopsLevel := 0 }) .long onePip
        (longAtAsk (108005 / 100000)).sl (longAtAsk (108005 / 100000)).tp2 =
          (some (107999 / 100000), some (109 / 100)) ∧
      (longAtAsk (108005 / 100000)).sl = some (108005 / 100000) := by
  decide +kernel

end TradeWorker
