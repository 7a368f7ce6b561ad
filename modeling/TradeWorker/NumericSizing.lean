import TradeWorker.ForexSizing
import TradeWorker.Numbers

/-!
# Lots and stops over any numbers

`LotSizer` and `StopValidator` once more, over the numbers of `Arith`. With rationals they are
the exact ones. With doubles a quotient may be infinite or no number, which `math.floor` and
`round` refuse, and a product may be zero though its factors are not.
-/

namespace TradeWorker.Numeric

open Arith

variable {N : Type} [Arith N]

/-! ## What raises -/

section Raises

variable [Div N] [BEq N]

/-- `x / y`. -/
def quotient (x y : N) : Except Exn N :=
  if y == near 0 then .error .zeroDivision else .ok (x / y)

theorem quotient_ok_iff {x y : N} : (∃ z, quotient x y = .ok z) ↔ (y == near 0) = false := by
  unfold quotient
  split
  · rename_i hzero
    simp [hzero]
  · rename_i hne
    simpa using hne

theorem quotient_of_ne {x y : N} (h : (y == near 0) = false) : quotient x y = .ok (x / y) := by
  rw [quotient, h]
  rfl

end Raises

theorem ok_bind_iff {α β : Type} {x : Except Exn α} {f : α → Except Exn β} :
    (∃ b, (x >>= f) = .ok b) ↔ ∃ a, x = .ok a ∧ ∃ b, f a = .ok b := by
  cases x with
  | error e => simp [bind, Except.bind]
  | ok a => simp [bind, Except.bind]

/-- An integer made of a number. -/
def integral (round : ℚ → ℤ) (x : N) : Except Exn ℤ :=
  match value x with
  | .ok q => .ok (round q)
  | .error .infinite =>
      .error (.other "OverflowError: cannot convert float infinity to integer")
  | .error .nan => .error (.valueError "cannot convert float NaN to integer")

/-- `_decimals_for_step`: the exponent of an infinity is a text. -/
def decimalsForStep (step : N) : Except Exn ℕ :=
  match value step with
  | .ok _ => .ok (decimals step)
  | .error _ => .error (.typeError "bad operand type for unary -: 'str'")

theorem integral_ok_iff {round : ℚ → ℤ} {x : N} :
    (∃ n, integral round x = .ok n) ↔ HasValue x := by
  unfold integral HasValue
  rcases value x with (_ | _) | q <;> simp

theorem decimalsForStep_ok_iff {step : N} :
    (∃ n, decimalsForStep step = .ok n) ↔ HasValue step := by
  unfold decimalsForStep HasValue
  rcases value step with _ | q <;> simp

/-! ## What does not -/

/-- `round(x, digits)`, which leaves an infinity as it is. -/
def roundTo (x : N) (digits : ℕ) : N :=
  match value x with
  | .ok q => near (pyRoundTo q digits)
  | .error _ => x

section Operations

variable [LT N] [DecidableLT N]

/-- `max(x, y)`: the first, unless the second is greater. -/
def larger (x y : N) : N := if x < y then y else x

/-- `min(x, y)`. -/
def smaller (x y : N) : N := if y < x then y else x

structure SymbolSpec (N : Type) where
  resolvedName : String
  point : N
  digits : ℕ
  volumeMin : N
  volumeStep : N
  volumeMax : N
  tickValue : N
  tickSize : N
  contractSize : N
  stopsLevel : ℤ

structure Tick (N : Type) where
  bid : N
  ask : N

/-- `max(volume_min, min(volume, volume_max))`. -/
def SymbolSpec.clamp (spec : SymbolSpec N) (volume : N) : N :=
  larger spec.volumeMin (smaller volume spec.volumeMax)

/-! ## `LotSizer` -/

variable [Add N] [Mul N] [Div N] [BEq N]

/-- `math.floor((volume + 1e-9) / step) * step`. The integer a number is rounded to is one of
the numbers. -/
def floorToStep (volume step : N) : Except Exn N := do
  let ratio ← quotient (volume + near (1 / 10 ^ 9)) step
  let steps ← integral Int.floor ratio
  pure (near steps * step)

/-- The volume on the symbol's steps and between its bounds. -/
def SymbolSpec.fit (spec : SymbolSpec N) (volume : N) : Except Exn N := do
  let rounded ← floorToStep volume spec.volumeStep
  let digits ← decimalsForStep spec.volumeStep
  pure (roundTo (spec.clamp rounded) digits)

/-- A volume can be counted in steps. -/
structure SymbolSpec.Fits (spec : SymbolSpec N) (volume : N) : Prop where
  step : (spec.volumeStep == near 0) = false
  digits : HasValue spec.volumeStep
  steps : HasValue ((volume + near (1 / 10 ^ 9)) / spec.volumeStep)

theorem fit_ok_iff {spec : SymbolSpec N} {volume : N} :
    (∃ lot, spec.fit volume = .ok lot) ↔ spec.Fits volume := by
  have hfloor : (∃ lot, floorToStep volume spec.volumeStep = .ok lot) ↔
      (spec.volumeStep == near 0) = false ∧
        HasValue ((volume + near (1 / 10 ^ 9)) / spec.volumeStep) := by
    unfold floorToStep quotient
    split
    · rename_i hzero
      simp [hzero, bind, Except.bind]
    · rename_i hne
      rw [ok_bind_iff]
      constructor
      · rintro ⟨ratio, hratio, hrest⟩
        obtain ⟨steps, hsteps, -⟩ := ok_bind_iff.mp hrest
        cases hratio
        exact ⟨by simpa using hne, integral_ok_iff.mp ⟨steps, hsteps⟩⟩
      · rintro ⟨-, hfinite⟩
        obtain ⟨steps, hsteps⟩ := integral_ok_iff.mpr hfinite
        exact ⟨_, rfl, ok_bind_iff.mpr ⟨steps, hsteps, _, rfl⟩⟩
  unfold SymbolSpec.fit
  rw [ok_bind_iff]
  constructor
  · rintro ⟨rounded, hrounded, hrest⟩
    obtain ⟨digits, hdigits, -⟩ := ok_bind_iff.mp hrest
    obtain ⟨hstep, hsteps⟩ := hfloor.mp ⟨rounded, hrounded⟩
    exact ⟨hstep, decimalsForStep_ok_iff.mp ⟨digits, hdigits⟩, hsteps⟩
  · intro h
    obtain ⟨rounded, hrounded⟩ := hfloor.mpr ⟨h.step, h.steps⟩
    obtain ⟨digits, hdigits⟩ := decimalsForStep_ok_iff.mpr h.digits
    exact ⟨rounded, hrounded, ok_bind_iff.mpr ⟨digits, hdigits, _, rfl⟩⟩

variable [LE N] [DecidableLE N]

/-- `convert_quantity_to_lots`, of a quantity that may be missing. -/
def convertQuantityToLots (spec : Option (SymbolSpec N)) (quantity : Option N) :
    Except Exn (Option N) :=
  match spec with
  | none => .ok (some (near (1 / 100)))
  | some spec =>
      if spec.contractSize ≤ near 0 then .ok quantity
      else
        match quantity with
        | none => .error (.typeError "unsupported operand type(s) for /: 'NoneType' and 'float'")
        | some quantity => (spec.fit (quantity / spec.contractSize)).map some

theorem convertQuantityToLots_ok_iff {spec : Option (SymbolSpec N)} {quantity : Option N} :
    (∃ lots, convertQuantityToLots spec quantity = .ok lots) ↔
      ∀ given ∈ spec, ¬given.contractSize ≤ near 0 →
        ∃ units ∈ quantity, given.Fits (units / given.contractSize) := by
  cases spec with
  | none => simp [convertQuantityToLots]
  | some given =>
      simp only [convertQuantityToLots, Option.mem_def, Option.some.injEq, forall_eq']
      split
      · rename_i hsize
        exact ⟨fun _ h => absurd hsize h, fun _ => ⟨_, rfl⟩⟩
      rename_i hsize
      cases quantity with
      | none => simp [hsize]
      | some units =>
          have hmap : (∃ lots, (given.fit (units / given.contractSize)).map some = .ok lots) ↔
              ∃ lot, given.fit (units / given.contractSize) = .ok lot := by
            rcases given.fit (units / given.contractSize) with e | lot <;> simp [Except.map]
          simpa [hsize] using hmap.trans fit_ok_iff

variable [Sub N]

/-- `calculate_lot_size`. The divisors it has compared with zero are divided by as they are. -/
def calculateLotSize (spec : Option (SymbolSpec N)) (entryPrice slPrice riskPercent capital : N) :
    Except Exn N :=
  match spec with
  | none => .ok (near (1 / 100))
  | some spec =>
      let riskCash := capital * (riskPercent / near 100)
      if spec.point ≤ near 0 then .ok spec.volumeMin
      else
        let slDistancePoints := abs (entryPrice - slPrice) / spec.point
        if slDistancePoints ≤ near 0 then .ok spec.volumeMin
        else if spec.tickSize == near 0 || spec.tickValue == near 0 then .ok spec.volumeMin
        else do
          let pointValue := spec.tickValue / spec.tickSize * spec.point
          let calculatedLot ← quotient riskCash (slDistancePoints * pointValue)
          let ratio ← quotient calculatedLot spec.volumeStep
          let steps ← integral pyRound ratio
          let finalLot := spec.clamp (near steps * spec.volumeStep)
          pure (if near (1 / 100) ≤ spec.volumeStep then roundTo finalLot 2 else finalLot)

/-- The distance to a stop has a price. -/
structure SymbolSpec.Prices (spec : SymbolSpec N) (price sl : N) : Prop where
  point : ¬spec.point ≤ near 0
  distance : ¬abs (price - sl) / spec.point ≤ near 0
  tickSize : (spec.tickSize == near 0) = false
  tickValue : (spec.tickValue == near 0) = false

def SymbolSpec.lossPerLot (spec : SymbolSpec N) (price sl : N) : N :=
  abs (price - sl) / spec.point * (spec.tickValue / spec.tickSize * spec.point)

/-- A lot that loses something can be counted in steps. -/
structure SymbolSpec.Risks (spec : SymbolSpec N) (price sl riskPercent capital : N) : Prop where
  loss : (spec.lossPerLot price sl == near 0) = false
  step : (spec.volumeStep == near 0) = false
  steps : HasValue
    (capital * (riskPercent / near 100) / spec.lossPerLot price sl / spec.volumeStep)

omit [Add N] in
theorem calculateLotSize_ok_iff {spec : Option (SymbolSpec N)} {price sl risk capital : N} :
    (∃ lot, calculateLotSize spec price sl risk capital = .ok lot) ↔
      ∀ given ∈ spec, given.Prices price sl → given.Risks price sl risk capital := by
  cases spec with
  | none => simp [calculateLotSize]
  | some given =>
      simp only [calculateLotSize, Option.mem_def, Option.some.injEq, forall_eq']
      split
      · rename_i hpoint
        exact ⟨fun _ h => absurd hpoint h.point, fun _ => ⟨_, rfl⟩⟩
      rename_i hpoint
      split
      · rename_i hdistance
        exact ⟨fun _ h => absurd hdistance h.distance, fun _ => ⟨_, rfl⟩⟩
      rename_i hdistance
      split
      · rename_i htick
        rw [Bool.or_eq_true] at htick
        refine ⟨fun _ h => ?_, fun _ => ⟨_, rfl⟩⟩
        rcases htick with hsize | hvalue
        · rw [h.tickSize] at hsize
          cases hsize
        · rw [h.tickValue] at hvalue
          cases hvalue
      rename_i htick
      rw [Bool.or_eq_true, not_or, Bool.not_eq_true, Bool.not_eq_true] at htick
      have hprices : given.Prices price sl := ⟨hpoint, hdistance, htick.1, htick.2⟩
      simp only [hprices, forall_const]
      rw [ok_bind_iff]
      constructor
      · rintro ⟨lot, hlot, hrest⟩
        obtain ⟨ratio, hratio, hrest⟩ := ok_bind_iff.mp hrest
        obtain ⟨steps, hsteps, -⟩ := ok_bind_iff.mp hrest
        have hloss := quotient_ok_iff.mp ⟨lot, hlot⟩
        have hstep := quotient_ok_iff.mp ⟨ratio, hratio⟩
        rw [quotient_of_ne hloss] at hlot
        cases hlot
        rw [quotient_of_ne hstep] at hratio
        cases hratio
        exact ⟨hloss, hstep, integral_ok_iff.mp ⟨steps, hsteps⟩⟩
      · intro h
        have hloss := h.loss
        unfold SymbolSpec.lossPerLot at hloss
        obtain ⟨steps, hsteps⟩ := integral_ok_iff.mpr h.steps
        exact ⟨_, quotient_of_ne hloss, ok_bind_iff.mpr ⟨_, quotient_of_ne h.step,
          ok_bind_iff.mpr ⟨steps, hsteps, _, rfl⟩⟩⟩

end Operations

/-! ## `StopValidator` -/

variable [Add N] [Sub N] [Mul N] [LE N] [DecidableLE N]

def resolveStop (candidate original : N) : N :=
  if candidate ≤ near 0 then original else candidate

def validateSellStops (sl tp : Option N) (tick : Tick N) (stopDist point : N) (digits : ℕ) :
    Option N × Option N :=
  let minSl := tick.ask + stopDist
  let maxTp := tick.bid - stopDist
  (sl.map fun sl => if sl ≤ minSl then resolveStop (roundTo (minSl + point) digits) sl else sl,
   tp.map fun tp => if maxTp ≤ tp then resolveStop (roundTo (maxTp - point) digits) tp else tp)

def validateBuyStops (sl tp : Option N) (tick : Tick N) (stopDist point : N) (digits : ℕ) :
    Option N × Option N :=
  let maxSl := tick.bid - stopDist
  let minTp := tick.ask + stopDist
  (sl.map fun sl => if maxSl ≤ sl then resolveStop (roundTo (maxSl - point) digits) sl else sl,
   tp.map fun tp => if tp ≤ minTp then resolveStop (roundTo (minTp + point) digits) tp else tp)

def validateStops (spec : Option (SymbolSpec N)) (side : Side) (tick : Tick N)
    (sl tp : Option N) : Option N × Option N :=
  match spec with
  | none => (sl, tp)
  | some spec =>
      if tick.bid ≤ near 0 ∨ tick.ask ≤ near 0 then (sl, tp)
      else
        let stopDist := near spec.stopsLevel * spec.point
        match side with
        | .short => validateSellStops sl tp tick stopDist spec.point spec.digits
        | .long => validateBuyStops sl tp tick stopDist spec.point spec.digits
/-! ## With rationals -/

/-- The rules of a symbol, to be computed with as they are. -/
def exactSpec (spec : TradeWorker.SymbolSpec) : SymbolSpec ℚ where
  resolvedName := spec.resolvedName
  point := spec.point
  digits := spec.digits
  volumeMin := spec.volumeMin
  volumeStep := spec.volumeStep
  volumeMax := spec.volumeMax
  tickValue := spec.tickValue
  tickSize := spec.tickSize
  contractSize := spec.contractSize
  stopsLevel := spec.stopsLevel

def exactTick (tick : TradeWorker.Tick) : Tick ℚ where
  bid := tick.bid
  ask := tick.ask

section Exact

variable (spec : TradeWorker.SymbolSpec)

theorem clamp_exact (volume : ℚ) : (exactSpec spec).clamp volume = spec.clamp volume := by
  have hsmaller : smaller volume spec.volumeMax = min volume spec.volumeMax := by
    rw [smaller, min_comm, min_def_lt]
  have hlarger : ∀ x, larger spec.volumeMin x = max spec.volumeMin x := fun x => by
    rw [larger, max_def_lt]
  show larger spec.volumeMin (smaller volume spec.volumeMax) = _
  rw [hsmaller, hlarger]
  rfl

/-- A step of zero is the one thing that raises. -/
theorem fit_exact (volume : ℚ) :
    (exactSpec spec).fit volume = normalizeVolume (some spec) volume := by
  show (floorToStep volume spec.volumeStep >>= _) = _
  unfold floorToStep quotient normalizeVolume
  by_cases hstep : spec.volumeStep = 0
  · have hzero : (spec.volumeStep == near 0) = true := beq_iff_eq.mpr hstep
    rw [if_pos hzero]
    simp [hstep, bind, Except.bind]
  · have hne : ¬(spec.volumeStep == near 0) = true := mt beq_iff_eq.mp hstep
    rw [if_neg hne]
    simp only [if_neg hstep]
    exact congrArg (fun x => Except.ok (pyRoundTo x _)) (clamp_exact spec _)

theorem convertQuantityToLots_exact (spec : Option TradeWorker.SymbolSpec) (quantity : Option ℚ) :
    convertQuantityToLots (spec.map exactSpec) quantity = convertSignalQuantity spec quantity := by
  cases spec with
  | none => cases quantity <;> rfl
  | some spec =>
      cases quantity with
      | none => rfl
      | some units =>
          show (if spec.contractSize ≤ 0 then _ else ((exactSpec spec).fit _).map some) = _
          simp only [fit_exact, convertSignalQuantity, TradeWorker.convertQuantityToLots]
          split
          · rfl
          · rfl

theorem calculateLotSize_exact (spec : Option TradeWorker.SymbolSpec)
    (entryPrice slPrice riskPercent capital : ℚ) :
    calculateLotSize (spec.map exactSpec) entryPrice slPrice riskPercent capital =
      TradeWorker.calculateLotSize spec entryPrice slPrice riskPercent capital := by
  cases spec with
  | none => rfl
  | some spec =>
      simp only [Option.map_some, calculateLotSize, TradeWorker.calculateLotSize]
      show (if spec.point ≤ 0 then _ else if |entryPrice - slPrice| / spec.point ≤ 0 then _
        else if (spec.tickSize == 0 || spec.tickValue == 0) = true then _ else _) = _
      split
      · rfl
      rename_i hpoint
      split
      · rfl
      rename_i hdistance
      by_cases htick : spec.tickSize = 0 ∨ spec.tickValue = 0
      · rw [if_pos (by simpa using htick), if_pos htick]
        rfl
      · rw [if_neg (by simpa using htick), if_neg htick]
        rw [not_or] at htick
        -- no factor of the divisor is zero, and so it is not either
        have hloss : ((exactSpec spec).lossPerLot entryPrice slPrice == near 0) = false := by
          refine beq_eq_false_iff_ne.mpr (mul_ne_zero (not_le.mp hdistance).ne' ?_)
          exact mul_ne_zero (div_ne_zero htick.2 htick.1) (not_le.mp hpoint).ne'
        show (quotient _ ((exactSpec spec).lossPerLot entryPrice slPrice) >>= _) = _
        rw [quotient_of_ne hloss]
        by_cases hstep : spec.volumeStep = 0
        · have hzero : (spec.volumeStep == near 0) = true := beq_iff_eq.mpr hstep
          rw [if_pos hstep]
          show (quotient _ spec.volumeStep >>= _) = _
          rw [quotient, if_pos hzero]
          rfl
        · have hne : (spec.volumeStep == near 0) = false := beq_eq_false_iff_ne.mpr hstep
          rw [if_neg hstep]
          show (quotient _ spec.volumeStep >>= _) = _
          rw [quotient_of_ne hne, ← clamp_exact]
          rfl

theorem validateStops_exact (spec : Option TradeWorker.SymbolSpec) (side : Side)
    (tick : TradeWorker.Tick) (sl tp : Option ℚ) :
    validateStops (spec.map exactSpec) side (exactTick tick) sl tp =
      TradeWorker.validateStops spec side tick sl tp := by
  cases spec with
  | none => rfl
  | some spec => cases side <;> rfl

end Exact

end TradeWorker.Numeric
