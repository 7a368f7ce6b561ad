import Mathlib.Algebra.Order.Floor.Ring
import Mathlib.Data.Rat.Floor
import Mathlib.NumberTheory.Padics.PadicVal.Defs
import TradeWorker.Work

/-!
# Lots and stops

`LotSizer` and `StopValidator`: the platform-agnostic arithmetic behind a forex
entry. Both read a `SymbolSpec` the platform may fail to give. Python's `round`
is half-even, and a zero step divides by zero.
-/

namespace TradeWorker

/-! ## Rounding -/

/-- `round(x, digits)`. -/
def pyRoundTo (x : ℚ) (digits : Nat) : ℚ :=
  pyRound (x * 10 ^ digits) / 10 ^ digits

/-- `_decimals_for_step`: the decimal places of a step that is a finite
decimal. -/
def decimalsForStep (step : ℚ) : Nat :=
  max (padicValNat 2 step.den) (padicValNat 5 step.den)

/-- `math.floor((x + 1e-9) / step) * step`. -/
def floorToStep (x step : ℚ) : ℚ := ⌊(x + 1 / 10 ^ 9) / step⌋ * step

/-- `max(volume_min, min(volume, volume_max))`. -/
def SymbolSpec.clamp (spec : SymbolSpec) (volume : ℚ) : ℚ :=
  max spec.volumeMin (min volume spec.volumeMax)

/-! ## `LotSizer` -/

def calculateLotSize (spec : Option SymbolSpec) (entryPrice slPrice riskPercent
    capital : ℚ) : Except Exn ℚ :=
  match spec with
  | none => .ok (1 / 100)
  | some spec =>
      let riskCash := capital * (riskPercent / 100)
      if spec.point ≤ 0 then .ok spec.volumeMin
      else
        let slDistancePoints := |entryPrice - slPrice| / spec.point
        if slDistancePoints ≤ 0 then .ok spec.volumeMin
        else if spec.tickSize = 0 ∨ spec.tickValue = 0 then .ok spec.volumeMin
        else
          let pointValue := spec.tickValue / spec.tickSize * spec.point
          let calculatedLot := riskCash / (slDistancePoints * pointValue)
          if spec.volumeStep = 0 then .error .zeroDivision
          else
            let roundedLot := pyRound (calculatedLot / spec.volumeStep) * spec.volumeStep
            let finalLot := spec.clamp roundedLot
            .ok (if 1 / 100 ≤ spec.volumeStep then pyRoundTo finalLot 2 else finalLot)

def convertQuantityToLots (spec : Option SymbolSpec) (quantity : ℚ) : Except Exn ℚ :=
  match spec with
  | none => .ok (1 / 100)
  | some spec =>
      if spec.contractSize ≤ 0 then .ok quantity
      else if spec.volumeStep = 0 then .error .zeroDivision
      else
        let roundedLot := floorToStep (quantity / spec.contractSize) spec.volumeStep
        .ok (pyRoundTo (spec.clamp roundedLot) (decimalsForStep spec.volumeStep))

/-- `convert_quantity_to_lots` on a signal that may carry no quantity: `None`
comes back where the quantity is returned as is, and fails where it is divided. -/
def convertSignalQuantity (spec : Option SymbolSpec) (quantity : Option ℚ) :
    Except Exn (Option ℚ) :=
  match quantity, spec with
  | some quantity, spec => (convertQuantityToLots spec quantity).map some
  | none, none => .ok (some (1 / 100))
  | none, some spec =>
      if spec.contractSize ≤ 0 then .ok none
      else .error (.typeError "unsupported operand type(s) for /: 'NoneType' and 'float'")

def normalizeVolume (spec : Option SymbolSpec) (volume : ℚ) : Except Exn ℚ :=
  match spec with
  | none => .ok volume
  | some spec =>
      if spec.volumeStep = 0 then .error .zeroDivision
      else
        let rounded := floorToStep volume spec.volumeStep
        .ok (pyRoundTo (spec.clamp rounded) (decimalsForStep spec.volumeStep))

/-! ## `StopValidator` -/

/-- `_resolve_stop`: the adjusted stop, unless it is no price at all. -/
def resolveStop (candidate original : ℚ) : ℚ :=
  if candidate ≤ 0 then original else candidate

def validateSellStops (sl tp : Option ℚ) (tick : Tick) (stopDist point : ℚ)
    (digits : Nat) : Option ℚ × Option ℚ :=
  let minSl := tick.ask + stopDist
  let maxTp := tick.bid - stopDist
  (sl.map fun sl =>
      if sl ≤ minSl then resolveStop (pyRoundTo (minSl + point) digits) sl else sl,
   tp.map fun tp =>
      if maxTp ≤ tp then resolveStop (pyRoundTo (maxTp - point) digits) tp else tp)

def validateBuyStops (sl tp : Option ℚ) (tick : Tick) (stopDist point : ℚ)
    (digits : Nat) : Option ℚ × Option ℚ :=
  let maxSl := tick.bid - stopDist
  let minTp := tick.ask + stopDist
  (sl.map fun sl =>
      if maxSl ≤ sl then resolveStop (pyRoundTo (maxSl - point) digits) sl else sl,
   tp.map fun tp =>
      if tp ≤ minTp then resolveStop (pyRoundTo (minTp + point) digits) tp else tp)

def validateStops (spec : Option SymbolSpec) (side : Side) (tick : Tick)
    (sl tp : Option ℚ) : Option ℚ × Option ℚ :=
  match spec with
  | none => (sl, tp)
  | some spec =>
      if tick.bid ≤ 0 ∨ tick.ask ≤ 0 then (sl, tp)
      else
        let stopDist := spec.stopsLevel * spec.point
        match side with
        | .short => validateSellStops sl tp tick stopDist spec.point spec.digits
        | .long => validateBuyStops sl tp tick stopDist spec.point spec.digits

end TradeWorker
