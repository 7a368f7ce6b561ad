import TradeWorker.CryptoExecutor
import TradeWorker.MarginFit

/-!
# Sizes and the risk budget

Both markets divide the cash at risk by what a lot, or a unit, loses at its stop. The crypto
executor rounds the quotient down to the step, with an epsilon. The forex sizer rounds it to the
nearest step, and again to two decimals where the step is a hundredth or more.
-/

namespace TradeWorker

open Grid (points down)

/-! ## The forex lot -/

def SymbolSpec.lossPerLot (spec : SymbolSpec) (entryPrice slPrice : ℚ) : ℚ :=
  |entryPrice - slPrice| * (spec.tickValue / spec.tickSize)

def riskCash (capital riskPercent : ℚ) : ℚ := capital * (riskPercent / 100)

namespace SymbolSpec

variable (spec : SymbolSpec)

def nearest (lot : ℚ) : ℚ := pyRound (lot / spec.volumeStep) * spec.volumeStep

/-- The two decimals a lot is quoted with, unless the step is finer. -/
def quoted (lot : ℚ) : ℚ := if 1 / 100 ≤ spec.volumeStep then pyRoundTo lot 2 else lot

/-- What the two decimals add to a lot. -/
def quoteGain (lot : ℚ) : ℚ := if 1 / 100 ≤ spec.volumeStep then roundingGain (1 / 100) lot else 0

/-- What rounding adds to a lot is no more than is left of it, or ends at the minimum. The lot
is rounded to the step first, then to two decimals; beyond the bounds it is the bound that is
rounded. -/
structure KeepsBudget (lot : ℚ) : Prop where
  nearest : spec.volumeMin < lot + roundingGain spec.volumeStep lot →
    lot + roundingGain spec.volumeStep lot < spec.volumeMax →
      roundingGain spec.volumeStep lot +
          spec.quoteGain (lot + roundingGain spec.volumeStep lot) ≤ 0 ∨
        lot + roundingGain spec.volumeStep lot +
          spec.quoteGain (lot + roundingGain spec.volumeStep lot) ≤ spec.volumeMin
  maximum : spec.volumeMin < spec.volumeMax →
    spec.volumeMax ≤ lot + roundingGain spec.volumeStep lot →
      spec.quoteGain spec.volumeMax ≤ lot - spec.volumeMax ∨
        spec.volumeMax + spec.quoteGain spec.volumeMax ≤ spec.volumeMin
  minimum : lot + roundingGain spec.volumeStep lot ≤ spec.volumeMin ∨
      spec.volumeMax ≤ spec.volumeMin →
    spec.quoteGain spec.volumeMin ≤ lot - spec.volumeMin ∨ spec.quoteGain spec.volumeMin ≤ 0

variable {spec}

theorem quoted_eq_add (lot : ℚ) : spec.quoted lot = lot + spec.quoteGain lot := by
  unfold quoted quoteGain
  split_ifs
  · rw [pyRoundTo_eq_add]
    norm_num
  · rw [add_zero]

theorem nearest_eq_add (hstep : spec.volumeStep ≠ 0) (lot : ℚ) :
    spec.nearest lot = lot + roundingGain spec.volumeStep lot :=
  pyRound_mul_eq_add hstep lot

def Covered (spec : SymbolSpec) (budgetLot lot : ℚ) : Prop :=
  spec.volumeMin < lot → lot ≤ budgetLot

theorem covered_quoted_iff {budgetLot lot : ℚ} : spec.Covered budgetLot (spec.quoted lot) ↔
    spec.quoteGain lot ≤ budgetLot - lot ∨ lot + spec.quoteGain lot ≤ spec.volumeMin := by
  rw [Covered, quoted_eq_add, le_sub_iff_add_le', imp_iff_not_or, not_lt, or_comm]

/-- The clamp picks the bound or the lot between, and the lot that is quoted is covered. -/
theorem keepsBudget_iff (hstep : spec.volumeStep ≠ 0) {lot : ℚ} : spec.KeepsBudget lot ↔
    spec.Covered lot (spec.quoted (spec.clamp (spec.nearest lot))) := by
  have hmin : (spec.quoteGain spec.volumeMin ≤ lot - spec.volumeMin ∨
      spec.quoteGain spec.volumeMin ≤ 0) ↔ spec.Covered lot (spec.quoted spec.volumeMin) := by
    rw [covered_quoted_iff, add_le_iff_nonpos_right]
  rw [nearest_eq_add hstep]
  generalize hgrid : lot + roundingGain spec.volumeStep lot = grid
  have hgain : roundingGain spec.volumeStep lot = grid - lot := by rw [← hgrid]; ring
  rcases le_or_gt grid spec.volumeMin with hlow | hlow
  · have hclamp : spec.clamp grid = spec.volumeMin := max_eq_left ((min_le_left _ _).trans hlow)
    rw [hclamp, ← hmin]
    constructor
    · exact fun h => h.minimum (Or.inl (hgrid.trans_le hlow))
    · intro h
      refine ⟨fun hlt => ?_, fun hlt hle => ?_, fun _ => h⟩
      · exact absurd hlow (not_le.mpr (hgrid ▸ hlt))
      · exact absurd ((hgrid ▸ hle).trans hlow) (not_le.mpr hlt)
  rcases le_or_gt spec.volumeMax spec.volumeMin with hbounds | hbounds
  · have hclamp : spec.clamp grid = spec.volumeMin :=
      max_eq_left ((min_le_right _ _).trans hbounds)
    rw [hclamp, ← hmin]
    constructor
    · exact fun h => h.minimum (Or.inr hbounds)
    · intro h
      refine ⟨fun _ hlt => ?_, fun hlt => absurd hbounds (not_le.mpr hlt), fun _ => h⟩
      exact absurd ((hgrid ▸ hlt).le.trans hbounds) (not_le.mpr hlow)
  have hinside : ¬(grid ≤ spec.volumeMin ∨ spec.volumeMax ≤ spec.volumeMin) := by
    rw [not_or, not_le, not_le]
    exact ⟨hlow, hbounds⟩
  rcases lt_or_ge grid spec.volumeMax with hhigh | hhigh
  · have hnearest : (roundingGain spec.volumeStep lot + spec.quoteGain grid ≤ 0 ∨
        grid + spec.quoteGain grid ≤ spec.volumeMin) ↔
          spec.Covered lot (spec.quoted grid) := by
      rw [covered_quoted_iff, hgain]
      refine or_congr_left ⟨fun h => ?_, fun h => ?_⟩ <;> linarith
    rw [clamp_of_mem hlow.le hhigh.le, ← hnearest]
    constructor
    · intro h
      have hkept := h.nearest (hgrid ▸ hlow) (hgrid ▸ hhigh)
      rwa [hgrid] at hkept
    · intro h
      refine ⟨fun _ _ => by rwa [hgrid], fun _ hle => ?_, fun hout => ?_⟩
      · exact absurd hhigh (not_lt.mpr (hgrid ▸ hle))
      · exact absurd (hgrid ▸ hout) hinside
  · have hclamp : spec.clamp grid = spec.volumeMax := by
      rw [clamp, min_eq_right hhigh, max_eq_right hbounds.le]
    rw [hclamp, covered_quoted_iff]
    constructor
    · exact fun h => h.maximum hbounds (hgrid ▸ hhigh)
    · intro h
      refine ⟨fun _ hlt => ?_, fun _ _ => h, fun hout => ?_⟩
      · exact absurd hhigh (not_le.mpr (hgrid ▸ hlt))
      · exact absurd (hgrid ▸ hout) hinside

/-- Where a spec is quoted with two decimals, its step and bounds have no more. -/
def Hundredfold (spec : SymbolSpec) : Prop := 1 / 100 ≤ spec.volumeStep →
  spec.volumeStep ∈ points (1 / 100 : ℚ) ∧ spec.volumeMin ∈ points (1 / 100 : ℚ) ∧
    spec.volumeMax ∈ points (1 / 100 : ℚ)

/-- For such a spec the two decimals add nothing: the budget is kept unless a lot between the
bounds goes up to the next step, or up past a maximum that is over the budget. -/
theorem keepsBudget_of_hundredfold (h : spec.Hundredfold) (hstep : 0 < spec.volumeStep) {lot : ℚ} :
    spec.KeepsBudget lot ↔ (RoundsUp (lot / spec.volumeStep) →
      lot + roundingGain spec.volumeStep lot ≤ spec.volumeMin ∨
        spec.volumeMax ≤ spec.volumeMin ∨ spec.volumeMax ≤ lot) := by
  have hquoted : ∀ {y : ℚ}, (1 / 100 ≤ spec.volumeStep → y ∈ points (1 / 100 : ℚ)) →
      spec.quoteGain y = 0 := by
    intro y hy
    unfold quoteGain
    split_ifs with hcoarse
    · exact roundingGain_of_mem (by norm_num) (hy hcoarse)
    · rfl
  have hmin := hquoted fun hcoarse => (h hcoarse).2.1
  have hmax := hquoted fun hcoarse => (h hcoarse).2.2
  have hgrid : spec.quoteGain (lot + roundingGain spec.volumeStep lot) = 0 := by
    refine hquoted fun hcoarse => ?_
    rw [← pyRound_mul_eq_add hstep.ne']
    exact Grid.points_subset (h hcoarse).1 (Grid.mul_mem_points _)
  have hfract := Int.fract_lt_one (lot / spec.volumeStep)
  have hfract' := Int.fract_nonneg (lot / spec.volumeStep)
  by_cases hup : RoundsUp (lot / spec.volumeStep)
  · have hgain : 0 < roundingGain spec.volumeStep lot := by
      rw [roundingGain, if_pos hup]
      exact mul_pos (by linarith) hstep
    constructor
    · intro hkeeps _
      by_contra hout
      simp only [not_or, not_le] at hout
      obtain ⟨hlow, hbounds, hover⟩ := hout
      rcases lt_or_ge (lot + roundingGain spec.volumeStep lot) spec.volumeMax with hlt | hge
      · rcases hkeeps.nearest hlow hlt with hle | hle <;> linarith
      · rcases hkeeps.maximum hbounds hge with hle | hle <;> linarith
    · intro hout
      refine ⟨fun hlow hhigh => ?_, fun hlow hhigh => ?_, fun _ => Or.inr hmin.le⟩
      · rcases hout hup with hle | hle | hle <;> exfalso <;> linarith
      · rcases hout hup with hle | hle | hle
        · left
          linarith
        · exact absurd hlow (not_lt.mpr hle)
        · left
          linarith
  · have hgain : roundingGain spec.volumeStep lot ≤ 0 := by
      rw [roundingGain, if_neg hup, neg_nonpos]
      exact mul_nonneg hfract' hstep.le
    refine iff_of_true ⟨fun _ _ => ?_, fun _ _ => ?_, fun _ => Or.inr hmin.le⟩
      fun h => absurd h hup <;> left <;> linarith

variable {entryPrice slPrice riskPercent capital : ℚ} (hpoint : 0 < spec.point)
  (htickSize : 0 < spec.tickSize) (htickValue : 0 < spec.tickValue)
  (hstep : 0 < spec.volumeStep) (hdistance : entryPrice ≠ slPrice)

include htickSize htickValue hdistance

theorem lossPerLot_pos : 0 < spec.lossPerLot entryPrice slPrice :=
  mul_pos (abs_pos.mpr (sub_ne_zero.mpr hdistance)) (div_pos htickValue htickSize)

include hpoint hstep

theorem calculateLotSize_eq :
    calculateLotSize (some spec) entryPrice slPrice riskPercent capital =
      .ok (spec.quoted (spec.clamp (spec.nearest
        (riskCash capital riskPercent / spec.lossPerLot entryPrice slPrice)))) := by
  have habs : 0 < |entryPrice - slPrice| := abs_pos.mpr (sub_ne_zero.mpr hdistance)
  have hpoints : ¬|entryPrice - slPrice| / spec.point ≤ 0 := not_le.mpr (div_pos habs hpoint)
  have htick : ¬(spec.tickSize = 0 ∨ spec.tickValue = 0) := by
    rw [not_or]
    exact ⟨htickSize.ne', htickValue.ne'⟩
  have hloss : |entryPrice - slPrice| / spec.point *
      (spec.tickValue / spec.tickSize * spec.point) = spec.lossPerLot entryPrice slPrice := by
    rw [lossPerLot]
    field_simp
  simp only [calculateLotSize, if_neg (not_le.mpr hpoint), if_neg hpoints, if_neg htick,
    if_neg hstep.ne', hloss]
  rfl

end SymbolSpec

/-! ## The crypto quantity -/

namespace SymbolFilter

/-- The floor to the step, with the epsilon of the source. -/
def floored (f : SymbolFilter) (volume : ℚ) : ℚ :=
  down f.stepSize (volume + 1 / 10 ^ 9 * f.stepSize)

theorem floored_mem (f : SymbolFilter) (volume : ℚ) : f.floored volume ∈ points f.stepSize :=
  Grid.down_mem _ _

end SymbolFilter

theorem CryptoExecutor.normalizeWith_eq {f : SymbolFilter} (hstep : 0 < f.stepSize)
    (hdecimal : IsDecimal f.stepSize) (volume : ℚ) :
    CryptoExecutor.normalizeWith f volume = f.floored volume := by
  have hquotient : (volume + 1 / 10 ^ 9 * f.stepSize) / f.stepSize =
      volume / f.stepSize + 1 / 10 ^ 9 := by
    rw [add_div, mul_div_cancel_right₀ _ hstep.ne']
  have hfloored : (⌊volume / f.stepSize + 1 / 10 ^ 9⌋ : ℚ) * f.stepSize = f.floored volume := by
    rw [SymbolFilter.floored, down, hquotient]
  rw [CryptoExecutor.normalizeWith, if_neg (not_le.mpr hstep), hfloored,
    pyRoundTo_decimalsForStep hdecimal (f.floored_mem volume)]

/-- The filter an exchange gives for a symbol, whenever it is asked. -/
def GivesFilter {σ : Type} (S : Prog.Server WorkerOp WorkerOp.Ans Exn σ) (symbol : String)
    (f : SymbolFilter) : Prop :=
  ∀ s, (S (.cx (.getSymbolFilter symbol)) s).1 = .ok f

theorem CryptoExecutor.run_normalizeVolume {σ : Type}
    {S : Prog.Server WorkerOp WorkerOp.Ans Exn σ} {ex : CryptoExecutor} {symbol : String}
    {f : SymbolFilter} (hfilter : GivesFilter S (ex.getSymbol symbol) f) (volume : ℚ) (s : σ) :
    (Prog.run S (ex.normalizeVolume symbol volume) s).1 = .ok (normalizeWith f volume) := by
  rw [normalizeVolume, Prog.run_bind_pure, exchange, Prog.run_perform]
  exact congrArg (Except.map _) (hfilter s)

section Quantity

variable {σ : Type} {S : Prog.Server WorkerOp WorkerOp.Ans Exn σ} {ex : CryptoExecutor}
  {symbol : String} {f : SymbolFilter} (hfilter : GivesFilter S (ex.getSymbol symbol) f)
  (hstep : 0 < f.stepSize) (hdecimal : IsDecimal f.stepSize)
  {entryPrice slPrice riskPercent capital : ℚ} (hdistance : entryPrice ≠ slPrice)

include hfilter hstep hdecimal hdistance

theorem CryptoExecutor.run_calculateQuantity (s : σ) :
    (Prog.run S (ex.calculateQuantity symbol entryPrice slPrice riskPercent capital) s).1 =
      .ok (f.floored (riskCash capital riskPercent / |entryPrice - slPrice|)) := by
  have habs : 0 < |entryPrice - slPrice| := abs_pos.mpr (sub_ne_zero.mpr hdistance)
  rw [calculateQuantity, if_neg (not_le.mpr habs), run_normalizeVolume hfilter,
    normalizeWith_eq hstep hdecimal]
  rfl

end Quantity

/-! ## The budget -/

/-- A lot above the minimum loses no more than the cash at risk. -/
def LotWithinBudget (spec : SymbolSpec) (entryPrice slPrice riskPercent capital : ℚ) : Prop :=
  ∃ lot, calculateLotSize (some spec) entryPrice slPrice riskPercent capital = .ok lot ∧
    (spec.volumeMin < lot →
      lot * (|entryPrice - slPrice| * (spec.tickValue / spec.tickSize)) ≤
        capital * (riskPercent / 100))

/-- A quantity above the minimum loses no more than the cash at risk. -/
def QuantityWithinBudget {σ : Type} (S : Prog.Server WorkerOp WorkerOp.Ans Exn σ) (s : σ)
    (ex : CryptoExecutor) (symbol : String) (f : SymbolFilter)
    (entryPrice slPrice riskPercent capital : ℚ) : Prop :=
  ∃ quantity,
    (Prog.run S (ex.calculateQuantity symbol entryPrice slPrice riskPercent capital) s).1 =
      .ok quantity ∧
    (f.minQty < quantity →
      quantity * |entryPrice - slPrice| ≤ capital * (riskPercent / 100))

/-- The slack of the floor is harmless at a quantity: no grid point above the minimum lies within
it. -/
def SymbolFilter.FloorsBelow (f : SymbolFilter) (quantity : ℚ) : Prop :=
  ∀ y ∈ points f.stepSize, f.minQty < y → quantity < y → quantity + 1 / 10 ^ 9 * f.stepSize < y

/-- **Risk sizing stays within the risk budget** exactly where rounding adds no more to the
forex lot than is left of it, and where the epsilon of the crypto floor does not reach the next
step. -/
theorem riskSizing_withinBudget_iff {spec : SymbolSpec} (hpoint : 0 < spec.point)
    (htickSize : 0 < spec.tickSize) (htickValue : 0 < spec.tickValue)
    (hstep : 0 < spec.volumeStep) {σ : Type} {S : Prog.Server WorkerOp WorkerOp.Ans Exn σ}
    {ex : CryptoExecutor} {symbol : String} {f : SymbolFilter}
    (hfilter : GivesFilter S (ex.getSymbol symbol) f) (hstepSize : 0 < f.stepSize)
    (hdecimal : IsDecimal f.stepSize) {entryPrice slPrice riskPercent capital : ℚ}
    (hdistance : entryPrice ≠ slPrice) (s : σ) :
    (LotWithinBudget spec entryPrice slPrice riskPercent capital ↔
        spec.KeepsBudget
          (riskCash capital riskPercent / spec.lossPerLot entryPrice slPrice)) ∧
      (QuantityWithinBudget S s ex symbol f entryPrice slPrice riskPercent capital ↔
        f.FloorsBelow (riskCash capital riskPercent / |entryPrice - slPrice|)) := by
  constructor
  · have hloss := SymbolSpec.lossPerLot_pos htickSize htickValue hdistance
    rw [SymbolSpec.keepsBudget_iff hstep.ne', LotWithinBudget,
      SymbolSpec.calculateLotSize_eq hpoint htickSize htickValue hstep hdistance]
    simp only [Except.ok.injEq, exists_eq_left', SymbolSpec.Covered, le_div_iff₀ hloss]
    rfl
  · have habs : 0 < |entryPrice - slPrice| := abs_pos.mpr (sub_ne_zero.mpr hdistance)
    rw [QuantityWithinBudget,
      CryptoExecutor.run_calculateQuantity hfilter hstepSize hdecimal hdistance]
    simp only [Except.ok.injEq, exists_eq_left']
    constructor
    · intro hwithin y hy hmin hlt
      by_contra hnear
      -- a point within the slack is at most the floor, which is over the budget then
      have hle := (Grid.le_down_iff hstepSize hy).mpr (not_lt.mp hnear)
      have hpaid := (le_div_iff₀ habs).mpr (hwithin (hmin.trans_le hle))
      exact absurd (hle.trans hpaid) (not_le.mpr hlt)
    · intro hfloors hmin
      refine (le_div_iff₀ habs).mp ?_
      by_contra hover
      have hfar := hfloors _ (f.floored_mem _) hmin (not_le.mp hover)
      exact absurd (Grid.down_le hstepSize) (not_le.mpr hfar)

/-- An exchange with one filter and one mark price. -/
def markDesk (f : SymbolFilter) (price : ℚ) : Prog.Server WorkerOp WorkerOp.Ans Exn Unit
  | .cx (.getSymbolFilter _), _ => (.ok f, ())
  | .cx (.getMarkPrice _), _ => (.ok price, ())
  | _, _ => (.error (.gateway "offline"), ())

theorem hundredths_hundredfold : hundredths.Hundredfold :=
  fun _ => ⟨⟨1, by norm_num [hundredths]⟩, ⟨1, by norm_num [hundredths]⟩,
    ⟨5000, by norm_num [hundredths]⟩⟩

/-- One percent of a thousand over a distance of 0.0005 pays for 0.2 lots, and for 20000 units. -/
theorem evenBudget_kept :
    LotWithinBudget hundredths (110 / 100) (10995 / 10000) 1 1000 ∧
      QuantityWithinBudget (markDesk { stepSize := 1 } 1) () { config := {} } "EURUSD"
        { stepSize := 1 } (110 / 100) (10995 / 10000) 1 1000 := by
  have hfilter : GivesFilter (markDesk { stepSize := 1 } 1)
      (CryptoExecutor.getSymbol { config := {} } "EURUSD") { stepSize := 1 } := fun _ => rfl
  have hdistance : (110 / 100 : ℚ) ≠ 10995 / 10000 := by decide +kernel
  have hpoint : 0 < hundredths.point := by decide +kernel
  have hiff : (LotWithinBudget hundredths (110 / 100) (10995 / 10000) 1 1000 ↔ _) ∧
      (QuantityWithinBudget _ () _ _ _ _ _ 1 1000 ↔ _) :=
    riskSizing_withinBudget_iff hpoint (by decide +kernel) (by decide +kernel) (by decide +kernel)
      hfilter (by decide +kernel) ⟨0, 1, by norm_num⟩ hdistance ()
  refine ⟨(hiff.1).mpr ?_, (hiff.2).mpr ?_⟩
  · rw [SymbolSpec.keepsBudget_of_hundredfold hundredths_hundredfold (by decide +kernel)]
    exact fun hup => absurd hup (by decide +kernel)
  · intro y hy _ hlt
    by_contra hnear
    have hpassed := (Grid.lt_down_add_slack_iff (by decide +kernel)).mpr
      ⟨y, hy, hlt, not_lt.mp hnear⟩
    exact absurd hpassed (by decide +kernel)

/-- Over a distance of 0.0006 the same cash pays for a sixth of a lot. The nearest step is 0.17,
which loses 10.20. -/
theorem sixthOfLot_overBudget :
    ¬LotWithinBudget hundredths (110 / 100) (10994 / 10000) 1 1000 := by
  have hlot : calculateLotSize (some hundredths) (110 / 100) (10994 / 10000) 1 1000 =
      .ok (17 / 100) := by
    rw [SymbolSpec.calculateLotSize_eq (by decide +kernel) (by decide +kernel) (by decide +kernel)
      (by decide +kernel) (by decide +kernel)]
    exact congrArg _ (by decide +kernel)
  rintro ⟨lot, hlot', hwithin⟩
  obtain rfl := Except.ok.inj (hlot.symm.trans hlot')
  exact absurd (hwithin (by decide +kernel)) (by decide +kernel)

end TradeWorker
