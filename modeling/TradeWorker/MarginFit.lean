import TradeWorker.ForexExecutor
import TradeWorker.Rounding

/-!
# Lots within the free margin

`_fit_volume_to_margin` cuts a lot the account cannot carry. On a platform whose margin is
linear in the volume, the largest lot of the grid within the budget is the one wanted. The
floor to the step is taken with an epsilon, and the result is not reduced again where that
epsilon lifts it past the budget.
-/

namespace TradeWorker

open Grid (points down)

/-! ## Normalized lots -/

namespace SymbolSpec

variable (spec : SymbolSpec)

/-- The floor to the step, with the epsilon of the source. -/
def floored (volume : ℚ) : ℚ := down spec.volumeStep (volume + 1 / 10 ^ 9)

/-- What `normalize_volume` makes of a volume. -/
def normalized (volume : ℚ) : ℚ :=
  pyRoundTo (spec.clamp (spec.floored volume)) (decimalsForStep spec.volumeStep)

variable {spec}

theorem floored_mem (spec : SymbolSpec) (volume : ℚ) :
    spec.floored volume ∈ points spec.volumeStep :=
  Grid.down_mem _ _

theorem normalizeVolume_eq (hstep : 0 < spec.volumeStep) (volume : ℚ) :
    normalizeVolume (some spec) volume = .ok (spec.normalized volume) :=
  if_neg hstep.ne'

/-- The clamp leaves what is within the bounds. -/
theorem clamp_of_mem {volume : ℚ} (hmin : spec.volumeMin ≤ volume)
    (hmax : volume ≤ spec.volumeMax) : spec.clamp volume = volume := by
  rw [clamp, min_eq_left hmax, max_eq_right hmin]

variable (hdecimal : IsDecimal spec.volumeStep) {request volume : ℚ}
  (hgrid : request ∈ points spec.volumeStep) (hmax : request ≤ spec.volumeMax)

include hdecimal hgrid hmax

/-- Within a request the cap never shows: a normalized volume from the minimum on is the floor,
up to the request. -/
theorem min_normalized (hfloor : spec.volumeMin ≤ spec.floored volume) :
    min request (spec.normalized volume) = min request (spec.floored volume) := by
  have hround : ∀ {x}, x ∈ points spec.volumeStep →
      pyRoundTo x (decimalsForStep spec.volumeStep) = x :=
    fun hx => pyRoundTo_decimalsForStep hdecimal hx
  rcases le_or_gt (spec.floored volume) request with hle | hlt
  · rw [normalized, clamp_of_mem hfloor (hle.trans hmax), hround (spec.floored_mem volume)]
  · have hclamp : request ≤ spec.clamp (spec.floored volume) :=
      (le_min hlt.le hmax).trans (le_max_right _ _)
    have hnormalized : request ≤ spec.normalized volume := by
      calc request = pyRoundTo request (decimalsForStep spec.volumeStep) := (hround hgrid).symm
        _ ≤ spec.normalized volume := pyRoundTo_mono _ hclamp
    rw [min_eq_left hnormalized, min_eq_left hlt.le]

end SymbolSpec

/-! ## The platform's margin -/

/-- A platform whose margin is a positive multiple of the volume, and which reports what is
free. -/
structure LinearMargin {σ : Type} (S : Prog.Server WorkerOp WorkerOp.Ans Exn σ) (symbol : String)
    (side : Side) (price rate free : ℚ) : Prop where
  rate_pos : 0 < rate
  calcMargin : ∀ volume s,
    (S (.fx (.calcMargin symbol side volume price)) s).1 = .ok (some (rate * volume))
  account : ∀ s, ∃ account : Account, (S (.fx .getAccount) s).1 = .ok (some account) ∧
    (account.marginFree <|> account.freeMargin) = some free

/-- The lot `_fit_volume_to_margin` settles on there. -/
def SymbolSpec.fitted (spec : SymbolSpec) (rate budget volume : ℚ) : Option ℚ :=
  if rate * volume ≤ 0 ∨ rate * volume ≤ budget then some volume
  else
    let affordable := min volume (spec.normalized (volume * budget / (rate * volume)))
    if budget < rate * affordable then none else some affordable

section Run

variable {σ : Type} {S : Prog.Server WorkerOp WorkerOp.Ans Exn σ} {symbol : String} {side : Side}
  {price rate free : ℚ} (h : LinearMargin S symbol side price rate free)

include h

theorem LinearMargin.run_calcMargin (volume : ℚ) (s : σ) : ∃ s',
    Prog.run S (platform (.calcMargin symbol side volume price)) s =
      (.ok (some (rate * volume)), s') := by
  refine ⟨(S (.fx (.calcMargin symbol side volume price)) s).2, ?_⟩
  rw [platform, Prog.run_perform]
  exact Prod.ext (h.calcMargin volume s) rfl

theorem LinearMargin.run_freeMargin (s : σ) : ∃ s',
    Prog.run S ForexExecutor.freeMargin s = (.ok (some free), s') := by
  obtain ⟨account, haccount, hfree⟩ := h.account s
  refine ⟨(S (.fx .getAccount) s).2, ?_⟩
  have hrun : Prog.run S (platform .getAccount) s =
      (.ok (some account), (S (.fx .getAccount) s).2) := by
    rw [platform, Prog.run_perform]
    exact Prod.ext haccount rfl
  rw [ForexExecutor.freeMargin, Prog.run_bind_ok S hrun]
  exact congrArg (fun free => (Except.ok free, _)) hfree

theorem LinearMargin.run_fit {spec : SymbolSpec} (hstep : 0 < spec.volumeStep) (volume : ℚ)
    (s : σ) :
    (Prog.run S (ForexExecutor.fitVolumeToMargin symbol side (some volume) price (some spec))
      s).1 = .ok (spec.fitted rate (free * ForexExecutor.marginUsableFraction) volume) := by
  obtain ⟨s₁, hrequired⟩ := h.run_calcMargin volume s
  rw [ForexExecutor.fitVolumeToMargin, Prog.run_bind_ok S hrequired, SymbolSpec.fitted]
  dsimp only
  by_cases hpos : rate * volume ≤ 0
  · rw [if_pos hpos, if_pos (Or.inl hpos)]
    rfl
  obtain ⟨s₂, hfree⟩ := h.run_freeMargin s₁
  rw [if_neg hpos, Prog.run_bind_ok S hfree]
  dsimp only
  by_cases hfits : rate * volume ≤ free * ForexExecutor.marginUsableFraction
  · rw [if_pos hfits, if_pos (Or.inr hfits)]
    rfl
  rw [if_neg hfits, if_neg (not_or.mpr ⟨hpos, hfits⟩), SymbolSpec.normalizeVolume_eq hstep,
    Prog.ofExcept_ok, Prog.ret_bind]
  obtain ⟨s₃, hagain⟩ := h.run_calcMargin (min volume (spec.normalized
    (volume * (free * ForexExecutor.marginUsableFraction) / (rate * volume)))) s₂
  rw [Prog.run_bind_ok S hagain]
  dsimp only
  split <;> rfl

end Run

/-! ## The largest affordable lot -/

namespace SymbolSpec

variable (spec : SymbolSpec)

/-- The lots from the minimum on that the budget pays for. -/
def affordable (rate budget : ℚ) : Set ℚ :=
  {v | v ∈ points spec.volumeStep ∧ spec.volumeMin ≤ v ∧ rate * v ≤ budget}

/-- The request where the budget pays for it, else the largest lot it pays for, else none. -/
structure LargestFit (rate budget volume : ℚ) (fitted : Option ℚ) : Prop where
  whole : rate * volume ≤ budget → fitted = some volume
  reduced : budget < rate * volume → ∀ v ∈ fitted, IsGreatest (spec.affordable rate budget) v
  refused : budget < rate * volume → (fitted = none ↔ spec.affordable rate budget = ∅)

/-- Over the budget a refusal is right when there is no lot to be had. -/
theorem largestFit_none_iff {spec : SymbolSpec} {rate budget volume : ℚ}
    (hover : budget < rate * volume) : spec.LargestFit rate budget volume none ↔
      spec.affordable rate budget = ∅ := by
  constructor
  · exact fun h => (h.refused hover).mp rfl
  · intro hnone
    exact ⟨fun hfits => absurd hfits (not_le.mpr hover), fun _ v hv => (nomatch hv),
      fun _ => iff_of_true rfl hnone⟩

theorem largestFit_some_iff {spec : SymbolSpec} {rate budget volume v : ℚ}
    (hover : budget < rate * volume) : spec.LargestFit rate budget volume (some v) ↔
      IsGreatest (spec.affordable rate budget) v := by
  constructor
  · exact fun h => h.reduced hover v rfl
  · intro hv
    refine ⟨fun hfits => absurd hfits (not_le.mpr hover), ?_, fun _ => ?_⟩
    · rintro _ _ ⟨⟩
      exact hv
    · exact iff_of_false (nofun) fun hnone => (hnone ▸ hv.1 : v ∈ (∅ : Set ℚ))

/-- What the reduction needs of the lot the budget pays for: where it reaches the minimum, no lot
lies above it within the epsilon of the floor; and where none does, the minimum, rounded to the
decimals of the step, is not paid for either. -/
structure Reducible (budgetLot : ℚ) : Prop where
  exact : spec.volumeMin ≤ down spec.volumeStep budgetLot →
    ∀ y ∈ points spec.volumeStep, budgetLot < y → budgetLot + 1 / 10 ^ 9 < y
  minimum : spec.floored budgetLot < spec.volumeMin →
    budgetLot < pyRoundTo spec.volumeMin (decimalsForStep spec.volumeStep)

variable {spec} {rate budget : ℚ} (hrate : 0 < rate) (hstep : 0 < spec.volumeStep)

include hrate

theorem mem_affordable_iff {v : ℚ} : v ∈ spec.affordable rate budget ↔
    v ∈ points spec.volumeStep ∧ spec.volumeMin ≤ v ∧ v ≤ budget / rate := by
  rw [le_div_iff₀ hrate, mul_comm]
  rfl

include hstep

/-- The floor of the budget lot is the largest of them, or there is none. -/
theorem isGreatest_affordable_iff {v : ℚ} : IsGreatest (spec.affordable rate budget) v ↔
    v = down spec.volumeStep (budget / rate) ∧ spec.volumeMin ≤ v := by
  constructor
  · rintro ⟨hv, hlub⟩
    obtain ⟨hmem, hmin, hle⟩ := (mem_affordable_iff hrate).mp hv
    refine ⟨le_antisymm ((Grid.le_down_iff hstep hmem).mpr hle) ?_, hmin⟩
    refine hlub ((mem_affordable_iff hrate).mpr ⟨Grid.down_mem _ _, ?_, Grid.down_le hstep⟩)
    exact hmin.trans ((Grid.le_down_iff hstep hmem).mpr hle)
  · rintro ⟨rfl, hmin⟩
    refine ⟨(mem_affordable_iff hrate).mpr ⟨Grid.down_mem _ _, hmin, Grid.down_le hstep⟩, ?_⟩
    rintro v hv
    obtain ⟨hmem, -, hle⟩ := (mem_affordable_iff hrate).mp hv
    exact (Grid.le_down_iff hstep hmem).mpr hle

theorem affordable_eq_empty_iff : spec.affordable rate budget = ∅ ↔
    down spec.volumeStep (budget / rate) < spec.volumeMin := by
  rw [Set.eq_empty_iff_forall_notMem]
  constructor
  · intro hnone
    by_contra hmin
    exact hnone _ ((isGreatest_affordable_iff hrate hstep).mpr ⟨rfl, not_lt.mp hmin⟩).1
  · intro hlt v hv
    obtain ⟨hmem, hmin, hle⟩ := (mem_affordable_iff hrate).mp hv
    exact absurd (hmin.trans ((Grid.le_down_iff hstep hmem).mpr hle)) (not_le.mpr hlt)

/-! ## When the fit is the largest -/

variable (hdecimal : IsDecimal spec.volumeStep) {volume : ℚ}
  (hgrid : volume ∈ points spec.volumeStep) (hmax : volume ≤ spec.volumeMax)

include hdecimal hgrid hmax

omit hstep in
/-- The cut lot: the floor of the budget lot where it reaches the minimum, else the minimum. -/
theorem fitted_eq (hpos : 0 < volume) (hover : budget < rate * volume) :
    spec.fitted rate budget volume =
      if spec.volumeMin ≤ spec.floored (budget / rate) then
        if budget / rate < spec.floored (budget / rate) then none
        else some (spec.floored (budget / rate))
      else
        if budget / rate < pyRoundTo spec.volumeMin (decimalsForStep spec.volumeStep) then none
        else some (min volume (pyRoundTo spec.volumeMin (decimalsForStep spec.volumeStep))) := by
  have hrequired : 0 < rate * volume := mul_pos hrate hpos
  have hlot : volume * budget / (rate * volume) = budget / rate := by
    field_simp
  have hbelow : budget / rate < volume := by
    rw [div_lt_iff₀ hrate, mul_comm]
    exact hover
  have hrefused : ∀ v, budget < rate * min volume v ↔ budget / rate < v := by
    intro v
    rw [mul_comm, ← div_lt_iff₀ hrate, lt_min_iff, and_iff_right hbelow]
  have hbranch : ¬(rate * volume ≤ 0 ∨ rate * volume ≤ budget) := by
    rw [not_or, not_le, not_le]
    exact ⟨hrequired, hover⟩
  rw [fitted, if_neg hbranch, hlot]
  dsimp only
  by_cases hfloor : spec.volumeMin ≤ spec.floored (budget / rate)
  · rw [if_pos hfloor, min_normalized hdecimal hgrid hmax hfloor]
    simp only [hrefused]
    split
    · rfl
    · rename_i hle
      rw [min_eq_right ((not_lt.mp hle).trans hbelow.le)]
  · have hclamp : spec.clamp (spec.floored (budget / rate)) = spec.volumeMin := by
      rw [clamp, max_eq_left]
      exact (min_le_left _ _).trans (not_le.mp hfloor).le
    rw [if_neg hfloor]
    simp only [hrefused, normalized, hclamp]

theorem fitted_largest_iff : spec.LargestFit rate budget volume (spec.fitted rate budget volume) ↔
    rate * volume ≤ budget ∨ 0 < volume ∧ spec.Reducible (budget / rate) := by
  rcases le_or_gt (rate * volume) budget with hfits | hover
  · refine iff_of_true ⟨fun _ => ?_, fun h => ?_, fun h => ?_⟩ (Or.inl hfits)
    · rw [fitted, if_pos (Or.inr hfits)]
    · exact absurd hfits (not_le.mpr h)
    · exact absurd hfits (not_le.mpr h)
  rw [or_iff_right (not_le.mpr hover)]
  rcases le_or_gt volume 0 with hneg | hpos
  · -- a volume that is not positive needs no margin, and is never cut
    refine iff_of_false (fun h => ?_) fun h => absurd h.1 (not_lt.mpr hneg)
    have hwhole : spec.fitted rate budget volume = some volume :=
      if_pos (Or.inl (mul_nonpos_of_nonneg_of_nonpos hrate.le hneg))
    have hpaid := (h.reduced hover volume hwhole).1.2.2
    exact absurd hpaid (not_le.mpr hover)
  rw [and_iff_right hpos, fitted_eq hrate hdecimal hgrid hmax hpos hover]
  have hdown : down spec.volumeStep (budget / rate) ≤ spec.floored (budget / rate) :=
    Grid.down_mono hstep (by linarith)
  have hslack : spec.floored (budget / rate) ≤ budget / rate + 1 / 10 ^ 9 := Grid.down_le hstep
  by_cases hfloor : spec.volumeMin ≤ spec.floored (budget / rate)
  · rw [if_pos hfloor]
    by_cases hover' : budget / rate < spec.floored (budget / rate)
    · -- the epsilon has lifted the lot past the budget
      rw [if_pos hover', largestFit_none_iff hover, affordable_eq_empty_iff hrate hstep]
      constructor
      · intro hlt
        exact ⟨fun hle => absurd hlt (not_lt.mpr hle), fun hlt => absurd hfloor (not_le.mpr hlt)⟩
      · intro h
        by_contra hle
        have hfar := h.exact (not_lt.mp hle) _ (spec.floored_mem _) hover'
        exact absurd hslack (not_le.mpr hfar)
    · rw [if_neg hover', largestFit_some_iff hover]
      have hle := not_lt.mp hover'
      refine iff_of_true ((isGreatest_affordable_iff hrate hstep).mpr ⟨?_, hfloor⟩) ⟨?_, ?_⟩
      · exact le_antisymm ((Grid.le_down_iff hstep (spec.floored_mem _)).mpr hle) hdown
      · intro _ y hy hlt
        by_contra hnear
        have := (Grid.le_down_iff hstep hy).mpr (not_lt.mp hnear)
        exact absurd (this.trans hle) (not_le.mpr hlt)
      · exact fun hlt => absurd hfloor (not_le.mpr hlt)
  · have hlt := not_le.mp hfloor
    have hnone := (affordable_eq_empty_iff hrate hstep).mpr (lt_of_le_of_lt hdown hlt)
    rw [if_neg hfloor]
    split
    · rename_i hpaid
      rw [largestFit_none_iff hover]
      refine iff_of_true hnone ⟨fun hle => ?_, fun _ => hpaid⟩
      exact absurd (lt_of_le_of_lt hdown hlt) (not_lt.mpr hle)
    · rename_i hpaid
      refine iff_of_false (fun h => ?_) fun h => hpaid (h.minimum hlt)
      exact absurd ((h.refused hover).mpr hnone) nofun

end SymbolSpec

/-- **Margin fit returns the largest affordable lot** exactly where the request is paid for or the
budget lot can be reduced to. -/
theorem fitVolumeToMargin_largest_iff {σ : Type} {S : Prog.Server WorkerOp WorkerOp.Ans Exn σ}
    {symbol : String} {side : Side} {price rate free : ℚ}
    (hmargin : LinearMargin S symbol side price rate free) {spec : SymbolSpec}
    (hstep : 0 < spec.volumeStep) (hdecimal : IsDecimal spec.volumeStep) {volume : ℚ}
    (hgrid : volume ∈ points spec.volumeStep) (hmax : volume ≤ spec.volumeMax) (s : σ) :
    (∃ fitted, (Prog.run S (ForexExecutor.fitVolumeToMargin symbol side (some volume) price
        (some spec)) s).1 = .ok fitted ∧
      spec.LargestFit rate (free * ForexExecutor.marginUsableFraction) volume fitted) ↔
    rate * volume ≤ free * ForexExecutor.marginUsableFraction ∨
      0 < volume ∧ spec.Reducible (free * ForexExecutor.marginUsableFraction / rate) := by
  rw [← SymbolSpec.fitted_largest_iff hmargin.rate_pos hstep hdecimal hgrid hmax,
    hmargin.run_fit hstep]
  constructor
  · rintro ⟨_, ⟨⟩, hlargest⟩
    exact hlargest
  · exact fun hlargest => ⟨_, rfl, hlargest⟩

/-- A platform that answers the margin and the account, and nothing else. -/
def marginDesk (rate free : ℚ) : Prog.Server WorkerOp WorkerOp.Ans Exn Unit
  | .fx (.calcMargin _ _ volume _), _ => (.ok (some (rate * volume)), ())
  | .fx .getAccount, _ => (.ok (some { marginFree := some free }), ())
  | _, _ => (.error (.gateway "offline"), ())

theorem marginDesk_linear {rate : ℚ} (hrate : 0 < rate) (symbol : String) (side : Side)
    (price free : ℚ) : LinearMargin (marginDesk rate free) symbol side price rate free where
  rate_pos := hrate
  calcMargin _ _ := rfl
  account _ := ⟨_, rfl, rfl⟩

def hundredths : SymbolSpec where
  resolvedName := "EURUSD"
  point := 1 / 100000
  digits := 5
  volumeMin := 1 / 100
  volumeStep := 1 / 100
  volumeMax := 50
  tickValue := 1
  tickSize := 1 / 100000
  contractSize := 100000
  stopsLevel := 0

theorem hundredths_decimal : IsDecimal hundredths.volumeStep :=
  ⟨2, 1, by norm_num [hundredths]⟩

/-- A tenth of a lot for a thousand a lot, with a hundred free. -/
theorem tenthLot_fit :
    ∃ fitted, (Prog.run (marginDesk 1000 100) (ForexExecutor.fitVolumeToMargin "EURUSD" .long
        (some (1 / 10)) 1 (some hundredths)) ()).1 = .ok fitted ∧
      hundredths.LargestFit 1000 (100 * ForexExecutor.marginUsableFraction) (1 / 10) fitted := by
  refine (fitVolumeToMargin_largest_iff (marginDesk_linear (by norm_num) ..) (by decide +kernel)
    hundredths_decimal ⟨10, by norm_num [hundredths]⟩ (by decide +kernel) ()).mpr
    (Or.inr ⟨by norm_num, fun _ y hy hlt => ?_, fun hlt => ?_⟩)
  · by_contra hnear
    have hpassed := (Grid.lt_down_add_slack_iff (by decide +kernel)).mpr
      ⟨y, hy, hlt, not_lt.mp hnear⟩
    exact absurd hpassed (by decide +kernel)
  · exact absurd hlt (by decide +kernel)

/-- The budget buys a hair less than a tenth of a lot. The floor takes the tenth for it, finds the
margin above the budget, and the entry is refused, though nine hundredths could be carried. -/
theorem hairBelowTenth_refused :
    (Prog.run (marginDesk 1000 ((100 - 5 / 10 ^ 7) / (95 / 100)))
        (ForexExecutor.fitVolumeToMargin "EURUSD" .long (some (2 / 10)) 1 (some hundredths))
        ()).1 = .ok none ∧
      ¬∃ fitted, (Prog.run (marginDesk 1000 ((100 - 5 / 10 ^ 7) / (95 / 100)))
        (ForexExecutor.fitVolumeToMargin "EURUSD" .long (some (2 / 10)) 1 (some hundredths))
        ()).1 = .ok fitted ∧
        hundredths.LargestFit 1000 ((100 - 5 / 10 ^ 7) / (95 / 100) *
          ForexExecutor.marginUsableFraction) (2 / 10) fitted := by
  have hnone : (Prog.run (marginDesk 1000 ((100 - 5 / 10 ^ 7) / (95 / 100)))
      (ForexExecutor.fitVolumeToMargin "EURUSD" .long (some (2 / 10)) 1 (some hundredths))
      ()).1 = .ok none := by
    rw [(marginDesk_linear (by norm_num) ..).run_fit (by decide +kernel)]
    exact congrArg _ (by decide +kernel)
  refine ⟨hnone, ?_⟩
  rintro ⟨fitted, hfitted, hlargest⟩
  obtain rfl := Except.ok.inj (hnone.symm.trans hfitted)
  have hempty := (hlargest.refused (by decide +kernel)).mp rfl
  have hmem : (9 / 100 : ℚ) ∈ hundredths.affordable 1000
      ((100 - 5 / 10 ^ 7) / (95 / 100) * ForexExecutor.marginUsableFraction) :=
    ⟨⟨9, by norm_num [hundredths]⟩, by decide +kernel, by decide +kernel⟩
  rw [hempty] at hmem
  exact hmem

end TradeWorker
