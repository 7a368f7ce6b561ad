import TradeWorker.RiskBudget

/-!
# The floor of the order value

An exchange refuses an order worth less than `MIN_NOTIONAL`. `_enforce_min_notional` floors the
quantity that would be worth as much, and goes one step higher only where that floor is no more
than the quantity it started from.
-/

namespace TradeWorker

open Grid (points)

namespace SymbolFilter

variable (f : SymbolFilter)

/-- The quantity `_enforce_min_notional` answers at a price. -/
def enforced (price qty : ℚ) : ℚ :=
  if f.minNotional ≤ qty * price then qty
  else if f.floored (f.minNotional / price) ≤ qty then
    f.floored (f.floored (f.minNotional / price) + f.stepSize)
  else f.floored (f.minNotional / price)

/-- The quantities of the grid, from a given one on, that are worth enough. -/
def sufficient (price qty : ℚ) : Set ℚ :=
  {q | q ∈ points f.stepSize ∧ qty ≤ q ∧ f.minNotional ≤ q * price}

/-- Where the bump is exact: the quantity is worth enough, or the needed one is less than a step
above it, or the grid has it, up to the epsilon of the floor. -/
def BumpExact (price qty : ℚ) : Prop :=
  f.minNotional ≤ qty * price ∨
    f.minNotional / price + 1 / 10 ^ 9 * f.stepSize < qty + f.stepSize ∨
      ∃ y ∈ points f.stepSize, f.minNotional / price ≤ y ∧
        y ≤ f.minNotional / price + 1 / 10 ^ 9 * f.stepSize

variable {f} (hstep : 0 < f.stepSize)

include hstep

theorem slack_lt_step : 1 / 10 ^ 9 * f.stepSize < f.stepSize := by
  have : (1 : ℚ) / 10 ^ 9 < 1 := by norm_num
  nlinarith

theorem floored_of_mem {y : ℚ} (hy : y ∈ points f.stepSize) : f.floored y = y := by
  have hslack := slack_lt_step hstep
  refine le_antisymm ?_ ((Grid.le_down_iff hstep hy).mpr (by linarith))
  refine (Grid.lt_add_step_iff hstep (f.floored_mem y) hy).mp ?_
  calc f.floored y ≤ y + 1 / 10 ^ 9 * f.stepSize := Grid.down_le hstep
    _ < y + f.stepSize := by linarith

/-- A point that covers the needed quantity is at least any floor taken with the slack. -/
theorem floored_le {needed y : ℚ} (hy : y ∈ points f.stepSize) (h : needed ≤ y) :
    f.floored needed ≤ y := by
  calc f.floored needed ≤ f.floored y := Grid.down_mono hstep (by linarith)
    _ = y := floored_of_mem hstep hy

variable {price qty : ℚ} (hprice : 0 < price) (hqty : qty ∈ points f.stepSize)

include hprice

omit hstep in
theorem mem_sufficient_iff {q : ℚ} : q ∈ f.sufficient price qty ↔
    q ∈ points f.stepSize ∧ qty ≤ q ∧ f.minNotional / price ≤ q := by
  rw [div_le_iff₀ hprice]
  rfl

include hqty

theorem isLeast_enforced_iff :
    IsLeast (f.sufficient price qty) (f.enforced price qty) ↔ f.BumpExact price qty := by
  have hmem := @mem_sufficient_iff f price qty hprice
  by_cases hworth : f.minNotional ≤ qty * price
  · rw [enforced, if_pos hworth]
    exact iff_of_true ⟨⟨hqty, le_rfl, hworth⟩, fun y hy => hy.2.1⟩ (Or.inl hworth)
  have hneeded : qty < f.minNotional / price := by
    rw [lt_div_iff₀ hprice]
    exact not_le.mp hworth
  have hslack := slack_lt_step hstep
  have hfloor : f.floored (f.minNotional / price) ≤
      f.minNotional / price + 1 / 10 ^ 9 * f.stepSize := Grid.down_le hstep
  rw [enforced, if_neg hworth]
  by_cases hlow : f.floored (f.minNotional / price) ≤ qty
  · -- the floor has come back to the quantity: one step more is worth enough
    have hnear : f.minNotional / price + 1 / 10 ^ 9 * f.stepSize < qty + f.stepSize := by
      calc f.minNotional / price + 1 / 10 ^ 9 * f.stepSize
          < f.floored (f.minNotional / price) + f.stepSize := Grid.lt_down_add_step hstep
        _ ≤ qty + f.stepSize := by linarith
    have heq : f.floored (f.minNotional / price) = qty :=
      le_antisymm hlow ((Grid.le_down_iff hstep hqty).mpr (by nlinarith))
    have hnext := Grid.add_step_mem_points hqty
    rw [if_pos hlow, heq, floored_of_mem hstep hnext]
    refine iff_of_true ⟨hmem.mpr ⟨hnext, by linarith, by nlinarith⟩, fun y hy => ?_⟩
      (Or.inr (Or.inl hnear))
    obtain ⟨hy, -, hneed⟩ := hmem.mp hy
    exact Grid.add_step_le_of_lt hstep hqty hy (hneeded.trans_le hneed)
  · rw [if_neg hlow]
    have hlow := not_le.mp hlow
    constructor
    · intro hleast
      exact Or.inr (Or.inr ⟨_, f.floored_mem _, (hmem.mp hleast.1).2.2, hfloor⟩)
    · rintro (hworth' | hnear | ⟨y, hy, hcovers, hwithin⟩)
      · exact absurd hworth' hworth
      · exact absurd ((Grid.lt_add_step_iff hstep (f.floored_mem _) hqty).mp
          (hfloor.trans_lt hnear)) (not_le.mpr hlow)
      · have hreach := hcovers.trans ((Grid.le_down_iff hstep hy).mpr hwithin)
        refine ⟨hmem.mpr ⟨f.floored_mem _, hlow.le, hreach⟩, fun y' hy' => ?_⟩
        obtain ⟨hy', -, hneed⟩ := hmem.mp hy'
        exact floored_le hstep hy' hneed

end SymbolFilter

/-! ## The run -/

section Run

variable {σ : Type} {S : Prog.Server WorkerOp WorkerOp.Ans Exn σ} {ex : CryptoExecutor}
  {symbol : String} {f : SymbolFilter} {price : ℚ} (hfilter : GivesFilter S symbol f)
  (hresolved : GivesFilter S (ex.getSymbol symbol) f)
  (hmark : ∀ s, (S (.cx (.getMarkPrice symbol)) s).1 = .ok price)

include hfilter hresolved hmark

theorem CryptoExecutor.run_enforceMinNotional (hnotional : 0 < f.minNotional)
    (hstep : 0 < f.stepSize) (hdecimal : IsDecimal f.stepSize) (hprice : 0 < price) (qty : ℚ)
    (s : σ) : (Prog.run S (ex.enforceMinNotional symbol qty) s).1 =
      .ok (some (f.enforced price qty)) := by
  have hread : ∀ s, Prog.run S (exchange (.getSymbolFilter symbol)) s =
      (.ok f, (S (.cx (.getSymbolFilter symbol)) s).2) := by
    intro s
    rw [exchange, Prog.run_perform]
    exact Prod.ext (hfilter s) rfl
  have hquote : ∀ s, Prog.run S (Prog.tryCatch
      (do
        let price : ℚ ← exchange (.getMarkPrice symbol)
        pure (some price))
      fun _ => pure none) s = (.ok (some price), (S (.cx (.getMarkPrice symbol)) s).2) := by
    intro s
    rw [Prog.run_tryCatch, Prog.run_bind_pure, exchange, Prog.run_perform, hmark s]
    rfl
  have hnormalize : ∀ volume s, ∃ s', Prog.run S (ex.normalizeVolume symbol volume) s =
      (.ok (f.floored volume), s') := by
    intro volume s
    refine ⟨_, Prod.ext ?_ rfl⟩
    rw [run_normalizeVolume hresolved, normalizeWith_eq hstep hdecimal]
  rw [enforceMinNotional, Prog.run_bind_ok S (hread s), if_neg (not_le.mpr hnotional),
    Prog.run_bind_ok S (hquote _), SymbolFilter.enforced]
  dsimp only
  by_cases hworth : f.minNotional ≤ qty * price
  · rw [if_pos (Or.inr hworth), if_pos hworth]
    rfl
  have hshort : ¬(price ≤ 0 ∨ f.minNotional ≤ qty * price) := by
    rw [not_or]
    exact ⟨not_le.mpr hprice, hworth⟩
  obtain ⟨s₁, hfloor⟩ := hnormalize (f.minNotional / price) (S (.cx (.getMarkPrice symbol))
    (S (.cx (.getSymbolFilter symbol)) s).2).2
  rw [if_neg hshort, if_neg hworth, Prog.run_bind_ok S hfloor]
  by_cases hlow : f.floored (f.minNotional / price) ≤ qty
  · obtain ⟨s₂, hnext⟩ := hnormalize (f.floored (f.minNotional / price) + f.stepSize) s₁
    rw [if_pos ⟨hlow, hstep⟩, if_pos hlow, Prog.run_bind_ok S hnext]
    rfl
  · rw [if_neg (fun h => hlow h.1), if_neg hlow]
    rfl

/-- **The `MIN_NOTIONAL` bump reaches the floor**, with the smallest quantity that does, exactly
where the floor of the needed quantity is that quantity or comes back to the input. -/
theorem enforceMinNotional_least_iff (hnotional : 0 < f.minNotional) (hstep : 0 < f.stepSize)
    (hdecimal : IsDecimal f.stepSize) (hprice : 0 < price) {qty : ℚ}
    (hqty : qty ∈ points f.stepSize) (s : σ) :
    (∃ q, (Prog.run S (ex.enforceMinNotional symbol qty) s).1 = .ok (some q) ∧
        IsLeast (f.sufficient price qty) q) ↔ f.BumpExact price qty := by
  rw [← SymbolFilter.isLeast_enforced_iff hstep hprice hqty,
    CryptoExecutor.run_enforceMinNotional hfilter hresolved hmark hnotional hstep hdecimal hprice]
  constructor
  · rintro ⟨_, ⟨⟩, hleast⟩
    exact hleast
  · exact fun hleast => ⟨_, rfl, hleast⟩

end Run

/-- Whole units worth at least ten. -/
def wholeUnits : SymbolFilter where
  stepSize := 1
  minNotional := 10

/-- At a price of five, one unit becomes two. -/
theorem oneUnit_bumped :
    ∃ q, (Prog.run (markDesk wholeUnits 5)
        (CryptoExecutor.enforceMinNotional { config := {} } "DOGEUSDT" 1) ()).1 = .ok (some q) ∧
      IsLeast (wholeUnits.sufficient 5 1) q :=
  (enforceMinNotional_least_iff (fun _ => rfl) (fun _ => rfl) (fun _ => rfl) (by decide +kernel)
    (by decide +kernel) ⟨0, 1, by norm_num [wholeUnits]⟩ (by norm_num)
    ⟨1, by norm_num [wholeUnits]⟩ ()).mpr
    (Or.inr (Or.inr ⟨2, ⟨2, by norm_num [wholeUnits]⟩, by decide +kernel, by decide +kernel⟩))

/-- At a price of three, one unit becomes three, which are worth nine. -/
theorem oneUnit_short :
    (Prog.run (markDesk wholeUnits 3)
        (CryptoExecutor.enforceMinNotional { config := {} } "DOGEUSDT" 1) ()).1 = .ok (some 3) ∧
      ¬wholeUnits.minNotional ≤ 3 * 3 := by
  refine ⟨(CryptoExecutor.run_enforceMinNotional (fun _ => rfl) (fun _ => rfl) (fun _ => rfl)
    (by decide +kernel) (by decide +kernel) ⟨0, 1, by norm_num [wholeUnits]⟩ (by norm_num) 1
    ()).trans (congrArg (fun q => Except.ok (some q)) ?_), by decide +kernel⟩
  decide +kernel

end TradeWorker
