import TradeWorker.BinanceGateway
import TradeWorker.Segment

/-!
# Trigger prices on the grid

The exchange refuses a trigger price that is no multiple of the symbol's tick size. The adapter
fetches the trading rules once, and snaps every stop and target to them. Over any run of calls
the rules are asked for once at most, they are the same from then on, and each trigger price sent
is the nearest grid point to a price that was asked for.
-/

namespace TradeWorker

namespace Binance

open BinanceFuturesGateway

/-! ## Snapping -/

theorem snap_mem {tick : ℚ} (hpos : 0 < tick) (htick : IsDecimal tick) (price : ℚ) :
    snap tick price ∈ Grid.points tick := by
  have hgrid : (pyRound (price / tick) : ℚ) * tick ∈ Grid.points tick := Grid.mul_mem_points _
  rw [snap, if_neg hpos.not_ge, pyRoundTo_decimalsForStep htick hgrid]
  exact hgrid

/-- A grid point is at half a tick at most. -/
theorem abs_snap_sub_le {tick : ℚ} (hpos : 0 < tick) (htick : IsDecimal tick) (price : ℚ) :
    |snap tick price - price| ≤ tick / 2 := by
  have hgrid : (pyRound (price / tick) : ℚ) * tick ∈ Grid.points tick := Grid.mul_mem_points _
  have hround := abs_pyRound_sub_le (price / tick)
  have hscaled : (pyRound (price / tick) : ℚ) * tick - price =
      (pyRound (price / tick) - price / tick) * tick := by
    rw [sub_mul, div_mul_cancel₀ _ hpos.ne']
  rw [snap, if_neg hpos.not_ge, pyRoundTo_decimalsForStep htick hgrid, hscaled, abs_mul,
    abs_of_pos hpos]
  calc |(pyRound (price / tick) : ℚ) - price / tick| * tick ≤ 1 / 2 * tick :=
        mul_le_mul_of_nonneg_right hround hpos.le
    _ = tick / 2 := by ring

/-! ## The rules of the process -/

abbrev Rules := List (String × SymbolFilter)

/-- The tick size of a symbol; zero where the rules do not have it. -/
def tickOf (rules : Rules) (symbol : String) : ℚ := ((rules.lookup symbol).getD {}).tickSize

variable {σ : Type}

/-- `_filters`, which is a field of the adapter and of nobody else. -/
structure RuleCell (S : Prog.Server WireOp WireOp.Ans Exn σ) (held : σ → Option Rules) : Prop where
  read : ∀ s, (S .filters s).1 = .ok (held s)
  written : ∀ rules s, (S (.setFilters rules) s).1 = .ok () ∧
    held (S (.setFilters rules) s).2 = some rules
  kept : ∀ o s, (∀ rules, o ≠ .setFilters rules) → held (S o s).2 = held s

def isFetch : WireOp → Bool
  | .submit .exchangeInfo _ => true
  | _ => false

def asks : CryptoOp → Option (String × ℚ)
  | .setStopLoss symbol _ stopPrice _ => some (symbol, stopPrice)
  | .setTakeProfit symbol _ tpPrice _ => some (symbol, tpPrice)
  | _ => none

def Snapped (asked : List (String × ℚ)) (rules : Rules) (p : AlgoOrder) : Prop :=
  ∃ price, (p.symbol, price) ∈ asked ∧ p.triggerPrice = snap (tickOf rules p.symbol) price

/-- A stretch of a run: rules stay once they are held, the fetch that gets them is the only one,
and trigger prices are snapped by them. -/
structure Snaps (held : σ → Option Rules) (asked : List (String × ℚ)) (s : σ)
    (talk : List ((o : WireOp) × Except Exn o.Ans)) (s' : σ) : Prop where
  kept : ∀ rules, held s = some rules → held s' = some rules
  fetched : talk.countP (fun x => isFetch x.1) + (held s).toList.length ≤ (held s').toList.length
  snapped : ∀ x ∈ talk, ∀ p sig, x.1 = .submit (.algoOrder p) sig →
    ∃ rules, held s' = some rules ∧ Snapped asked rules p

theorem Snaps.chained (held : σ → Option Rules) (asked : List (String × ℚ)) :
    Prog.Stretch.Chained (Snaps held asked) where
  nil s :=
    { kept := fun _ h => h
      fetched := by simp
      snapped := fun _ h => nomatch h }
  append h h' :=
    { kept := fun rules hrules => h'.kept rules (h.kept rules hrules)
      fetched := by
        rw [List.countP_append]
        have hfirst := h.fetched
        have hsecond := h'.fetched
        omega
      snapped := by
        intro x hx p sig hp
        rcases List.mem_append.mp hx with hx | hx
        · obtain ⟨rules, hrules, hsnapped⟩ := h.snapped x hx p sig hp
          exact ⟨rules, h'.kept rules hrules, hsnapped⟩
        · exact h'.snapped x hx p sig hp }

section Calls

variable {S : Prog.Server WireOp WireOp.Ans Exn σ} {held : σ → Option Rules}
  (hS : RuleCell S held) {asked : List (String × ℚ)}

include hS

/-- Requests that fetch nothing, whose trigger prices are snapped by the rules held. -/
theorem RuleCell.snaps_of_only {G : Request → Prop} (hfetch : ¬ G .exchangeInfo) {α : Type}
    {p : WireWork α} (hp : Prog.Sends (only G) (fun _ => True) p) {s : σ}
    (halgo : ∀ order, G (.algoOrder order) →
      ∃ rules, held s = some rules ∧ Snapped asked rules order) :
    held (Prog.run S p s).2 = held s ∧
      Snaps held asked s (Prog.dialogue S p s) (Prog.run S p s).2 := by
  have hheld : held (Prog.run S p s).2 = held s := by
    refine hp.keeps (I := fun s' => held s' = held s) (fun o s' hs' ho => ⟨trivial, ?_⟩) rfl
    refine (hS.kept o s' ?_).trans hs'
    rintro rules rfl
    exact ho
  have hwithin : ∀ x ∈ Prog.dialogue S p s, Within G x.1 := by
    intro x hx
    refine hp.calls (S := S) (fun _ _ => trivial) s x.1 ?_
    rw [Prog.calls_eq_map_dialogue]
    exact List.mem_map_of_mem hx
  refine ⟨hheld, fun rules h => hheld.trans h, ?_, ?_⟩
  · have hnone : (Prog.dialogue S p s).countP (fun x => isFetch x.1) = 0 := by
      rw [List.countP_eq_zero]
      intro x hx hfetched
      have hx := hwithin x hx
      obtain ⟨o, r⟩ := x
      match o with
      | .submit .exchangeInfo sig =>
          rcases hx with hx | hx
          · cases hx
          · exact hfetch hx
      | .time | .timeOffset | .setTimeOffset _ | .filters | .setFilters _ => cases hfetched
      | .submit .time _ | .submit .balance _ | .submit (.premiumIndex _) _
      | .submit (.positionRisk _) _ | .submit (.order _) _ | .submit (.algoOrder _) _
      | .submit (.algoOpenOrders _) _ | .submit (.allOpenOrders _) _ | .submit .account _
      | .submit (.userTrades ..) _ | .submit (.positionMode _) _ => cases hfetched
    rw [hnone, hheld, Nat.zero_add]
  · intro x hx order sig horder
    have hx := hwithin x hx
    rw [horder] at hx
    rcases hx with hx | hx
    · cases hx
    · rw [hheld]
      exact halgo order hx

omit hS in
/-- One request, whatever becomes of it. -/
theorem loadFilters_talk (gateway : BinanceFuturesGateway) (s : σ) :
    ∃ rules,
      Prog.run S gateway.loadFilters s = (.ok rules, (S (.submit .exchangeInfo none) s).2) ∧
      Prog.dialogue S gateway.loadFilters s =
        [⟨.submit .exchangeInfo none, (S (.submit .exchangeInfo none) s).1⟩] := by
  show ∃ rules, Prog.run S (.call (.submit .exchangeInfo none) _) s = _ ∧
    Prog.dialogue S (.call (.submit .exchangeInfo none) _) s = _
  rw [Prog.run_call, Prog.dialogue]
  cases (S (.submit .exchangeInfo none) s).1 with
  | ok rows => exact ⟨_, rfl, rfl⟩
  | error e => exact ⟨_, rfl, rfl⟩

/-- `get_symbol_filter` reads the rules the process holds from then on. -/
theorem RuleCell.snaps_getSymbolFilter (gateway : BinanceFuturesGateway) (symbol : String)
    (s : σ) :
    ∃ rules s', Prog.run S (gateway.getSymbolFilter symbol) s =
        (.ok ((rules.lookup symbol).getD {}), s') ∧ held s' = some rules ∧
      Snaps held asked s (Prog.dialogue S (gateway.getSymbolFilter symbol) s) s' := by
  have hkept : held (S .filters s).2 = held s := hS.kept .filters s fun _ h => nomatch h
  have hread : S .filters s = (.ok (held s), (S .filters s).2) := Prod.ext (hS.read s) rfl
  rw [getSymbolFilter, wire, Prog.run_bind_ok S ((Prog.run_perform S _ s).trans hread),
    Prog.dialogue_perform_ok hread]
  cases hheld : held s with
  | some rules =>
      have hheld' : held (S .filters s).2 = some rules := hkept.trans hheld
      refine ⟨rules, _, rfl, hheld', fun rules' h => ?_, ?_, fun x hx p sig hp => ?_⟩
      · rw [hheld', ← hheld, h]
      · rw [hheld', hheld]
        exact Nat.le_refl _
      · obtain rfl := List.mem_singleton.mp hx
        cases hp
  | none =>
      let s₁ := (S .filters s).2
      obtain ⟨rules, hrun, htalk⟩ := loadFilters_talk (S := S) gateway s₁
      let s₂ := (S (.submit .exchangeInfo none) s₁).2
      have hset : S (.setFilters rules) s₂ = (.ok (), (S (.setFilters rules) s₂).2) :=
        Prod.ext (hS.written rules s₂).1 rfl
      have hheld' : held (S (.setFilters rules) s₂).2 = some rules := (hS.written rules s₂).2
      show ∃ rules' s', Prog.run S (gateway.loadFilters >>= fun filters =>
          wire (.setFilters filters) >>= fun _ => pure ((filters.lookup symbol).getD {})) s₁ = _ ∧
        _ ∧ Snaps held asked s (_ :: Prog.dialogue S (gateway.loadFilters >>= fun filters =>
          wire (.setFilters filters) >>= fun _ => pure ((filters.lookup symbol).getD {})) s₁) s'
      rw [Prog.run_bind_ok S hrun, Prog.dialogue_bind_ok hrun, htalk, wire,
        Prog.run_bind_ok S ((Prog.run_perform S _ s₂).trans hset), Prog.dialogue_perform_ok hset]
      refine ⟨rules, _, rfl, hheld', fun rules' h => ?_, ?_, fun x hx p sig hp => ?_⟩
      · rw [hheld] at h
        cases h
      · rw [hheld', hheld]
        exact Nat.le_refl _
      · simp only [List.singleton_append, List.mem_cons] at hx
        rcases hx with rfl | rfl | rfl | hx
        · cases hp
        · cases hp
        · cases hp
        · cases hx

/-- A stop or a target at the price that was asked for. -/
theorem RuleCell.covers_setConditional (gateway : BinanceFuturesGateway) (type symbol : String)
    (positionSide : Side) {price : ℚ} (hasked : (symbol, price) ∈ asked) :
    Prog.Covers S (Snaps held asked) (gateway.setConditional type symbol positionSide price) := by
  intro s
  obtain ⟨rules, s₁, hrun, hheld, hsnaps⟩ :=
    RuleCell.snaps_getSymbolFilter hS gateway symbol s
  have hprice : Prog.run S (gateway.roundToTick symbol price) s =
      (.ok (snap (tickOf rules symbol) price), s₁) := Prog.run_bind_ok S hrun
  have htalk : Prog.dialogue S (gateway.roundToTick symbol price) s =
      Prog.dialogue S (gateway.getSymbolFilter symbol) s :=
    (Prog.dialogue_bind_ok hrun).trans (List.append_nil _)
  let order := gateway.conditional type symbol positionSide (snap (tickOf rules symbol) price)
  have hsend : Prog.Sends (only (· = .algoOrder order)) (fun _ => True)
      (gateway.answer (gateway.send (.algoOrder order) true)) :=
    gateway.only_answer (gateway.only_send (G := (· = .algoOrder order)) rfl true)
  have hrest := hS.snaps_of_only (fun h => nomatch h) hsend (s := s₁) (by
    rintro _ ⟨⟩
    exact ⟨rules, hheld, price, hasked, rfl⟩)
  rw [setConditional, Prog.dialogue_bind_ok hprice, Prog.run_bind_ok S hprice, htalk]
  exact (Snaps.chained held asked).append hsnaps hrest.2

/-- Requests that neither fetch the rules nor state a trigger price. -/
def Plain (request : Request) : Prop :=
  request ≠ .exchangeInfo ∧ ∀ order, request ≠ .algoOrder order

/-- A call of the contract, for a price that was asked for if it is a stop or a target. -/
theorem RuleCell.covers_contract (gateway : BinanceFuturesGateway) {o : CryptoOp}
    (hasked : ∀ x, asks o = some x → x ∈ asked) :
    Prog.Covers S (Snaps held asked) (gateway.contract o) := by
  have hplain : ∀ {α : Type} {p : WireWork α}, Prog.Sends (only Plain) (fun _ => True) p →
      Prog.Covers S (Snaps held asked) p := fun hp s =>
    (hS.snaps_of_only (fun h => h.1 rfl) hp fun order h => absurd rfl (h.2 order)).2
  cases o with
  | getSymbolFilter symbol =>
      intro s
      obtain ⟨rules, s₁, hrun, -, hsnaps⟩ :=
        RuleCell.snaps_getSymbolFilter hS gateway symbol s
      rw [contract, hrun]
      exact hsnaps
  | getMarkPrice symbol =>
      exact hplain (gateway.only_getMarkPrice symbol ⟨fun h => (nomatch h), fun _ h => nomatch h⟩)
  | getPositions symbol =>
      exact hplain (gateway.only_getPositions symbol ⟨fun h => (nomatch h), fun _ h => nomatch h⟩)
  | placeMarketOrder symbol side quantity reduceOnly clientOrderId =>
      have horder : Plain (.order
          (gateway.marketOrder symbol side quantity reduceOnly (some clientOrderId))) :=
        ⟨fun h => (nomatch h), fun _ h => nomatch h⟩
      exact hplain (gateway.only_answer (gateway.only_send horder true))
  | setStopLoss symbol positionSide stopPrice quantity =>
      exact hS.covers_setConditional gateway "STOP_MARKET" symbol positionSide (hasked _ rfl)
  | setTakeProfit symbol positionSide tpPrice quantity =>
      exact hS.covers_setConditional gateway "TAKE_PROFIT_MARKET" symbol positionSide
        (hasked _ rfl)
  | cancelAllOrders symbol =>
      exact hplain (gateway.only_cancelAllOrders symbol
        ⟨fun h => (nomatch h), fun _ h => nomatch h⟩ ⟨fun h => (nomatch h), fun _ h => nomatch h⟩)
  | getOrderRealizedPnl symbol orderId =>
      exact hplain (gateway.only_getOrderRealizedPnl symbol orderId
        fun _ => ⟨fun h => (nomatch h), fun _ h => nomatch h⟩)
  | getAccount =>
      exact hplain (gateway.only_getAccount ⟨fun h => (nomatch h), fun _ h => nomatch h⟩)

end Calls

/-! ## Runs -/

/-- A trigger price the exchange takes, and the one it stands for. -/
structure OnGrid (rules : Rules) (asked : List (String × ℚ)) (p : AlgoOrder) : Prop where
  mem : p.triggerPrice ∈ Grid.points (tickOf rules p.symbol)
  near : ∃ price, (p.symbol, price) ∈ asked ∧
    |p.triggerPrice - price| ≤ tickOf rules p.symbol / 2

theorem Snapped.onGrid {asked : List (String × ℚ)} {rules : Rules} {p : AlgoOrder}
    (h : Snapped asked rules p) (hpos : 0 < tickOf rules p.symbol)
    (htick : IsDecimal (tickOf rules p.symbol)) : OnGrid rules asked p := by
  obtain ⟨price, hasked, hprice⟩ := h
  refine ⟨hprice ▸ snap_mem hpos htick price, price, hasked, ?_⟩
  rw [hprice]
  exact abs_snap_sub_le hpos htick price

theorem Snapped.asked {asked : List (String × ℚ)} {rules : Rules} {p : AlgoOrder}
    (h : Snapped asked rules p) (htick : tickOf rules p.symbol ≤ 0) :
    (p.symbol, p.triggerPrice) ∈ asked := by
  obtain ⟨price, hasked, hprice⟩ := h
  rw [snap, if_pos htick] at hprice
  rwa [hprice]

/-- The prices a program asks stops and targets for. -/
def askedBy (S : Prog.Server WireOp WireOp.Ans Exn σ) (gateway : BinanceFuturesGateway) {α : Type}
    (p : Prog CryptoOp CryptoOp.Ans Exn α) (s : σ) : List (String × ℚ) :=
  (Prog.calls (S.implemented gateway.contract) p s).filterMap asks

/-- **One set of rules, and every price on its grid.** Over any program of contract calls the
rules are fetched once at most, and not at all where they were held already. One set of rules
is held in the end by which each trigger price sent was snapped: it is on the grid of its symbol,
half a tick at most from a price asked for. A symbol without a tick size gets the price itself. -/
theorem triggerPrices_onGrid {S : Prog.Server WireOp WireOp.Ans Exn σ} {held : σ → Option Rules}
    (hS : RuleCell S held) (gateway : BinanceFuturesGateway) {α : Type}
    (p : Prog CryptoOp CryptoOp.Ans Exn α) (s : σ) :
    (Prog.calls S (Prog.implement gateway.contract p) s).countP isFetch ≤
        (if held s = none then 1 else 0) ∧
      ∀ order sig, .submit (.algoOrder order) sig ∈
          Prog.calls S (Prog.implement gateway.contract p) s →
        ∃ rules, held (Prog.run S (Prog.implement gateway.contract p) s).2 = some rules ∧
          (0 < tickOf rules order.symbol → IsDecimal (tickOf rules order.symbol) →
            OnGrid rules (askedBy S gateway p s) order) ∧
          (tickOf rules order.symbol ≤ 0 →
            (order.symbol, order.triggerPrice) ∈ askedBy S gateway p s) := by
  have hsnaps := Prog.covers_implement (h := gateway.contract) (p := p) (s := s)
    (Snaps.chained held (askedBy S gateway p s)) fun o ho =>
      hS.covers_contract gateway fun x hx => List.mem_filterMap.mpr ⟨o, ho, hx⟩
  rw [Prog.calls_eq_map_dialogue]
  constructor
  · rw [List.countP_map]
    have hfetched := hsnaps.fetched
    cases hheld : held s with
    | none =>
        rw [hheld] at hfetched
        rw [if_pos rfl]
        refine hfetched.trans ?_
        cases held (Prog.run S (Prog.implement gateway.contract p) s).2 with
        | none => exact Nat.zero_le _
        | some rules => exact Nat.le_refl _
    | some rules =>
        rw [hsnaps.kept rules hheld, hheld] at hfetched
        rw [if_neg fun h => nomatch h]
        exact Nat.le_of_add_le_add_right hfetched
  · intro order sig hsent
    obtain ⟨x, hx, hsubmit⟩ := List.mem_map.mp hsent
    obtain ⟨rules, hrules, hsnapped⟩ := hsnaps.snapped x hx order sig hsubmit
    exact ⟨rules, hrules, hsnapped.onGrid, hsnapped.asked⟩

/-! ## An exchange with one symbol -/

namespace SimRules

/-- The rules of a symbol whose prices go by tenths. -/
def rows : List SymbolRow :=
  [{ symbol := some "BTCUSDT"
     filters := [{ filterType := some "PRICE_FILTER", tickSize := some "0.10" }] }]

def serve : Prog.Server WireOp WireOp.Ans Exn (Option Rules)
  | .filters, held => (.ok held, held)
  | .setFilters rules, _ => (.ok (), some rules)
  | .time, held => (.ok 0, held)
  | .timeOffset, held => (.ok 0, held)
  | .setTimeOffset _, held => (.ok (), held)
  | .submit .exchangeInfo _, held => (.ok rows, held)
  | .submit (.algoOrder _) _, held => (.ok { algoId := some 7 }, held)
  | .submit _ _, held => (.error (.other "no such endpoint"), held)

theorem ruleCell : RuleCell serve id where
  read _ := rfl
  written _ _ := ⟨rfl, rfl⟩
  kept o held h := by
    match o with
    | .setFilters rules => exact absurd rfl (h rules)
    | .time | .timeOffset | .setTimeOffset _ | .filters => rfl
    | .submit .time _ | .submit .balance _ | .submit .exchangeInfo _ | .submit (.premiumIndex _) _
    | .submit (.positionRisk _) _ | .submit (.order _) _ | .submit (.algoOrder _) _
    | .submit (.algoOpenOrders _) _ | .submit (.allOpenOrders _) _ | .submit .account _
    | .submit (.userTrades ..) _ | .submit (.positionMode _) _ => rfl

def gateway : BinanceFuturesGateway where
  runtime :=
    { float := fun text => if text = "0.10" then .ok (1 / 10) else .error (.valueError text)
      statusCode := fun _ => none
      str := fun _ => ""
      hash := fun _ => 0 }

/-- A stop moved to the entry price. -/
def breakeven : Prog CryptoOp CryptoOp.Ans Exn TradeResult :=
  Prog.perform (CryptoOp.setStopLoss "BTCUSDT" .long (6376473 / 100) 1)

theorem breakeven_onGrid :
    (Prog.calls serve (Prog.implement gateway.contract breakeven) none).countP isFetch ≤ 1 ∧
      ∀ order sig, .submit (.algoOrder order) sig ∈
          Prog.calls serve (Prog.implement gateway.contract breakeven) none →
        ∃ rules, (Prog.run serve (Prog.implement gateway.contract breakeven) none).2 =
            some rules ∧
          (0 < tickOf rules order.symbol → IsDecimal (tickOf rules order.symbol) →
            OnGrid rules (askedBy serve gateway breakeven none) order) ∧
          (tickOf rules order.symbol ≤ 0 →
            (order.symbol, order.triggerPrice) ∈ askedBy serve gateway breakeven none) :=
  triggerPrices_onGrid ruleCell gateway breakeven none

end SimRules

end Binance

end TradeWorker
