import TradeWorker.StopRules

/-!
# Levels of zero

A signal without a stop carries `null` or zero for it, and most layers read the two alike:
the staleness guard, the sizing of either market and the orders attached on the exchange. The
stop validator asks for `None` alone. A zero is far beyond the market on one side of the
quote, and there it stays; on the other side it is too close, and becomes a level one point
from the market.
-/

namespace TradeWorker

/-! ## Reading a zero -/

theorem num?_num? (x : Option ℚ) : num? (num? x) = num? x := by
  rcases x with _ | x
  · rfl
  · by_cases h : x = 0 <;> simp [num?, h]

theorem num?_zero : num? (some 0) = none := rfl

theorem num?_of_ne {x : Option ℚ} (h : x ≠ some 0) : num? x = x := by
  rcases x with _ | x
  · rfl
  · exact if_neg fun h0 => h (congrArg some h0)

theorem num?_of_any {x : Option ℚ} {test : ℚ → Bool} (h : (num? x).any test = true) :
    num? x = x := by
  refine num?_of_ne ?_
  rintro rfl
  cases h

def Signal.leavingOutZeros (signal : Signal) : Signal :=
  { signal with sl := num? signal.sl, tp2 := num? signal.tp2 }

def OrderRequest.leavingOutZeros (order : OrderRequest) : OrderRequest :=
  { order with sl := num? order.sl, tp := num? order.tp }

/-- A call, with the zero levels of an order left out. -/
def WorkerOp.leavingOutZeros : WorkerOp → WorkerOp
  | .fx (.placeOrder order) => .fx (.placeOrder order.leavingOutZeros)
  | o => o

/-! ## The guard -/

theorem Guard.driftRejection_leavingOutZeros (signal : Signal) (livePrice : ℚ)
    (settings : WorkerSettings) (quoteLabel : String) :
    driftRejection signal.leavingOutZeros livePrice settings quoteLabel =
      driftRejection signal livePrice settings quoteLabel := by
  have hsl : num? signal.leavingOutZeros.sl = num? signal.sl := num?_num? signal.sl
  have hreason : driftReason signal.leavingOutZeros = driftReason signal := rfl
  rw [driftRejection, driftRejection, hsl, hreason]
  rfl

theorem Guard.staleSignalRejection_leavingOutZeros (signal : Signal) (livePrice : Option ℚ)
    (settings : WorkerSettings) :
    staleSignalRejection signal.leavingOutZeros livePrice settings =
      staleSignalRejection signal livePrice settings := by
  rcases livePrice with _ | livePrice
  · rfl
  have htarget : num? signal.leavingOutZeros.tp2 = num? signal.tp2 := num?_num? _
  have hstop : num? signal.leavingOutZeros.sl = num? signal.sl := num?_num? _
  unfold staleSignalRejection
  refine ite_congr rfl (fun _ => rfl) fun _ => ?_
  -- a reason shows the level it is about, and that level is not zero
  refine ite_congr (by rw [htarget]; rfl) (fun htp => ?_) fun _ =>
    ite_congr (by rw [hstop]; rfl) (fun hsl => ?_) fun _ => driftRejection_leavingOutZeros ..
  · rw [show signal.leavingOutZeros.tp2 = signal.tp2 from num?_of_any htp]
    rfl
  · rw [show signal.leavingOutZeros.sl = signal.sl from num?_of_any hsl]
    rfl

/-! ## Crypto -/

theorem CryptoExecutor.openPosition_leavingOutZeros (ex : CryptoExecutor) (signal : Signal) :
    ex.openPosition signal.leavingOutZeros = ex.openPosition signal := by
  simp only [openPosition, resolveEntryQty, nettingConflict, attachEntryOrders,
    attachTakeProfit, Signal.leavingOutZeros, num?_num?]
  rfl

/-! ## Forex -/

namespace SymbolSpec

/-- The validator leaves a zero: it rests beyond the limit, or no price can take its place. -/
def LeavesZero (spec : SymbolSpec) (tick : Tick) (away : Away) : Prop :=
  spec.Clears tick away 0 ∨ spec.adjusted tick away ≤ 0

variable {spec : SymbolSpec} {tick : Tick}

theorem resolve_zero_iff {away : Away} :
    spec.resolve tick away 0 = 0 ↔ spec.LeavesZero tick away := by
  rw [resolve_eq_self_iff, LeavesZero]
  constructor
  · rintro (h | h | h)
    · exact Or.inl h
    · exact Or.inr h
    · exact Or.inr h.le
  · rintro (h | h)
    · exact Or.inl h
    · exact Or.inr (Or.inl h)

/-- Validated or left out first, a level is the same unless a zero was moved. -/
theorem num?_map_resolve_iff {away : Away} {level : Option ℚ} :
    num? ((num? level).map (spec.resolve tick away)) =
        num? (level.map (spec.resolve tick away)) ↔
      (level = some 0 → spec.LeavesZero tick away) := by
  by_cases h : level = some 0
  · subst h
    rw [num?_zero, Option.map_none, Option.map_some]
    constructor
    · intro hnone _
      by_contra hmoved
      have hne := mt resolve_zero_iff.mp hmoved
      rw [num?_of_ne fun h0 => hne (Option.some.inj h0)] at hnone
      cases hnone
    · intro hleft
      rw [resolve_zero_iff.mpr (hleft rfl), num?_zero]
      rfl
  · rw [num?_of_ne h]
    exact iff_of_true rfl fun h0 => absurd h0 h

/-- At a broker's quote only a level below the market may be zero. -/
theorem Quoted.leavesZero_iff (h : spec.Quoted tick) {away : Away} :
    spec.LeavesZero tick away ↔ away = .below := by
  have hpoint := h.point_pos
  have hlevel : (0 : ℚ) ≤ spec.stopsLevel := by exact_mod_cast h.stopsLevel
  have hdist : 0 ≤ spec.stopDist := mul_nonneg hlevel hpoint.le
  have hbid := h.bid
  have hask := h.ask
  cases away with
  | above =>
      have hclears : spec.limit tick .above < spec.adjusted tick .above :=
        h.adjusted_clears .above
      have hlimit : 0 < spec.limit tick .above := by
        show 0 < tick.ask + spec.stopDist
        linarith
      refine iff_of_false ?_ (by decide)
      rintro (hfurther | hneg)
      · exact absurd (hlimit.trans hfurther) (lt_irrefl 0)
      · exact absurd (hlimit.trans hclears) (not_lt.mpr hneg)
  | below =>
      refine iff_of_true ?_ rfl
      rcases lt_or_ge 0 (spec.limit tick .below) with hpos | hneg
      · exact Or.inl hpos
      · have hclears : spec.adjusted tick .below < spec.limit tick .below :=
          h.adjusted_clears .below
        exact Or.inr (hclears.le.trans hneg)

end SymbolSpec

def Signal.stops (signal : Signal) (spec : Option SymbolSpec) (side : Side) (tick : Tick) :
    Option ℚ × Option ℚ := validateStops spec side tick signal.sl signal.tp2

theorem stops_leavingOutZeros_iff (spec : Option SymbolSpec) (side : Side) (tick : Tick)
    (signal : Signal) :
    let stops := signal.stops spec side tick
    let kept := signal.leavingOutZeros.stops spec side tick
    (num? kept.1 = num? stops.1 ↔
        ∀ known ∈ spec, 0 < tick.bid → 0 < tick.ask → signal.sl = some 0 →
          known.LeavesZero tick side.slAway) ∧
      (num? kept.2 = num? stops.2 ↔
        ∀ known ∈ spec, 0 < tick.bid → 0 < tick.ask → signal.tp2 = some 0 →
          known.LeavesZero tick side.tpAway) := by
  intro stops kept
  rcases spec with _ | spec
  · simp [stops, kept, Signal.stops, validateStops, Signal.leavingOutZeros, num?_num?]
  by_cases hquote : 0 < tick.bid ∧ 0 < tick.ask
  · obtain ⟨hbid, hask⟩ := hquote
    simp only [stops, kept, Signal.stops]
    rw [validateStops_eq hbid hask, validateStops_eq hbid hask]
    simp [hbid, hask, Signal.leavingOutZeros, SymbolSpec.num?_map_resolve_iff]
  · -- without a quote the validator leaves every level
    have hoff : tick.bid ≤ 0 ∨ tick.ask ≤ 0 := by
      rw [← not_lt, ← not_lt]
      exact not_and_or.mp hquote
    have hsame : num? kept.1 = num? stops.1 ∧ num? kept.2 = num? stops.2 := by
      simp [stops, kept, Signal.stops, validateStops, Signal.leavingOutZeros, hoff, num?_num?]
    exact ⟨iff_of_true hsame.1 fun _ _ hbid hask => absurd ⟨hbid, hask⟩ hquote,
      iff_of_true hsame.2 fun _ _ hbid hask => absurd ⟨hbid, hask⟩ hquote⟩

namespace ForexExecutor

variable (ex : ForexExecutor) (signal : Signal)

theorem resolveEntryVolume_leavingOutZeros (spec : Option SymbolSpec) (price : ℚ)
    {sl kept : Option ℚ} (h : num? kept = num? sl) :
    ex.resolveEntryVolume signal.leavingOutZeros spec price kept =
      ex.resolveEntryVolume signal spec price sl := by
  simp only [resolveEntryVolume, h]
  rfl

end ForexExecutor

section Market

variable {σ : Type} {S : Prog.Server WorkerOp WorkerOp.Ans Exn σ}

/-- Two entries make the same calls, up to zeros in the order that is sent, and run alike if
none is. -/
def AlikeButZeros (S : Prog.Server WorkerOp WorkerOp.Ans Exn σ) (p q : Work TradeResult)
    (s : σ) : Prop :=
  (Prog.calls S p s).map WorkerOp.leavingOutZeros =
      (Prog.calls S q s).map WorkerOp.leavingOutZeros ∧
    ((∀ order, .fx (.placeOrder order) ∉ Prog.calls S q s) → Prog.run S p s = Prog.run S q s)

theorem AlikeButZeros.refl (p : Work TradeResult) (s : σ) : AlikeButZeros S p p s :=
  ⟨rfl, fun _ => rfl⟩

/-- A common beginning. -/
theorem AlikeButZeros.bind {α : Type} {p : Work α} {f g : α → Work TradeResult} {s : σ}
    (h : ∀ a s', Prog.run S p s = (.ok a, s') → AlikeButZeros S (f a) (g a) s') :
    AlikeButZeros S (p >>= f) (p >>= g) s := by
  rcases hrun : Prog.run S p s with ⟨e | a, s'⟩
  · unfold AlikeButZeros
    rw [Prog.calls_bind_error S hrun, Prog.calls_bind_error S hrun, Prog.run_bind_error S hrun,
      Prog.run_bind_error S hrun]
    exact ⟨rfl, fun _ => rfl⟩
  · obtain ⟨hcalls, hunsent⟩ := h a s' hrun
    unfold AlikeButZeros
    rw [Prog.calls_bind_ok S hrun, Prog.calls_bind_ok S hrun, Prog.run_bind_ok S hrun,
      Prog.run_bind_ok S hrun, List.map_append, List.map_append, hcalls]
    exact ⟨rfl, fun hnone => hunsent fun order hmem =>
      hnone order (List.mem_append_right _ hmem)⟩

/-- Two orders that differ in zeros, sent last. -/
theorem AlikeButZeros.send {order order' : OrderRequest} {k : TradeResult → Work TradeResult}
    (horder : order.leavingOutZeros = order'.leavingOutZeros)
    (hk : ∀ result s, Prog.calls S (k result) s = []) (s : σ) :
    AlikeButZeros S (platform (.placeOrder order) >>= k) (platform (.placeOrder order') >>= k)
      s := by
  have hcalls : ∀ order, Prog.calls S (platform (.placeOrder order) >>= k) s =
      [.fx (.placeOrder order)] := by
    intro order
    rcases hrun : Prog.run S (platform (.placeOrder order)) s with ⟨e | result, s'⟩
    · rw [Prog.calls_bind_error S hrun]
      exact Prog.calls_perform ..
    · rw [Prog.calls_bind_ok S hrun, hk, List.append_nil]
      exact Prog.calls_perform ..
  unfold AlikeButZeros
  rw [hcalls, hcalls]
  refine ⟨?_, fun hnone => absurd (List.mem_singleton.mpr rfl) (hnone order')⟩
  show [WorkerOp.fx (.placeOrder order.leavingOutZeros)] = _
  rw [horder]
  rfl

/-- What a broker says of the symbol and of its quote, where it says anything. -/
structure Quotes (S : Prog.Server WorkerOp WorkerOp.Ans Exn σ) (spec : Option SymbolSpec)
    (tick : Tick) : Prop where
  spec : ∀ symbol s given, (S (.fx (.getSymbolSpec symbol)) s).1 = .ok given → given = spec
  tick : ∀ symbol s given, (S (.fx (.getTick symbol)) s).1 = .ok (some given) → given = tick

/-- Each level of zero is one that the validator leaves. -/
structure ZerosKept (spec : Option SymbolSpec) (tick : Tick) (side : Side) (signal : Signal) :
    Prop where
  sl : ∀ known ∈ spec, 0 < tick.bid → 0 < tick.ask → signal.sl = some 0 →
    known.LeavesZero tick side.slAway
  /-- An entry that names no strategy is refused before its order. -/
  tp : signal.strategy ≠ "" → ∀ known ∈ spec, 0 < tick.bid → 0 < tick.ask →
    signal.tp2 = some 0 → known.LeavesZero tick side.tpAway

variable {spec : Option SymbolSpec} {tick : Tick} {side : Side} {signal : Signal}

theorem ForexExecutor.magicFor_ok {ex : ForexExecutor} {strategy : String} {magic : Int}
    (h : ex.magicFor (some strategy) = .ok magic) : strategy ≠ "" := by
  rintro rfl
  cases h

theorem ForexExecutor.openPosition_alikeButZeros (hquotes : Quotes S spec tick)
    (hside : signal.action.side? = some side) (hkept : ZerosKept spec tick side signal)
    (ex : ForexExecutor) (s : σ) :
    AlikeButZeros S (ex.openPosition signal.leavingOutZeros) (ex.openPosition signal) s := by
  have hside' : signal.leavingOutZeros.action.side? = some side := hside
  rw [openPosition, openPosition, hside, hside']
  refine AlikeButZeros.bind fun symbol s₁ _ => ?_
  refine AlikeButZeros.bind fun given s₂ hgiven => ?_
  obtain rfl : given = spec :=
    hquotes.spec symbol s₁ given (by rw [← Prog.run_perform S]; exact congrArg Prod.fst hgiven)
  refine AlikeButZeros.bind fun quote s₃ hquote => ?_
  rcases quote with _ | quote
  · exact AlikeButZeros.refl _ _
  obtain rfl : quote = tick :=
    hquotes.tick symbol s₂ quote (by rw [← Prog.run_perform S]; exact congrArg Prod.fst hquote)
  dsimp only
  split
  · exact AlikeButZeros.refl _ _
  obtain ⟨hsl, htp⟩ := stops_leavingOutZeros_iff given side quote signal
  unfold Signal.stops at hsl htp
  replace hsl := hsl.mpr hkept.sl
  rw [resolveEntryVolume_leavingOutZeros ex signal given _ hsl]
  refine AlikeButZeros.bind fun requested s₄ _ => ?_
  refine AlikeButZeros.bind fun volume s₅ _ => ?_
  rcases volume with _ | volume
  · exact AlikeButZeros.refl _ _
  refine AlikeButZeros.bind fun magic s₆ hmagic => ?_
  have hnamed : signal.strategy ≠ "" := by
    rw [Prog.run_ofExcept] at hmagic
    exact magicFor_ok (congrArg Prod.fst hmagic)
  -- the two orders differ in zeros only
  refine AlikeButZeros.send ?_ (fun result s => ?_) s₆
  · unfold OrderRequest.leavingOutZeros
    dsimp only
    rw [hsl, htp.mpr (hkept.tp hnamed)]
    rfl
  · split <;> rfl

end Market

/-! ## What a moved zero shows -/

section StopsDesk

variable {spec : Option SymbolSpec} {tick : Tick} {account : Except Exn (Option Account)}
  {side : Side} {signal : Signal} {s : List (Option (Option ℚ × Option ℚ))}

/-- What the desk below writes down of a call: a look at the account, or the stops of an
order. -/
def recorded : WorkerOp → List (Option (Option ℚ × Option ℚ))
  | .fx .getAccount => [none]
  | .fx (.placeOrder order) => [some (num? order.sl, num? order.tp)]
  | _ => []

/-- One quote for every symbol, an account that answers as given, and a record. -/
def stopsDesk (spec : Option SymbolSpec) (tick : Tick) (account : Except Exn (Option Account)) :
    Prog.Server WorkerOp WorkerOp.Ans Exn (List (Option (Option ℚ × Option ℚ)))
  | .fx (.resolveSymbol symbol), s => (.ok symbol, s)
  | .fx (.getSymbolSpec _), s => (.ok spec, s)
  | .fx (.getTick _), s => (.ok (some tick), s)
  | .fx .getAccount, s => (account, s ++ [none])
  | .fx (.calcMargin ..), s => (.ok none, s)
  | .fx (.placeOrder order), s =>
      (.ok { success := true }, s ++ [some (num? order.sl, num? order.tp)])
  | _, s => (.error (.gateway "offline"), s)

theorem recorded_leavingOutZeros (o : WorkerOp) : recorded o.leavingOutZeros = recorded o := by
  cases o with
  | db | cx | host => rfl
  | fx o =>
      cases o with
      | placeOrder order =>
          simp only [WorkerOp.leavingOutZeros, OrderRequest.leavingOutZeros, recorded, num?_num?]
      | _ => rfl

theorem stopsDesk_records {α : Type} (p : Work α) (s : List (Option (Option ℚ × Option ℚ))) :
    (Prog.run (stopsDesk spec tick account) p s).2 =
      s ++ (Prog.calls (stopsDesk spec tick account) p s).flatMap recorded := by
  have hstep : ∀ o s, (stopsDesk spec tick account o s).2 = s ++ recorded o := by
    intro o s
    cases o with
    | db | cx | host => exact (List.append_nil s).symm
    | fx o => cases o <;> first | rfl | exact (List.append_nil s).symm
  induction p generalizing s with
  | ret a => exact (List.append_nil s).symm
  | raise e => exact (List.append_nil s).symm
  | call o k ih =>
      rw [Prog.run_call, Prog.calls, List.flatMap_cons, ih, hstep, List.append_assoc]

/-- Entries that make the same calls leave the same record. -/
theorem AlikeButZeros.record {p q : Work TradeResult}
    (h : AlikeButZeros (stopsDesk spec tick account) p q s) :
    (Prog.run (stopsDesk spec tick account) p s).2 =
      (Prog.run (stopsDesk spec tick account) q s).2 := by
  have hrecorded : ∀ calls : List WorkerOp, calls.flatMap recorded =
      (calls.map WorkerOp.leavingOutZeros).flatMap recorded := by
    intro calls
    rw [List.flatMap_map]
    simp only [recorded_leavingOutZeros]
  rw [stopsDesk_records, stopsDesk_records, hrecorded, h.1, ← hrecorded]

theorem stopsDesk_quotes : Quotes (stopsDesk spec tick account) spec tick where
  spec _ _ _ h := (Except.ok.inj h).symm
  tick _ _ _ h := (Option.some.inj (Except.ok.inj h)).symm

/-- It sizes by the equity of the account, which is asked only where there is a stop. -/
def equityExecutor (strategy : String) : ForexExecutor where
  config := { useAccountEquity := some true }
  strategyMagicMap := [(strategy, 1)]

theorem run_stopsDesk_volume_none {price : ℚ} {sl : Option ℚ} (h : num? sl = none) :
    Prog.run (stopsDesk spec tick account)
        ((equityExecutor signal.strategy).resolveEntryVolume signal spec price sl) s =
      (.ok (some ((spec.map (·.volumeMin)).getD (1 / 100))), s) := by
  simp only [ForexExecutor.resolveEntryVolume, h]
  rfl

theorem run_stopsDesk_volume_some {price level : ℚ} {sl : Option ℚ} (h : num? sl = some level) :
    Prog.run (stopsDesk spec tick (.ok none))
        ((equityExecutor signal.strategy).resolveEntryVolume signal spec price sl) s =
      (.ok (some (1 / 100)), s ++ [none]) := by
  simp only [ForexExecutor.resolveEntryVolume, h]
  rfl

theorem run_stopsDesk_volume_raises {price level : ℚ} {sl : Option ℚ} {e : Exn}
    (h : num? sl = some level) :
    Prog.run (stopsDesk spec tick (.error e))
        ((equityExecutor signal.strategy).resolveEntryVolume signal spec price sl) s =
      (.error e, s ++ [none]) := by
  simp only [ForexExecutor.resolveEntryVolume, h]
  rfl

/-- The entry goes as its volume does: a volume is ordered, and an exception passes on. -/
theorem run_stopsDesk_openPosition (hside : signal.action.side? = some side)
    (hprice : 0 < ForexExecutor.entryQuote side tick) :
    let record := (Prog.run (stopsDesk spec tick account)
      ((equityExecutor signal.strategy).openPosition signal) []).2
    let sized := Prog.run (stopsDesk spec tick account)
      ((equityExecutor signal.strategy).resolveEntryVolume signal spec
        (ForexExecutor.entryQuote side tick) (signal.stops spec side tick).1) []
    (∀ volume s, sized = (.ok (some volume), s) → record =
      if signal.strategy = "" then s
      else s ++ [some (num? (signal.stops spec side tick).1,
        num? (signal.stops spec side tick).2)]) ∧
    ∀ e s, sized = (.error e, s) → record = s := by
  unfold Signal.stops
  intro record sized
  have hsymbol : Prog.run (stopsDesk spec tick account) (platform (.resolveSymbol signal.symbol))
      [] = (.ok signal.symbol, []) := rfl
  have hspec : Prog.run (stopsDesk spec tick account) (platform (.getSymbolSpec signal.symbol))
      [] = (.ok spec, []) := rfl
  have htick : Prog.run (stopsDesk spec tick account) (platform (.getTick signal.symbol))
      [] = (.ok (some tick), []) := rfl
  simp only [record]
  rw [ForexExecutor.openPosition, hside]
  dsimp only
  rw [Prog.run_bind_ok _ hsymbol, Prog.run_bind_ok _ hspec, Prog.run_bind_ok _ htick]
  dsimp only
  rw [if_neg (not_le.mpr hprice)]
  constructor
  · intro volume s hvolume
    rw [Prog.run_bind_ok _ hvolume]
    have hfit : Prog.run (stopsDesk spec tick account) (ForexExecutor.fitVolumeToMargin
        signal.symbol side (some volume) (ForexExecutor.entryQuote side tick) spec) s =
          (.ok (some volume), s) := rfl
    rw [Prog.run_bind_ok _ hfit]
    dsimp only
    by_cases hnamed : signal.strategy = ""
    · rw [if_pos hnamed, hnamed]
      rfl
    · have hmagic : (equityExecutor signal.strategy).magicFor (some signal.strategy) = .ok 1 := by
        simp [ForexExecutor.magicFor, equityExecutor, text?, hnamed]
      rw [if_neg hnamed, hmagic]
      simp only [reduceIte]
      rfl
  · intro e s he
    rw [Prog.run_bind_error _ he]

/-- A stop of zero that moves has the account asked. -/
theorem sl_kept_of_alike (hside : signal.action.side? = some side)
    (h : AlikeButZeros (stopsDesk spec tick (.error (.gateway "offline")))
      ((equityExecutor signal.strategy).openPosition signal.leavingOutZeros)
      ((equityExecutor signal.strategy).openPosition signal) [])
    {known : SymbolSpec} (hknown : known ∈ spec) (hbid : 0 < tick.bid) (hask : 0 < tick.ask)
    (hzero : signal.sl = some 0) : known.LeavesZero tick side.slAway := by
  obtain rfl : spec = some known := hknown
  by_contra hmoved
  have hprice : 0 < ForexExecutor.entryQuote side tick := by
    cases side <;> assumption
  have hstops : (signal.stops (some known) side tick).1 =
      some (known.resolve tick side.slAway 0) := by
    rw [Signal.stops, validateStops_eq hbid hask, hzero, Option.map_some]
  have hkept : (signal.leavingOutZeros.stops (some known) side tick).1 = none := by
    rw [Signal.stops, validateStops_eq hbid hask, Signal.leavingOutZeros, hzero, num?_zero,
      Option.map_none]
  have hne := mt SymbolSpec.resolve_zero_iff.mp hmoved
  have hnum : num? (some (known.resolve tick side.slAway 0)) =
      some (known.resolve tick side.slAway 0) :=
    num?_of_ne fun h0 => hne (Option.some.inj h0)
  have hasked := (@run_stopsDesk_openPosition (some known) tick (.error (.gateway "offline"))
    side signal hside hprice).2 _ _ (run_stopsDesk_volume_raises (by rw [hstops, hnum]))
  have hunasked := (@run_stopsDesk_openPosition (some known) tick (.error (.gateway "offline"))
    side signal.leavingOutZeros hside hprice).1 _ _
    (run_stopsDesk_volume_none (by rw [hkept]; rfl))
  have halike := hunasked.symm.trans (h.record.trans hasked)
  split at halike <;> cases halike

/-- A target of zero that moves is on record. -/
theorem tp_kept_of_alike (hside : signal.action.side? = some side)
    (hnamed : signal.strategy ≠ "")
    (h : AlikeButZeros (stopsDesk spec tick (.ok none))
      ((equityExecutor signal.strategy).openPosition signal.leavingOutZeros)
      ((equityExecutor signal.strategy).openPosition signal) [])
    {known : SymbolSpec} (hknown : known ∈ spec) (hbid : 0 < tick.bid) (hask : 0 < tick.ask)
    (hzero : signal.tp2 = some 0) : known.LeavesZero tick side.tpAway := by
  have hprice : 0 < ForexExecutor.entryQuote side tick := by
    cases side <;> assumption
  have hplaced : ∀ sent : Signal, sent.action.side? = some side → sent.strategy ≠ "" →
      (Prog.run (stopsDesk spec tick (.ok none))
        ((equityExecutor sent.strategy).openPosition sent) []).2.getLast? =
      some (some (num? (sent.stops spec side tick).1, num? (sent.stops spec side tick).2)) := by
    intro sent hsent hsentNamed
    have hrun := (@run_stopsDesk_openPosition spec tick (.ok none) side sent hsent hprice).1
    rcases hsl : num? (sent.stops spec side tick).1 with _ | level
    · rw [hrun _ _ (run_stopsDesk_volume_none hsl), if_neg hsentNamed, hsl]
      rfl
    · rw [hrun _ _ (run_stopsDesk_volume_some hsl), if_neg hsentNamed, hsl]
      rfl
  have hkept := hplaced signal.leavingOutZeros hside hnamed
  have halike := congrArg List.getLast? h.record
  rw [hplaced signal hside hnamed] at halike
  have hpair := Option.some.inj (Option.some.inj (hkept.symm.trans halike))
  exact (stops_leavingOutZeros_iff spec side tick signal).2.mp (congrArg Prod.snd hpair) known
    hknown hbid hask hzero

end StopsDesk

/-! ## Zero means absent -/

/-- Leaving the zeros of a signal out changes nothing that matters: not what the guard says,
nor the calls a forex entry makes, the volume and the order included, up to zeros in the
order, whatever is answered; nor what a crypto entry does. -/
structure ZeroMeansAbsent (spec : Option SymbolSpec) (tick : Tick) (signal : Signal) : Prop where
  guard : ∀ livePrice settings,
    Guard.staleSignalRejection signal.leavingOutZeros livePrice settings =
      Guard.staleSignalRejection signal livePrice settings
  forex : ∀ {σ : Type} (S : Prog.Server WorkerOp WorkerOp.Ans Exn σ), Quotes S spec tick →
    ∀ (ex : ForexExecutor) (s : σ),
      AlikeButZeros S (ex.openPosition signal.leavingOutZeros) (ex.openPosition signal) s
  crypto : ∀ ex : CryptoExecutor,
    ex.openPosition signal.leavingOutZeros = ex.openPosition signal

/-- **A zero level means an absent one** exactly where the validator leaves the zeros. -/
theorem zeroMeansAbsent_iff (spec : Option SymbolSpec) (tick : Tick) {signal : Signal}
    {side : Side} (hside : signal.action.side? = some side) :
    ZeroMeansAbsent spec tick signal ↔ ZerosKept spec tick side signal := by
  constructor
  · intro h
    refine ⟨fun known hknown hbid hask => ?_, fun hnamed known hknown hbid hask => ?_⟩
    · exact sl_kept_of_alike hside (h.forex _ stopsDesk_quotes _ _) hknown hbid hask
    · exact tp_kept_of_alike hside hnamed (h.forex _ stopsDesk_quotes _ _) hknown hbid hask
  · intro hkept
    exact {
      guard := Guard.staleSignalRejection_leavingOutZeros signal
      forex := fun _ hquotes ex s =>
        ForexExecutor.openPosition_alikeButZeros hquotes hside hkept ex s
      crypto := fun ex => ex.openPosition_leavingOutZeros signal }

def stopOfZero (action : SignalAction) : Signal where
  strategy := "trend"
  timestamp := 0
  action := action
  symbol := "EURUSD"
  sl := some 0

theorem longStopOfZero_absent : ZeroMeansAbsent (some tightQuote) onePip (stopOfZero .long) := by
  refine (zeroMeansAbsent_iff (some tightQuote) onePip rfl).mpr ⟨?_, ?_⟩
  · rintro known ⟨⟩ - - -
    exact tightQuote_quoted.leavesZero_iff.mpr rfl
  · rintro - known - - - ⟨⟩

/-- On a SHORT the same zero becomes a stop, one point beyond the nearest that is allowed. -/
theorem shortStopOfZero_placed :
    (stopOfZero .short).stops (some tightQuote) .short onePip = (some (108021 / 100000), none) ∧
      ¬ZeroMeansAbsent (some tightQuote) onePip (stopOfZero .short) := by
  refine ⟨by decide +kernel, fun h => ?_⟩
  have hleft := sl_kept_of_alike rfl (h.forex _ stopsDesk_quotes _ _) rfl (by decide +kernel)
    (by decide +kernel) rfl
  exact absurd (tightQuote_quoted.leavesZero_iff.mp hleft) (by decide)

end TradeWorker
