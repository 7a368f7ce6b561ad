import TradeWorker.AdminFlat
import TradeWorker.CloseHandlers
import TradeWorker.CryptoReach
import TradeWorker.CryptoStops
import TradeWorker.ExchangeClose

/-!
# The orders that protect a position

An entry on a CEX leaves a stop-loss and a take-profit resting on the exchange, and a
breakeven move puts them there again. They go when they fill or when the symbol is
cancelled. `close_all_positions` cancels before it closes; the partial close, the rollback
of an entry, the close of ADMIN FLAT and the handlers of an exchange-side close cancel
nothing.
-/

namespace TradeWorker

/-! ## An exchange with resting orders -/

inductive Protection where
  | stopLoss | takeProfit
  deriving DecidableEq, Repr

/-- A conditional order the worker placed. -/
structure RestingOrder where
  symbol : String
  side : Side
  kind : Protection
  price : ℚ
  quantity : ℚ
  deriving DecidableEq, Repr

/-- What an exchange holds: its positions, and the worker's orders that rest on it. -/
structure ExchangeView (β : Type) where
  positions : β → List ExchangePosition
  resting : β → List RestingOrder

namespace ExchangeView

variable {β : Type} (V : ExchangeView β)

def Rests (b : β) (symbol : String) : Prop := ∃ o ∈ V.resting b, o.symbol = symbol

def Flat (b : β) (symbol : String) : Prop :=
  ∀ p ∈ V.positions b, p.symbol = symbol → ¬ 0 < p.volume

def liveOn (b : β) (symbol : String) : List ExchangePosition :=
  ((V.positions b).filter (·.symbol = symbol)).filter (0 < ·.volume)

/-- From one state to another no position moved and no order appeared. -/
structure Still (b b' : β) : Prop where
  positions : V.positions b' = V.positions b
  resting : V.resting b' ⊆ V.resting b

variable {V}

theorem Still.refl (b : β) : V.Still b b := ⟨rfl, List.Subset.refl _⟩

theorem Still.trans {b b' b'' : β} (h : V.Still b b') (h' : V.Still b' b'') : V.Still b b'' :=
  ⟨h'.positions.trans h.positions, List.Subset.trans h'.resting h.resting⟩

theorem Still.rests {b b' : β} (h : V.Still b b') {symbol : String} (hrests : V.Rests b' symbol) :
    V.Rests b symbol := by
  rcases hrests with ⟨o, ho, hsymbol⟩
  exact ⟨o, h.resting ho, hsymbol⟩

theorem Still.flat_iff {b b' : β} (h : V.Still b b') (symbol : String) :
    V.Flat b' symbol ↔ V.Flat b symbol := by
  rw [Flat, Flat, h.positions]

end ExchangeView

def CryptoOp.asks : CryptoOp → Bool
  | .placeMarketOrder .. | .setStopLoss .. | .setTakeProfit .. | .cancelAllOrders _ => false
  | _ => true

/-- The exchange keeps a conditional order: it rests from the call that placed it until it
fills or is cancelled. A call moves what it is about, and orders fill between the worker's
operations. -/
structure KeepsOrders {β : Type} (V : ExchangeView β) (B : Backend β) : Prop where
  fx : ∀ o b, V.Still b (B.fx o b).2
  host : ∀ o b, V.Still b (B.host o b).2
  asks : ∀ o b, o.asks = true → V.Still b (B.cx o b).2
  lists : ∀ symbol b positions, (B.cx (.getPositions (some symbol)) b).1 = .ok positions →
    positions = (V.positions b).filter (·.symbol = symbol)
  cancels : ∀ symbol b, V.Still b (B.cx (.cancelAllOrders symbol) b).2
  /-- A stop that the exchange refuses does not rest. -/
  stops : ∀ symbol side price quantity b,
    V.positions (B.cx (.setStopLoss symbol side price quantity) b).2 = V.positions b ∧
    ∀ o ∈ V.resting (B.cx (.setStopLoss symbol side price quantity) b).2, o ∈ V.resting b ∨
      o = ⟨symbol, side, .stopLoss, price, quantity⟩ ∧
        ∃ r, (B.cx (.setStopLoss symbol side price quantity) b).1 = .ok r ∧ r.success = true
  takesProfit : ∀ symbol side price quantity b,
    V.positions (B.cx (.setTakeProfit symbol side price quantity) b).2 = V.positions b ∧
    ∀ o ∈ V.resting (B.cx (.setTakeProfit symbol side price quantity) b).2, o ∈ V.resting b ∨
      o = ⟨symbol, side, .takeProfit, price, quantity⟩
  orders : ∀ symbol side quantity reduceOnly id b,
    V.resting (B.cx (.placeMarketOrder symbol side quantity reduceOnly id) b).2 ⊆ V.resting b
  /-- A reduce-only order of less than the position leaves some of it. -/
  reduces : ∀ symbol side quantity id b, ∀ p ∈ V.positions b, p.symbol = symbol →
    p.side = side → quantity < p.volume →
      ¬ V.Flat (B.cx (.placeMarketOrder symbol side quantity true id) b).2 symbol

/-! ## What the worker does to a symbol -/

/-- The worker's operations, and its handlers of an exchange-side close. -/
inductive CryptoWork where
  | signal (s : Signal)
  | adminFlat (admin : AdminFlat) (isPrivate : Bool) (raw : String)
  | exchangeClose (event : ExchangeCloseEvent)
  | missedClose (row : Row)

section Work

variable (ex : CryptoExecutor) (desk : AdminDesk ExchangePosition)

def CryptoWork.program : CryptoWork → Work Unit
  | .signal s => do
      let _result ← SignalHandler.handle (cryptoMarket ex) s
      pure ()
  | .adminFlat admin isPrivate raw => desk.handleAdminFlat admin isPrivate raw
  | .exchangeClose event => ex.onExchangeClose event
  | .missedClose row => ex.onMissedClose row

def CryptoWork.handled? : CryptoWork → Option String
  | .signal _ | .adminFlat .. => none
  | .exchangeClose event => some event.symbol
  | .missedClose row => some (ex.getSymbol row.symbol)

end Work

section Property

variable {β : Type} (V : ExchangeView β) (symbol : String)

/-- A close of the worker that leaves the symbol flat leaves nothing resting on it. -/
def Leaves : WorkerOp → World β → Prop
  | .cx (.placeMarketOrder s _ _ true _), w =>
      s = symbol → V.Flat w.rest symbol → ¬ V.Rests w.rest symbol
  | _, _ => True

/-- A cancellation on the symbol that returns has taken effect. -/
def Cancelled : (o : WorkerOp) → World β → Except Exn o.Ans → World β → Prop
  | .cx (.cancelAllOrders s), _, .ok _, w' => s = symbol → ¬ V.Rests w'.rest symbol
  | _, _, _, _ => True

/-- No order outlives the position: not where the worker closes it, and not where the worker
handles its close. -/
structure NoneOutlives (ex : CryptoExecutor) (desk : AdminDesk ExchangePosition) (B : Backend β)
    (c : CryptoWork) (w : World β) : Prop where
  closed : ∀ n, Prog.Admitted (fun o _ _ w' => Leaves V symbol o w') B.serve n
    (c.program ex desk) w
  handled : c.handled? ex = some symbol →
    V.Flat (Prog.run B.serve (c.program ex desk) w).2.rest symbol →
      ¬ V.Rests (Prog.run B.serve (c.program ex desk) w).2.rest symbol

end Property

/-! ## The conditions -/

def FilterOf {β : Type} (B : Backend β) (symbol : String) (f : SymbolFilter) : Prop :=
  ∃ b, (B.cx (.getSymbolFilter symbol) b).1 = .ok f

/-- A TP1 asks for less than the position, by whatever filters the exchange states. -/
def Tp1Part {β : Type} (ex : CryptoExecutor) (V : ExchangeView β) (B : Backend β)
    (symbol : String) (signal : Signal) (b : β) : Prop :=
  ∀ named ∈ V.liveOn b symbol, ∀ p ∈ V.liveOn b symbol, ∀ asked,
    tp1Volume ex signal named = some asked → ∀ f, FilterOf B symbol f → ∀ f', FilterOf B symbol f' →
      CryptoExecutor.normalizeWith f' (min (CryptoExecutor.normalizeWith f asked) p.volume) <
        p.volume

/-- The exchange takes the entry's stop, or none is asked for. -/
def StopTaken {β : Type} (B : Backend β) (symbol : String) (signal : Signal) : Prop :=
  ∀ sl, num? signal.sl = some sl → ∀ side quantity b r,
    (B.cx (.setStopLoss symbol side sl quantity) b).1 = .ok r → r.success = true

/-! ## Calls by what they move -/

def WorkerOp.within (allowed : CryptoOp → Bool) : WorkerOp → Bool
  | .cx o => o.asks || allowed o
  | _ => true

def within (allowed : CryptoOp → Bool) : Prog.Contract WorkerOp WorkerOp.Ans Exn where
  guard o := o.within allowed = true
  answers _ _ := True

def noOrder : CryptoOp → Bool := fun _ => false

def ordering : CryptoOp → Bool
  | .placeMarketOrder .. => true
  | _ => false

def keeping : CryptoOp → Bool
  | .placeMarketOrder _ _ _ reduceOnly _ => !reduceOnly
  | _ => true

section Contracts

variable {allowed : CryptoOp → Bool}

theorem within_cx {o : CryptoOp} (ho : o.asks = true ∨ allowed o = true) :
    Prog.Sends (within allowed) (fun _ => True) (exchange o) :=
  Prog.sends_perform (by simpa [within, WorkerOp.within] using ho) fun _ _ => trivial

theorem within_sql (o : DbOp) : Prog.Sends (within allowed) (fun _ => True) (sql o) :=
  Prog.sends_perform rfl fun _ _ => trivial

theorem within_host (o : HostOp) : Prog.Sends (within allowed) (fun _ => True) (host o) :=
  Prog.sends_perform rfl fun _ _ => trivial

theorem within_of_consulting {α : Type} {Q : α → Prop} {p : Work α}
    (hp : Prog.Sends consulting Q p) : Prog.Sends (within allowed) Q p := by
  refine hp.relax (fun o ho => ?_) fun _ _ _ => trivial
  cases o with
  | db | fx | host => rfl
  | cx o =>
      cases o with
      | placeMarketOrder | setStopLoss | setTakeProfit | cancelAllOrders => cases ho
      | getSymbolFilter | getMarkPrice | getPositions | getOrderRealizedPnl | getAccount => rfl

end Contracts

/-! ## Following the orders -/

section Following

variable {β : Type} (V : ExchangeView β) (B : Backend β) (symbol : String)

/-- The exchange's answers in a run whose cancellations take effect, with the demand on each
call. -/
def outcomes : Prog.Env WorkerOp WorkerOp.Ans Exn (World β) where
  guard o w := ∀ r w', B.serve o w = (r, w') → Cancelled V symbol o w r w' → Leaves V symbol o w'
  answers o w r w' := B.serve o w = (r, w') ∧ Cancelled V symbol o w r w'

variable {V B symbol} (hB : KeepsOrders V B)

theorem leaves_of_keeping {o : WorkerOp} (ho : o.within keeping = true) (w : World β) :
    Leaves V symbol o w := by
  unfold Leaves
  split
  · cases ho
  · trivial

include hB

theorem serve_still {o : WorkerOp} (ho : o.within noOrder = true) (w : World β) :
    V.Still w.rest (B.serve o w).2.rest := by
  cases o with
  | db o => exact .refl _
  | fx o => exact hB.fx o w.rest
  | host o => exact hB.host o w.rest
  | cx o => exact hB.asks o w.rest (by simpa [WorkerOp.within, noOrder] using ho)

theorem serve_ordering {o : WorkerOp} (ho : o.within ordering = true) (w : World β) :
    V.resting (B.serve o w).2.rest ⊆ V.resting w.rest := by
  by_cases hasks : o.within noOrder = true
  · exact (serve_still hB hasks w).resting
  · cases o with
    | db | fx | host => exact absurd rfl hasks
    | cx o =>
        cases o with
        | placeMarketOrder => exact hB.orders ..
        | setStopLoss | setTakeProfit | cancelAllOrders => cases ho
        | getSymbolFilter | getMarkPrice | getPositions | getOrderRealizedPnl | getAccount =>
            exact absurd rfl hasks

/-- Questions move nothing. -/
theorem wp_asks {α : Type} {Q : α → Prop} {p : Work α}
    (hp : Prog.Sends (within noOrder) Q p) (w : World β) :
    Prog.wp (outcomes V B symbol)
      (fun r w' => V.Still w.rest w'.rest ∧ ∀ a, r = .ok a → Q a) p w := by
  refine hp.wp (I := fun w' : World β => V.Still w.rest w'.rest)
    (fun o w₁ hI ho => ⟨?_, ?_⟩) (.refl _)
  · intro r w' _ _
    refine leaves_of_keeping ?_ w'
    cases o with
    | db | fx | host => rfl
    | cx o => simp_all [within, WorkerOp.within, noOrder]
  · rintro r w' ⟨hserve, -⟩
    have hstill := serve_still hB ho w₁
    rw [hserve] at hstill
    exact ⟨trivial, hI.trans hstill⟩

/-- Where nothing rests, a market order leaves nothing resting. -/
theorem wp_ordering {α : Type} {Q : α → Prop} {p : Work α}
    (hp : Prog.Sends (within ordering) Q p) {w : World β} (hnone : ¬ V.Rests w.rest symbol) :
    Prog.wp (outcomes V B symbol)
      (fun r w' => ¬ V.Rests w'.rest symbol ∧ ∀ a, r = .ok a → Q a) p w := by
  refine hp.wp (I := fun w' : World β => ¬ V.Rests w'.rest symbol) (fun o w₁ hI ho => ?_) hnone
  have hsub := serve_ordering hB ho w₁
  have hnone' : ¬ V.Rests (B.serve o w₁).2.rest symbol := by
    rintro ⟨x, hx, hsymbol⟩
    exact hI ⟨x, hsub hx, hsymbol⟩
  refine ⟨fun r w' hserve _ => ?_, fun r w' hr => ⟨trivial, ?_⟩⟩
  · rw [hserve] at hnone'
    unfold Leaves
    split
    · exact fun _ _ => hnone'
    · trivial
  · rw [hr.1] at hnone'
    exact hnone'

omit hB in
/-- Without a reduce-only order nothing is closed. -/
theorem wp_keeping {α : Type} {Q : α → Prop} {p : Work α}
    (hp : Prog.Sends (within keeping) Q p) (w : World β) :
    Prog.wp (outcomes V B symbol) (fun r _ => ∀ a, r = .ok a → Q a) p w := by
  refine Prog.wp_mono (hp.wp (I := fun _ => True) (fun o _ _ ho => ⟨?_, ?_⟩) trivial)
    fun _ _ h => h.2
  · exact fun _ w' _ _ => leaves_of_keeping ho w'
  · exact fun _ _ _ => ⟨trivial, trivial⟩

omit hB in
/-- What is closed elsewhere is not closed here. -/
theorem wp_elsewhere {α : Type} {X : String} (hX : X ≠ symbol) {Q : α → Prop} {p : Work α}
    (hp : Prog.Sends (onExchange X) Q p) (w : World β) :
    Prog.wp (outcomes V B symbol) (fun r _ => ∀ a, r = .ok a → Q a) p w := by
  refine Prog.wp_mono (hp.wp (I := fun _ => True) (fun o _ _ ho => ⟨?_, ?_⟩) trivial)
    fun _ _ h => h.2
  · intro _ w' _ _
    unfold Leaves
    split
    · exact fun hs => absurd (ho.2.symm.trans hs) hX
    · trivial
  · exact fun _ _ _ => ⟨trivial, trivial⟩

omit hB in
/-- What is demanded of the calls holds of a run whose cancellations take effect. -/
theorem leaves_of_wp {α : Type} {Q : Except Exn α → World β → Prop} {p : Work α} {w : World β}
    (h : Prog.wp (outcomes V B symbol) Q p w) {n : Nat}
    (hcancelled : Prog.Admitted (Cancelled V symbol) B.serve n p w) :
    Prog.Admitted (fun o _ _ w' => Leaves V symbol o w') B.serve n p w :=
  Prog.wp_admitted (E := outcomes V B symbol) (fun _ _ hr => ⟨rfl, hr⟩)
    (fun _ _ hg hr => hg _ _ rfl hr.2) h hcancelled

/-- A question, and what comes after it. -/
theorem wp_after_asks {α γ : Type} {P : α → Prop} {p : Work α}
    (hp : Prog.Sends (within noOrder) P p) {f : α → Work γ} {Q : Except Exn γ → World β → Prop}
    {w : World β}
    (hf : ∀ a w', P a → V.Still w.rest w'.rest → Prog.wp (outcomes V B symbol) Q (f a) w')
    (herror : ∀ e w', Q (.error e) w') : Prog.wp (outcomes V B symbol) Q (p >>= f) w :=
  Prog.wp_bind_of (wp_asks hB hp w) (fun a w' h => hf a w' (h.2 a rfl) h.1)
    fun e w' _ => herror e w'

/-! ## The executor -/

section Executor

variable {ex : CryptoExecutor}

omit hB in
theorem closeEach_orders (X : String) (closePrice entryPrice : Option ℚ)
    (ps : List ExchangePosition) : Prog.Sends (within ordering) (fun _ => True)
      (CryptoExecutor.closeEach X closePrice entryPrice ps) := by
  induction ps with
  | nil => simp [CryptoExecutor.closeEach]
  | cons pos rest ih =>
      refine Prog.Sends.bind (within_of_consulting CryptoExecutor.closeClientOrderId_consults)
        fun orderId _ => ?_
      refine Prog.Sends.bind (within_cx (.inr rfl)) fun result _ => ?_
      split
      · refine Prog.Sends.bind (within_of_consulting
          (CryptoExecutor.attachRealizedPnl_consults ..)) fun result _ => ?_
        exact Prog.Sends.bind ih fun _ _ => by simp
      · exact ih

/-- A full close cancels first: where it closed anything nothing rests. -/
theorem closeAllPositions_wp (base reason : String) (strategy : Option String)
    (closePrice : Option ℚ) (ticket : Option String) (w : World β) :
    Prog.wp (outcomes V B symbol)
      (fun r w' => ∀ result, r = .ok result → result.success = true →
        ex.getSymbol base = symbol → ¬ V.Rests w'.rest symbol)
      (ex.closeAllPositions base reason strategy closePrice ticket) w := by
  by_cases hX : ex.getSymbol base = symbol
  · refine wp_after_asks hB (within_of_consulting (CryptoExecutor.getOpenPositions_consults base))
      (fun positions w₁ _ _ => ?_) (fun _ _ _ h => (nomatch h))
    generalize filterByTicket positions ticket = matching
    cases matching with
    | nil =>
        rintro result ⟨⟩ hsuccess
        cases hsuccess
    | cons first rest =>
        refine Prog.wp_bind_of
          (R := fun (r : Except Exn Unit) w' => r = .ok () → ¬ V.Rests w'.rest symbol)
          (Prog.wp_perform.mpr ⟨fun _ w' _ _ => leaves_of_keeping rfl w', ?_⟩)
          (fun _ w₂ hnone => ?_) (fun _ _ _ _ h => (nomatch h))
        · rintro r w' ⟨-, hcancelled⟩ rfl
          exact hcancelled hX
        · refine Prog.wp_mono (wp_ordering hB (Q := fun _ => True) ?_ (hnone rfl))
            fun _ _ h _ _ _ _ => h.1
          refine Prog.Sends.bind (within_of_consulting
            (CryptoExecutor.entryPriceFromDb_consults ..)) fun entryPrice _ => ?_
          exact Prog.Sends.bind (closeEach_orders ..) fun _ _ => by simp
  · exact Prog.wp_mono (wp_elsewhere hX (CryptoExecutor.closeAllPositions_reduces ..) w)
      fun _ _ _ _ _ _ h => absurd h hX

omit hB in
theorem attachTakeProfit_keeps (X : String) (side : Side) (qty : ℚ) (signal : Signal)
    (result : TradeResult) : Prog.Sends (within keeping) (fun _ => True)
      (CryptoExecutor.attachTakeProfit X side qty signal result) := by
  unfold CryptoExecutor.attachTakeProfit
  cases num? signal.tp2 with
  | none => simp
  | some tp2 => exact Prog.Sends.bind (within_cx (.inr rfl)) fun _ _ => by simp

omit hB in
theorem rollbackUnprotectedEntry_orders (X : String) (side : Side) (entry slRes : TradeResult)
    (qty : ℚ) : Prog.Sends (within ordering) (fun _ => True)
      (CryptoExecutor.rollbackUnprotectedEntry X side entry slRes qty) := by
  refine Prog.Sends.bind (within_of_consulting CryptoExecutor.closeClientOrderId_consults)
    fun orderId _ => ?_
  exact Prog.Sends.bind (within_cx (.inr rfl)) fun _ _ => by simp

/-- An entry whose stop is refused is rolled back over whatever rests; otherwise it closes
nothing. -/
theorem attachEntryOrders_wp (X : String) (side : Side) (qty : ℚ) (signal : Signal)
    (result : TradeResult) (w : World β)
    (h : ¬ V.Rests w.rest symbol ∨ StopTaken B X signal) :
    Prog.wp (outcomes V B symbol) (fun _ _ => True)
      (CryptoExecutor.attachEntryOrders X side qty signal result) w := by
  unfold CryptoExecutor.attachEntryOrders
  cases hsl : num? signal.sl with
  | none =>
      have hkeep := Prog.Sends.bind (attachTakeProfit_keeps X side qty signal result)
        (R := fun _ => True)
        (f := fun r => pure { r with volume := r.volume <|> some qty }) fun _ _ => by simp
      exact Prog.wp_mono (wp_keeping hkeep w) fun _ _ _ => trivial
  | some sl =>
      refine Prog.wp_bind_of (R := fun (r : Except Exn TradeResult) w' =>
          ∀ slRes, r = .ok slRes → slRes.success = false → ¬ V.Rests w'.rest symbol)
        (Prog.wp_perform.mpr ⟨fun _ w' _ _ => leaves_of_keeping rfl w', ?_⟩)
        (fun slRes w' hfail => ?_) (fun _ _ _ => trivial)
      · rintro r w' ⟨hserve, -⟩ slRes rfl hfail ⟨o, ho, hsymbol⟩
        obtain ⟨hanswer, rfl⟩ := Prod.mk.inj hserve
        rcases (hB.stops X side sl qty w.rest).2 o ho with hold | ⟨-, r, hr, hsuccess⟩
        · rcases h with hnone | htaken
          · exact hnone ⟨o, hold, hsymbol⟩
          · exact absurd (htaken sl hsl side qty w.rest slRes hanswer) (by simp [hfail])
        · cases hanswer.symm.trans hr
          rw [hfail] at hsuccess
          cases hsuccess
      · dsimp only
        split
        · have hkeep := Prog.Sends.bind (attachTakeProfit_keeps X side qty signal
              { result with slUpdate := some slRes, sl := some sl }) (R := fun _ => True)
            (f := fun r => pure { r with volume := r.volume <|> some qty }) fun _ _ => by simp
          exact Prog.wp_mono (wp_keeping hkeep w') fun _ _ _ => trivial
        · have hnone := hfail slRes rfl (by simpa using ‹¬ slRes.success = true›)
          exact Prog.wp_mono (wp_ordering hB (rollbackUnprotectedEntry_orders ..) hnone)
            fun _ _ _ => trivial

/-- An entry closes nothing that is not protected by hand-over: nothing rests before it, or its
stop is taken. -/
theorem openPosition_wp (signal : Signal) (w : World β)
    (h : ex.getSymbol signal.symbol = symbol →
      ¬ V.Rests w.rest symbol ∨ StopTaken B symbol signal) :
    Prog.wp (outcomes V B symbol) (fun _ _ => True) (ex.openPosition signal) w := by
  by_cases hX : ex.getSymbol signal.symbol = symbol
  · have hmoved : ∀ w' : World β, V.resting w'.rest ⊆ V.resting w.rest →
        ¬ V.Rests w'.rest symbol ∨ StopTaken B (ex.getSymbol signal.symbol) signal := by
      intro w' hsub
      rw [hX]
      refine (h hX).imp_left fun hnone => ?_
      rintro ⟨o, ho, hsymbol⟩
      exact hnone ⟨o, hsub ho, hsymbol⟩
    unfold CryptoExecutor.openPosition
    split
    · trivial
    · dsimp only
      split
      · trivial
      · refine wp_after_asks hB (within_of_consulting (CryptoExecutor.resolveEntryQty_consults ..))
          (fun resolved w₁ _ h₁ => ?_) fun _ _ => trivial
        refine wp_after_asks hB (within_of_consulting (CryptoExecutor.normalizeVolume_consults ..))
          (fun qty w₂ _ h₂ => ?_) fun _ _ => trivial
        split
        · trivial
        · refine wp_after_asks hB
            (within_of_consulting (CryptoExecutor.enforceMinNotional_consults ..))
            (fun qty w₃ _ h₃ => ?_) fun _ _ => trivial
          cases qty with
          | none => trivial
          | some qty =>
              refine wp_after_asks hB
                (within_of_consulting (CryptoExecutor.nettingConflict_consults ..))
                (fun conflict w₄ _ h₄ => ?_) fun _ _ => trivial
              have h₀ := ((h₁.trans h₂).trans h₃).trans h₄
              cases conflict with
              | some conflict => trivial
              | none =>
                  refine Prog.wp_bind_of (R := fun _ w' => V.resting w'.rest ⊆ V.resting w.rest)
                    (Prog.wp_perform.mpr ⟨fun _ w' _ _ => leaves_of_keeping rfl w', ?_⟩)
                    (fun result w₅ hsub => ?_) fun _ _ _ => trivial
                  · rintro r w' ⟨hserve, -⟩
                    obtain ⟨-, rfl⟩ := Prod.mk.inj hserve
                    exact List.Subset.trans (hB.orders ..) h₀.resting
                  · split
                    · exact attachEntryOrders_wp hB _ _ _ _ _ w₅ (hmoved w₅ hsub)
                    · trivial
  · exact Prog.wp_mono (wp_elsewhere hX (CryptoExecutor.openPosition_reduces signal) w)
      fun _ _ _ => trivial

/-- The live positions of the symbol, as the exchange has them. -/
theorem getOpenPositions_wp (base : String) (w : World β) :
    Prog.wp (outcomes V B symbol)
      (fun r w' => V.Still w.rest w'.rest ∧ ∀ positions, r = .ok positions →
        positions = V.liveOn w.rest (ex.getSymbol base))
      (ex.getOpenPositions base) w := by
  refine Prog.wp_bind_of (R := fun (r : Except Exn (List ExchangePosition)) w' =>
      V.Still w.rest w'.rest ∧ ∀ listed, r = .ok listed →
        listed = (V.positions w.rest).filter (·.symbol = ex.getSymbol base))
    (Prog.wp_perform.mpr ⟨fun _ w' _ _ => leaves_of_keeping rfl w', ?_⟩)
    (fun listed w' h => ⟨h.1, ?_⟩) (fun _ _ h => ⟨h.1, fun _ he => (nomatch he)⟩)
  · rintro r w' ⟨hserve, -⟩
    obtain ⟨hanswer, rfl⟩ := Prod.mk.inj hserve
    exact ⟨hB.asks _ w.rest rfl, fun listed hr => hB.lists _ w.rest listed (hanswer.trans hr)⟩
  · rintro positions ⟨⟩
    rw [h.2 listed rfl]
    rfl

theorem normalizeVolume_wp (base : String) (volume : ℚ) (w : World β) :
    Prog.wp (outcomes V B symbol)
      (fun r w' => V.Still w.rest w'.rest ∧ ∀ v, r = .ok v →
        ∃ f, FilterOf B (ex.getSymbol base) f ∧ v = CryptoExecutor.normalizeWith f volume)
      (ex.normalizeVolume base volume) w := by
  refine Prog.wp_bind_of (R := fun (r : Except Exn SymbolFilter) w' =>
      V.Still w.rest w'.rest ∧ ∀ f, r = .ok f → FilterOf B (ex.getSymbol base) f)
    (Prog.wp_perform.mpr ⟨fun _ w' _ _ => leaves_of_keeping rfl w', ?_⟩)
    (fun f w' h => ⟨h.1, ?_⟩) (fun _ _ h => ⟨h.1, fun _ he => (nomatch he)⟩)
  · rintro r w' ⟨hserve, -⟩
    obtain ⟨hanswer, rfl⟩ := Prod.mk.inj hserve
    exact ⟨hB.asks _ w.rest rfl, fun f hr => ⟨w.rest, hanswer.trans hr⟩⟩
  · rintro v ⟨⟩
    exact ⟨f, h.2 f rfl, rfl⟩

theorem resolveTp1Volume_wp (signal : Signal) (pos : ExchangePosition) (w : World β) :
    Prog.wp (outcomes V B symbol)
      (fun r w' => V.Still w.rest w'.rest ∧ ∀ v, r = .ok (.ok v) →
        ∃ asked f, tp1Volume ex signal pos = some asked ∧
          FilterOf B (ex.getSymbol signal.symbol) f ∧ v = CryptoExecutor.normalizeWith f asked)
      ((cryptoMarket ex).resolveTp1Volume signal pos
        ((cryptoMarket ex).resolveTp1Params signal).1) w := by
  have hasks : ∀ volume, tp1Volume ex signal pos = some volume →
      Prog.wp (outcomes V B symbol)
        (fun r w' => V.Still w.rest w'.rest ∧ ∀ v, r = .ok (.ok v) →
          ∃ asked f, tp1Volume ex signal pos = some asked ∧
            FilterOf B (ex.getSymbol signal.symbol) f ∧ v = CryptoExecutor.normalizeWith f asked)
        (ex.normalizeVolume signal.symbol volume >>= fun v =>
          pure (.ok v : Except TradeResult ℚ)) w := by
    intro volume hvolume
    refine Prog.wp_bind_of (normalizeVolume_wp hB signal.symbol volume w)
      (fun v w' h => ⟨h.1, ?_⟩) (fun _ _ h => ⟨h.1, fun _ he => (nomatch he)⟩)
    rintro v' ⟨⟩
    obtain ⟨f, hf, hv⟩ := h.2 v rfl
    exact ⟨volume, f, hvolume, hf, hv⟩
  have hfails : ∀ failure : TradeResult, Prog.wp (outcomes V B symbol)
      (fun r w' => V.Still w.rest w'.rest ∧ ∀ v, r = .ok (.ok v) →
        ∃ asked f, tp1Volume ex signal pos = some asked ∧
          FilterOf B (ex.getSymbol signal.symbol) f ∧ v = CryptoExecutor.normalizeWith f asked)
      (pure (.error failure) : Work (Except TradeResult ℚ)) w :=
    fun _ => ⟨.refl _, fun _ he => (nomatch he)⟩
  have hconfig : (cryptoMarket ex).config = ex.config := rfl
  unfold ExecutorBackedMarket.resolveTp1Volume
  rw [hconfig]
  split
  · rename_i hdecides
    cases hpercent : ((cryptoMarket ex).resolveTp1Params signal).1 with
    | none => exact hfails _
    | some percent =>
        refine hasks _ ?_
        rw [tp1Volume, if_pos hdecides, hpercent]
        rfl
  · rename_i hpayload
    cases hquantity : signal.quantity with
    | none => exact hfails _
    | some quantity =>
        refine hasks _ ?_
        rw [tp1Volume, if_neg hpayload, hquantity]

/-- The partial close of a TP1: nothing rests, or some of the position stays. -/
theorem partialClosePosition_wp (signal : Signal) (volume : ℚ) (ticket : Nat)
    (strategy : Option String) (closePrice : Option ℚ) (w : World β)
    (h : ex.getSymbol signal.symbol = symbol → ¬ V.Rests w.rest symbol ∨
      ∀ p ∈ V.liveOn w.rest symbol, ∀ f, FilterOf B symbol f →
        CryptoExecutor.normalizeWith f (min volume p.volume) < p.volume) :
    Prog.wp (outcomes V B symbol) (fun _ _ => True)
      (ex.partialClosePosition signal.symbol volume ticket strategy closePrice) w := by
  by_cases hX : ex.getSymbol signal.symbol = symbol
  · refine Prog.wp_bind_of (getOpenPositions_wp hB signal.symbol w) (fun positions w₁ h₁ => ?_)
      fun _ _ _ => trivial
    have hlive := h₁.2 positions rfl
    cases positions with
    | nil => trivial
    | cons first rest =>
        have hpick := pickPosition_mem first rest ticket
        rw [hlive, hX] at hpick
        refine Prog.wp_bind_of (normalizeVolume_wp hB signal.symbol _ w₁)
          (fun safeVolume w₂ h₂ => ?_) fun _ _ _ => trivial
        obtain ⟨f, hf, hsafe⟩ := h₂.2 safeVolume rfl
        rw [hX] at hf
        split
        · trivial
        · refine wp_after_asks hB
            (within_of_consulting CryptoExecutor.closeClientOrderId_consults)
            (fun orderId w₃ _ h₃ => ?_) fun _ _ => trivial
          have h₀ := (h₁.1.trans h₂.1).trans h₃
          refine Prog.wp_bind_of (R := fun _ _ => True)
            (Prog.wp_perform.mpr ⟨?_, fun _ _ _ => trivial⟩) (fun result w₄ _ => ?_)
            fun _ _ _ => trivial
          · rintro r w' hserve - hs hflat
            obtain ⟨-, rfl⟩ := Prod.mk.inj hserve
            rcases h hX with hnone | hpart
            · rintro ⟨o, ho, hsymbol⟩
              exact hnone ⟨o, h₀.resting (hB.orders _ _ _ _ _ _ ho), hsymbol⟩
            · have hmem := List.mem_of_mem_filter hpick
              have hpos := List.mem_of_mem_filter hmem
              rw [← h₀.positions] at hpos
              have hsymbol : (pickPosition first rest ticket).symbol = symbol := by
                simpa using (List.mem_filter.mp hmem).2
              have hless := hpart _ hpick f hf
              rw [← hsafe] at hless
              refine absurd hflat ?_
              rw [← hX]
              exact hB.reduces _ _ safeVolume orderId w₃.rest _ hpos
                (hsymbol.trans hX.symm) rfl hless
          · split
            · refine wp_after_asks hB
                (within_of_consulting (CryptoExecutor.entryPriceFromDb_consults ..))
                (fun entryPrice w₅ _ _ => ?_) fun _ _ => trivial
              exact Prog.wp_mono (wp_asks hB
                (within_of_consulting (CryptoExecutor.attachRealizedPnl_consults ..)) w₅)
                fun _ _ _ => trivial
            · trivial
  · exact Prog.wp_mono (wp_elsewhere hX (CryptoExecutor.partialClosePosition_reduces ..) w)
      fun _ _ _ => trivial

omit hB in
theorem updatePositionSl_keeps (base : String) (newSl : ℚ) (ticket : Nat)
    (strategy : Option String) : Prog.Sends (within keeping) (fun _ => True)
      (ex.updatePositionSl base newSl ticket strategy) := by
  refine Prog.Sends.bind (within_of_consulting (CryptoExecutor.getOpenPositions_consults base))
    fun positions _ => ?_
  cases positions with
  | nil => simp
  | cons first rest =>
      refine Prog.Sends.bind (within_cx (.inr rfl)) fun _ _ => ?_
      refine Prog.Sends.bind (within_cx (.inr rfl)) fun result _ => ?_
      split
      · refine Prog.Sends.bind (within_of_consulting
          (CryptoExecutor.recoverEntryTp2_consults ..)) fun tp2 _ => ?_
        cases tp2 with
        | none => simp
        | some tp2 => exact Prog.Sends.bind (within_cx (.inr rfl)) fun _ _ => by simp
      · simp

/-- A TP1, with its stop move and the failsafe close behind it. -/
theorem handleTp1_wp (signal : Signal) (ticket : Option String) (w : World β)
    (h : ex.getSymbol signal.symbol = symbol →
      ¬ V.Rests w.rest symbol ∨ Tp1Part ex V B symbol signal w.rest) :
    Prog.wp (outcomes V B symbol) (fun _ _ => True)
      ((cryptoMarket ex).handleTp1 signal ticket) w := by
  have hlist : Prog.wp (outcomes V B symbol)
      (fun r w' => V.Still w.rest w'.rest ∧ ∀ positions, r = .ok positions →
        ∀ p ∈ positions, p ∈ V.liveOn w.rest (ex.getSymbol signal.symbol))
      ((cryptoMarket ex).getOpenPositions signal.symbol (some signal.strategy) ticket) w := by
    refine Prog.wp_bind_of (getOpenPositions_wp hB signal.symbol w)
      (fun listed w' hl => ⟨hl.1, ?_⟩) (fun _ _ hl => ⟨hl.1, fun _ he => (nomatch he)⟩)
    rintro positions ⟨⟩ p hp
    rw [← hl.2 listed rfl]
    exact mem_of_mem_filterByTicket hp
  refine Prog.wp_bind_of hlist (fun positions w₁ h₁ => ?_) fun _ _ _ => trivial
  cases positions with
  | nil => trivial
  | cons pos others =>
      have hpos := h₁.2 _ rfl pos List.mem_cons_self
      refine Prog.wp_bind_of (resolveTp1Volume_wp hB signal pos w₁) (fun volume w₂ h₂ => ?_)
        fun _ _ _ => trivial
      cases volume with
      | error failure => trivial
      | ok volume =>
          obtain ⟨asked, f, hasked, hf, hvolume⟩ := h₂.2 volume rfl
          have h₀ := h₁.1.trans h₂.1
          refine Prog.wp_bind_of (R := fun _ _ => True)
            (partialClosePosition_wp hB signal volume pos.ticket (some signal.strategy)
              signal.price w₂ fun hX => ?_) (fun closeResult w₃ _ => ?_) fun _ _ _ => trivial
          · rcases h hX with hnone | hpart
            · exact .inl fun hrests => hnone (h₀.rests hrests)
            · refine .inr fun p hp f' hf' => ?_
              rw [ExchangeView.liveOn, h₀.positions] at hp
              rw [hX] at hpos hf
              rw [hvolume]
              exact hpart pos hpos p hp asked hasked f hf f' hf'
          · split
            · refine Prog.wp_bind_of (wp_keeping (updatePositionSl_keeps ..) w₃)
                (fun slResult w₄ _ => ?_) fun _ _ _ => trivial
              dsimp only
              split
              · trivial
              · exact Prog.wp_bind_of (closeAllPositions_wp hB signal.symbol "SL_FAILSAFE" _ _ _ w₄)
                  (fun _ _ _ => trivial) fun _ _ _ => trivial
            · trivial

end Executor

/-! ## The handler -/

section Handler

variable {ex : CryptoExecutor}

omit hB in
theorem updateEach_asks (us : List StatusUpdate) :
    Prog.Sends (within noOrder) (fun _ => True) (updateEach us) := by
  induction us with
  | nil => simp [updateEach]
  | cons u us ih => exact Prog.Sends.bind (within_sql _) fun _ _ => ih

omit hB in
theorem getDbPosition_asks (strategy base : String) (uxid : Option String) :
    Prog.Sends (within noOrder) (fun _ => True)
      (SignalHandler.getDbPosition strategy base uxid) := by
  refine Prog.Sends.bind (within_of_consulting (getOpenPositionsByStrategy_consults ..))
    fun rows _ => ?_
  cases rows with
  | nil => simp
  | cons kept duplicates => exact Prog.Sends.bind (updateEach_asks _) fun _ _ => by simp

theorem executeExit_wp {signal : Signal}
    {strategyFn : Signal → Option String → Work TradeResult} (c₁ c₂ : String) (w : World β)
    (hfn : ∀ ticket w', V.Still w.rest w'.rest →
      Prog.wp (outcomes V B symbol) (fun _ _ => True) (strategyFn signal ticket) w') :
    Prog.wp (outcomes V B symbol) (fun _ _ => True)
      (SignalHandler.executeExit (cryptoMarket ex) signal strategyFn c₁ c₂) w := by
  refine wp_after_asks hB (getDbPosition_asks ..) (fun row? w₁ _ h₁ => ?_) fun _ _ => trivial
  cases row? with
  | none => trivial
  | some row =>
      have hlive : Prog.Sends (within noOrder) (fun _ => True)
          ((cryptoMarket ex).getOpenPositions signal.symbol (some signal.strategy) none) :=
        Prog.Sends.bind (within_of_consulting (CryptoExecutor.getOpenPositions_consults _))
          fun _ _ => by simp
      refine wp_after_asks hB hlive (fun live w₂ _ h₂ => ?_) fun _ _ => trivial
      split
      · trivial
      · refine Prog.wp_bind_of (hfn _ w₂ (h₁.trans h₂)) (fun result w₃ _ => ?_) fun _ _ _ => trivial
        split <;> trivial

theorem handleFlat_wp (signal : Signal) (w : World β) :
    Prog.wp (outcomes V B symbol) (fun _ _ => True)
      (SignalHandler.handleFlat (cryptoMarket ex) signal) w := by
  have hclose : ∀ ticket w', Prog.wp (outcomes V B symbol) (fun _ _ => True)
      (SignalHandler.flatClose (cryptoMarket ex) signal ticket) w' := by
    intro ticket w'
    refine Prog.wp_bind_of (closeAllPositions_wp hB signal.symbol "FLAT" _ none ticket w')
      (fun result w₁ _ => ?_) fun _ _ _ => trivial
    split
    · trivial
    · exact Prog.wp_mono (closeAllPositions_wp hB signal.symbol "FLAT" none none none w₁)
        fun _ _ _ => trivial
  have hsettle : ∀ owned result, Prog.Sends (within noOrder) (fun _ => True)
      (SignalHandler.flatSettle (cryptoMarket ex) signal owned result) := by
    intro owned result
    refine Prog.Sends.bind (Q := fun _ => True) ?_ fun row? _ => ?_
    · cases owned with
      | none => exact getDbPosition_asks ..
      | some row => simp [SignalHandler.flatRow]
    · cases row? with
      | none => simp
      | some row =>
          dsimp only
          split
          · simp
          · exact Prog.Sends.bind (within_sql _) fun _ _ => by simp
  refine wp_after_asks hB (getDbPosition_asks ..) (fun owned w₁ _ _ => ?_) fun _ _ => trivial
  split
  · trivial
  · refine Prog.wp_bind_of (hclose _ w₁) (fun result w₂ _ => ?_) fun _ _ _ => trivial
    exact Prog.wp_mono (wp_asks hB (hsettle _ _) w₂) fun _ _ _ => trivial

/-- An entry that finds a position closes it first, and with it every resting order goes. -/
theorem handleEntry_wp (signal : Signal) (w : World β)
    (h : ex.getSymbol signal.symbol = symbol → ¬ V.Rests w.rest symbol ∨
      ¬ V.Flat w.rest symbol ∨ StopTaken B symbol signal) :
    Prog.wp (outcomes V B symbol) (fun _ _ => True)
      (SignalHandler.handleEntry (cryptoMarket ex) signal) w := by
  have hfresh : ∀ found stale cleanup w', (ex.getSymbol signal.symbol = symbol →
        ¬ V.Rests w'.rest symbol ∨ StopTaken B symbol signal) →
      Prog.wp (outcomes V B symbol) (fun _ _ => True)
        (SignalHandler.enterFresh (cryptoMarket ex) signal found stale cleanup) w' := by
    intro found stale cleanup w' h'
    refine wp_after_asks hB (updateEach_asks _) (fun _ w₁ _ h₁ => ?_) fun _ _ => trivial
    refine Prog.wp_bind_of (openPosition_wp hB signal w₁ fun hX => ?_) (fun result w₂ _ => ?_)
      fun _ _ _ => trivial
    · exact (h' hX).imp_left fun hnone hrests => hnone (h₁.rests hrests)
    · split <;> trivial
  refine wp_after_asks hB (within_of_consulting (getOpenPositionsForFlat_consults ..))
    (fun holders w₁ _ h₁ => ?_) fun _ _ => trivial
  dsimp only
  split
  · trivial
  · refine wp_after_asks hB (within_of_consulting (getOpenPositionsByStrategy_consults ..))
      (fun found w₂ _ h₂ => ?_) fun _ _ => trivial
    -- without a uxid in scope there is one unscoped cleanup
    show Prog.wp _ _ (SignalHandler.collectStale (cryptoMarket ex) signal.symbol signal.strategy
      [none] >>= _) w₂
    have h₀ := h₁.trans h₂
    have hfound : Prog.wp (outcomes V B symbol)
        (fun r w' => V.Still w₂.rest w'.rest ∧ ∀ found, r = .ok found →
          found = V.liveOn w₂.rest (ex.getSymbol signal.symbol))
        ((cryptoMarket ex).getOpenPositions signal.symbol (some signal.strategy) none) w₂ :=
      Prog.wp_bind_of (getOpenPositions_wp hB signal.symbol w₂) (fun _ _ hl => hl)
        fun _ _ hl => ⟨hl.1, fun _ he => (nomatch he)⟩
    have hstale : Prog.wp (outcomes V B symbol)
        (fun r w' => V.Still w₂.rest w'.rest ∧ ∀ stale, r = .ok stale →
          stale = V.liveOn w₂.rest (ex.getSymbol signal.symbol))
        (SignalHandler.collectStale (cryptoMarket ex) signal.symbol signal.strategy [none])
        w₂ := by
      refine Prog.wp_bind_of hfound (fun listed w' hl => ⟨hl.1, ?_⟩)
        fun _ _ hl => ⟨hl.1, fun _ he => (nomatch he)⟩
      rintro stale ⟨⟩
      rw [List.append_nil]
      exact hl.2 listed rfl
    refine Prog.wp_bind_of hstale (fun stale w₃ h₃ => ?_) fun _ _ _ => trivial
    have hlive := h₃.2 stale rfl
    split
    · rename_i hempty
      refine hfresh _ _ _ w₃ fun hX => ?_
      rcases h hX with hnone | hheld | htaken
      · exact .inl fun hrests => hnone ((h₀.trans h₃.1).rests hrests)
      · refine absurd (fun p hp hsymbol hvolume => ?_) hheld
        have hmem : p ∈ V.liveOn w₂.rest (ex.getSymbol signal.symbol) := by
          rw [ExchangeView.liveOn, h₀.positions, hX]
          exact List.mem_filter.mpr ⟨List.mem_filter.mpr ⟨hp, by simpa using hsymbol⟩,
            by simpa using hvolume⟩
        rw [← hlive, List.isEmpty_iff.mp hempty] at hmem
        cases hmem
      · exact .inr htaken
    · refine Prog.wp_bind_of (R := fun (r : Except Exn TradeResult) w' =>
          ∀ cleanup, r = .ok cleanup → cleanup.success = true →
            ex.getSymbol signal.symbol = symbol → ¬ V.Rests w'.rest symbol) ?_
        (fun cleanup w₄ hclean => ?_) fun _ _ _ => trivial
      · refine Prog.wp_bind_of (closeAllPositions_wp hB signal.symbol "STALE_CLEANUP" _ none none
          w₃) (fun cleanup w' hc => ?_) fun _ _ _ _ he => (nomatch he)
        split
        · rename_i hcleaned
          rintro report ⟨⟩ - hX
          exact hc cleanup rfl hcleaned hX
        · rename_i hfailed
          rintro report ⟨⟩ hsuccess
          exact absurd hsuccess hfailed
      · split
        · rename_i hcleaned
          exact hfresh _ _ _ w₄ fun hX => .inl (hclean cleanup rfl hcleaned hX)
        · trivial

/-- What a signal needs where its own symbol is the one looked at. A full close needs nothing:
it cancels. -/
def SignalSpares {β : Type} (ex : CryptoExecutor) (V : ExchangeView β) (B : Backend β)
    (symbol : String) (signal : Signal) (b : β) : Prop :=
  ex.getSymbol signal.symbol = symbol →
    match signal.action with
    | .long | .short => ¬ V.Rests b symbol ∨ ¬ V.Flat b symbol ∨ StopTaken B symbol signal
    | .tp1 => ¬ V.Rests b symbol ∨ Tp1Part ex V B symbol signal b
    | .tp2 | .sl | .rSl | .flat => True

theorem handle_wp (signal : Signal) (w : World β)
    (h : SignalSpares ex V B symbol signal w.rest) :
    Prog.wp (outcomes V B symbol) (fun _ _ => True)
      (SignalHandler.handle (cryptoMarket ex) signal) w := by
  refine wp_after_asks hB (within_host _) (fun _ w₁ _ h₁ => ?_) fun _ _ => trivial
  have hrests : ¬ V.Rests w.rest symbol → ¬ V.Rests w₁.rest symbol :=
    fun hnone hrests => hnone (h₁.rests hrests)
  have hflat : ¬ V.Flat w.rest symbol → ¬ V.Flat w₁.rest symbol :=
    fun hheld => (h₁.flat_iff symbol).not.mpr hheld
  have hclose : ∀ ticket w', V.Still w₁.rest w'.rest → Prog.wp (outcomes V B symbol)
      (fun _ _ => True) ((cryptoMarket ex).handleFullClose signal ticket) w' :=
    fun ticket w' _ => Prog.wp_mono (closeAllPositions_wp hB signal.symbol _ _ _ ticket w')
      fun _ _ _ => trivial
  unfold SignalSpares at h
  cases haction : signal.action with
  | long | short =>
      rw [haction] at h
      exact handleEntry_wp hB signal w₁ fun hX => (h hX).imp hrests (Or.imp_left hflat)
  | tp1 =>
      rw [haction] at h
      refine executeExit_wp hB _ _ w₁ fun ticket w₂ h₂ => handleTp1_wp hB signal ticket w₂ ?_
      intro hX
      refine (h hX).imp (fun hnone hrests₂ => hnone ((h₁.trans h₂).rests hrests₂)) ?_
      intro hpart named hnamed p hp
      rw [ExchangeView.liveOn, (h₁.trans h₂).positions] at hnamed hp
      exact hpart named hnamed p hp
  | tp2 | sl | rSl => exact executeExit_wp hB _ _ w₁ hclose
  | flat => exact handleFlat_wp hB signal w₁

end Handler

/-! ## ADMIN FLAT and the handlers of a close -/

section Desk

variable {ex : CryptoExecutor} {gateway accountId : String}

def flatPositions (desk : AdminDesk ExchangePosition) (admin : AdminFlat) :
    Work (List ExchangePosition) := do
  let fetched ← desk.fetchForFlat admin
  desk.narrowByRef admin fetched

def FlatSpares {β : Type} (desk : AdminDesk ExchangePosition) (B : Backend β) (symbol : String)
    (admin : AdminFlat) (w : World β) : Prop :=
  ∀ positions w', Prog.run B.serve (flatPositions desk admin) w = (.ok positions, w') →
    ∀ p ∈ positions, p.symbol ≠ symbol

omit hB in
theorem flatPositions_asks (admin : AdminFlat) : Prog.Sends (within noOrder) (fun _ => True)
    (flatPositions (cryptoDesk ex gateway accountId) admin) := by
  refine Prog.Sends.bind (Q := fun _ => True) ?_ fun fetched _ => ?_
  · unfold AdminDesk.fetchForFlat
    split
    · exact within_of_consulting (CryptoExecutor.getOpenPositions_consults _)
    · exact Prog.Sends.bind (within_cx (.inl rfl)) fun _ _ => by simp
  · unfold AdminDesk.narrowByRef
    split
    · simp
    · exact Prog.Sends.bind (within_of_consulting (getOpenPositionsForFlat_consults ..))
        fun _ _ => by simp

omit hB in
theorem closeSinglePosition_orders (pos : ExchangePosition) (reason : String) :
    Prog.Sends (within ordering) (fun _ => True)
      (CryptoExecutor.closeSinglePosition pos reason) := by
  refine Prog.Sends.bind (within_of_consulting CryptoExecutor.closeClientOrderId_consults)
    fun orderId _ => ?_
  refine Prog.Sends.bind (within_cx (.inr rfl)) fun result _ => ?_
  split
  · exact within_of_consulting (CryptoExecutor.attachRealizedPnl_consults ..)
  · simp

omit hB in
theorem closeSinglePosition_reduces (pos : ExchangePosition) (reason : String) :
    Prog.Sends (onExchange pos.symbol) (fun _ => True)
      (CryptoExecutor.closeSinglePosition pos reason) := by
  refine onExchange_after CryptoExecutor.closeClientOrderId_consults fun orderId _ => ?_
  refine Prog.Sends.bind (onExchange_exchange rfl) fun result _ => ?_
  split
  · exact onExchange_of_consulting (CryptoExecutor.attachRealizedPnl_consults ..)
  · simp

omit hB in
theorem logPosition_asks (l : LogRow) :
    Prog.Sends (within noOrder) (fun _ => True) (logPosition l) :=
  Prog.Sends.tryCatch (within_sql _) fun _ => by simp

omit hB in
theorem reconcileFlatDb_asks (desk : AdminDesk ExchangePosition) (admin : AdminFlat)
    (tally : FlatTally) (raw : String) :
    Prog.Sends (within noOrder) (fun _ => True) (desk.reconcileFlatDb admin tally raw) := by
  have hnotify : ∀ row result, Prog.Sends (within noOrder) (fun _ => True)
      (AdminDesk.notifyFlatClosed row result) := by
    intro row result
    refine Prog.Sends.bind (within_host _) fun now _ => ?_
    refine Prog.Sends.bind (within_host _) fun owned _ => ?_
    split
    · simp
    · exact within_host _
  have hsettle : ∀ row, Prog.Sends (within noOrder) (fun _ => True)
      (desk.settleRow tally raw row) := by
    intro row
    unfold AdminDesk.settleRow
    split
    · refine Prog.Sends.bind (logPosition_asks _) fun _ _ => ?_
      exact Prog.Sends.bind (within_sql _) fun _ _ => hnotify _ _
    · split
      · exact Prog.Sends.bind (logPosition_asks _) fun _ _ => within_sql _
      · simp
  refine Prog.Sends.bind (within_of_consulting (getOpenPositionsForFlat_consults ..))
    fun rows _ => ?_
  refine Prog.Sends.bind (within_host _) fun _ _ => ?_
  induction rows with
  | nil => simp [AdminDesk.settleEach]
  | cons row rest ih => exact Prog.Sends.bind (hsettle row) fun _ _ => ih

omit hB in
theorem ordering_of_noOrder {α : Type} {Q : α → Prop} {p : Work α}
    (hp : Prog.Sends (within noOrder) Q p) : Prog.Sends (within ordering) Q p := by
  refine hp.relax (fun o ho => ?_) fun _ _ _ => trivial
  cases o with
  | db | fx | host => rfl
  | cx o => simp_all [within, WorkerOp.within, noOrder]

/-- An ADMIN FLAT cancels nothing: nothing rests on the symbol, or it closes none of it. -/
theorem handleAdminFlat_wp (admin : AdminFlat) (isPrivate : Bool) (raw : String) (w : World β)
    (h : ¬ V.Rests w.rest symbol ∨
      FlatSpares (cryptoDesk ex gateway accountId) B symbol admin w) :
    Prog.wp (outcomes V B symbol) (fun _ _ => True)
      ((cryptoDesk ex gateway accountId).handleAdminFlat admin isPrivate raw) w := by
  unfold AdminDesk.handleAdminFlat
  split
  · have hbind : (cryptoDesk ex gateway accountId).closeLivePositionsForFlat admin =
        (flatPositions (cryptoDesk ex gateway accountId) admin >>= fun positions =>
          (cryptoDesk ex gateway accountId).closeEach positions {}) := by
      rw [flatPositions, bind_assoc]
      rfl
    refine Prog.wp_bind_of (R := fun _ _ => True) ?_ (fun tally w' _ => ?_) fun _ _ _ => trivial
    · rw [hbind]
      rcases h with hnone | hspares
      · have hclose : ∀ positions tally, Prog.Sends (within ordering) (fun _ => True)
            ((cryptoDesk ex gateway accountId).closeEach positions tally) := by
          intro positions
          induction positions with
          | nil => simp [AdminDesk.closeEach]
          | cons pos rest ih =>
              exact fun _ => Prog.Sends.bind (closeSinglePosition_orders pos "FLAT")
                fun _ _ => ih _
        refine Prog.wp_mono (wp_ordering hB (Prog.Sends.bind
          (ordering_of_noOrder (flatPositions_asks admin)) fun _ _ => hclose _ _) hnone)
          fun _ _ _ => trivial
      · have hclose : ∀ positions tally (w' : World β), (∀ p ∈ positions, p.symbol ≠ symbol) →
            Prog.wp (outcomes V B symbol) (fun _ _ => True)
              ((cryptoDesk ex gateway accountId).closeEach positions tally) w' := by
          intro positions
          induction positions with
          | nil => exact fun _ _ _ => trivial
          | cons pos rest ih =>
              intro tally w' hall
              refine Prog.wp_bind_of (wp_elsewhere (hall pos List.mem_cons_self)
                (closeSinglePosition_reduces pos "FLAT") w') (fun result w'' _ => ?_)
                fun _ _ _ => trivial
              exact ih _ w'' fun p hp => hall p (List.mem_cons_of_mem _ hp)
        have hfetch : Prog.wp (outcomes V B symbol) _
            (flatPositions (cryptoDesk ex gateway accountId) admin) w :=
          Prog.wp_run (E := outcomes V B symbol) (S := B.serve) (fun _ _ _ _ hr => hr.1)
            (wp_asks hB (flatPositions_asks _) w)
        refine Prog.wp_bind_of hfetch (fun positions w' hp => ?_) fun _ _ _ => trivial
        exact hclose positions {} w' (hspares positions w' hp.2)
    · exact Prog.wp_mono (wp_asks hB (reconcileFlatDb_asks ..) w') fun _ _ _ => trivial
  · trivial

omit hB in
theorem onExchangeClose_asks (event : ExchangeCloseEvent) :
    Prog.Sends (within noOrder) (fun _ => True) (ex.onExchangeClose event) := by
  have heach : ∀ comment rows, Prog.Sends (within noOrder) (fun _ => True)
      (event.closeEach comment rows) := by
    intro comment rows
    induction rows with
    | nil => simp [ExchangeCloseEvent.closeEach]
    | cons row rest ih =>
        refine Prog.Sends.bind (logPosition_asks _) fun _ _ => ?_
        exact Prog.Sends.bind (within_sql _) fun _ _ => ih
  refine Prog.Sends.bind (within_of_consulting (getOpenPositionsForFlat_consults ..))
    fun rows _ => ?_
  unfold ExchangeCloseEvent.closeMatched
  split
  · simp
  · refine Prog.Sends.bind (heach ..) fun _ _ => ?_
    exact Prog.Sends.bind (within_host _) fun _ _ => within_host _

omit hB in
theorem onMissedClose_asks (row : Row) :
    Prog.Sends (within noOrder) (fun _ => True) (ex.onMissedClose row) := by
  refine Prog.Sends.bind (Q := fun _ => True) ?_ fun closePrice _ => ?_
  · refine Prog.Sends.tryCatch ?_ fun _ => by simp
    exact Prog.Sends.bind (within_cx (.inl rfl)) fun _ _ => by simp
  · refine Prog.Sends.bind (logPosition_asks _) fun _ _ => ?_
    refine Prog.Sends.bind (within_sql _) fun _ _ => ?_
    exact Prog.Sends.bind (within_host _) fun _ _ => within_host _

end Desk

end Following

/-! ## One operation, and a run -/

section Runs

variable {β : Type} (V : ExchangeView β) (B : Backend β) (symbol : String)
variable (ex : CryptoExecutor) (gateway accountId : String)

/-- Where an operation of the worker that does not cancel closes the symbol, or handles its
close, nothing rests on it; and its cancellations take effect. -/
structure Careful (c : CryptoWork) (w : World β) : Prop where
  cancelled : ∀ n, Prog.Admitted (Cancelled V symbol) B.serve n
    (c.program ex (cryptoDesk ex gateway accountId)) w
  spares : match c with
    | .signal s => SignalSpares ex V B symbol s w.rest
    | .adminFlat admin _ _ => ¬ V.Rests w.rest symbol ∨
        FlatSpares (cryptoDesk ex gateway accountId) B symbol admin w
    | .exchangeClose event => event.symbol = symbol →
        ¬ V.Rests w.rest symbol ∨ ¬ V.Flat w.rest symbol
    | .missedClose row => ex.getSymbol row.symbol = symbol →
        ¬ V.Rests w.rest symbol ∨ ¬ V.Flat w.rest symbol

/-- What happens: the worker does something, or orders fill at the exchange and its owner
trades there. -/
inductive CryptoStep (β : Type) where
  | work (c : CryptoWork)
  | exchange (b : β)

/-- `P` holds of everything the worker does in a run, where it does it. -/
def AtEachWork (P : CryptoWork → World β → Prop) : World β → List (CryptoStep β) → Prop
  | _, [] => True
  | w, .work c :: rest => P c w ∧ AtEachWork P
      (Prog.run B.serve (c.program ex (cryptoDesk ex gateway accountId)) w).2 rest
  | w, .exchange b :: rest => AtEachWork P { w with rest := b } rest

variable {V B symbol ex gateway accountId}

theorem noneOutlives_of_handler (hB : KeepsOrders V B) {c : CryptoWork} {w : World β}
    (hasks : Prog.Sends (within noOrder) (fun _ => True)
      (c.program ex (cryptoDesk ex gateway accountId)))
    (hcancelled : ∀ n, Prog.Admitted (Cancelled V symbol) B.serve n
      (c.program ex (cryptoDesk ex gateway accountId)) w)
    (hspares : c.handled? ex = some symbol → ¬ V.Rests w.rest symbol ∨ ¬ V.Flat w.rest symbol) :
    NoneOutlives V symbol ex (cryptoDesk ex gateway accountId) B c w where
  closed n := leaves_of_wp (wp_asks hB hasks w) (hcancelled n)
  handled hsymbol hflat hrests := by
    have hstill := hasks.keeps (S := B.serve) (I := fun w' : World β => V.Still w.rest w'.rest)
      (fun o w' h ho => ⟨trivial, h.trans (serve_still hB ho w')⟩) (.refl _)
    rcases hspares hsymbol with hnone | hheld
    · exact hnone (hstill.rests hrests)
    · exact hheld ((hstill.flat_iff symbol).mp hflat)

theorem noneOutlives_of_careful (hB : KeepsOrders V B) {c : CryptoWork} {w : World β}
    (h : Careful V B symbol ex gateway accountId c w) :
    NoneOutlives V symbol ex (cryptoDesk ex gateway accountId) B c w := by
  cases c with
  | signal s =>
      have hwp : Prog.wp (outcomes V B symbol) (fun _ _ => True)
          ((CryptoWork.signal s).program ex (cryptoDesk ex gateway accountId)) w :=
        Prog.wp_bind_of (handle_wp hB s w h.spares) (fun _ _ _ => trivial) fun _ _ _ => trivial
      exact ⟨fun n => leaves_of_wp hwp (h.cancelled n), fun hnone => (nomatch hnone)⟩
  | adminFlat admin isPrivate raw =>
      have hwp := handleAdminFlat_wp hB admin isPrivate raw w h.spares
      exact ⟨fun n => leaves_of_wp hwp (h.cancelled n), fun hnone => (nomatch hnone)⟩
  | exchangeClose event =>
      exact noneOutlives_of_handler hB (onExchangeClose_asks event) h.cancelled
        fun hsymbol => h.spares (Option.some.inj hsymbol)
  | missedClose row =>
      exact noneOutlives_of_handler hB (onMissedClose_asks row) h.cancelled
        fun hsymbol => h.spares (Option.some.inj hsymbol)

/-- **No protective order outlives its position**, in every run of the worker and the exchange
in which no operation that cancels nothing meets a resting order on a symbol it empties. -/
theorem carefulRun_noneOutlives (hB : KeepsOrders V B) {steps : List (CryptoStep β)}
    {w : World β}
    (h : AtEachWork B ex gateway accountId (Careful V B symbol ex gateway accountId) w steps) :
    AtEachWork B ex gateway accountId
      (NoneOutlives V symbol ex (cryptoDesk ex gateway accountId) B) w steps := by
  induction steps generalizing w with
  | nil => trivial
  | cons step rest ih =>
      cases step with
      | work c => exact ⟨noneOutlives_of_careful hB h.1, ih h.2⟩
      | exchange b => exact ih h

end Runs

/-! ## An exchange that takes every order -/

structure RestingBook where
  positions : List ExchangePosition
  resting : List RestingOrder
  deriving DecidableEq, Repr

def restingView : ExchangeView RestingBook := ⟨RestingBook.positions, RestingBook.resting⟩

/-- Everything is filled, taken and cancelled as it is asked for. -/
def takingExchange : Backend RestingBook where
  fx _ b := (.error (.other "no platform"), b)
  host o b := (.ok o.quiet, b)
  cx
    | .getSymbolFilter _, b => (.ok { stepSize := 1 }, b)
    | .getMarkPrice _, b => (.ok 60000, b)
    | .getPositions none, b => (.ok b.positions, b)
    | .getPositions (some symbol), b => (.ok (b.positions.filter (·.symbol = symbol)), b)
    | .placeMarketOrder symbol side quantity false _, b =>
        (.ok { success := true, price := some 60000, volume := some quantity },
          { b with positions := ⟨symbol, side, quantity, 60000, 1⟩ :: b.positions })
    | .placeMarketOrder symbol side quantity true _, b =>
        (.ok { success := true, price := some 60000, volume := some quantity },
          { b with positions := reduceLeg (symbol, side) quantity b.positions })
    | .setStopLoss symbol side price quantity, b => (.ok { success := true },
        { b with resting := ⟨symbol, side, .stopLoss, price, quantity⟩ :: b.resting })
    | .setTakeProfit symbol side price quantity, b => (.ok { success := true },
        { b with resting := ⟨symbol, side, .takeProfit, price, quantity⟩ :: b.resting })
    | .cancelAllOrders symbol, b =>
        (.ok (), { b with resting := b.resting.filter (·.symbol ≠ symbol) })
    | .getOrderRealizedPnl .., b => (.ok none, b)
    | .getAccount, b => (.ok none, b)

theorem takingExchange_keepsOrders : KeepsOrders restingView takingExchange where
  fx _ _ := .refl _
  host _ _ := .refl _
  asks o b ho := by
    cases o with
    | placeMarketOrder | setStopLoss | setTakeProfit | cancelAllOrders => cases ho
    | getSymbolFilter | getMarkPrice | getOrderRealizedPnl | getAccount => exact .refl _
    | getPositions symbol => cases symbol <;> exact .refl _
  lists _ _ _ h := (Except.ok.inj h).symm
  cancels _ b := ⟨rfl, List.filter_subset_self b.resting⟩
  stops symbol side price quantity b := by
    refine ⟨rfl, fun o ho => ?_⟩
    rcases List.mem_cons.mp ho with hnew | hold
    · exact .inr ⟨hnew, _, rfl, rfl⟩
    · exact .inl hold
  takesProfit symbol side price quantity b :=
    ⟨rfl, fun o ho => (List.mem_cons.mp ho).symm⟩
  orders symbol side quantity reduceOnly id b := by
    cases reduceOnly <;> exact List.Subset.refl _
  reduces symbol side quantity id b p hp hsymbol hside hless hflat := by
    let rest : ExchangePosition := { p with
      quantity := if p.quantity < 0 then p.quantity + quantity else p.quantity - quantity }
    have hrest : rest ∈ reduceLeg (symbol, side) quantity b.positions := by
      refine List.mem_filterMap.mpr ⟨p, hp, ?_⟩
      rw [if_pos (by rw [ExchangePosition.leg, hsymbol, hside]), ExchangePosition.reduce,
        if_pos hless]
    refine hflat rest hrest hsymbol ?_
    show 0 < |if p.quantity < 0 then p.quantity + quantity else p.quantity - quantity|
    unfold ExchangePosition.volume at hless
    rw [abs_pos]
    split
    · rw [abs_of_neg ‹_›] at hless
      linarith
    · rw [abs_of_nonneg (not_lt.mp ‹_›)] at hless
      linarith

theorem takingExchange_cancelled (symbol : String) {α : Type} (p : Work α)
    (w : World RestingBook) (n : Nat) :
    Prog.Admitted (Cancelled restingView symbol) takingExchange.serve n p w := by
  refine Prog.admitted_of_forall (fun o w => ?_) n p w
  unfold Cancelled
  split
  · rintro rfl ⟨x, hx, hsymbol⟩
    exact of_decide_eq_true (List.mem_filter.mp hx).2 hsymbol
  · trivial

def longOfBtc : Signal where
  strategy := "TREND"
  timestamp := 0
  action := .long
  symbol := "BTCUSDT"
  quantity := some 1
  sl := some 59000
  tp2 := some 65000
  useEquitySizing := some false

def flatBook : World RestingBook where
  db := .empty
  rest := { positions := [], resting := [] }

/-- The position and its two orders. -/
def longBook : RestingBook where
  positions := [⟨"BTCUSDT", .long, 1, 60000, 1⟩]
  resting := [⟨"BTCUSDT", .long, .takeProfit, 65000, 1⟩, ⟨"BTCUSDT", .long, .stopLoss, 59000, 1⟩]

theorem longOfBtc_book : (Prog.run takingExchange.serve
    ((CryptoWork.signal longOfBtc).program { config := {} }
      (cryptoDesk { config := {} } "binance" "1")) flatBook).2.rest = longBook := by
  decide +kernel

/-- An entry, and the full close of its position by a signal. -/
theorem closedLong_noneOutlives : AtEachWork takingExchange { config := {} } "binance" "1"
    (NoneOutlives restingView "BTCUSDT" { config := {} }
      (cryptoDesk { config := {} } "binance" "1") takingExchange) flatBook
    [.work (.signal longOfBtc), .work (.signal { longOfBtc with action := .sl })] := by
  refine carefulRun_noneOutlives takingExchange_keepsOrders ⟨⟨?_, fun _ => ?_⟩, ⟨?_, fun _ => ?_⟩,
    trivial⟩
  · exact takingExchange_cancelled _ _ _
  · refine Or.inl ?_
    rintro ⟨o, ho, -⟩
    cases ho
  · exact takingExchange_cancelled _ _ _
  · trivial

/-- ADMIN FLAT closes the position and leaves its stop-loss and its take-profit resting. -/
theorem adminFlat_outlived :
    ¬ AtEachWork takingExchange { config := {} } "binance" "1"
      (NoneOutlives restingView "BTCUSDT" { config := {} }
        (cryptoDesk { config := {} } "binance" "1") takingExchange) flatBook
      [.work (.signal longOfBtc), .work (.adminFlat {} false "")] := by
  rintro ⟨-, hflat, -⟩
  have hbook := longOfBtc_book
  revert hflat
  generalize (Prog.run takingExchange.serve _ flatBook).2 = w at hbook ⊢
  obtain ⟨db, book⟩ := w
  cases hbook
  intro hflat
  have hcall : Leaves restingView "BTCUSDT" (.cx (.placeMarketOrder "BTCUSDT" .long 1 true _))
      ⟨db, { longBook with positions := [] }⟩ := (hflat.closed 3).2.2.1
  exact hcall rfl (fun p hp => (nomatch hp)) ⟨_, List.mem_cons_self, rfl⟩

/-- The book after the take-profit filled. -/
def stopBook : RestingBook where
  positions := []
  resting := [⟨"BTCUSDT", .long, .stopLoss, 59000, 1⟩]

def tp2Filled : ExchangeCloseEvent where
  symbol := "BTCUSDT"
  reason := .tp
  closePrice := 65000
  closeVolume := 1
  orderId := "7"
  clientOrderId := ""
  realizedPnl := 5000

theorem takingExchange_asks {o : WorkerOp} (ho : o.within noOrder = true)
    (w : World RestingBook) : (takingExchange.serve o w).2.rest = w.rest := by
  cases o with
  | db | fx | host => rfl
  | cx o =>
      cases o with
      | placeMarketOrder | setStopLoss | setTakeProfit | cancelAllOrders => cases ho
      | getSymbolFilter | getMarkPrice | getOrderRealizedPnl | getAccount => rfl
      | getPositions symbol => cases symbol <;> rfl

/-- The take-profit fills at the exchange; the handler of that close leaves the stop-loss. -/
theorem takeProfit_outlived :
    ¬ AtEachWork takingExchange { config := {} } "binance" "1"
      (NoneOutlives restingView "BTCUSDT" { config := {} }
        (cryptoDesk { config := {} } "binance" "1") takingExchange) flatBook
      [.work (.signal longOfBtc),
        .exchange stopBook, .work (.exchangeClose tp2Filled)] := by
  rintro ⟨-, hclose, -⟩
  have hasks : Prog.Sends (within noOrder) (fun _ => True)
      ((CryptoWork.exchangeClose tp2Filled).program { config := {} }
        (cryptoDesk { config := {} } "binance" "1")) := onExchangeClose_asks tp2Filled
  have hrest : ∀ w : World RestingBook, w.rest = stopBook → (Prog.run takingExchange.serve
      ((CryptoWork.exchangeClose tp2Filled).program { config := {} }
        (cryptoDesk { config := {} } "binance" "1")) w).2.rest = stopBook :=
    fun w hw => hasks.keeps (S := takingExchange.serve)
      (I := fun w' : World RestingBook => w'.rest = stopBook)
      (fun o w' hw' ho => ⟨trivial, (takingExchange_asks ho w').trans hw'⟩) hw
  refine hclose.handled rfl ?_ ?_
  · rw [hrest _ rfl]
    exact fun p hp => (nomatch hp)
  · rw [hrest _ rfl]
    exact ⟨_, List.mem_cons_self, rfl⟩

end TradeWorker
