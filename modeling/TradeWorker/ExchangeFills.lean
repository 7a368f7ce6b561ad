import TradeWorker.BinanceGateway
import TradeWorker.Ledger

/-!
# What the exchange filled

An order on the exchange is one request, sent again only where its timestamp was refused. What
the worker is told of its orders adds up to what the exchange filled: over any program of the
worker, the quantities bought and sold of each symbol are those its results report. A result can
leave an order out only by a failure that does not say the order was refused, such as a
connection that broke before the answer came.
-/

namespace TradeWorker

namespace Binance

/-! ## Quantities filled -/

/-- What was bought of each symbol, less what was sold. -/
abbrev Flow := String → ℚ

def Flow.add (flow : Flow) (symbol : String) (quantity : ℚ) : Flow := fun other =>
  if other = symbol then flow other + quantity else flow other

def WireSide.signed : WireSide → ℚ → ℚ
  | .buy, quantity => quantity
  | .sell, quantity => -quantity

def Flow.fill (flow : Flow) (p : MarketOrder) (quantity : ℚ) : Flow :=
  flow.add p.symbol (p.side.signed quantity)

/-- An exchange whose orders are counted in `filled`, and the exceptions that say an order was
refused. A response that cannot be read is none of these. -/
structure Desk {σ : Type} (gateway : BinanceFuturesGateway) (refusal : Exn → Prop)
    (S : Prog.Server WireOp WireOp.Ans Exn σ) (filled : σ → Flow) : Prop where
  done : ∀ p sig s reply, (S (.submit (.order p) sig) s).1 = .ok reply →
    ∃ quantity, gateway.number reply.executedQty = .ok quantity ∧
      filled (S (.submit (.order p) sig) s).2 = (filled s).fill p quantity
  unread : ∀ p sig s reply e, (S (.submit (.order p) sig) s).1 = .ok reply →
    gateway.orderResult reply = .error e → ¬ refusal e
  refused : ∀ p sig s e, (S (.submit (.order p) sig) s).1 = .error e → refusal e →
    filled (S (.submit (.order p) sig) s).2 = filled s
  timestamp : ∀ e, gateway.runtime.statusCode e = some timestampCode → refusal e
  aside : ∀ o s, (∀ p sig, o ≠ .submit (.order p) sig) → filled (S o s).2 = filled s

/-! ## Calls that order nothing -/

/-- Programs that send no order to `/fapi/v1/order`. -/
def passive : Prog.Contract WireOp WireOp.Ans Exn where
  guard o := ∀ p sig, o ≠ .submit (.order p) sig
  answers _ _ := True

section Passive

open BinanceFuturesGateway

variable (gateway : BinanceFuturesGateway)

theorem passive_op {o : WireOp} (h : ∀ p sig, o ≠ .submit (.order p) sig) :
    Prog.Sends passive (fun _ => True) (wire o) :=
  Prog.sends_perform h fun _ _ => trivial

def NoOrder (request : Request) : Prop := ∀ p, request ≠ .order p

theorem passive_of_only {α : Type} {p : WireWork α}
    (hp : Prog.Sends (only NoOrder) (fun _ => True) p) : Prog.Sends passive (fun _ => True) p := by
  refine hp.relax (fun o ho => ?_) fun _ _ _ => trivial
  rintro p sig rfl
  rcases ho with h | h
  · cases h
  · exact h p rfl

theorem passive_getSymbolFilter (symbol : String) :
    Prog.Sends passive (fun _ => True) (gateway.getSymbolFilter symbol) := by
  refine (passive_op (o := .filters) fun _ _ h => nomatch h).bind fun known _ => ?_
  cases known with
  | some filters => exact Prog.sends_ret.mpr trivial
  | none =>
      have hinfo : Prog.Sends (only NoOrder) (fun _ => True) (gateway.send .exchangeInfo false) :=
        gateway.only_send (fun _ h => nomatch h) false
      have hload : Prog.Sends (only NoOrder) (fun _ => True) gateway.loadFilters :=
        Prog.Sends.tryCatch (hinfo.bind fun _ _ => only_pure _) fun _ => only_pure _
      refine (passive_of_only hload).bind fun filters _ => ?_
      exact (passive_op (o := .setFilters filters) fun _ _ h => nomatch h).bind fun _ _ =>
        Prog.sends_ret.mpr trivial

theorem passive_setConditional (type symbol : String) (positionSide : Side) (price : ℚ) :
    Prog.Sends passive (fun _ => True) (gateway.setConditional type symbol positionSide price) := by
  have hprice : Prog.Sends passive (fun _ => True) (gateway.roundToTick symbol price) :=
    (passive_getSymbolFilter gateway symbol).bind fun _ _ => Prog.sends_ret.mpr trivial
  refine hprice.bind fun triggerPrice _ => passive_of_only (gateway.only_answer ?_)
  have hother : NoOrder
      (.algoOrder (gateway.conditional type symbol positionSide triggerPrice)) :=
    fun _ h => nomatch h
  exact gateway.only_send hother true

/-- Every call of the contract but one. -/
theorem passive_contract {o : CryptoOp}
    (ho : ∀ symbol side quantity reduceOnly clientOrderId,
      o ≠ .placeMarketOrder symbol side quantity reduceOnly clientOrderId) :
    Prog.Sends passive (fun _ => True) (gateway.contract o) := by
  cases o with
  | placeMarketOrder symbol side quantity reduceOnly clientOrderId =>
      exact absurd rfl (ho _ _ _ _ _)
  | getSymbolFilter symbol => exact passive_getSymbolFilter gateway symbol
  | getMarkPrice symbol =>
      exact passive_of_only (gateway.only_getMarkPrice symbol fun _ h => nomatch h)
  | getPositions symbol =>
      exact passive_of_only (gateway.only_getPositions symbol fun _ h => nomatch h)
  | setStopLoss symbol positionSide stopPrice quantity =>
      exact passive_setConditional gateway "STOP_MARKET" symbol positionSide stopPrice
  | setTakeProfit symbol positionSide tpPrice quantity =>
      exact passive_setConditional gateway "TAKE_PROFIT_MARKET" symbol positionSide tpPrice
  | cancelAllOrders symbol =>
      exact passive_of_only (gateway.only_cancelAllOrders symbol (fun _ h => nomatch h)
        fun _ h => nomatch h)
  | getOrderRealizedPnl symbol orderId =>
      exact passive_of_only (gateway.only_getOrderRealizedPnl symbol orderId
        fun _ _ h => nomatch h)
  | getAccount => exact passive_of_only (gateway.only_getAccount fun _ h => nomatch h)

end Passive

/-! ## Orders -/

section Orders

open BinanceFuturesGateway

variable {σ : Type} {gateway : BinanceFuturesGateway} {refusal : Exn → Prop}
  {S : Prog.Server WireOp WireOp.Ans Exn σ} {filled : σ → Flow}
  (hS : Desk gateway refusal S filled)

include hS

theorem Desk.wp_passive {α : Type} {p : WireWork α}
    (hp : Prog.Sends passive (fun _ => True) p) {s : σ} {before : Flow} (hs : filled s = before) :
    Prog.wp S.env (fun _ s' => filled s' = before) p s := by
  refine Prog.wp_mono (hp.wp (I := fun s' => filled s' = before) (fun o s' hs' ho => ⟨trivial, ?_⟩)
    hs) fun _ _ h => h.1
  rintro r s'' hr
  have haside := hS.aside o s' ho
  rw [show S o s' = (r, s'') from hr] at haside
  exact ⟨trivial, haside.trans hs'⟩

/-- What an order has filled by its response; an exception that is no refusal says nothing. -/
def Settled (gateway : BinanceFuturesGateway) (refusal : Exn → Prop) (filled : σ → Flow)
    (p : MarketOrder) (before : Flow) : Except Exn OrderReply → σ → Prop
  | .ok reply, s =>
      (∀ e, gateway.orderResult reply = .error e → ¬ refusal e) ∧
        ∃ quantity, gateway.number reply.executedQty = .ok quantity ∧
          filled s = before.fill p quantity
  | .error e, s => refusal e → filled s = before

theorem Desk.settled_submit {p : MarketOrder} {sig : Option Signature} {s s' : σ}
    {r : Except Exn OrderReply} (hr : S (.submit (.order p) sig) s = (r, s')) :
    Settled gateway refusal filled p (filled s) r s' := by
  have hdone := hS.done p sig s
  have hunread := hS.unread p sig s
  have hrefused := hS.refused p sig s
  rw [hr] at hdone hunread hrefused
  cases r with
  | ok reply => exact ⟨fun e => hunread reply e rfl, hdone reply rfl⟩
  | error e => exact hrefused e rfl

theorem Desk.wp_call (p : MarketOrder) {s : σ} {before : Flow} (hs : filled s = before) :
    Prog.wp S.env (Settled gateway refusal filled p before) (gateway.call (.order p) true) s := by
  have htime := passive_op (o := .time) fun _ _ h => nomatch h
  have hoffset := passive_op (o := .timeOffset) fun _ _ h => nomatch h
  rw [call_signed]
  refine Prog.wp_bind_of (hS.wp_passive htime hs) (fun now s₁ hs₁ => ?_) fun e s₁ hs₁ _ => hs₁
  refine Prog.wp_bind_of (hS.wp_passive hoffset hs₁) (fun offset s₂ hs₂ => ?_)
    fun e s₂ hs₂ _ => hs₂
  refine Prog.wp_perform.mpr ⟨trivial, fun r s₃ hr => ?_⟩
  have hsettled := hS.settled_submit hr
  rwa [hs₂] at hsettled

/-- An order is sent again only after it was refused, so at most one of the two was filled. -/
theorem Desk.wp_send (p : MarketOrder) {s : σ} {before : Flow} (hs : filled s = before) :
    Prog.wp S.env (Settled gateway refusal filled p before) (gateway.send (.order p) true) s := by
  refine Prog.wp_tryCatch.mpr (Prog.wp_mono (hS.wp_call p hs) fun r s₁ h => ?_)
  cases r with
  | ok reply => exact h
  | error exc =>
      dsimp only
      split
      · rename_i hcode
        have hbefore : filled s₁ = before := h (hS.timestamp exc hcode.2)
        exact Prog.wp_bind_of (hS.wp_passive (passive_of_only only_syncTime) hbefore)
          (fun _ s₂ hs₂ => hS.wp_call p hs₂) fun e s₂ hs₂ _ => hs₂
      · exact h

/-- What a result says of an order. -/
def told : (o : CryptoOp) → Except Exn o.Ans → Flow → Flow
  | .placeMarketOrder symbol side _ reduceOnly _, .ok r, flow =>
      if r.success then
        flow.add symbol
          ((if reduceOnly then closeSide side else openSide side).signed (r.volume.getD 0))
      else flow
  | _, _, flow => flow

/-- A failure that does not say the order was refused. -/
def unclear (gateway : BinanceFuturesGateway) (refusal : Exn → Prop) :
    (o : CryptoOp) → Except Exn o.Ans → Prop
  | .placeMarketOrder .., .ok r =>
      r.success = false ∧ ∃ e, ¬ refusal e ∧ r.comment = gateway.runtime.str e
  | _, _ => False

theorem Desk.wp_placeMarketOrder (symbol : String) (side : Side) (quantity : ℚ)
    (reduceOnly : Bool) (clientOrderId : String) {s : σ} {before : Flow} (hs : filled s = before) :
    Prog.wp S.env
      (fun a s' =>
        ¬ unclear gateway refusal
            (.placeMarketOrder symbol side quantity reduceOnly clientOrderId) a →
          filled s' =
            told (.placeMarketOrder symbol side quantity reduceOnly clientOrderId) a before)
      (gateway.placeMarketOrder symbol side quantity reduceOnly (some clientOrderId)) s := by
  let p := gateway.marketOrder symbol side quantity reduceOnly (some clientOrderId)
  have hfailed : ∀ (e : Exn) s', (refusal e → filled s' = before) →
      ¬ unclear gateway refusal (.placeMarketOrder symbol side quantity reduceOnly clientOrderId)
        (.ok (TradeResult.fail (gateway.runtime.str e))) → filled s' = before := by
    intro e s' hbefore hclear
    by_cases hrefusal : refusal e
    · exact hbefore hrefusal
    · exact absurd ⟨rfl, e, hrefusal, rfl⟩ hclear
  refine Prog.wp_tryCatch.mpr (Prog.wp_bind_of (hS.wp_send p hs) (fun reply s₁ h => ?_)
    fun e s₁ h => hfailed e s₁ h)
  obtain ⟨hunread, q, hq, hfilled⟩ := h
  cases hr : gateway.orderResult reply with
  | error e => exact hfailed e s₁ fun hrefusal => absurd hrefusal (hunread e hr)
  | ok r =>
      intro _
      obtain ⟨hsuccess, hvolume⟩ := gateway.orderResult_reports hr
      rw [hq] at hvolume
      cases hvolume
      rw [hfilled, told, if_pos hsuccess]
      rfl

/-- The book of what was filled, kept by the adapter's results. -/
def ledger (gateway : BinanceFuturesGateway) (refusal : Exn → Prop) (filled : σ → Flow) :
    Prog.Ledger CryptoOp CryptoOp.Ans Exn σ Flow where
  world := filled
  enter := told
  obscure := unclear gateway refusal

/-- Every result says what its order filled, unless it is an unclear failure. -/
theorem Desk.faithful :
    (ledger gateway refusal filled).Faithful (S.implemented gateway.contract) := by
  intro o s hclear
  by_cases ho : ∃ symbol side quantity reduceOnly clientOrderId,
      o = .placeMarketOrder symbol side quantity reduceOnly clientOrderId
  · obtain ⟨symbol, side, quantity, reduceOnly, clientOrderId, rfl⟩ := ho
    exact (Prog.run_iff_wp S _ s).mp
      (hS.wp_placeMarketOrder symbol side quantity reduceOnly clientOrderId rfl) hclear
  · have hother : ∀ symbol side quantity reduceOnly clientOrderId,
        o ≠ .placeMarketOrder symbol side quantity reduceOnly clientOrderId :=
      fun symbol side quantity reduceOnly clientOrderId h =>
        ho ⟨symbol, side, quantity, reduceOnly, clientOrderId, h⟩
    have hflow : filled (Prog.run S (gateway.contract o) s).2 = filled s :=
      (Prog.run_iff_wp S _ s).mp (hS.wp_passive (passive_contract gateway hother) rfl)
    have htold : ∀ a flow, told o a flow = flow := by
      intro a flow
      cases o with
      | placeMarketOrder symbol side quantity reduceOnly clientOrderId =>
          exact absurd rfl (hother _ _ _ _ _)
      | _ => rfl
    show filled (Prog.run S (gateway.contract o) s).2 =
      told o (Prog.run S (gateway.contract o) s).1 (filled s)
    rw [hflow, htold]

end Orders

/-! ## The worker over the adapter -/

/-- The exchange's interface, and the worker's other calls. -/
abbrev AdapterOp := WireOp ⊕ WorkerOp

abbrev AdapterOp.Ans : AdapterOp → Type := Prog.SumAns WireOp.Ans WorkerOp.Ans

/-- The calls the adapter takes over. -/
def taken (gateway : BinanceFuturesGateway) :
    (o : WorkerOp) → Option (Prog WireOp WireOp.Ans Exn o.Ans)
  | .cx o => some (gateway.contract o)
  | _ => none

/-- The worker's calls, with the exchange's by the adapter. -/
def through (gateway : BinanceFuturesGateway) (o : WorkerOp) :
    Prog AdapterOp AdapterOp.Ans Exn o.Ans :=
  Prog.through (taken gateway) o

/-- The book the worker can keep. -/
def workerLedger {σ : Type} (gateway : BinanceFuturesGateway) (refusal : Exn → Prop)
    (filled : σ → Flow) : Prog.Ledger WorkerOp WorkerOp.Ans Exn σ Flow where
  world := filled
  enter
    | .cx o, a => told o a
    | _, _ => id
  obscure
    | .cx o, a => unclear gateway refusal o a
    | _, _ => False

section Worker

variable {σ : Type} {gateway : BinanceFuturesGateway} {refusal : Exn → Prop}
  {T : Prog.Server AdapterOp AdapterOp.Ans Exn σ} {filled : σ → Flow}

/-- **The worker's results are the exchange's fills.** Over any program of the worker, what was
bought and sold of each symbol in the end is what was at first with the quantities of the
reported successes added, as long as no failure is one that does not say the order was
refused. -/
theorem filled_eq_book (hT : Desk gateway refusal T.left filled)
    (hothers : ∀ o s, filled (T (.inr o) s).2 = filled s) {α : Type} (p : Work α) (s : σ)
    (hclear : ∀ x ∈ Prog.dialogue (T.implemented (through gateway)) p s,
      ¬ (workerLedger gateway refusal filled).obscure x.1 x.2) :
    filled (Prog.run T (Prog.implement (through gateway) p) s).2 =
      (workerLedger gateway refusal filled).balance
        (Prog.dialogue (T.implemented (through gateway)) p s) (filled s) := by
  have hfaithful : (workerLedger gateway refusal filled).Faithful
      (T.implemented (through gateway)) := by
    refine Prog.Ledger.Faithful.of_through (taken gateway) ?_ ?_ hothers
    · intro o q s htaken hclear
      cases o with
      | cx o =>
          obtain rfl := Option.some.inj htaken
          exact hT.faithful o s hclear
      | db o | fx o | host o => cases htaken
    · intro o a flow hpast
      cases o with
      | cx o => cases hpast
      | db o | fx o | host o => rfl
  rw [Prog.run_implement]
  exact hfaithful.balances p s hclear

end Worker

/-! ## A simulated exchange -/

/-- What is filled, and how many of the next orders are refused for their timestamp. Only orders
for half a coin are taken. -/
structure SimExchange where
  filled : Flow := fun _ => 0
  refusals : Nat := 0

namespace SimExchange

def stale : Exn := .gateway "-1021"

def badQuantity : Exn := .gateway "-1111"

def refusal (e : Exn) : Prop := e = stale ∨ e = badQuantity

def float (text : String) : Except Exn ℚ :=
  if text = "0.5" then .ok (1 / 2)
  else if text = "64000.00" then .ok 64000
  else .error (.valueError "could not convert string to float")

def gateway : BinanceFuturesGateway where
  runtime :=
    { float
      statusCode := fun e => if e = stale then some timestampCode else none
      str := fun e => if e = stale ∨ e = badQuantity then "refused" else "unknown"
      hash := fun _ => 0 }

def reply : OrderReply where
  orderId := some 42
  avgPrice := some "64000.00"
  executedQty := some "0.5"
  status := some "FILLED"

def order (p : MarketOrder) (x : SimExchange) : Except Exn OrderReply × SimExchange :=
  if 0 < x.refusals then (.error stale, { x with refusals := x.refusals - 1 })
  else if p.quantity = 1 / 2 then (.ok reply, { x with filled := x.filled.fill p (1 / 2) })
  else (.error badQuantity, x)

def serve : Prog.Server WireOp WireOp.Ans Exn SimExchange
  | .time, x => (.ok 0, x)
  | .timeOffset, x => (.ok 0, x)
  | .setTimeOffset _, x => (.ok (), x)
  | .filters, x => (.ok none, x)
  | .setFilters _, x => (.ok (), x)
  | .submit (.order p) _, x => order p x
  | .submit .time _, x => (.ok (some 0), x)
  | .submit _ _, x => (.error (.other "no such endpoint"), x)

def beside : Prog.Server AdapterOp AdapterOp.Ans Exn SimExchange
  | .inl o, x => serve o x
  | .inr _, x => (.error (.other "not there"), x)

theorem desk : Desk gateway refusal beside.left SimExchange.filled where
  done p sig x r hr := by
    have hr : (order p x).1 = .ok r := hr
    show ∃ a, _ ∧ (order p x).2.filled = _
    unfold order at hr ⊢
    split at hr
    · cases hr
    rename_i hnone
    rw [if_neg hnone]
    split at hr
    · rename_i hquantity
      obtain rfl := Except.ok.inj hr
      rw [if_pos hquantity]
      exact ⟨1 / 2, rfl, rfl⟩
    · cases hr
  unread p sig x r e hr he := by
    have hr : (order p x).1 = .ok r := hr
    unfold order at hr
    split at hr
    · cases hr
    split at hr
    · obtain rfl := Except.ok.inj hr
      cases he
    · cases hr
  refused p sig x e he hrefusal := by
    have he : (order p x).1 = .error e := he
    show (order p x).2.filled = x.filled
    unfold order at he ⊢
    split
    · rfl
    rename_i hnone
    rw [if_neg hnone] at he
    split
    · rename_i hquantity
      rw [if_pos hquantity] at he
      cases he
    · rfl
  timestamp e he := by
    by_cases h : e = stale
    · exact .inl h
    · have hnone : gateway.runtime.statusCode e = none := if_neg h
      rw [hnone] at he
      cases he
  aside o x ho := by
    match o with
    | .time | .timeOffset | .setTimeOffset _ | .filters | .setFilters _ => rfl
    | .submit (.order p) sig => exact absurd rfl (ho p sig)
    | .submit .time _ | .submit .balance _ | .submit .exchangeInfo _ | .submit (.premiumIndex _) _
    | .submit (.positionRisk _) _ | .submit (.algoOrder _) _ | .submit (.algoOpenOrders _) _
    | .submit (.allOpenOrders _) _ | .submit .account _ | .submit (.userTrades ..) _
    | .submit (.positionMode _) _ => rfl

def halfCoin : CryptoOp := .placeMarketOrder "BTCUSDT" .long (1 / 2) false "awkr_1"

theorem halfCoin_success :
    (beside.implemented (through gateway) (.cx halfCoin) { refusals := 1 }).1.toOption.map
      TradeResult.success = some true := by
  decide +kernel

/-- Half a coin is bought at the second attempt, and is in the book once. -/
theorem halfCoin_eq_book :
    SimExchange.filled
        (Prog.run beside (Prog.implement (through gateway) (exchange halfCoin))
          { refusals := 1 }).2 =
      (workerLedger gateway refusal SimExchange.filled).balance
        (Prog.dialogue (beside.implemented (through gateway)) (exchange halfCoin)
          { refusals := 1 })
        fun _ => 0 :=
  filled_eq_book desk (fun o x => by cases o <;> rfl) _ { refusals := 1 } fun x hx => by
    have hsuccess := halfCoin_success
    rw [exchange, Prog.dialogue_perform] at hx
    obtain rfl := List.mem_singleton.mp hx
    rcases hr : (beside.implemented (through gateway) (.cx halfCoin) { refusals := 1 }).1 with e | r
    · exact id
    · rw [hr] at hsuccess
      rintro ⟨hfailed, -⟩
      rw [Option.some.inj hsuccess] at hfailed
      cases hfailed

end SimExchange

end Binance

end TradeWorker
