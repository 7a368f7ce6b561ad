import TradeWorker.Ledger
import TradeWorker.Mt5Gateway

/-!
# What the terminal was told is what it did

The worker learns what became of its orders from the results the adapter hands back. These
are enough to keep a book of the account: the positions held after any program of the worker
are those held before, with the results that report success entered in order. What a result
cannot say is that a refused order was carried out in part; its code is all that shows.
-/

namespace TradeWorker

namespace Mt5

/-! ## The account behind the terminal -/

def TradePosition.reduce (p : TradePosition) (volume : ℚ) : Option TradePosition :=
  if volume < p.volume then some { p with volume := p.volume - volume } else none

/-- The position an order opens: on a hedging account under its own ticket. -/
def DealRequest.opened (d : DealRequest) (r : OrderSendResult) : TradePosition where
  ticket := r.order
  magic := d.magic
  type := d.type
  volume := r.volume
  priceOpen := r.price
  sl := d.sl.getD 0
  tp := d.tp.getD 0
  symbol := d.symbol

def settle (request : TradeRequest) (r : OrderSendResult) (held : List TradePosition) :
    List TradePosition :=
  match request with
  | .deal d =>
      match d.position with
      | none => held ++ [d.opened r]
      | some ticket =>
          held.filterMap fun p => if p.ticket = ticket then p.reduce r.volume else some p
  | .sltp _ ticket sl tp => held.map fun p => if p.ticket = ticket then { p with sl, tp } else p

/-- A hedging account behind a server of the terminal's interface. `carriedOut` are the codes
of requests that were carried out, in whole or in part. -/
structure Account {σ : Type} (carriedOut : Int → Prop)
    (S : Prog.Server TerminalOp TerminalOp.Ans Exn σ) (held : σ → List TradePosition) : Prop where
  done : carriedOut retcodeDone
  settled : ∀ request s r, (S (.orderSend request) s).1 = .ok (some r) → carriedOut r.retcode →
    held (S (.orderSend request) s).2 = settle request r (held s)
  refused : ∀ request s,
    (∀ r, (S (.orderSend request) s).1 = .ok (some r) → ¬ carriedOut r.retcode) →
    held (S (.orderSend request) s).2 = held s
  busy : ∀ request s r, (S (.orderSend request) s).1 = .ok (some r) →
    isTradeContextBusy (some r) none = true → isDone (some r) = false → ¬ carriedOut r.retcode
  aside : ∀ o s, (∀ request, o ≠ .orderSend request) → held (S o s).2 = held s
  sleeps : ∀ seconds s, (S (.sleep seconds) s).1 = .ok ()

/-! ## Calls beside the orders -/

def orderless : Prog.Contract TerminalOp TerminalOp.Ans Exn where
  guard o := ∀ request, o ≠ .orderSend request
  answers _ _ := True

section Orderless

theorem orderless_terminal {o : TerminalOp} (h : ∀ request, o ≠ .orderSend request) :
    Prog.Sends orderless (fun _ => True) (terminal o) :=
  Prog.sends_perform h fun _ _ => trivial

theorem orderless_read {o : TerminalOp} {α : Type} {f : o.Ans → TerminalWork α} {Q : α → Prop}
    (h : ∀ request, o ≠ .orderSend request) (hf : ∀ a, Prog.Sends orderless Q (f a)) :
    Prog.Sends orderless Q (terminal o >>= f) :=
  (orderless_terminal h).bind fun a _ => hf a

theorem orderless_pure {α : Type} (a : α) :
    Prog.Sends orderless (fun _ => True) (pure a : TerminalWork α) :=
  Prog.sends_ret.mpr trivial

theorem orderless_notSent (comment : String) :
    Prog.Sends orderless (fun r => r.success = false) (notSent comment) :=
  orderless_read (fun _ h => nomatch h) fun _ =>
    orderless_read (fun _ h => nomatch h) fun _ => Prog.sends_ret.mpr rfl

theorem orderless_historyDeals (ticket : Option Int) :
    Prog.Sends orderless (fun _ => True) (historyDeals ticket) := by
  cases ticket with
  | none => exact orderless_pure _
  | some ticketId =>
      exact Prog.Sends.tryCatch (orderless_read (fun _ h => nomatch h) fun _ => orderless_pure _)
        fun _ => orderless_pure _

theorem orderless_lookupFrom (order position left : Nat) :
    Prog.Sends orderless (fun _ => True) (lookupFrom order position left) := by
  induction left with
  | zero => exact orderless_pure _
  | succ left ih =>
      refine (orderless_historyDeals _).bind fun found _ => ?_
      cases found with
      | none => exact orderless_pure _
      | some deals =>
          dsimp only
          split
          · exact orderless_pure _
          split
          · exact orderless_pure _
          · exact orderless_read (fun _ h => nomatch h) fun _ => ih

theorem orderless_closingDealPnl (result : OrderSendResult) (position : Nat) :
    Prog.Sends orderless (fun _ => True) (closingDealPnl result position) := by
  unfold closingDealPnl
  split
  · exact orderless_pure _
  · exact orderless_lookupFrom ..

theorem orderless_awaitFrom (gateway : Mt5Gateway) (name : String) (deadline : ℚ) (left : Nat) :
    Prog.Sends orderless (fun _ => True) (gateway.awaitFrom name deadline left) := by
  induction left with
  | zero => exact Prog.sends_raise.mpr trivial
  | succ left ih =>
      refine orderless_read (fun _ h => nomatch h) fun tick => ?_
      split
      · exact orderless_pure _
      refine orderless_read (fun _ h => nomatch h) fun now => ?_
      split
      · exact orderless_pure _
      · exact orderless_read (fun _ h => nomatch h) fun _ => ih

theorem orderless_awaitFirstTick (gateway : Mt5Gateway) (name : String) :
    Prog.Sends orderless (fun _ => True) (gateway.awaitFirstTick name) :=
  orderless_read (fun _ h => nomatch h) fun _ => orderless_awaitFrom ..

theorem orderless_resolveSymbol (gateway : Mt5Gateway) (baseSymbol : String) :
    Prog.Sends orderless (fun _ => True) (gateway.resolveSymbol baseSymbol) := by
  refine orderless_read (fun _ h => nomatch h) fun cached => ?_
  cases cached with
  | some name => exact orderless_pure _
  | none =>
      refine orderless_read (fun _ h => nomatch h) fun symbols => ?_
      dsimp only
      cases (symbols.getD []).find? (tradeable baseSymbol) with
      | none => exact orderless_pure _
      | some sym =>
          have hremember : ∀ u : Unit, Prog.Sends orderless (fun _ => True)
              (do
                let _ : Unit ← terminal (.remember baseSymbol sym.name)
                pure sym.name) :=
            fun _ => orderless_read (fun _ h => nomatch h) fun _ => orderless_pure _
          dsimp only
          split
          · exact hremember ()
          · refine orderless_read (fun _ h => nomatch h) fun _ => ?_
            exact (orderless_awaitFirstTick gateway sym.name).bind fun _ _ => hremember ()

theorem orderless_getTick (symbol : String) :
    Prog.Sends orderless (fun _ => True) (Mt5Gateway.getTick symbol) :=
  orderless_read (fun _ h => nomatch h) fun _ => orderless_pure _

theorem orderless_getAccount : Prog.Sends orderless (fun _ => True) Mt5Gateway.getAccount := by
  refine Prog.Sends.tryCatch (orderless_read (fun _ h => nomatch h) fun info => ?_) fun _ =>
    orderless_pure _
  cases info with
  | none => exact orderless_read (fun _ h => nomatch h) fun _ => orderless_pure _
  | some info => exact orderless_pure _

theorem orderless_calcMargin (symbol : String) (side : Side) (volume price : ℚ) :
    Prog.Sends orderless (fun _ => True) (Mt5Gateway.calcMargin symbol side volume price) := by
  refine Prog.Sends.bind (Prog.Sends.tryCatch ?_ fun _ => orderless_pure _) fun margin _ => ?_
  · exact orderless_read (fun _ h => nomatch h) fun _ => orderless_pure _
  · rcases margin with _ | _ | margin
    · exact orderless_pure _
    · exact orderless_read (fun _ h => nomatch h) fun _ => orderless_pure _
    · exact orderless_pure _

end Orderless

/-! ## An order -/

section Orders

variable {σ : Type} {carriedOut : Int → Prop} {S : Prog.Server TerminalOp TerminalOp.Ans Exn σ}
  {held : σ → List TradePosition} (hS : Account carriedOut S held)

include hS

/-- Calls that order nothing leave the account alone. -/
theorem Account.wp_orderless {α : Type} {Q : α → Prop} {p : TerminalWork α}
    (hp : Prog.Sends orderless Q p) {s : σ} {before : List TradePosition} (hs : held s = before) :
    Prog.wp S.env (fun r s' => held s' = before ∧ ∀ a, r = .ok a → Q a) p s := by
  refine hp.wp (I := fun s' => held s' = before) (fun o s' hs' ho => ⟨trivial, ?_⟩) hs
  rintro r s'' hr
  have haside := hS.aside o s' ho
  rw [show S o s' = (r, s'') from hr] at haside
  exact ⟨trivial, haside.trans hs'⟩

/-- What is left of the account by the answer an order ends with. -/
def Answered (carriedOut : Int → Prop) (held : σ → List TradePosition) (request : TradeRequest)
    (before : List TradePosition) : Except Exn (Option OrderSendResult) → σ → Prop
  | .ok (some r), s =>
      (carriedOut r.retcode → held s = settle request r before) ∧
        (¬ carriedOut r.retcode → held s = before)
  | _, s => held s = before

omit hS in
theorem Answered.moved {request : TradeRequest} {before : List TradePosition}
    {r : Except Exn (Option OrderSendResult)} {s s' : σ}
    (h : Answered carriedOut held request before r s) (hs : held s' = held s) :
    Answered carriedOut held request before r s' := by
  rcases r with e | _ | r
  · exact hs.trans h
  · exact hs.trans h
  · exact ⟨fun hout => hs.trans (h.1 hout), fun hnot => hs.trans (h.2 hnot)⟩

/-- One attempt. -/
theorem Account.answered_orderSend {request : TradeRequest} {s s' : σ}
    {r : Except Exn (Option OrderSendResult)} (hr : S (.orderSend request) s = (r, s')) :
    Answered carriedOut held request (held s) r s' := by
  have hsettled := hS.settled request s
  have hrefused := hS.refused request s
  rw [hr] at hsettled hrefused
  rcases r with e | _ | r
  · exact hrefused fun r h => nomatch h
  · exact hrefused fun r h => nomatch h
  · refine ⟨hsettled r rfl, fun hnot => hrefused fun r' hr' => ?_⟩
    cases hr'
    exact hnot

/-- An attempt the terminal was too busy for. -/
theorem Account.held_of_busy {request : TradeRequest} {s s' : σ} {result : Option OrderSendResult}
    {error : Option LastError} (hr : S (.orderSend request) s = (.ok result, s'))
    (hdone : isDone result = false) (hbusy : isTradeContextBusy result error = true) :
    held s' = held s := by
  have hanswered := hS.answered_orderSend hr
  cases result with
  | none => exact hanswered
  | some r =>
      exact hanswered.2 (hS.busy request s r (by rw [hr]) hbusy hdone)

/-- A request that is repeated was refused each time before: only the last one can have been
carried out. -/
theorem Account.answered_sendFrom (request : TradeRequest) (left attempt : Nat) {s : σ}
    {before : List TradePosition} (hs : held s = before) :
    Prog.wp S.env (Answered carriedOut held request before) (sendFrom request left attempt) s := by
  induction left generalizing attempt s with
  | zero => exact hs
  | succ left ih =>
      refine Prog.wp_bind.mpr (Prog.wp_perform.mpr ⟨trivial, fun r s₁ hr => ?_⟩)
      have hanswered := hS.answered_orderSend hr
      rw [hs] at hanswered
      rcases r with e | result
      · exact hanswered
      show Prog.wp S.env _ (if isDone result = true then pure result else _) s₁
      split
      · exact hanswered
      rename_i hdone
      have hdone : isDone result = false := Bool.eq_false_iff.mpr hdone
      have htail : ∀ (error : Option LastError) s₂, held s₂ = held s₁ →
          Prog.wp S.env (Answered carriedOut held request before)
            (if (!isTradeContextBusy result error) = true then pure result
              else if attempt = busySendAttempts then pure result
              else do
                let _ : Unit ← terminal (.sleep (busySendDelay * 2 ^ (attempt - 1)))
                sendFrom request left (attempt + 1)) s₂ := by
        intro error s₂ hs₂
        split
        · exact hanswered.moved hs₂
        rename_i hbusy
        split
        · exact hanswered.moved hs₂
        have hbusy : isTradeContextBusy result error = true := by simpa using hbusy
        have hbefore : held s₂ = before := (hs₂.trans (hS.held_of_busy hr hdone hbusy)).trans hs
        exact Prog.wp_bind_of
          (hS.wp_orderless (orderless_terminal (o := .sleep _) fun _ h => nomatch h) hbefore)
          (fun _ s₃ h => ih _ h.1) fun _ _ h => h.1
      cases result with
      | none =>
          exact Prog.wp_bind_of
            (hS.wp_orderless
              (orderless_read (o := .lastError) (Q := fun _ => True) (fun _ h => nomatch h)
                fun _ => orderless_pure _) rfl)
            (fun error s₂ h => htail error s₂ h.1) fun _ _ h => h.1.trans hanswered
      | some r => exact htail none s₁ rfl

/-- Once a close is done its profit is looked up, which raises nothing. -/
theorem Account.wp_historyDeals (ticket : Option Int) {s : σ} {before : List TradePosition}
    (hs : held s = before) :
    Prog.wp S.env (fun r s' => held s' = before ∧ ∃ a, r = .ok a) (historyDeals ticket) s := by
  cases ticket with
  | none => exact ⟨hs, _, rfl⟩
  | some ticketId =>
      have hread : Prog.Sends orderless (fun _ => True)
          (do
            let deals : Option (List OrderDeal) ← terminal (.historyDealsGet ticketId)
            pure (some (deals.getD []))) :=
        orderless_read (fun _ h => nomatch h) fun _ => orderless_pure _
      refine Prog.wp_tryCatch.mpr (Prog.wp_mono (hS.wp_orderless hread hs) fun r s' h => ?_)
      cases r with
      | ok a => exact ⟨h.1, a, rfl⟩
      | error e => exact ⟨h.1, none, rfl⟩

theorem Account.wp_lookupFrom (order position left : Nat) {s : σ} {before : List TradePosition}
    (hs : held s = before) :
    Prog.wp S.env (fun r s' => held s' = before ∧ ∃ a, r = .ok a)
      (lookupFrom order position left) s := by
  induction left generalizing s with
  | zero => exact ⟨hs, _, rfl⟩
  | succ left ih =>
      refine Prog.wp_bind_of (hS.wp_historyDeals _ hs) (fun found s₁ h => ?_)
        fun e s₁ h => by
          obtain ⟨-, a, ha⟩ := h
          cases ha
      cases found with
      | none => exact ⟨h.1, _, rfl⟩
      | some deals =>
          dsimp only
          split
          · exact ⟨h.1, _, rfl⟩
          split
          · exact ⟨h.1, _, rfl⟩
          refine Prog.wp_bind.mpr (Prog.wp_perform.mpr ⟨trivial, fun r s₂ hr => ?_⟩)
          have hslept := hS.sleeps dealLookupDelay s₁
          have haside := hS.aside (.sleep dealLookupDelay) s₁ fun _ h => nomatch h
          rw [show S (.sleep dealLookupDelay) s₁ = (r, s₂) from hr] at hslept haside
          obtain rfl : r = .ok () := hslept
          exact ih (haside.trans h.1)

theorem Account.wp_closingDealPnl (result : OrderSendResult) (position : Nat) {s : σ}
    {before : List TradePosition} (hs : held s = before) :
    Prog.wp S.env (fun r s' => held s' = before ∧ ∃ a, r = .ok a)
      (closingDealPnl result position) s := by
  unfold closingDealPnl
  split
  · exact ⟨hs, _, rfl⟩
  · exact hS.wp_lookupFrom _ _ _ hs

end Orders

/-! ## The book -/

/-- A live position as the worker is told of it. -/
structure Holding where
  ticket : String
  symbol : String
  side : Side
  magic : Int
  volume : ℚ
  priceOpen : ℚ
  sl : ℚ
  tp : ℚ
  deriving DecidableEq, Repr

def Holding.reduce (h : Holding) (volume : ℚ) : Option Holding :=
  if volume < h.volume then some { h with volume := h.volume - volume } else none

def TradePosition.holding (p : TradePosition) : Holding where
  ticket := ticketText p.ticket
  symbol := p.symbol
  side := Mt5Gateway.sideOf p.type
  magic := p.magic
  volume := p.volume
  priceOpen := p.priceOpen
  sl := p.sl
  tp := p.tp

/-- What a result says became of an order. -/
def told : (o : ForexOp) → Except Exn o.Ans → List Holding → List Holding
  | .placeOrder req, .ok r, book =>
      if r.success then
        book ++ [
          { ticket := r.ticket.getD ""
            symbol := req.symbol
            side := req.side
            magic := req.magic
            volume := r.volume.getD 0
            priceOpen := r.price.getD 0
            sl := r.sl.getD 0
            tp := r.tp.getD 0 }]
      else book
  | .closePosition pos _ _, .ok r, book =>
      if r.success then
        book.filterMap fun h =>
          if h.ticket = ticketText pos.ticket then h.reduce (r.volume.getD 0) else some h
      else book
  | .modifySl pos _, .ok r, book =>
      if r.success then
        book.map fun h =>
          if h.ticket = ticketText pos.ticket then { h with sl := r.newSl.getD 0, tp := pos.tp }
          else h
      else book
  | _, _, book => book

def Misreport (carriedOut : Int → Prop) : Except Exn TradeResult → Prop
  | .ok r => r.success = false ∧ ∃ code, r.retcode = some code ∧ carriedOut code
  | .error _ => False

def misreported (carriedOut : Int → Prop) : (o : ForexOp) → Except Exn o.Ans → Prop
  | .placeOrder _, a | .closePosition .., a | .modifySl .., a => Misreport carriedOut a
  | _, _ => False

theorem TradePosition.holding_reduce (p : TradePosition) (volume : ℚ) :
    (p.reduce volume).map TradePosition.holding = p.holding.reduce volume := by
  unfold TradePosition.reduce Holding.reduce
  show Option.map _ (if volume < p.volume then _ else _) = if volume < p.volume then _ else _
  split <;> rfl

theorem TradePosition.holding_ticket_iff (p : TradePosition) (ticket : Nat) :
    p.holding.ticket = ticketText ticket ↔ p.ticket = ticket :=
  ⟨fun h => CloseDetector.ticketText_injective h, fun h => congrArg ticketText h⟩

theorem map_holding_close (held : List TradePosition) (ticket : Nat) (volume : ℚ) :
    (held.filterMap fun p => if p.ticket = ticket then p.reduce volume else some p).map
        TradePosition.holding =
      (held.map TradePosition.holding).filterMap fun h =>
        if h.ticket = ticketText ticket then h.reduce volume else some h := by
  rw [List.map_filterMap, List.filterMap_map]
  refine List.filterMap_congr fun p _ => ?_
  simp only [Function.comp, p.holding_ticket_iff]
  split
  · exact p.holding_reduce volume
  · rfl

theorem map_holding_modify (held : List TradePosition) (ticket : Nat) (sl tp : ℚ) :
    (held.map fun p => if p.ticket = ticket then { p with sl, tp } else p).map
        TradePosition.holding =
      (held.map TradePosition.holding).map fun h =>
        if h.ticket = ticketText ticket then { h with sl, tp } else h := by
  rw [List.map_map, List.map_map]
  refine List.map_congr_left fun p _ => ?_
  simp only [Function.comp, p.holding_ticket_iff]
  split <;> rfl

section Faithful

variable {σ : Type} {carriedOut : Int → Prop} {S : Prog.Server TerminalOp TerminalOp.Ans Exn σ}
  {held : σ → List TradePosition} (hS : Account carriedOut S held)

include hS

/-- A result is entered for what its order did, unless it is a misreport. -/
def Entered (carriedOut : Int → Prop) (held : σ → List TradePosition)
    (enter : Except Exn TradeResult → List Holding → List Holding) (before : List TradePosition)
    (a : Except Exn TradeResult) (s : σ) : Prop :=
  ¬ Misreport carriedOut a →
    (held s).map TradePosition.holding = enter a (before.map TradePosition.holding)

/-- The three order methods go on alike once the request was sent. -/
theorem Account.wp_ordered {enter : Except Exn TradeResult → List Holding → List Holding}
    (herror : ∀ e book, enter (.error e) book = book)
    (hfailed : ∀ r book, r.success = false → enter (.ok r) book = book)
    {request : TradeRequest} {comment : String}
    {k : Option OrderSendResult → TerminalWork TradeResult}
    {failure : OrderSendResult → TradeResult} {finish : OrderSendResult → TerminalWork TradeResult}
    (hnone : k none = notSent comment)
    (hsome : ∀ r, k (some r) = if r.retcode ≠ retcodeDone then pure (failure r) else finish r)
    (hfailure : ∀ r, (failure r).success = false ∧ (failure r).retcode = some r.retcode)
    {before : List TradePosition}
    (hfinish : ∀ r s, held s = settle request r before →
      Prog.wp S.env (Entered carriedOut held enter before) (finish r) s)
    {s : σ} (hs : held s = before) :
    Prog.wp S.env (Entered carriedOut held enter before) (sendOrderRequest request >>= k) s := by
  refine Prog.wp_bind_of (hS.answered_sendFrom request _ _ hs) (fun result s₁ hanswered => ?_)
    fun e s₁ hanswered _ => by
      rw [herror, show held s₁ = before from hanswered]
  cases result with
  | none =>
      rw [hnone]
      refine Prog.wp_mono (hS.wp_orderless (orderless_notSent comment) hanswered) ?_
      rintro (e | r) s₂ ⟨hs₂, hr⟩ -
      · rw [herror, hs₂]
      · rw [hfailed r _ (hr r rfl), hs₂]
  | some r =>
      rw [hsome]
      split
      · intro hclear
        obtain ⟨hsuccess, hcode⟩ := hfailure r
        rw [hfailed _ _ hsuccess]
        rw [hanswered.2 fun hout => hclear ⟨hsuccess, _, hcode, hout⟩]
      · rename_i hdone
        rw [not_not] at hdone
        exact hfinish r s₁ (hanswered.1 (hdone ▸ hS.done))

theorem Account.wp_placeOrder (gateway : Mt5Gateway) (req : OrderRequest) {s : σ}
    {before : List TradePosition} (hs : held s = before) :
    Prog.wp S.env (Entered carriedOut held (told (.placeOrder req)) before)
      (gateway.placeOrder req) s := by
  refine hS.wp_ordered (fun _ _ => rfl)
    (fun r _ hr => if_neg (by rw [hr]; exact Bool.false_ne_true)) rfl (fun _ => rfl)
    (fun _ => ⟨rfl, rfl⟩) (fun r s₁ hs₁ => ?_) hs
  intro _
  rw [hs₁]
  simp only [settle, told, List.map_append, List.map_cons, List.map_nil, if_true]
  simp only [TradePosition.holding, DealRequest.opened, Mt5Gateway.sideOf_orderType,
    Option.getD_some]

theorem Account.wp_closePosition (gateway : Mt5Gateway) (pos : PlatformPosition)
    (volume : Option ℚ) (comment : String) {s : σ} {before : List TradePosition}
    (hs : held s = before) :
    Prog.wp S.env (Entered carriedOut held (told (.closePosition pos volume comment)) before)
      (gateway.closePosition pos volume comment) s := by
  have hfailed : ∀ (r : TradeResult) (book : List Holding), r.success = false →
      told (.closePosition pos volume comment) (.ok r) book = book := fun r _ hr =>
    if_neg (by rw [hr]; exact Bool.false_ne_true)
  refine Prog.wp_bind_of (hS.wp_orderless (orderless_getTick pos.symbol) hs)
    (fun tick s₁ h => ?_) fun e s₁ h _ => by
      rw [h.1]
      rfl
  cases tick with
  | none =>
      intro _
      rw [h.1]
      exact (hfailed _ _ rfl).symm
  | some tick =>
      refine hS.wp_ordered (fun _ _ => rfl) hfailed rfl (fun _ => rfl) (fun _ => ⟨rfl, rfl⟩)
        (fun r s₂ hs₂ => ?_) h.1
      refine Prog.wp_bind_of (hS.wp_closingDealPnl r pos.ticket hs₂) (fun profit s₃ h₃ _ => ?_)
        fun e s₃ h₃ => by
          obtain ⟨-, a, ha⟩ := h₃
          cases ha
      rw [h₃.1]
      exact map_holding_close before pos.ticket r.volume

theorem Account.wp_modifySl (pos : PlatformPosition) (newSl : ℚ) {s : σ}
    {before : List TradePosition} (hs : held s = before) :
    Prog.wp S.env (Entered carriedOut held (told (.modifySl pos newSl)) before)
      (Mt5Gateway.modifySl pos newSl) s := by
  refine hS.wp_ordered (fun _ _ => rfl)
    (fun r _ hr => if_neg (by rw [hr]; exact Bool.false_ne_true)) rfl (fun _ => rfl)
    (fun _ => ⟨rfl, rfl⟩) (fun r s₁ hs₁ => ?_) hs
  intro _
  rw [hs₁]
  exact map_holding_modify before pos.ticket newSl pos.tp

/-- The book of an account, kept by the adapter's results. -/
def ledger (carriedOut : Int → Prop) (held : σ → List TradePosition) :
    Prog.Ledger ForexOp ForexOp.Ans Exn σ (List Holding) where
  world s := (held s).map TradePosition.holding
  enter := told
  obscure := misreported carriedOut

/-- A call of the contract that is no order. -/
theorem Account.held_platform (gateway : Mt5Gateway) {o : ForexOp}
    (ho : Prog.Sends orderless (fun _ => True) (gateway.platform o)) (s : σ) :
    held (Prog.run S (gateway.platform o) s).2 = held s :=
  ((Prog.run_iff_wp S _ s).mp (hS.wp_orderless ho rfl)).1

/-- Every result says what its call did to the account, unless it is a misreport. -/
theorem Account.faithful (gateway : Mt5Gateway) :
    (ledger carriedOut held).Faithful (S.implemented gateway.platform) := by
  have hread : ∀ (o : ForexOp) (s : σ), Prog.Sends orderless (fun _ => True) (gateway.platform o) →
      (∀ a book, told o a book = book) →
      (held (Prog.run S (gateway.platform o) s).2).map TradePosition.holding =
        told o (Prog.run S (gateway.platform o) s).1 ((held s).map TradePosition.holding) :=
    fun o s ho htold => by rw [hS.held_platform gateway ho, htold]
  intro o s hclear
  cases o with
  | placeOrder req => exact (Prog.run_iff_wp S _ s).mp (hS.wp_placeOrder gateway req rfl) hclear
  | closePosition pos volume comment =>
      exact (Prog.run_iff_wp S _ s).mp (hS.wp_closePosition gateway pos volume comment rfl) hclear
  | modifySl pos newSl =>
      exact (Prog.run_iff_wp S _ s).mp (hS.wp_modifySl pos newSl rfl) hclear
  | resolveSymbol baseSymbol => exact hread _ s (orderless_resolveSymbol ..) fun _ _ => rfl
  | getSymbolSpec symbol =>
      exact hread (.getSymbolSpec symbol) s
        (orderless_read (fun _ h => nomatch h) fun _ => orderless_pure _) fun _ _ => rfl
  | getTick symbol =>
      exact hread (.getTick symbol) s (orderless_getTick symbol) fun _ _ => rfl
  | getPositions symbol =>
      exact hread (.getPositions symbol) s
        (orderless_read (fun _ h => nomatch h) fun _ => orderless_pure _) fun _ _ => rfl
  | getAccount => exact hread _ s orderless_getAccount fun _ _ => rfl
  | calcMargin symbol side volume price =>
      exact hread _ s (orderless_calcMargin ..) fun _ _ => rfl
  | getPositionRealizedPnl ticket =>
      exact hread (.getPositionRealizedPnl ticket) s
        ((orderless_historyDeals _).bind fun _ _ => orderless_pure _) fun _ _ => rfl

end Faithful

/-! ## The worker over the adapter -/

/-- The terminal's interface, and the worker's other calls. -/
abbrev AdapterOp := TerminalOp ⊕ WorkerOp

abbrev AdapterOp.Ans : AdapterOp → Type := Prog.SumAns TerminalOp.Ans WorkerOp.Ans

/-- The calls the adapter takes over. -/
def taken (gateway : Mt5Gateway) :
    (o : WorkerOp) → Option (Prog TerminalOp TerminalOp.Ans Exn o.Ans)
  | .fx o => some (gateway.platform o)
  | _ => none

/-- The worker's calls, with the platform's by the adapter. -/
def through (gateway : Mt5Gateway) (o : WorkerOp) : Prog AdapterOp AdapterOp.Ans Exn o.Ans :=
  Prog.through (taken gateway) o

section Through

variable {σ : Type} (T : Prog.Server AdapterOp AdapterOp.Ans Exn σ) (gateway : Mt5Gateway) (s : σ)

theorem implemented_platform (o : ForexOp) :
    T.implemented (through gateway) (.fx o) s = Prog.run T.left (gateway.platform o) s :=
  Prog.implemented_of_takes T s rfl

theorem implemented_past {o : WorkerOp} (ho : taken gateway o = none) :
    T.implemented (through gateway) o s = T (.inr o) s :=
  Prog.implemented_of_past T s ho

end Through

/-- The book the worker can keep. -/
def workerLedger {σ : Type} (carriedOut : Int → Prop) (held : σ → List TradePosition) :
    Prog.Ledger WorkerOp WorkerOp.Ans Exn σ (List Holding) where
  world s := (held s).map TradePosition.holding
  enter
    | .fx o, a => told o a
    | _, _ => id
  obscure
    | .fx o, a => misreported carriedOut o a
    | _, _ => False

section Worker

variable {σ : Type} {carriedOut : Int → Prop}
  {T : Prog.Server AdapterOp AdapterOp.Ans Exn σ} {held : σ → List TradePosition}

/-- **The worker's results are the account's book.** Over any program of the worker, a signal, a
reconciliation, a directive or several of these, the positions held in the end are those held at
first with the reported successes entered in order, as long as no result reports a failure under
the code of a request that was carried out. -/
theorem held_eq_book (hT : Account carriedOut T.left held)
    (hothers : ∀ o s, held (T (.inr o) s).2 = held s) (gateway : Mt5Gateway) {α : Type}
    (p : Work α) (s : σ)
    (hclear : ∀ x ∈ Prog.dialogue (T.implemented (through gateway)) p s,
      ¬ (workerLedger carriedOut held).obscure x.1 x.2) :
    (held (Prog.run T (Prog.implement (through gateway) p) s).2).map TradePosition.holding =
      (workerLedger carriedOut held).balance
        (Prog.dialogue (T.implemented (through gateway)) p s)
        ((held s).map TradePosition.holding) := by
  have hfaithful : (workerLedger carriedOut held).Faithful (T.implemented (through gateway)) := by
    refine Prog.Ledger.Faithful.of_through (taken gateway) ?_ ?_ fun o s =>
      congrArg (List.map TradePosition.holding) (hothers o s)
    · intro o q s htaken hclear
      cases o with
      | fx o =>
          obtain rfl := Option.some.inj htaken
          exact hT.faithful gateway o s hclear
      | db o | cx o | host o => cases htaken
    · intro o a book hpast
      cases o with
      | fx o => cases hpast
      | db o | cx o | host o => rfl
  rw [Prog.run_implement]
  exact hfaithful.balances p s hclear

end Worker

/-! ## A simulated terminal -/

/-- The positions of an account, the codes its next orders are answered by, and the number of
the next order; an order beyond the script is done. -/
structure SimTerminal where
  held : List TradePosition
  codes : List Int := []
  next : Nat := 100

/-- `TRADE_RETCODE_DONE` and `TRADE_RETCODE_DONE_PARTIAL`. -/
def SimTerminal.carriedOut (code : Int) : Prop := code = retcodeDone ∨ code = 10010

instance (code : Int) : Decidable (SimTerminal.carriedOut code) :=
  inferInstanceAs (Decidable (_ ∨ _))

def TradeRequest.volume : TradeRequest → ℚ
  | .deal d => d.volume
  | .sltp .. => 0

namespace SimTerminal

def answer (t : SimTerminal) (request : TradeRequest) : OrderSendResult where
  retcode := t.codes.headD retcodeDone
  order := t.next
  price := 2400
  volume := request.volume
  comment := ""

def serve : Prog.Server TerminalOp TerminalOp.Ans Exn SimTerminal
  | .orderSend request, t =>
      (.ok (some (t.answer request)),
       { held :=
          if carriedOut (t.answer request).retcode then settle request (t.answer request) t.held
          else t.held
         codes := t.codes.tail
         next := t.next + 1 })
  | .lastError, t => (.ok { code := 1, description := "Success" }, t)
  | .symbolInfo _, t => (.ok none, t)
  | .symbolInfoTick _, t => (.ok (some { bid := 2400, ask := 2401 }), t)
  | .symbolsGet _, t => (.ok none, t)
  | .symbolSelect _, t => (.ok (), t)
  | .positionsGet symbol, t => (.ok (some (t.held.filter fun p => symbol.all (p.symbol = ·))), t)
  | .historyDealsGet _, t => (.ok none, t)
  | .orderCalcMargin .., t => (.ok none, t)
  | .accountInfo, t => (.ok none, t)
  | .monotonic, t => (.ok 0, t)
  | .sleep _, t => (.ok (), t)
  | .recall _, t => (.ok none, t)
  | .remember .., t => (.ok (), t)

def beside : Prog.Server AdapterOp AdapterOp.Ans Exn SimTerminal
  | .inl o, t => serve o t
  | .inr _, t => (.error (.other "not there"), t)

theorem account : Account carriedOut beside.left SimTerminal.held where
  done := Or.inl rfl
  settled request t r h hout := by
    obtain rfl := Option.some.inj (Except.ok.inj h)
    exact if_pos hout
  refused request t h := if_neg (h _ rfl)
  busy request t r h hbusy hdone := by
    obtain rfl := Option.some.inj (Except.ok.inj h)
    rintro (hcode | hcode)
    · simp [isDone, hcode] at hdone
    · have hquiet : isTradeContextBusy (some (t.answer request)) none =
          (busyRetcodes.contains (t.answer request).retcode || saysBusy "") := rfl
      rw [hquiet, hcode] at hbusy
      exact absurd hbusy (by decide)
  aside o t ho := by
    cases o with
    | orderSend request => exact absurd rfl (ho request)
    | _ => rfl
  sleeps _ _ := rfl

/-- One lot of gold, and a trade context that is busy at first. -/
def busy : SimTerminal where
  held :=
    [{ ticket := 7, magic := 1, type := .buy, volume := 1, priceOpen := 2390, sl := 0, tp := 0,
       symbol := "XAUUSD" }]
  codes := [10024]

def goldLot : PlatformPosition where
  ticket := 7
  magic := 1
  side := .long
  volume := 1
  priceOpen := 2390
  symbol := "XAUUSD"

/-- Half of the lot is closed at the second attempt, and the book has the other half. -/
theorem halfClose_eq_book :
    (SimTerminal.held (Prog.run beside (Prog.implement (through {})
        (platform (.closePosition goldLot (some (1 / 2)) "Close"))) busy).2).map
        TradePosition.holding =
      (workerLedger carriedOut SimTerminal.held).balance
        (Prog.dialogue (beside.implemented (through {}))
          (platform (.closePosition goldLot (some (1 / 2)) "Close")) busy)
        (busy.held.map TradePosition.holding) :=
  held_eq_book account (fun o t => by cases o <;> rfl) {} _ busy fun x hx => by
    obtain rfl := List.mem_singleton.mp hx
    rintro ⟨hfailed, -⟩
    cases hfailed

end SimTerminal

end Mt5

end TradeWorker
