import TradeWorker.Batch
import TradeWorker.World

/-!
# Two simulated brokers

A forex account and an exchange account to run the worker against. Each holds
its live positions and answers the orders it is sent from a script, by their
number: a filled close takes its volume off the position, a refused or failing
one leaves the book alone. Reads tell the truth. Everything that changes no
position answers arbitrarily.
-/

namespace TradeWorker

/-- Items whose key is not removed, among items of distinct keys. -/
theorem filter_key_not_mem {α κ : Type} [DecidableEq α] [BEq κ] [LawfulBEq κ] {key : α → κ}
    {as gone : List α} (hdistinct : (as.map key).Nodup) (hgone : ∀ a ∈ gone, a ∈ as) :
    as.filter (fun a => key a ∉ gone.map key) = as.filter (· ∉ gone) := by
  refine List.filter_congr fun a ha => ?_
  have hinj := List.inj_on_of_nodup_map hdistinct
  have : key a ∈ gone.map key ↔ a ∈ gone := by
    constructor
    · intro h
      obtain ⟨b, hb, hkey⟩ := List.mem_map.mp h
      exact hinj (hgone b hb) ha hkey ▸ hb
    · exact List.mem_map_of_mem
  simp only [this]

/-- A host that lets every signal through and says nothing. -/
def HostOp.quiet : (o : HostOp) → o.Ans
  | .signalsBlocked => false
  | .ensureConnected => true
  | .now => 0
  | .uuidHex => ""
  | .currentFooter => ""
  | .handling _ => ()
  | .notify _ => ()
  | .notifyChannel _ => ()
  | .recordCycle .. => true

/-- One lot of strategy `GOLD`, which trades under magic 7. -/
def goldPosition (ticket : Nat) : PlatformPosition where
  ticket
  magic := 7
  side := .long
  volume := 1
  priceOpen := 2400
  symbol := "XAUUSD"

/-! ## A forex account -/

/-- What a close of `volume` leaves of a position; no volume closes it whole. -/
def PlatformPosition.reduce (p : PlatformPosition) : Option ℚ → Option PlatformPosition
  | none => none
  | some v => if v < p.volume then some { p with volume := p.volume - v } else none

theorem PlatformPosition.reduce_ticket {p q : PlatformPosition} {volume : Option ℚ}
    (h : p.reduce volume = some q) : q.ticket = p.ticket := by
  cases volume with
  | none => cases h
  | some v =>
      unfold PlatformPosition.reduce at h
      dsimp only at h
      split at h
      · cases h
        rfl
      · cases h

/-- The positions of an account, each under its own ticket, and the closes sent
so far. -/
structure ForexBook where
  positions : List PlatformPosition
  sent : Nat := 0
  distinct : (positions.map (·.ticket)).Nodup

def closeTicket (ticket : Nat) (volume : Option ℚ) (positions : List PlatformPosition) :
    List PlatformPosition :=
  positions.filterMap fun p => if p.ticket = ticket then p.reduce volume else some p

theorem closeTicket_tickets (ticket : Nat) (volume : Option ℚ)
    (positions : List PlatformPosition) :
    ((closeTicket ticket volume positions).map (·.ticket)).Sublist
      (positions.map (·.ticket)) := by
  induction positions with
  | nil => exact List.Sublist.refl _
  | cons p ps ih =>
      unfold closeTicket at ih ⊢
      rw [List.filterMap_cons, List.map_cons]
      split
      · exact ih.cons _
      · rename_i q hq
        have hticket : q.ticket = p.ticket := by
          split at hq
          · exact PlatformPosition.reduce_ticket hq
          · cases hq
            rfl
        rw [List.map_cons, hticket]
        exact ih.cons_cons _

theorem closeTicket_none (ticket : Nat) (positions : List PlatformPosition) :
    closeTicket ticket none positions = positions.filter (·.ticket ≠ ticket) := by
  rw [closeTicket, ← List.filterMap_eq_filter]
  congr
  funext p
  by_cases h : p.ticket = ticket <;> simp [PlatformPosition.reduce, Option.guard, h]

namespace ForexBook

/-- The next close, refused. -/
def refuse (book : ForexBook) : ForexBook := { book with sent := book.sent + 1 }

/-- The next close, filled. -/
def fill (book : ForexBook) (ticket : Nat) (volume : Option ℚ) : ForexBook where
  positions := closeTicket ticket volume book.positions
  sent := book.sent + 1
  distinct := (closeTicket_tickets ticket volume book.positions).nodup book.distinct

/-- The next close, answered. -/
def settle (book : ForexBook) (answer : Except Exn TradeResult) (ticket : Nat)
    (volume : Option ℚ) : ForexBook :=
  match answer with
  | .ok r => if r.success then book.fill ticket volume else book.refuse
  | .error _ => book.refuse

@[simp] theorem settle_sent (book : ForexBook) (answer : Except Exn TradeResult)
    (ticket : Nat) (volume : Option ℚ) :
    (book.settle answer ticket volume).sent = book.sent + 1 := by
  unfold settle
  split
  · split <;> rfl
  · rfl

end ForexBook

/-- How an account answers: the names of its symbols, its closes by number, and
the calls no claim on positions depends on. -/
structure ForexAccount where
  resolve : String → String
  close : Nat → Except Exn TradeResult
  other : (o : ForexOp) → Except Exn o.Ans
  host : (o : HostOp) → o.Ans

namespace ForexAccount

variable (acct : ForexAccount)

/-- One platform call. -/
def fx : (o : ForexOp) → ForexBook → Except Exn o.Ans × ForexBook
  | .resolveSymbol s, book => (.ok (acct.resolve s), book)
  | .getPositions none, book => (.ok book.positions, book)
  | .getPositions (some symbol), book =>
      (.ok (book.positions.filter (·.symbol = symbol)), book)
  | .closePosition pos volume _, book =>
      (acct.close book.sent, book.settle (acct.close book.sent) pos.ticket volume)
  | o, book => (acct.other o, book)

/-- The account as a backend; there is no exchange. -/
def backend : Backend ForexBook where
  fx := acct.fx
  cx _ book := (.error (.other "no exchange"), book)
  host o book := (.ok (acct.host o), book)

theorem run_closePosition (w : World ForexBook) (pos : PlatformPosition)
    (volume : Option ℚ) (comment : String) :
    Prog.run acct.backend.serve (platform (.closePosition pos volume comment)) w =
      (acct.close w.rest.sent,
       { w with rest := w.rest.settle (acct.close w.rest.sent) pos.ticket volume }) :=
  run_platform ..

end ForexAccount

/-! ## An exchange account -/

/-- A position's leg: in hedge mode a symbol has one of each side. -/
def ExchangePosition.leg (p : ExchangePosition) : String × Side := (p.symbol, p.side)

/-- What a reduce-only order of `quantity` leaves of a position. -/
def ExchangePosition.reduce (p : ExchangePosition) (quantity : ℚ) :
    Option ExchangePosition :=
  if quantity < p.volume then
    some { p with
      quantity := if p.quantity < 0 then p.quantity + quantity else p.quantity - quantity }
  else none

theorem ExchangePosition.reduce_leg {p q : ExchangePosition} {quantity : ℚ}
    (h : p.reduce quantity = some q) : q.leg = p.leg := by
  unfold ExchangePosition.reduce at h
  split at h
  · cases h
    rfl
  · cases h

theorem ExchangePosition.reduce_volume (p : ExchangePosition) :
    p.reduce p.volume = none := by
  simp [ExchangePosition.reduce]

/-- The positions of an account, one for each leg, the legs with a resting
stop-loss, and the calls of each scripted kind made so far. -/
structure ExchangeBook where
  positions : List ExchangePosition
  stops : List (String × Side) := []
  reads : Nat := 0
  sent : Nat := 0
  cancels : Nat := 0
  stopOrders : Nat := 0
  distinct : (positions.map (·.leg)).Nodup

def reduceLeg (leg : String × Side) (quantity : ℚ) (positions : List ExchangePosition) :
    List ExchangePosition :=
  positions.filterMap fun p => if p.leg = leg then p.reduce quantity else some p

theorem reduceLeg_legs (leg : String × Side) (quantity : ℚ)
    (positions : List ExchangePosition) :
    ((reduceLeg leg quantity positions).map (·.leg)).Sublist (positions.map (·.leg)) := by
  induction positions with
  | nil => exact List.Sublist.refl _
  | cons p ps ih =>
      unfold reduceLeg at ih ⊢
      rw [List.filterMap_cons, List.map_cons]
      split
      · exact ih.cons _
      · rename_i q hq
        have hleg : q.leg = p.leg := by
          split at hq
          · exact ExchangePosition.reduce_leg hq
          · cases hq
            rfl
        rw [List.map_cons, hleg]
        exact ih.cons_cons _

/-- A reduce-only order of a position's whole volume removes it. -/
theorem reduceLeg_volume {positions : List ExchangePosition}
    (hdistinct : (positions.map (·.leg)).Nodup) {p : ExchangePosition}
    (hp : p ∈ positions) :
    reduceLeg p.leg p.volume positions = positions.filter (·.leg ≠ p.leg) := by
  rw [reduceLeg, ← List.filterMap_eq_filter]
  refine List.filterMap_congr fun q hq => ?_
  by_cases h : q.leg = p.leg
  · have hqp : q = p := List.inj_on_of_nodup_map hdistinct hq hp h
    simp [Option.guard, hqp, ExchangePosition.reduce_volume]
  · simp [Option.guard, h]

namespace ExchangeBook

/-- The next market order, refused. -/
def refuse (book : ExchangeBook) : ExchangeBook := { book with sent := book.sent + 1 }

/-- The next market order, filled against a leg. -/
def fill (book : ExchangeBook) (leg : String × Side) (quantity : ℚ) : ExchangeBook :=
  { book with
    positions := reduceLeg leg quantity book.positions
    sent := book.sent + 1
    distinct := (reduceLeg_legs leg quantity book.positions).nodup book.distinct }

/-- The next market order, answered; only a reduce-only one changes a leg. -/
def settle (book : ExchangeBook) (answer : Except Exn TradeResult)
    (leg : String × Side) (quantity : ℚ) (reduceOnly : Bool) : ExchangeBook :=
  match answer with
  | .ok r => if r.success ∧ reduceOnly then book.fill leg quantity else book.refuse
  | .error _ => book.refuse

/-- The next cancellation, answered: no stop rests on the symbol once it is done. -/
def clear (book : ExchangeBook) (answer : Except Exn Unit) (symbol : String) :
    ExchangeBook :=
  { book with
    stops := if answer.isOk then book.stops.filter (·.1 ≠ symbol) else book.stops
    cancels := book.cancels + 1 }

/-- The next stop order, answered. -/
def protect (book : ExchangeBook) (answer : Except Exn TradeResult)
    (leg : String × Side) : ExchangeBook :=
  { book with
    stops :=
      match answer with
      | .ok r => if r.success then leg :: book.stops else book.stops
      | .error _ => book.stops
    stopOrders := book.stopOrders + 1 }

def look (book : ExchangeBook) : ExchangeBook := { book with reads := book.reads + 1 }

@[simp] theorem settle_sent (book : ExchangeBook) (answer : Except Exn TradeResult)
    (leg : String × Side) (quantity : ℚ) (reduceOnly : Bool) :
    (book.settle answer leg quantity reduceOnly).sent = book.sent + 1 := by
  unfold settle
  split
  · split <;> rfl
  · rfl

@[simp] theorem settle_cancels (book : ExchangeBook) (answer : Except Exn TradeResult)
    (leg : String × Side) (quantity : ℚ) (reduceOnly : Bool) :
    (book.settle answer leg quantity reduceOnly).cancels = book.cancels := by
  unfold settle
  split
  · split <;> rfl
  · rfl

@[simp] theorem settle_stops (book : ExchangeBook) (answer : Except Exn TradeResult)
    (leg : String × Side) (quantity : ℚ) (reduceOnly : Bool) :
    (book.settle answer leg quantity reduceOnly).stops = book.stops := by
  unfold settle
  split
  · split <;> rfl
  · rfl

end ExchangeBook

/-- How an exchange answers: position reads fail or tell the truth, market
orders, cancellations and stop orders go by their number. An order's answer never
says the position is unprotected: the worker alone does. -/
structure ExchangeAccount where
  read : Nat → Option Exn
  order : Nat → Except Exn TradeResult
  cancel : Nat → Except Exn Unit
  stopLoss : Nat → Except Exn TradeResult
  other : (o : CryptoOp) → Except Exn o.Ans
  host : (o : HostOp) → o.Ans
  unflagged : ∀ n r, order n = .ok r → ¬ r.Flagged

namespace ExchangeAccount

variable (acct : ExchangeAccount)

/-- One exchange call. An order that is not reduce-only opens or adds, which no
close or stop move does. -/
def cx : (o : CryptoOp) → ExchangeBook → Except Exn o.Ans × ExchangeBook
  | .getPositions symbol, book =>
      (match acct.read book.reads with
        | some e => .error e
        | none => .ok (book.positions.filter fun p => symbol.all (p.symbol = ·)),
       book.look)
  | .placeMarketOrder symbol side quantity reduceOnly _, book =>
      (acct.order book.sent,
       book.settle (acct.order book.sent) (symbol, side) quantity reduceOnly)
  | .cancelAllOrders symbol, book =>
      (acct.cancel book.cancels, book.clear (acct.cancel book.cancels) symbol)
  | .setStopLoss symbol side _ _, book =>
      (acct.stopLoss book.stopOrders,
       book.protect (acct.stopLoss book.stopOrders) (symbol, side))
  | o, book => (acct.other o, book)

/-- The account as a backend; there is no platform. -/
def backend : Backend ExchangeBook where
  fx _ book := (.error (.other "no platform"), book)
  cx := acct.cx
  host o book := (.ok (acct.host o), book)

section Runs

variable (w : World ExchangeBook)

theorem run_getPositions (symbol : String) :
    Prog.run acct.backend.serve (exchange (.getPositions (some symbol))) w =
      (match acct.read w.rest.reads with
        | some e => .error e
        | none => .ok (w.rest.positions.filter (·.symbol = symbol)),
       { w with rest := w.rest.look }) :=
  (run_exchange ..).trans (by simp only [backend, cx, Option.all_some])

theorem run_placeMarketOrder (symbol : String) (side : Side) (quantity : ℚ)
    (reduceOnly : Bool) (orderId : String) :
    Prog.run acct.backend.serve
      (exchange (.placeMarketOrder symbol side quantity reduceOnly orderId)) w =
      (acct.order w.rest.sent,
       { w with rest :=
          w.rest.settle (acct.order w.rest.sent) (symbol, side) quantity reduceOnly }) :=
  run_exchange ..

theorem run_cancelAllOrders (symbol : String) :
    Prog.run acct.backend.serve (exchange (.cancelAllOrders symbol)) w =
      (acct.cancel w.rest.cancels,
       { w with rest := w.rest.clear (acct.cancel w.rest.cancels) symbol }) :=
  run_exchange ..

theorem run_setStopLoss (symbol : String) (side : Side) (price quantity : ℚ) :
    Prog.run acct.backend.serve (exchange (.setStopLoss symbol side price quantity)) w =
      (acct.stopLoss w.rest.stopOrders,
       { w with rest :=
          w.rest.protect (acct.stopLoss w.rest.stopOrders) (symbol, side) }) :=
  run_exchange ..

end Runs

end ExchangeAccount

end TradeWorker
