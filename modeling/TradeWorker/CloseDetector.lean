import Mathlib.Data.Finset.Sort
import Mathlib.Data.List.MinMax
import Mathlib.Data.Prod.Lex
import TradeWorker.Domain

/-!
# The close detector

`scan_terminal_closed_positions` compares the positions the terminal holds now
with the tickets it held at the scan before, and asks the deal history of every
ticket that went missing who closed it. `MT5EventJob` calls it at every turn of
its loop, with the magics the worker owns at that moment.
-/

namespace TradeWorker

namespace CloseDetector

/-! ## What the terminal answers -/

inductive DealEntry where
  | entryIn | entryOut | entryInOut | entryOutBy
  deriving DecidableEq, Repr

/-- The fields of a deal the detector reads. A money field the terminal omits
or cannot express is `none`. -/
structure Deal where
  ticket : Nat
  entry : DealEntry
  reason : Int
  time : Int
  price : ℚ
  volume : ℚ
  symbol : String
  profit : Option ℚ := none
  commission : Option ℚ := none
  swap : Option ℚ := none
  fee : Option ℚ := none
  deriving DecidableEq

/-- The fields of a history order the detector reads. -/
structure HistoryOrder where
  type : Int
  sl : ℚ
  tp : ℚ
  deriving DecidableEq

/-- The fields of a live position the detector reads. -/
structure TerminalPosition where
  ticket : Nat
  magic : Int
  deriving DecidableEq

/-- What the terminal answers during one scan; a history read and the account
read that follows it are named by the ticket they are made for. `iterate` is
the order in which a set of tickets is gone through. -/
structure Terminal where
  positionsGet : Except Exn (Option (List TerminalPosition))
  historyDealsGet : Nat → Except Exn (Option (List Deal))
  historyOrdersGet : Nat → Except Exn (Option (List HistoryOrder))
  accountInfo : Nat → Except Exn (Option AccountSnapshot)
  iterate : Finset Nat → List Nat
  iterate_nodup : ∀ s, (iterate s).Nodup
  mem_iterate : ∀ s t, t ∈ iterate s ↔ t ∈ s

/-! ## The closing deal -/

/-- `_REASON_MAP`: client, mobile and web are manual, expert is ours. -/
def reasonMap : Int → Option TerminalCloseReason
  | 0 | 1 | 2 => some .manual
  | 4 => some .sl
  | 5 => some .tp
  | 6 => some .stopOut
  | _ => none

/-- `d.entry in _CLOSING_ENTRIES`. -/
def Deal.closing (d : Deal) : Bool := d.entry = .entryOut ∨ d.entry = .entryOutBy

/-- Deals are ordered by time first; stated so that the order computes. -/
instance dealOrder : Preorder (ℤ ×ₗ ℕ) :=
  (@Prod.Lex.instLinearOrder ℤ ℕ Int.instLinearOrder Nat.instLinearOrder).toPreorder

/-- The newest closing deal: the latest, and the greatest ticket of a second. -/
def closingDeal (deals : List Deal) : Option Deal :=
  (deals.filter Deal.closing).argmax fun d => toLex (d.time, d.ticket)

/-- The deal was not made by the worker's own `order_send`. -/
def Deal.TerminalInitiated (d : Deal) : Prop := (reasonMap d.reason).isSome

instance (d : Deal) : Decidable d.TerminalInitiated :=
  inferInstanceAs (Decidable ((reasonMap d.reason).isSome = true))

def dealRealizedPnl (d : Deal) : ℚ :=
  ([d.profit, d.commission, d.swap, d.fee].filterMap id).sum

/-! ## Events -/

/-- The order the position was opened with: `ORDER_TYPE_BUY` or `_SELL`. -/
def openingOrder (orders : Option (List HistoryOrder)) : Option HistoryOrder :=
  (orders.getD []).find? fun o => o.type = 0 ∨ o.type = 1

/-- The event `_build_event` returns once it knows why the position closed. -/
def closedEvent (positionTicket : Nat) (deals : List Deal) (closing : Deal)
    (reason : TerminalCloseReason) (orders : Option (List HistoryOrder))
    (account : Option AccountSnapshot) : TerminalClosedEvent :=
  let openingDeal := deals.find? fun d => d.entry = .entryIn
  { sourceTicket := ticketText positionTicket
    dealTicket := ticketText closing.ticket
    symbol := closing.symbol
    closeReason := reason
    dealReason := closing.reason
    closePrice := closing.price
    closeVolume := closing.volume
    closeTime := closing.time
    entryPrice := (openingDeal.map (·.price)).getD 0
    sl := (openingOrder orders).map (·.sl)
    tp := (openingOrder orders).map (·.tp)
    account := account
    profit := some (dealRealizedPnl closing) }

def buildEvent (mt5 : Terminal) (positionTicket : Nat) :
    Except Exn (Option TerminalClosedEvent) := do
  let deals := (← mt5.historyDealsGet positionTicket).getD []
  match closingDeal deals with
  | none => pure none
  | some closing =>
      match reasonMap closing.reason with
      | none => pure none
      | some reason => do
          let orders ← mt5.historyOrdersGet positionTicket
          let account ← mt5.accountInfo positionTicket
          pure (some (closedEvent positionTicket deals closing reason orders account))

/-- The loop over the tickets that went missing. -/
def buildEvents (mt5 : Terminal) : List Nat → Except Exn (List TerminalClosedEvent)
  | [] => pure []
  | ticket :: rest => do
      let event ← buildEvent mt5 ticket
      let events ← buildEvents mt5 rest
      pure (event.toList ++ events)

/-! ## Scans and polls -/

def currentTickets (magics : Finset Int) (positions : List TerminalPosition) :
    Finset Nat :=
  ((positions.filter fun p => p.magic ∈ magics).map (·.ticket)).toFinset

/-- `scan_terminal_closed_positions`: what it returns or raises, and the tickets
it leaves seen. -/
def scanTerminalClosedPositions (magics : Finset Int) (mt5 : Terminal)
    (seen : Finset Nat) : Except Exn (List TerminalClosedEvent) × Finset Nat :=
  match mt5.positionsGet with
  | .error e => (.error e, seen)
  | .ok none => (.ok [], seen)
  | .ok (some positions) =>
      let current := currentTickets magics positions
      match buildEvents mt5 (mt5.iterate (seen \ current)) with
      | .error e => (.error e, seen)
      | .ok events => (.ok events, current)

/-- One turn of `MT5EventJob._run`: whether the platform is ready, the magics
owned at that moment, and the terminal's answers. -/
structure Poll where
  platformReady : Bool := true
  currentMagics : Except Exn (Finset Int)
  mt5 : Terminal

/-- The events a turn hands to `_handle`, and the tickets it leaves seen. A scan
that raises yields none. -/
def Poll.run (p : Poll) (seen : Finset Nat) : List TerminalClosedEvent × Finset Nat :=
  if p.platformReady then
    match p.currentMagics with
    | .error _ => ([], seen)
    | .ok magics =>
        match scanTerminalClosedPositions magics p.mt5 seen with
        | (.error _, seen') => ([], seen')
        | (.ok events, seen') => (events, seen')
  else ([], seen)

/-- The tickets seen after a number of turns. -/
def seenAfter (seen : Finset Nat) : List Poll → Finset Nat
  | [] => seen
  | p :: rest => seenAfter (p.run seen).2 rest

/-- Every event handed out in a number of turns. -/
def eventsOf (seen : Finset Nat) : List Poll → List TerminalClosedEvent
  | [] => []
  | p :: rest => (p.run seen).1 ++ eventsOf (p.run seen).2 rest

theorem seenAfter_append {seen : Finset Nat} {before after : List Poll} :
    seenAfter seen (before ++ after) = seenAfter (seenAfter seen before) after := by
  induction before generalizing seen with
  | nil => rfl
  | cons p rest ih => exact ih

theorem eventsOf_append {seen : Finset Nat} {before after : List Poll} :
    eventsOf seen (before ++ after) =
      eventsOf seen before ++ eventsOf (seenAfter seen before) after := by
  induction before generalizing seen with
  | nil => rfl
  | cons p rest ih =>
      rw [List.cons_append, eventsOf, ih, eventsOf, seenAfter, List.append_assoc]

theorem mem_eventsOf {seen : Finset Nat} {polls : List Poll} {e : TerminalClosedEvent} :
    e ∈ eventsOf seen polls ↔ ∃ before p after, polls = before ++ p :: after ∧
      e ∈ (p.run (seenAfter seen before)).1 := by
  constructor
  · intro he
    induction polls generalizing seen with
    | nil => cases he
    | cons p rest ih =>
        rcases List.mem_append.mp he with hp | hrest
        · exact ⟨[], p, rest, rfl, hp⟩
        · obtain ⟨before, q, after, rfl, hq⟩ := ih hrest
          exact ⟨p :: before, q, after, rfl, hq⟩
  · rintro ⟨before, p, after, rfl, he⟩
    rw [eventsOf_append]
    exact List.mem_append_right _ (List.mem_append_left _ he)

/-! ## What one event says -/

theorem ticketText_injective : Function.Injective ticketText := by
  intro a b h
  have hdigits := congrArg String.toList h
  simp only [ticketText, Nat.toString_eq_repr, Nat.toList_repr] at hdigits
  simpa using congrArg (Nat.ofDigitChars 10 · 0) hdigits

def Terminal.deals (mt5 : Terminal) (ticket : Nat) : List Deal :=
  match mt5.historyDealsGet ticket with
  | .ok deals => deals.getD []
  | .error _ => []

def Terminal.lastClosing (mt5 : Terminal) (ticket : Nat) : Option Deal :=
  closingDeal (mt5.deals ticket)

/-- As far as the terminal shows, the position was closed by the terminal. -/
def Terminal.ClosedItself (mt5 : Terminal) (ticket : Nat) : Prop :=
  ∃ d, mt5.lastClosing ticket = some d ∧ d.TerminalInitiated

/-- The reads made for a position that went missing all answer. -/
def Terminal.Answers (mt5 : Terminal) (ticket : Nat) : Prop :=
  (∃ deals, mt5.historyDealsGet ticket = .ok deals) ∧
    (mt5.ClosedItself ticket →
      (∃ orders, mt5.historyOrdersGet ticket = .ok orders) ∧
        ∃ account, mt5.accountInfo ticket = .ok account)

/-- The event is about the position and its newest closing deal. -/
structure TerminalClosedEvent.Reports (e : TerminalClosedEvent) (ticket : Nat) (d : Deal) :
    Prop where
  sourceTicket : e.sourceTicket = ticketText ticket
  dealTicket : e.dealTicket = ticketText d.ticket
  closeReason : reasonMap d.reason = some e.closeReason
  dealReason : e.dealReason = d.reason
  close : e.closePrice = d.price ∧ e.closeVolume = d.volume ∧ e.closeTime = d.time
  profit : e.profit = some (dealRealizedPnl d)

theorem closingDeal_mem {deals : List Deal} {d : Deal} (h : closingDeal deals = some d) :
    d ∈ deals ∧ d.closing :=
  List.mem_filter.mp (List.argmax_mem h)

theorem le_closingDeal {deals : List Deal} {c d : Deal} (h : closingDeal deals = some c)
    (hd : d ∈ deals) (hclosing : d.closing) :
    toLex (d.time, d.ticket) ≤ toLex (c.time, c.ticket) :=
  List.le_of_mem_argmax (f := fun d : Deal => toLex (d.time, d.ticket))
    (List.mem_filter.mpr ⟨hd, hclosing⟩) h

theorem closedEvent_reports {ticket : Nat} {deals : List Deal} {d : Deal}
    {reason : TerminalCloseReason} {orders : Option (List HistoryOrder)}
    {account : Option AccountSnapshot} (h : reasonMap d.reason = some reason) :
    (closedEvent ticket deals d reason orders account).Reports ticket d where
  sourceTicket := rfl
  dealTicket := rfl
  closeReason := h
  dealReason := rfl
  close := ⟨rfl, rfl, rfl⟩
  profit := rfl

/-- When the reads answer, an event is built exactly for a position the terminal
closed, and it is about that close. -/
theorem buildEvent_of_answers {mt5 : Terminal} {ticket : Nat} (h : mt5.Answers ticket) :
    ∃ event, buildEvent mt5 ticket = .ok event ∧
      (event = none → ¬ mt5.ClosedItself ticket) ∧
      ∀ e, event = some e → ∃ d, mt5.lastClosing ticket = some d ∧
        d.TerminalInitiated ∧ e.Reports ticket d := by
  obtain ⟨⟨deals, hdeals⟩, hrest⟩ := h
  have hshown : mt5.deals ticket = deals.getD [] := by simp [Terminal.deals, hdeals]
  have hlast : mt5.lastClosing ticket = closingDeal (deals.getD []) := by
    rw [Terminal.lastClosing, hshown]
  simp only [buildEvent, hdeals]
  cases hclosing : closingDeal (deals.getD []) with
  | none =>
      refine ⟨none, by simp [bind, Except.bind, hclosing, pure, Except.pure], ?_, by simp⟩
      rintro - ⟨d, hd, -⟩
      rw [hlast, hclosing] at hd
      cases hd
  | some d =>
      rw [hclosing] at hlast
      cases hreason : reasonMap d.reason with
      | none =>
          refine ⟨none, by simp [bind, Except.bind, hclosing, hreason, pure, Except.pure], ?_,
            by simp⟩
          rintro - ⟨d', hd', hterminal⟩
          cases hlast.symm.trans hd'
          simp [Deal.TerminalInitiated, hreason] at hterminal
      | some reason =>
          have hterminal : d.TerminalInitiated := by simp [Deal.TerminalInitiated, hreason]
          obtain ⟨⟨orders, horders⟩, account, haccount⟩ := hrest ⟨d, hlast, hterminal⟩
          refine ⟨some (closedEvent ticket (deals.getD []) d reason orders account),
            by simp [bind, Except.bind, hclosing, hreason, horders, haccount, pure, Except.pure],
            by simp, ?_⟩
          rintro e ⟨⟩
          exact ⟨d, hlast, hterminal, closedEvent_reports hreason⟩

theorem answers_of_buildEvent {mt5 : Terminal} {ticket : Nat}
    {event : Option TerminalClosedEvent} (h : buildEvent mt5 ticket = .ok event) :
    mt5.Answers ticket := by
  unfold buildEvent at h
  cases hdeals : mt5.historyDealsGet ticket with
  | error e => simp [hdeals, bind, Except.bind] at h
  | ok deals =>
      refine ⟨⟨deals, hdeals⟩, ?_⟩
      rintro ⟨d, hd, hterminal⟩
      simp only [Terminal.lastClosing, Terminal.deals, hdeals] at hd
      obtain ⟨reason, hreason⟩ := Option.isSome_iff_exists.mp hterminal
      cases horders : mt5.historyOrdersGet ticket with
      | error e => simp [hdeals, hd, hreason, horders, bind, Except.bind] at h
      | ok orders =>
          cases haccount : mt5.accountInfo ticket with
          | error e => simp [hdeals, hd, hreason, horders, haccount, bind, Except.bind] at h
          | ok account => exact ⟨⟨orders, rfl⟩, account, rfl⟩

/-- The loop comes to its end exactly when every read answers; its events are
those of its tickets. -/
theorem buildEvents_of_answers {mt5 : Terminal} {tickets : List Nat}
    (h : ∀ t ∈ tickets, mt5.Answers t) :
    ∃ events, buildEvents mt5 tickets = .ok events ∧
      (∀ t ∈ tickets, mt5.ClosedItself t → ∃ e ∈ events, ∃ d,
        mt5.lastClosing t = some d ∧ e.Reports t d) ∧
      (∀ e ∈ events, ∃ t ∈ tickets, ∃ d, mt5.lastClosing t = some d ∧
        d.TerminalInitiated ∧ e.Reports t d) ∧
      (events.map (·.sourceTicket)).Sublist (tickets.map ticketText) := by
  induction tickets with
  | nil => exact ⟨[], rfl, by simp, by simp, List.Sublist.refl _⟩
  | cons t rest ih =>
      obtain ⟨event, hbuild, hnone, hsome⟩ := buildEvent_of_answers (h t (by simp))
      obtain ⟨events, hrest, hmissed, hfrom, hsub⟩ :=
        ih fun t' ht' => h t' (List.mem_cons_of_mem t ht')
      refine ⟨event.toList ++ events, ?_, ?_, ?_, ?_⟩
      · simp [buildEvents, hbuild, hrest, bind, Except.bind, pure, Except.pure]
      · intro t' ht' hclosed
        rcases List.mem_cons.mp ht' with rfl | ht'
        · cases event with
          | none => exact absurd hclosed (hnone rfl)
          | some e =>
              obtain ⟨d, hd, -, hreports⟩ := hsome e rfl
              exact ⟨e, by simp, d, hd, hreports⟩
        · obtain ⟨e, he, hreports⟩ := hmissed t' ht' hclosed
          exact ⟨e, List.mem_append_right _ he, hreports⟩
      · intro e he
        rcases List.mem_append.mp he with he | he
        · exact ⟨t, by simp, hsome e (Option.mem_toList.mp he)⟩
        · obtain ⟨t', ht', hreports⟩ := hfrom e he
          exact ⟨t', List.mem_cons_of_mem t ht', hreports⟩
      · cases event with
        | none => exact hsub.cons _
        | some e =>
            obtain ⟨d, -, -, hreports⟩ := hsome e rfl
            simpa [hreports.sourceTicket] using hsub.cons_cons (ticketText t)

theorem answers_of_buildEvents {mt5 : Terminal} {tickets : List Nat}
    {events : List TerminalClosedEvent} (h : buildEvents mt5 tickets = .ok events) :
    ∀ t ∈ tickets, mt5.Answers t := by
  induction tickets generalizing events with
  | nil => simp
  | cons t rest ih =>
      cases hbuild : buildEvent mt5 t with
      | error e => simp [buildEvents, hbuild, bind, Except.bind] at h
      | ok event =>
          cases hrest : buildEvents mt5 rest with
          | error e => simp [buildEvents, hbuild, hrest, bind, Except.bind] at h
          | ok events' =>
              intro t' ht'
              rcases List.mem_cons.mp ht' with rfl | ht'
              · exact answers_of_buildEvent hbuild
              · exact ih hrest t' ht'

/-! ## What one poll does -/

def Poll.live (p : Poll) : List TerminalPosition :=
  match p.mt5.positionsGet with
  | .ok (some positions) => positions
  | _ => []

/-- The owned tickets a scan goes by, if it gets as far as comparing. -/
def Poll.owned (p : Poll) : Option (Finset Nat) :=
  match p.platformReady, p.currentMagics, p.mt5.positionsGet with
  | true, .ok magics, .ok (some positions) => some (currentTickets magics positions)
  | _, _, _ => none

/-- The tickets that went missing. -/
def Poll.missing (p : Poll) (seen : Finset Nat) : Finset Nat :=
  match p.owned with
  | some current => seen \ current
  | none => ∅

/-- Every read made for a missing ticket answers. -/
def Poll.Answered (p : Poll) (seen : Finset Nat) : Prop :=
  ∀ t ∈ p.missing seen, p.mt5.Answers t

theorem Poll.run_of_owned_none {p : Poll} {seen : Finset Nat} (h : p.owned = none) :
    p.run seen = ([], seen) := by
  unfold Poll.owned at h
  unfold Poll.run scanTerminalClosedPositions
  cases hready : p.platformReady with
  | false => rfl
  | true =>
      cases hmagics : p.currentMagics with
      | error e => rfl
      | ok magics =>
          rcases hpos : p.mt5.positionsGet with e | (_ | positions)
          · rfl
          · rfl
          · simp [hready, hmagics, hpos] at h

theorem Poll.run_of_owned {p : Poll} {seen current : Finset Nat} (h : p.owned = some current) :
    p.run seen = match buildEvents p.mt5 (p.mt5.iterate (seen \ current)) with
      | .error _ => ([], seen)
      | .ok events => (events, current) := by
  unfold Poll.owned at h
  split at h
  · rename_i magics positions hready hmagics hpos
    cases h
    simp only [Poll.run, hready, hmagics, scanTerminalClosedPositions, hpos, if_true]
    cases buildEvents p.mt5 (p.mt5.iterate (seen \ currentTickets magics positions)) <;> rfl
  · cases h

/-- A poll either changes nothing, or it forgets the missing tickets, with an
event for each of them that the terminal closed and no other. -/
theorem Poll.run_cases (p : Poll) (seen : Finset Nat) :
    (p.run seen = ([], seen) ∧ ¬ (p.Answered seen ∧ (p.missing seen).Nonempty)) ∨
    (p.Answered seen ∧ (∀ t ∈ seen, t ∉ (p.run seen).2 ↔ t ∈ p.missing seen) ∧
      (∀ t ∈ p.missing seen, p.mt5.ClosedItself t → ∃ e ∈ (p.run seen).1, ∃ d,
        p.mt5.lastClosing t = some d ∧ e.Reports t d) ∧
      (∀ e ∈ (p.run seen).1, ∃ t ∈ p.missing seen, ∃ d, p.mt5.lastClosing t = some d ∧
        d.TerminalInitiated ∧ e.Reports t d) ∧
      ((p.run seen).1.map (·.sourceTicket)).Nodup) := by
  cases howned : p.owned with
  | none =>
      left
      refine ⟨Poll.run_of_owned_none howned, ?_⟩
      simp [Poll.missing, howned]
  | some current =>
      have hmissing : p.missing seen = seen \ current := by simp [Poll.missing, howned]
      have hiter : ∀ t, t ∈ p.mt5.iterate (seen \ current) ↔ t ∈ p.missing seen := by
        intro t
        rw [hmissing]
        exact p.mt5.mem_iterate _ t
      by_cases hanswered : p.Answered seen
      · right
        have hiterated : ∀ t ∈ p.mt5.iterate (seen \ current), p.mt5.Answers t :=
          fun t ht => hanswered t ((hiter t).mp ht)
        obtain ⟨events, hbuild, hclosed, hfrom, hsub⟩ := buildEvents_of_answers hiterated
        have hrun : p.run seen = (events, current) := by
          rw [Poll.run_of_owned howned, hbuild]
        rw [hrun]
        refine ⟨hanswered, ?_, ?_, ?_, ?_⟩
        · intro t ht
          simp [hmissing, ht]
        · exact fun t ht => hclosed t ((hiter t).mpr ht)
        · intro e he
          obtain ⟨t, ht, hreports⟩ := hfrom e he
          exact ⟨t, (hiter t).mp ht, hreports⟩
        · exact hsub.nodup ((p.mt5.iterate_nodup _).map ticketText_injective)
      · left
        refine ⟨?_, fun h => hanswered h.1⟩
        rw [Poll.run_of_owned howned]
        cases hbuild : buildEvents p.mt5 (p.mt5.iterate (seen \ current)) with
        | error e => rfl
        | ok events =>
            refine absurd ?_ hanswered
            intro t ht
            exact answers_of_buildEvents hbuild t ((hiter t).mpr ht)

/-- The poll forgets a ticket: its scan got through, and the ticket is missing. -/
theorem Poll.forgets_iff {p : Poll} {seen : Finset Nat} {t : Nat} :
    t ∈ seen ∧ t ∉ (p.run seen).2 ↔ p.Answered seen ∧ t ∈ p.missing seen := by
  have hsub : p.missing seen ⊆ seen := by
    unfold Poll.missing
    split
    · exact Finset.sdiff_subset
    · exact Finset.empty_subset _
  rcases p.run_cases seen with ⟨hrun, hno⟩ | ⟨hanswered, hforgets, -⟩
  · rw [hrun]
    constructor
    · rintro ⟨ht, hnot⟩
      exact absurd ht hnot
    · rintro ⟨hanswered, ht⟩
      exact absurd ⟨hanswered, t, ht⟩ hno
  · constructor
    · rintro ⟨ht, hnot⟩
      exact ⟨hanswered, (hforgets t ht).mp hnot⟩
    · rintro ⟨-, ht⟩
      exact ⟨hsub ht, (hforgets t (hsub ht)).mpr ht⟩

/-- An event is about a missing ticket the terminal closed. -/
theorem Poll.event_reports {p : Poll} {seen : Finset Nat} {e : TerminalClosedEvent}
    (h : e ∈ (p.run seen).1) :
    p.Answered seen ∧ ∃ t ∈ p.missing seen, ∃ d, p.mt5.lastClosing t = some d ∧
      d.TerminalInitiated ∧ e.Reports t d := by
  rcases p.run_cases seen with ⟨hrun, -⟩ | ⟨hanswered, -, -, hfrom, -⟩
  · rw [hrun] at h
    cases h
  · exact ⟨hanswered, hfrom e h⟩

/-- A missing ticket the terminal closed gets its event. -/
theorem Poll.reports_missing {p : Poll} {seen : Finset Nat} {t : Nat} {d : Deal}
    (hanswered : p.Answered seen) (ht : t ∈ p.missing seen)
    (hd : p.mt5.lastClosing t = some d) (hterminal : d.TerminalInitiated) :
    ∃ e ∈ (p.run seen).1, e.Reports t d := by
  rcases p.run_cases seen with ⟨-, hno⟩ | ⟨-, -, hclosed, -⟩
  · exact absurd ⟨hanswered, t, ht⟩ hno
  · obtain ⟨e, he, d', hd', hreports⟩ := hclosed t ht ⟨d, hd, hterminal⟩
    cases hd.symm.trans hd'
    exact ⟨e, he, hreports⟩

theorem Poll.events_nodup (p : Poll) (seen : Finset Nat) :
    ((p.run seen).1.map (·.sourceTicket)).Nodup := by
  rcases p.run_cases seen with ⟨hrun, -⟩ | ⟨-, -, -, -, hnodup⟩
  · rw [hrun]
    exact List.nodup_nil
  · exact hnodup

/-- A ticket becomes seen only at a scan whose snapshot shows it. -/
theorem Poll.live_of_seen {p : Poll} {seen : Finset Nat} {t : Nat}
    (h : t ∈ (p.run seen).2) (hnew : t ∉ seen) : ∃ pos ∈ p.live, pos.ticket = t := by
  cases howned : p.owned with
  | none =>
      rw [Poll.run_of_owned_none howned] at h
      exact absurd h hnew
  | some current =>
      have ht : t ∈ current := by
        rw [Poll.run_of_owned howned] at h
        split at h
        · exact absurd h hnew
        · exact h
      unfold Poll.owned at howned
      split at howned
      · rename_i magics positions hready hmagics hpos
        cases howned
        obtain ⟨pos, hmem, rfl⟩ := List.mem_map.mp (List.mem_toFinset.mp ht)
        refine ⟨pos, ?_, rfl⟩
        simpa [Poll.live, hpos] using (List.mem_filter.mp hmem).1
      · cases howned

theorem live_of_mem_seenAfter {seen : Finset Nat} {polls : List Poll} {t : Nat}
    (h : t ∈ seenAfter seen polls) (hnew : t ∉ seen) :
    ∃ p ∈ polls, ∃ pos ∈ p.live, pos.ticket = t := by
  induction polls generalizing seen with
  | nil => exact absurd h hnew
  | cons p rest ih =>
      by_cases hp : t ∈ (p.run seen).2
      · obtain ⟨pos, hpos, ht⟩ := Poll.live_of_seen hp hnew
        exact ⟨p, by simp, pos, hpos, ht⟩
      · obtain ⟨q, hq, hlive⟩ := ih h hp
        exact ⟨q, List.mem_cons_of_mem p hq, hlive⟩

/-! ## Events and live positions -/

/-- No event is about a position of the snapshot it was taken with, and no two
are about one disappearance: between them a snapshot shows the position. -/
structure EmitsSoundly (seen : Finset Nat) (polls : List Poll) : Prop where
  neverLive : ∀ before p after, polls = before ++ p :: after →
    ∀ e ∈ (p.run (seenAfter seen before)).1, ∀ pos ∈ p.live,
      e.sourceTicket ≠ ticketText pos.ticket
  onceAtATime : ∀ before p after, polls = before ++ p :: after →
    ((p.run (seenAfter seen before)).1.map (·.sourceTicket)).Nodup
  oncePerDisappearance : ∀ before p between q after,
    polls = before ++ p :: (between ++ q :: after) →
    ∀ e ∈ (p.run (seenAfter seen before)).1,
    ∀ e' ∈ (q.run (seenAfter seen (before ++ p :: between))).1,
      e.sourceTicket = e'.sourceTicket →
      ∃ r ∈ between, ∃ pos ∈ r.live, ticketText pos.ticket = e.sourceTicket

/-- A seen ticket is live under a magic that is not owned any more, and the
terminal has taken volume out of it last. -/
def Poll.DropsLive (p : Poll) (seen : Finset Nat) : Prop :=
  p.Answered seen ∧ ∃ t ∈ p.missing seen, (∃ pos ∈ p.live, pos.ticket = t) ∧
    p.mt5.ClosedItself t

theorem oncePerDisappearance {seen : Finset Nat} {p q : Poll} {between : List Poll}
    {e e' : TerminalClosedEvent} (he : e ∈ (p.run seen).1)
    (he' : e' ∈ (q.run (seenAfter seen (p :: between))).1)
    (heq : e.sourceTicket = e'.sourceTicket) :
    ∃ r ∈ between, ∃ pos ∈ r.live, ticketText pos.ticket = e.sourceTicket := by
  obtain ⟨hanswered, t, ht, d, -, -, hreports⟩ := Poll.event_reports he
  obtain ⟨hanswered', t', ht', d', -, -, hreports'⟩ := Poll.event_reports he'
  have htt : t' = t := by
    apply ticketText_injective
    rw [← hreports.sourceTicket, ← hreports'.sourceTicket, heq]
  subst htt
  -- the first event's scan forgot the ticket, the second's had seen it again
  have hforgot : t' ∉ (p.run seen).2 := (Poll.forgets_iff.mpr ⟨hanswered, ht⟩).2
  have hseen : t' ∈ seenAfter (p.run seen).2 between :=
    (Poll.forgets_iff.mpr ⟨hanswered', ht'⟩).1
  obtain ⟨r, hr, pos, hpos, hticket⟩ := live_of_mem_seenAfter hseen hforgot
  exact ⟨r, hr, pos, hpos, by rw [hticket, hreports.sourceTicket]⟩

/-- The detector emits soundly exactly when no scan drops a live position on
which the terminal has booked the newest close. -/
theorem emitsSoundly_iff (seen : Finset Nat) (polls : List Poll) :
    EmitsSoundly seen polls ↔ ∀ before p after, polls = before ++ p :: after →
      ¬ p.DropsLive (seenAfter seen before) := by
  constructor
  · rintro h before p after hsplit ⟨hanswered, t, ht, ⟨pos, hpos, hticket⟩, d, hd, hterminal⟩
    obtain ⟨e, he, hreports⟩ := Poll.reports_missing hanswered ht hd hterminal
    refine h.neverLive before p after hsplit e he pos hpos ?_
    rw [hreports.sourceTicket, hticket]
  · intro h
    refine ⟨?_, ?_, ?_⟩
    · intro before p after hsplit e he pos hpos heq
      obtain ⟨hanswered, t, ht, d, hd, hterminal, hreports⟩ := Poll.event_reports he
      have hticket : pos.ticket = t :=
        ticketText_injective (heq.symm.trans hreports.sourceTicket)
      exact h before p after hsplit ⟨hanswered, t, ht, ⟨pos, hpos, hticket⟩, d, hd, hterminal⟩
    · intro before p after _
      exact p.events_nodup _
    · intro before p between q after _ e he e' he' heq
      rw [seenAfter_append] at he'
      exact oncePerDisappearance he he' heq

/-! ## Closes that are never reported -/

/-- What the deal history of every position will come to hold, where a deal
ticket names one deal. -/
structure DealHistory where
  deals : Nat → List Deal
  ticket_inj : ∀ t, ∀ d ∈ deals t, ∀ d' ∈ deals t, d.ticket = d'.ticket → d = d'

def DealHistory.closedBy (h : DealHistory) (ticket : Nat) : Option Deal :=
  closingDeal (h.deals ticket)

/-- The terminal shows some of the history, in any order and maybe none of it. -/
def Terminal.Lags (mt5 : Terminal) (h : DealHistory) : Prop :=
  ∀ t, ∀ d ∈ mt5.deals t, d ∈ h.deals t

/-- A poll forgets a ticket without an event only on the evidence of a closing
deal that is not the terminal's; a terminal's own closing deal has been reported
by the time its ticket is forgotten. -/
def LosesNoClose (h : DealHistory) (seen : Finset Nat) (polls : List Poll) : Prop :=
  ∀ before p after, polls = before ++ p :: after →
    ∀ t ∈ seenAfter seen before, t ∉ seenAfter seen (before ++ [p]) →
      ((∀ e ∈ (p.run (seenAfter seen before)).1, e.sourceTicket ≠ ticketText t) →
        ∃ c, h.closedBy t = some c ∧ c ∈ p.mt5.deals t ∧ ¬ c.TerminalInitiated) ∧
      ∀ c, h.closedBy t = some c → c.TerminalInitiated →
        ∃ e ∈ eventsOf seen (before ++ [p]),
          e.sourceTicket = ticketText t ∧ e.dealTicket = ticketText c.ticket

/-- A closing deal that is shown is the newest one shown. -/
theorem lastClosing_of_shown {mt5 : Terminal} {h : DealHistory} (hlags : mt5.Lags h)
    {t : Nat} {c : Deal} (hc : h.closedBy t = some c) (hshown : c ∈ mt5.deals t) :
    mt5.lastClosing t = some c := by
  obtain ⟨hmem, hclosing⟩ := closingDeal_mem hc
  cases hlast : mt5.lastClosing t with
  | none =>
      have hno := List.argmax_eq_none.mp hlast
      have hin := List.mem_filter.mpr ⟨hshown, hclosing⟩
      rw [hno] at hin
      cases hin
  | some d =>
      obtain ⟨hd, hdclosing⟩ := closingDeal_mem hlast
      have hle := le_closingDeal hc (hlags t d hd) hdclosing
      have hge := le_closingDeal hlast hshown hclosing
      have hkey : (d.time, d.ticket) = (c.time, c.ticket) := toLex.injective (le_antisymm hle hge)
      rw [h.ticket_inj t d (hlags t d hd) c hmem (congrArg Prod.snd hkey)]

def Poll.ShowsClose (p : Poll) (h : DealHistory) (ticket : Nat) : Prop :=
  ∃ c, h.closedBy ticket = some c ∧ c ∈ p.mt5.deals ticket

/-- At every scan that gets through, the history of a missing ticket already
shows its closing deal, or shows a close of the terminal's own last; and a
closing deal of the terminal's is shown by some scan that missed the ticket. -/
def ReadsInTime (h : DealHistory) (seen : Finset Nat) (polls : List Poll) : Prop :=
  ∀ before p after, polls = before ++ p :: after → p.Answered (seenAfter seen before) →
    ∀ t ∈ p.missing (seenAfter seen before),
      (p.ShowsClose h t ∨ p.mt5.ClosedItself t) ∧
      ∀ c, h.closedBy t = some c → c.TerminalInitiated →
        ∃ before' q after', before ++ [p] = before' ++ q :: after' ∧
          q.Answered (seenAfter seen before') ∧ t ∈ q.missing (seenAfter seen before') ∧
          c ∈ q.mt5.deals t

theorem seenAfter_concat {seen : Finset Nat} {before : List Poll} {p : Poll} :
    seenAfter seen (before ++ [p]) = (p.run (seenAfter seen before)).2 := by
  rw [seenAfter_append]
  rfl

theorem mem_of_split {α : Type} {xs before before' after after' : List α} {p q : α}
    (hsplit : xs = before ++ p :: after) (hq : before ++ [p] = before' ++ q :: after') :
    q ∈ xs := by
  have hmem : q ∈ before ++ [p] := by
    rw [hq]
    simp
  rw [hsplit]
  rcases List.mem_append.mp hmem with h | h
  · exact List.mem_append_left _ h
  · exact List.mem_append_right _ (List.mem_cons.mpr (Or.inl (List.mem_singleton.mp h)))

/-- No close is lost exactly when the history is read in time. -/
theorem losesNoClose_iff {h : DealHistory} (seen : Finset Nat) {polls : List Poll}
    (hlags : ∀ p ∈ polls, p.mt5.Lags h) :
    LosesNoClose h seen polls ↔ ReadsInTime h seen polls := by
  constructor
  · intro hloses before p after hsplit hanswered t ht
    obtain ⟨hseen, hforgot⟩ := Poll.forgets_iff.mpr ⟨hanswered, ht⟩
    rw [← seenAfter_concat] at hforgot
    obtain ⟨hquiet, hreported⟩ := hloses before p after hsplit t hseen hforgot
    constructor
    · by_cases hevent : ∃ e ∈ (p.run (seenAfter seen before)).1,
          e.sourceTicket = ticketText t
      · obtain ⟨e, he, hsource⟩ := hevent
        obtain ⟨-, t', -, d, hd, hterminal, hreports⟩ := Poll.event_reports he
        have htt : t' = t := ticketText_injective (hreports.sourceTicket.symm.trans hsource)
        subst htt
        exact Or.inr ⟨d, hd, hterminal⟩
      · obtain ⟨c, hc, hshown, -⟩ := hquiet fun e he hsource => hevent ⟨e, he, hsource⟩
        exact Or.inl ⟨c, hc, hshown⟩
    · intro c hc hterminal
      obtain ⟨e, he, hsource, hdeal⟩ := hreported c hc hterminal
      obtain ⟨before', q, after', hq, he⟩ := mem_eventsOf.mp he
      obtain ⟨hq_answered, t', ht', d, hd, -, hreports⟩ := Poll.event_reports he
      have htt : t' = t := ticketText_injective (hreports.sourceTicket.symm.trans hsource)
      subst htt
      -- the reported deal carries the closing deal's ticket, so it is that deal
      have hshown : d ∈ q.mt5.deals t' := (closingDeal_mem hd).1
      have hdc : d = c := by
        refine h.ticket_inj t' d (hlags q (mem_of_split hsplit hq) t' d hshown) c
          (closingDeal_mem hc).1 ?_
        exact ticketText_injective (hreports.dealTicket.symm.trans hdeal)
      exact ⟨before', q, after', hq, hq_answered, ht', hdc ▸ hshown⟩
  · intro hreads before p after hsplit t hseen hforgot
    rw [seenAfter_concat] at hforgot
    obtain ⟨hanswered, ht⟩ := Poll.forgets_iff.mp ⟨hseen, hforgot⟩
    obtain ⟨hshows, hcloses⟩ := hreads before p after hsplit hanswered t ht
    have hp : p ∈ polls := by
      rw [hsplit]
      simp
    constructor
    · intro hquiet
      have hours : ∀ d, p.mt5.lastClosing t = some d → ¬ d.TerminalInitiated := by
        intro d hd hterminal
        obtain ⟨e, he, hreports⟩ := Poll.reports_missing hanswered ht hd hterminal
        exact hquiet e he hreports.sourceTicket
      rcases hshows with ⟨c, hc, hshown⟩ | ⟨d, hd, hterminal⟩
      · exact ⟨c, hc, hshown, hours c (lastClosing_of_shown (hlags p hp) hc hshown)⟩
      · exact absurd hterminal (hours d hd)
    · intro c hc hterminal
      obtain ⟨before', q, after', hq, hq_answered, ht', hshown⟩ := hcloses c hc hterminal
      have hlast := lastClosing_of_shown (hlags q (mem_of_split hsplit hq)) hc hshown
      obtain ⟨e, he, hreports⟩ := Poll.reports_missing hq_answered ht' hlast hterminal
      exact ⟨e, mem_eventsOf.mpr ⟨before', q, after', hq, he⟩, hreports.sourceTicket,
        hreports.dealTicket⟩

/-! ## Two accounts -/

def openedDeal : Deal :=
  { ticket := 1, entry := .entryIn, reason := 3, time := 100, price := 1900, volume := 1,
    symbol := "XAUUSDm" }

def manualDeal : Deal :=
  { ticket := 2, entry := .entryOut, reason := 0, time := 200, price := 1910, volume := 1 / 2,
    symbol := "XAUUSDm", profit := some 5 }

/-- A terminal that shows the given positions and, for ticket 777, the given
deals, and lists tickets in ascending order. -/
def terminalOf (positions : List TerminalPosition) (deals : List Deal) : Terminal where
  positionsGet := .ok (some positions)
  historyDealsGet t := .ok (some (if t = 777 then deals else []))
  historyOrdersGet _ := .ok none
  accountInfo _ := .ok none
  iterate s := s.sort (· ≤ ·)
  iterate_nodup s := s.sort_nodup (· ≤ ·)
  mem_iterate s _ := s.mem_sort (· ≤ ·)

/-- Position 777 is live with half of it closed, under magics that may not be
its own any more. -/
def halfClosed (magics : Finset Int) : Poll where
  currentMagics := .ok magics
  mt5 := terminalOf [{ ticket := 777, magic := 101 }] [openedDeal, manualDeal]

/-- When the magic is taken from the worker, the manual close of the half is
reported though the other half is live. -/
theorem disowned_reportedLive : ¬ EmitsSoundly ∅ [halfClosed {101}, halfClosed {202}] := by
  intro h
  have hreported : ∃ e ∈ ((halfClosed {202}).run (seenAfter ∅ [halfClosed {101}])).1,
      e.sourceTicket = ticketText 777 := by
    decide +kernel
  obtain ⟨e, he, hsource⟩ := hreported
  exact h.neverLive [halfClosed {101}] (halfClosed {202}) [] rfl e he
    { ticket := 777, magic := 101 } (by decide) hsource

def stopDeal : Deal :=
  { ticket := 3, entry := .entryOut, reason := 4, time := 300, price := 1890, volume := 1,
    symbol := "XAUUSDm", profit := some (-10) }

def stoppedOut : DealHistory where
  deals t := if t = 777 then [openedDeal, stopDeal] else []
  ticket_inj := by
    intro t
    split
    · decide +kernel
    · simp

def stillLive : Poll where
  currentMagics := .ok {101}
  mt5 := terminalOf [{ ticket := 777, magic := 101 }] [openedDeal]

/-- The position is gone, and the terminal shows the given deals. -/
def gone (deals : List Deal) : Poll where
  currentMagics := .ok {101}
  mt5 := terminalOf [] deals

theorem lags_terminalOf {positions : List TerminalPosition} {deals : List Deal}
    (h : deals ⊆ [openedDeal, stopDeal]) : (terminalOf positions deals).Lags stoppedOut := by
  intro t d hd
  simp only [Terminal.deals, terminalOf, Option.getD_some] at hd
  simp only [stoppedOut]
  split at hd
  · rename_i ht
    rw [if_pos ht]
    exact h hd
  · cases hd

/-- The stop's deal is shown one scan after the position went missing: no event
is ever about it. -/
theorem lateDeal_lost :
    (∀ p ∈ [stillLive, gone [openedDeal], gone [openedDeal, stopDeal]],
      p.currentMagics = .ok {101} ∧ p.mt5.Lags stoppedOut) ∧
    ¬ LosesNoClose stoppedOut ∅
      [stillLive, gone [openedDeal], gone [openedDeal, stopDeal]] := by
  constructor
  · intro p hp
    simp only [List.mem_cons, List.not_mem_nil, or_false] at hp
    rcases hp with rfl | rfl | rfl
    · exact ⟨rfl, lags_terminalOf (by simp)⟩
    · exact ⟨rfl, lags_terminalOf (by simp)⟩
    · exact ⟨rfl, lags_terminalOf (List.Subset.refl _)⟩
  · intro h
    obtain ⟨-, hreported⟩ := h [stillLive] (gone [openedDeal]) _ rfl 777
      (by decide +kernel) (by decide +kernel)
    obtain ⟨e, he, -⟩ := hreported stopDeal (by decide +kernel) (by decide)
    have hnone : eventsOf ∅ ([stillLive] ++ [gone [openedDeal]]) = [] := by decide +kernel
    rw [hnone] at he
    cases he

theorem promptDeal_reported :
    LosesNoClose stoppedOut ∅ [stillLive, gone [openedDeal, stopDeal]] := by
  refine (losesNoClose_iff ∅ ?_).mpr ?_
  · intro p hp
    simp only [List.mem_cons, List.not_mem_nil, or_false] at hp
    rcases hp with rfl | rfl
    · exact lags_terminalOf (by simp)
    · exact lags_terminalOf (List.Subset.refl _)
  · intro before p after hsplit hanswered t ht
    rcases before with - | ⟨q, - | ⟨r, before⟩⟩
    · cases hsplit
      have hnone : stillLive.missing (seenAfter ∅ []) = ∅ := by decide +kernel
      rw [hnone] at ht
      cases ht
    · obtain ⟨rfl, rfl, -⟩ : stillLive = q ∧ gone [openedDeal, stopDeal] = p ∧ [] = after := by
        simpa using hsplit
      have hone : (gone [openedDeal, stopDeal]).missing (seenAfter ∅ [stillLive]) = {777} := by
        decide +kernel
      obtain rfl : t = 777 := Finset.mem_singleton.mp (hone ▸ ht)
      have hclosed : stoppedOut.closedBy 777 = some stopDeal := by decide +kernel
      have hshown : stopDeal ∈ (gone [openedDeal, stopDeal]).mt5.deals 777 := by decide +kernel
      refine ⟨Or.inl ⟨stopDeal, hclosed, hshown⟩, ?_⟩
      intro c hc _
      obtain rfl : c = stopDeal := Option.some.inj (hc.symm.trans hclosed)
      exact ⟨[stillLive], gone [openedDeal, stopDeal], [], rfl, hanswered, ht, hshown⟩
    · have := congrArg List.length hsplit
      simp only [List.length_cons, List.length_append, List.length_nil] at this
      omega

end CloseDetector

end TradeWorker
