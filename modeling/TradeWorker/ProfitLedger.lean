import Mathlib.Algebra.BigOperators.Group.List.Basic
import Mathlib.Tactic.Ring
import TradeWorker.TerminalLedger

/-!
# Profits that add up

The profit of a close is read back out of the deal history, where the deals of its order may
land late; the profit of a position that went away unseen is the sum of all its deals. Where the
history only grows, and an order's deals land together, every profit the worker reports is what
its order booked for good, no order is reported twice, and what the reports of a position leave
out of its total is just the deals of the other orders.
-/

namespace TradeWorker

/-! ## Sums by key -/

section Keys

variable {α κ : Type} [DecidableEq κ]

/-- A sum is the sums of some keys and of what has none of them. -/
theorem sum_by_keys (key : α → κ) (f : α → ℚ) {ks : List κ} (hks : ks.Nodup) (l : List α) :
    (l.map f).sum = (ks.map fun k => ((l.filter (key · = k)).map f).sum).sum +
      ((l.filter (key · ∉ ks)).map f).sum := by
  induction l with
  | nil => simp [List.sum_replicate]
  | cons a l ih =>
      have hsplit : ∀ k, (((a :: l).filter (key · = k)).map f).sum =
          (if k = key a then f a else 0) + ((l.filter (key · = k)).map f).sum := by
        intro k
        by_cases h : key a = k
        · simp [h]
        · simp [h, Ne.symm h]
      have hcount : (ks.map fun k => if k = key a then f a else 0).sum =
          ks.count (key a) • f a := by
        rw [List.sum_map_ite_eq ks (fun _ => f a) (fun _ => 0)]
        simp
      rw [List.map_cons, List.sum_cons, ih, funext hsplit, List.sum_map_add, hcount]
      by_cases hmem : key a ∈ ks
      · rw [List.count_eq_one_of_mem hks hmem, one_nsmul, List.filter_cons,
          if_neg (by simpa using hmem)]
        ring
      · rw [List.count_eq_zero_of_not_mem hmem, zero_nsmul, List.filter_cons,
          if_pos (by simpa using hmem), List.map_cons, List.sum_cons]
        ring

end Keys

namespace Mt5

/-! ## The deal history -/

/-- A deal of the account, and the position it is of. -/
structure Booking where
  position : Int
  deal : OrderDeal
  deriving DecidableEq

def Booking.amount (b : Booking) : ℚ := CloseDetector.dealRealizedPnl b.deal.toDeal

def worth (bookings : List Booking) (position : Int) (order : Nat) : ℚ :=
  ((bookings.filter fun b => b.position = position ∧ b.deal.order = order).map Booking.amount).sum

section Later

variable {σ : Type}

/-- The history has grown by deals of orders it had none of, and no order number was given
back. -/
structure Later (bookings : σ → List Booking) (issued : σ → List Nat) (s s' : σ) : Prop where
  grows : ∃ later, bookings s' = bookings s ++ later ∧
    ∀ b ∈ later, ∀ b' ∈ bookings s, b.deal.order ≠ b'.deal.order
  keeps : ∀ order ∈ issued s, order ∈ issued s'

variable {bookings : σ → List Booking} {issued : σ → List Nat} {s s₁ s₂ : σ}

theorem Later.refl (s : σ) : Later bookings issued s s :=
  ⟨⟨[], by rw [List.append_nil], fun _ h => nomatch h⟩, fun _ h => h⟩

theorem Later.trans (h : Later bookings issued s s₁) (h' : Later bookings issued s₁ s₂) :
    Later bookings issued s s₂ := by
  obtain ⟨later, hlater, hnew⟩ := h.grows
  obtain ⟨later', hlater', hnew'⟩ := h'.grows
  refine ⟨⟨later ++ later', ?_, fun b hb b' hb' => ?_⟩, fun o ho => h'.keeps o (h.keeps o ho)⟩
  · rw [hlater', hlater, List.append_assoc]
  · rcases List.mem_append.mp hb with hb | hb
    · exact hnew b hb b' hb'
    · exact hnew' b hb b' (hlater ▸ List.mem_append_left _ hb')

/-- What an order booked stays what it booked. -/
theorem Later.worth {position : Int} {order : Nat} (h : Later bookings issued s s₁)
    (hbooked : ∃ b ∈ bookings s, b.deal.order = order) :
    Mt5.worth (bookings s₁) position order = Mt5.worth (bookings s) position order := by
  obtain ⟨later, hlater, hnew⟩ := h.grows
  obtain ⟨b, hb, rfl⟩ := hbooked
  have hnone : (later.filter fun b' => b'.position = position ∧ b'.deal.order = b.deal.order) =
      [] := by
    rw [List.filter_eq_nil_iff]
    intro b' hb' hboth
    exact hnew b' hb' b hb (of_decide_eq_true hboth).2
  rw [Mt5.worth, Mt5.worth, hlater, List.filter_append, hnone, List.append_nil]

theorem Later.booked {order : Nat} (h : Later bookings issued s s₁)
    (hbooked : ∃ b ∈ bookings s, b.deal.order = order) :
    ∃ b ∈ bookings s₁, b.deal.order = order := by
  obtain ⟨later, hlater, -⟩ := h.grows
  obtain ⟨b, hb, horder⟩ := hbooked
  exact ⟨b, hlater ▸ List.mem_append_left _ hb, horder⟩

end Later

/-- A history behind a server of the terminal's interface: what is told of it is so, it grows by
whole orders, and an order that is done under a number has one of its own. -/
structure History {σ : Type} (S : Prog.Server TerminalOp TerminalOp.Ans Exn σ)
    (bookings : σ → List Booking) (issued : σ → List Nat) : Prop where
  told : ∀ position s deals, (S (.historyDealsGet position) s).1 = .ok (some deals) →
    deals = ((bookings s).filter (·.position = position)).map Booking.deal
  later : ∀ o s, Later bookings issued s (S o s).2
  numbered : ∀ request s r, (S (.orderSend request) s).1 = .ok (some r) →
    r.retcode = retcodeDone → r.order ≠ 0 →
      r.order ∉ issued s ∧ r.order ∈ issued (S (.orderSend request) s).2

section Reads

variable {σ : Type} {S : Prog.Server TerminalOp TerminalOp.Ans Exn σ}
  {bookings : σ → List Booking} {issued : σ → List Nat} (hS : History S bookings issued)

include hS

theorem History.run {α : Type} (p : TerminalWork α) (s : σ) :
    Later bookings issued s (Prog.run S p s).2 := by
  induction p generalizing s with
  | ret a => exact .refl s
  | raise e => exact .refl s
  | call o k ih => exact (hS.later o s).trans (ih _ _)

/-- A read of the history tells none of it or all of it. -/
theorem History.wp_historyDeals (ticket : Option Int) (s : σ) :
    Prog.wp S.env (fun r s' => Later bookings issued s s' ∧ ∀ deals, r = .ok (some deals) →
      deals ≠ [] → ∃ position, ticket = some position ∧
        deals = ((bookings s).filter (·.position = position)).map Booking.deal)
      (historyDeals ticket) s := by
  cases ticket with
  | none => exact ⟨.refl s, nofun⟩
  | some position =>
      refine Prog.wp_tryCatch.mpr (Prog.wp_bind.mpr (Prog.wp_perform.mpr
        ⟨trivial, fun r s' hr => ?_⟩))
      have hlater := hS.later (.historyDealsGet position) s
      have htold := hS.told position s
      rw [show S (.historyDealsGet position) s = (r, s') from hr] at hlater htold
      cases r with
      | error e => exact ⟨hlater, nofun⟩
      | ok deals =>
          refine ⟨hlater, ?_⟩
          rintro _ ⟨⟩ hsome
          cases deals with
          | none => exact absurd rfl hsome
          | some deals => exact ⟨position, rfl, htold deals rfl⟩

omit hS in
/-- The deals of an order among those of a position. -/
theorem dealsRealizedPnl_mine (history : List Booking) (position : Int) (order : Nat) {x : ℚ}
    (h : dealsRealizedPnl
      (((history.filter (·.position = position)).map Booking.deal).filter (·.order = order)) =
        some x) : x = worth history position order := by
  unfold dealsRealizedPnl at h
  split at h
  · cases h
  obtain rfl := Option.some.inj h
  rw [worth, List.filter_map, List.filter_filter, List.map_map]
  congr 2
  refine List.filter_congr fun b _ => ?_
  simp [Bool.and_comm]

theorem History.wp_lookupFrom (order position left : Nat) (s : σ) :
    Prog.wp S.env (fun r s' => Later bookings issued s s' ∧ ∀ x, r = .ok (some x) →
      x = worth (bookings s') position order ∧ ∃ b ∈ bookings s', b.deal.order = order)
      (lookupFrom order position left) s := by
  induction left generalizing s with
  | zero => exact ⟨.refl s, nofun⟩
  | succ left ih =>
      refine Prog.wp_bind_of (hS.wp_historyDeals _ s) (fun found s₁ h => ?_)
        fun e s₁ h => ⟨h.1, nofun⟩
      obtain ⟨hlater, htold⟩ := h
      cases found with
      | none => exact ⟨hlater, nofun⟩
      | some deals =>
          dsimp only
          split
          · rename_i hmine
            have hsome : deals ≠ [] := fun h => hmine (by rw [h, List.filter_nil])
            obtain ⟨_, ⟨⟩, rfl⟩ := htold deals rfl hsome
            refine ⟨hlater, fun x hx => ?_⟩
            -- the read found the order, so its deals have all landed
            have hbooked : ∃ b ∈ bookings s, b.deal.order = order := by
              obtain ⟨d, hd⟩ := List.exists_mem_of_ne_nil _ hmine
              obtain ⟨hd, horder⟩ := List.mem_filter.mp hd
              obtain ⟨b, hb, rfl⟩ := List.mem_map.mp hd
              exact ⟨b, (List.mem_filter.mp hb).1, of_decide_eq_true horder⟩
            rw [hlater.worth hbooked]
            exact ⟨dealsRealizedPnl_mine _ _ _ (Except.ok.inj hx), hlater.booked hbooked⟩
          split
          · exact ⟨hlater, nofun⟩
          refine Prog.wp_bind.mpr (Prog.wp_perform.mpr ⟨trivial, fun r s₂ hr => ?_⟩)
          have hslept := hS.later (.sleep dealLookupDelay) s₁
          rw [show S (.sleep dealLookupDelay) s₁ = (r, s₂) from hr] at hslept
          cases r with
          | error e => exact ⟨hlater.trans hslept, nofun⟩
          | ok _ =>
              refine Prog.wp_mono (ih s₂) fun r s₃ h => ?_
              exact ⟨(hlater.trans hslept).trans h.1, h.2⟩

theorem History.wp_closingDealPnl (result : OrderSendResult) (position : Nat) (s : σ) :
    Prog.wp S.env (fun r s' => Later bookings issued s s' ∧ ∀ x, r = .ok (some x) →
      result.order ≠ 0 ∧ x = worth (bookings s') position result.order ∧
        ∃ b ∈ bookings s', b.deal.order = result.order)
      (closingDealPnl result position) s := by
  unfold closingDealPnl
  split
  · exact ⟨.refl s, nofun⟩
  · rename_i horder
    exact Prog.wp_mono (hS.wp_lookupFrom ..) fun r s' h => ⟨h.1, fun x hx => ⟨horder, h.2 x hx⟩⟩

/-- The number of an order that is done was not given to one before. -/
theorem History.wp_sendFrom (request : TradeRequest) (left attempt : Nat) (s : σ) :
    Prog.wp S.env (fun r s' => Later bookings issued s s' ∧
      ∀ result, r = .ok (some result) → result.retcode = retcodeDone → result.order ≠ 0 →
        result.order ∉ issued s ∧ result.order ∈ issued s')
      (sendFrom request left attempt) s := by
  induction left generalizing attempt s with
  | zero => exact ⟨.refl s, nofun⟩
  | succ left ih =>
      refine Prog.wp_bind.mpr (Prog.wp_perform.mpr ⟨trivial, fun r s₁ hr => ?_⟩)
      have hsent := hS.later (.orderSend request) s
      have hnumbered := hS.numbered request s
      rw [show S (.orderSend request) s = (r, s₁) from hr] at hsent hnumbered
      rcases r with e | result
      · exact ⟨hsent, nofun⟩
      -- what is returned of this attempt is returned from a later state
      have hreturn : ∀ s₂, Later bookings issued s₁ s₂ → Later bookings issued s s₂ ∧
          ∀ result', Except.ok (ε := Exn) result = .ok (some result') →
            result'.retcode = retcodeDone → result'.order ≠ 0 →
              result'.order ∉ issued s ∧ result'.order ∈ issued s₂ := by
        refine fun s₂ h => ⟨hsent.trans h, fun result' hresult hdone horder => ?_⟩
        obtain ⟨hnew, hissued⟩ := hnumbered result' hresult hdone horder
        exact ⟨hnew, h.keeps _ hissued⟩
      show Prog.wp S.env _ (if isDone result = true then pure result else _) s₁
      split
      · exact hreturn s₁ (.refl s₁)
      have htail : ∀ (error : Option LastError) s₂, Later bookings issued s₁ s₂ →
          Prog.wp S.env (fun r s' => Later bookings issued s s' ∧
            ∀ result, r = .ok (some result) → result.retcode = retcodeDone → result.order ≠ 0 →
              result.order ∉ issued s ∧ result.order ∈ issued s')
            (if (!isTradeContextBusy result error) = true then pure result
              else if attempt = busySendAttempts then pure result
              else do
                let _ : Unit ← terminal (.sleep (busySendDelay * 2 ^ (attempt - 1)))
                sendFrom request left (attempt + 1)) s₂ := by
        intro error s₂ h₂
        split
        · exact hreturn s₂ h₂
        split
        · exact hreturn s₂ h₂
        refine Prog.wp_bind_of (R := fun _ s₃ => Later bookings issued s₂ s₃)
          ((Prog.run_iff_wp S _ s₂).mpr (hS.run _ s₂)) (fun _ s₃ h₃ => ?_)
          fun e s₃ h₃ => ⟨(hsent.trans h₂).trans h₃, nofun⟩
        have hthere := (hsent.trans h₂).trans h₃
        refine Prog.wp_mono (ih (attempt + 1) s₃) fun r s₄ h₄ => ⟨hthere.trans h₄.1, ?_⟩
        intro result' hresult hdone horder
        obtain ⟨hnew, hissued⟩ := h₄.2 result' hresult hdone horder
        exact ⟨fun hold => hnew (hthere.keeps _ hold), hissued⟩
      cases result with
      | none =>
          exact Prog.wp_bind_of (R := fun _ s₂ => Later bookings issued s₁ s₂)
            ((Prog.run_iff_wp S _ s₁).mpr (hS.run _ s₁)) (fun error s₂ h₂ => htail error s₂ h₂)
            fun e s₂ h₂ => ⟨hsent.trans h₂, nofun⟩
      | some r => exact htail none s₁ (.refl s₁)

/-- What a close reports of money is what its order booked, for good, under a number of its
own. -/
theorem History.wp_closePosition (gateway : Mt5Gateway) (pos : PlatformPosition)
    (volume : Option ℚ) (comment : String) (s : σ) :
    Prog.wp S.env (fun r s' => ∀ result x, r = .ok result → result.profit = some x →
      ∃ order, result.ticket = some (ticketText order) ∧ order ∉ issued s ∧
        order ∈ issued s' ∧ x = worth (bookings s') pos.ticket order ∧
        ∃ b ∈ bookings s', b.deal.order = order)
      (gateway.closePosition pos volume comment) s := by
  refine Prog.wp_bind_of (R := fun _ s₁ => Later bookings issued s s₁)
    ((Prog.run_iff_wp S _ s).mpr (hS.run _ s)) (fun tick s₁ h₁ => ?_) fun e s₁ h₁ => nofun
  cases tick with
  | none =>
      rintro _ x ⟨⟩ hx
      cases hx
  | some tick =>
      refine Prog.wp_bind_of (hS.wp_sendFrom _ _ _ s₁) (fun result s₂ h₂ => ?_)
        fun e s₂ h₂ => nofun
      obtain ⟨hlater, hnumbered⟩ := h₂
      cases result with
      | none =>
          refine Prog.wp_bind_of (R := fun _ _ => True)
            ((Prog.run_iff_wp S _ s₂).mpr trivial) (fun _ s₃ _ => ?_) fun e s₃ _ => nofun
          refine Prog.wp_bind_of (R := fun _ _ => True)
            ((Prog.run_iff_wp S _ s₃).mpr trivial) (fun _ s₄ _ => ?_) fun e s₄ _ => nofun
          rintro _ x ⟨⟩ hx
          cases hx
      | some r =>
          dsimp only
          split
          · rintro _ x ⟨⟩ hx
            cases hx
          rename_i hdone
          refine Prog.wp_bind_of (hS.wp_closingDealPnl r pos.ticket s₂) (fun profit s₃ h₃ => ?_)
            fun e s₃ h₃ => nofun
          rintro _ x ⟨⟩ rfl
          obtain ⟨horder, hworth, hbooked⟩ := h₃.2 x rfl
          obtain ⟨hnew, hissued⟩ := hnumbered r rfl (not_not.mp hdone) horder
          exact ⟨r.order, rfl, fun hold => hnew (h₁.keeps _ hold), h₃.1.keeps _ hissued, hworth,
            hbooked⟩

/-- The total of a position is the sum of its deals. -/
theorem History.wp_positionRealizedPnl (ticket : String) (s : σ) :
    Prog.wp S.env (fun r _ => ∀ total, r = .ok (some total) →
      ∃ position, Chars.int? ticket.toList = some position ∧
        total = (((bookings s).filter (·.position = position)).map Booking.amount).sum)
      (positionRealizedPnl ticket) s := by
  refine Prog.wp_bind_of (hS.wp_historyDeals _ s) (fun deals s₁ h => ?_) fun e s₁ h => nofun
  rintro total htotal
  have htotal : deals.bind dealsRealizedPnl = some total := Except.ok.inj htotal
  obtain ⟨deals, rfl, hsum⟩ := Option.bind_eq_some_iff.mp htotal
  unfold dealsRealizedPnl at hsum
  split at hsum
  · cases hsum
  · rename_i hsome
    obtain ⟨position, hposition, rfl⟩ := h.2 deals rfl hsome
    refine ⟨position, hposition, ?_⟩
    obtain rfl := Option.some.inj hsum
    rw [List.map_map]
    rfl

end Reads

/-! ## What the worker reports -/

/-- A profit that a close reported, by the position and the text of the order. -/
structure Report where
  position : Nat
  order : String
  profit : ℚ
  deriving DecidableEq, Repr

def TradeResult.report (position : Nat) (result : TradeResult) : List Report :=
  (result.ticket.bind fun order =>
    result.profit.map fun profit => { position, order, profit }).toList

def reported : (o : ForexOp) → Except Exn o.Ans → List Report
  | .closePosition pos _ _, .ok result => TradeResult.report pos.ticket result
  | _, _ => []

def reportOf : (o : WorkerOp) → Except Exn o.Ans → List Report
  | .fx o, a => reported o a
  | _, _ => []

/-- The profits of a dialogue, in order. -/
def profits (talk : List ((o : WorkerOp) × Except Exn o.Ans)) : List Report :=
  talk.flatMap fun x => reportOf x.1 x.2

/-- Every report is what its order booked, and no order is reported twice. -/
structure Settled {σ : Type} (bookings : σ → List Booking) (issued : σ → List Nat)
    (reports : List Report) (s : σ) : Prop where
  each : ∀ e ∈ reports, ∃ order, e.order = ticketText order ∧ order ∈ issued s ∧
    (∃ b ∈ bookings s, b.deal.order = order) ∧ e.profit = worth (bookings s) e.position order
  once : (reports.map Report.order).Nodup

section Reports

variable {σ : Type} {bookings : σ → List Booking} {issued : σ → List Nat} {s s' : σ}

theorem Settled.later {reports : List Report} (h : Settled bookings issued reports s)
    (hlater : Later bookings issued s s') : Settled bookings issued reports s' := by
  refine ⟨fun e he => ?_, h.once⟩
  obtain ⟨order, htext, hissued, hbooked, hprofit⟩ := h.each e he
  exact ⟨order, htext, hlater.keeps _ hissued, hlater.booked hbooked,
    by rw [hprofit, hlater.worth hbooked]⟩

/-- A report of an order with a new number is one more. -/
theorem Settled.append {reports : List Report} (h : Settled bookings issued reports s)
    (hlater : Later bookings issued s s') {e : Report} {order : Nat}
    (htext : e.order = ticketText order) (hnew : order ∉ issued s) (hissued : order ∈ issued s')
    (hbooked : ∃ b ∈ bookings s', b.deal.order = order)
    (hprofit : e.profit = worth (bookings s') e.position order) :
    Settled bookings issued (reports ++ [e]) s' := by
  constructor
  · intro e' he'
    rcases List.mem_append.mp he' with he' | he'
    · exact (h.later hlater).each e' he'
    · obtain rfl := List.mem_singleton.mp he'
      exact ⟨order, htext, hissued, hbooked, hprofit⟩
  · rw [List.map_append, List.map_singleton]
    refine List.nodup_append.mpr ⟨h.once, List.nodup_singleton _, ?_⟩
    rintro text htext' _ hmem rfl
    obtain rfl := List.mem_singleton.mp hmem
    obtain ⟨e', he', hsame⟩ := List.mem_map.mp htext'
    obtain ⟨order', htext'', hissued', -⟩ := h.each e' he'
    -- the text is of one number only
    have horder : order' = order :=
      CloseDetector.ticketText_injective (htext''.symm.trans (hsame.trans htext))
    exact hnew (horder ▸ hissued')

/-- What a platform's call reports comes on top of what was reported. -/
theorem Settled.platform {S : Prog.Server TerminalOp TerminalOp.Ans Exn σ}
    (hS : History S bookings issued) (gateway : Mt5Gateway) (o : ForexOp) {reports : List Report}
    (h : Settled bookings issued reports s) :
    Settled bookings issued (reports ++ reported o (Prog.run S (gateway.platform o) s).1)
      (Prog.run S (gateway.platform o) s).2 := by
  have hlater := hS.run (gateway.platform o) s
  have hquiet : ∀ r, r = [] → Settled bookings issued (reports ++ r)
      (Prog.run S (gateway.platform o) s).2 := by
    rintro _ rfl
    rw [List.append_nil]
    exact h.later hlater
  cases o with
  | closePosition pos volume comment =>
      have hclose := (Prog.run_iff_wp S _ s).mp (hS.wp_closePosition gateway pos volume comment s)
      change Settled bookings issued
        (reports ++ reported (.closePosition pos volume comment)
          (Prog.run S (gateway.closePosition pos volume comment) s).1)
        (Prog.run S (gateway.closePosition pos volume comment) s).2
      cases hresult : (Prog.run S (gateway.closePosition pos volume comment) s).1 with
      | error e => exact hquiet _ rfl
      | ok result =>
          cases hprofit : result.profit with
          | none =>
              refine hquiet _ ?_
              simp [reported, TradeResult.report, hprofit]
          | some x =>
              obtain ⟨order, hticket, hnew, hissued, hworth, hbooked⟩ :=
                hclose result x hresult hprofit
              have hreport : reported (.closePosition pos volume comment) (.ok result) =
                  [{ position := pos.ticket, order := ticketText order, profit := x }] := by
                simp [reported, TradeResult.report, hprofit, hticket]
              rw [hreport]
              exact h.append hlater rfl hnew hissued hbooked hworth
  | _ => exact hquiet _ rfl

end Reports

/-- Reports that are true of a history: each is what its order booked, no order has two, and the
sum of a position is what was reported of it and the deals of the other orders. -/
structure AddUp (history : List Booking) (reports : List Report) : Prop where
  each : ∀ e ∈ reports, ∃ order, e.order = ticketText order ∧
    e.profit = worth history e.position order
  once : (reports.map Report.order).Nodup
  total : ∀ position : Nat,
    ((history.filter (·.position = (position : Int))).map Booking.amount).sum =
      ((reports.filter (·.position = position)).map Report.profit).sum +
        ((history.filter fun b => b.position = (position : Int) ∧
          ticketText b.deal.order ∉
            (reports.filter (·.position = position)).map Report.order).map Booking.amount).sum

theorem Settled.addUp {σ : Type} {bookings : σ → List Booking} {issued : σ → List Nat}
    {reports : List Report} {s : σ} (h : Settled bookings issued reports s) :
    AddUp (bookings s) reports := by
  refine ⟨fun e he => ?_, h.once, fun position => ?_⟩
  · obtain ⟨order, htext, -, -, hprofit⟩ := h.each e he
    exact ⟨order, htext, hprofit⟩
  have honce : ((reports.filter (·.position = position)).map Report.order).Nodup :=
    h.once.sublist (List.filter_sublist.map _)
  rw [sum_by_keys (fun b => ticketText b.deal.order) Booking.amount honce, List.map_map]
  congr 1
  · -- the deals of a reported order are what was reported of it
    refine congrArg List.sum (List.map_congr_left fun e he => ?_)
    obtain ⟨he, hposition⟩ := List.mem_filter.mp he
    obtain ⟨order, htext, -, -, hprofit⟩ := h.each e he
    rw [hprofit, worth, Function.comp_apply, List.filter_filter, of_decide_eq_true hposition]
    refine congrArg List.sum (congrArg (List.map Booking.amount) (List.filter_congr fun b _ => ?_))
    simp [htext, CloseDetector.ticketText_injective.eq_iff, Bool.and_comm]
  · rw [List.filter_filter]
    refine congrArg List.sum (congrArg (List.map Booking.amount) (List.filter_congr fun b _ => ?_))
    simp [Bool.and_comm]

section Worker

variable {σ : Type} {bookings : σ → List Booking} {issued : σ → List Nat}
  {T : Prog.Server AdapterOp AdapterOp.Ans Exn σ}

/-- **The profits add up.** Over any program of the worker, however often the lookups retry, every
profit a close reports is what its order booked, as the history has it in the end; no order is
reported twice; and what the worker is told later of a whole position is what was reported of it
and the deals of the orders that were not. -/
theorem profits_addUp (hT : History T.left bookings issued)
    (hothers : ∀ o s, Later bookings issued s (T (.inr o) s).2) (gateway : Mt5Gateway) {α : Type}
    (p : Work α) (s : σ) :
    AddUp (bookings (Prog.run T (Prog.implement (through gateway) p) s).2)
        (profits (Prog.dialogue (T.implemented (through gateway)) p s)) ∧
      ∀ ticket total, (T.implemented (through gateway) (.fx (.getPositionRealizedPnl ticket))
          (Prog.run T (Prog.implement (through gateway) p) s).2).1 = .ok (some total) →
        ∃ position, Chars.int? ticket.toList = some position ∧
          total = (((bookings (Prog.run T (Prog.implement (through gateway) p) s).2).filter
            (·.position = position)).map Booking.amount).sum := by
  have hstep : ∀ (o : WorkerOp) before s, Settled bookings issued before s →
      Settled bookings issued (before ++ reportOf o (T.implemented (through gateway) o s).1)
        (T.implemented (through gateway) o s).2 := by
    intro o before s h
    have hpast : taken gateway o = none →
        Settled bookings issued (before ++ []) (T.implemented (through gateway) o s).2 := by
      intro ho
      rw [implemented_past T gateway s ho, List.append_nil]
      exact h.later (hothers o s)
    cases o with
    | fx o =>
        rw [implemented_platform]
        exact h.platform hT gateway o
    | db o | cx o | host o => exact hpast rfl
  have hnone : Settled bookings issued [] s := ⟨List.forall_mem_nil _, List.nodup_nil⟩
  rw [Prog.run_implement]
  constructor
  · exact (Prog.dialogue_collects hstep p hnone).addUp
  · intro ticket total htotal
    rw [implemented_platform] at htotal
    exact (Prog.run_iff_wp T.left _ _).mp (hT.wp_positionRealizedPnl ticket _) total htotal

end Worker

/-! ## A terminal whose deals land late -/

/-- The deals that have landed, those that land at the next wait, and the next order. -/
structure SimHistory where
  landed : List Booking
  pending : List Booking := []
  next : Nat
  fresh : ∀ b ∈ landed ++ pending, b.deal.order < next
  apart : ∀ b ∈ pending, ∀ b' ∈ landed, b.deal.order ≠ b'.deal.order

namespace SimHistory

/-- The deal of an order: ten for a lot, and two of commission. -/
def booked (order : Nat) (request : DealRequest) : Booking where
  position := request.position.getD order
  deal :=
    { ticket := 1000 + order
      entry := .entryOut
      reason := 3
      time := 0
      price := request.price
      volume := request.volume
      symbol := request.symbol
      profit := some (10 * request.volume)
      commission := some (-2)
      order }

def deal (t : SimHistory) (request : DealRequest) : SimHistory where
  landed := t.landed
  pending := t.pending ++ [booked t.next request]
  next := t.next + 1
  fresh b hb := by
    rw [← List.append_assoc, List.mem_append] at hb
    rcases hb with hb | hb
    · exact Nat.lt_succ_of_lt (t.fresh b hb)
    · rw [List.mem_singleton.mp hb]
      exact Nat.lt_succ_self _
  apart b hb b' hb' := by
    rcases List.mem_append.mp hb with hb | hb
    · exact t.apart b hb b' hb'
    · rw [List.mem_singleton.mp hb]
      exact (t.fresh b' (List.mem_append_left _ hb')).ne'

def land (t : SimHistory) : SimHistory where
  landed := t.landed ++ t.pending
  next := t.next
  fresh b hb := t.fresh b (by simpa using hb)
  apart := List.forall_mem_nil _

def serve : Prog.Server TerminalOp TerminalOp.Ans Exn SimHistory
  | .orderSend (.deal request), t =>
      (.ok (some
        { retcode := retcodeDone, order := t.next, price := request.price
          volume := request.volume, comment := "" }),
       t.deal request)
  | .orderSend (.sltp ..), t => (.ok none, t)
  | .lastError, t => (.ok { code := 1, description := "Success" }, t)
  | .symbolInfo _, t => (.ok none, t)
  | .symbolInfoTick _, t => (.ok (some { bid := 2400, ask := 2401 }), t)
  | .symbolsGet _, t => (.ok none, t)
  | .symbolSelect _, t => (.ok (), t)
  | .positionsGet _, t => (.ok none, t)
  | .historyDealsGet position, t =>
      (.ok (some ((t.landed.filter (·.position = position)).map Booking.deal)), t)
  | .orderCalcMargin .., t => (.ok none, t)
  | .accountInfo, t => (.ok none, t)
  | .monotonic, t => (.ok 0, t)
  | .sleep _, t => (.ok (), t.land)
  | .recall _, t => (.ok none, t)
  | .remember .., t => (.ok (), t)

def beside : Prog.Server AdapterOp AdapterOp.Ans Exn SimHistory
  | .inl o, t => serve o t
  | .inr _, t => (.error (.other "not there"), t)

def issued (t : SimHistory) : List Nat := List.range t.next

theorem history : History beside.left landed issued where
  told position t deals h := (Option.some.inj (Except.ok.inj h)).symm
  later o t := by
    cases o with
    | orderSend request =>
        cases request with
        | deal request =>
            refine ⟨⟨[], (List.append_nil _).symm, List.forall_mem_nil _⟩, fun order h => ?_⟩
            exact List.mem_range.mpr (Nat.lt_succ_of_lt (List.mem_range.mp h))
        | sltp => exact .refl t
    | sleep seconds => exact ⟨⟨t.pending, rfl, t.apart⟩, fun _ h => h⟩
    | _ => exact .refl t
  numbered request t r h hdone horder := by
    cases request with
    | deal request =>
        obtain rfl := Option.some.inj (Except.ok.inj h)
        exact ⟨fun h => absurd (List.mem_range.mp h) (Nat.lt_irrefl _),
          List.mem_range.mpr (Nat.lt_succ_self _)⟩
    | sltp => cases h

def bought : SimHistory where
  landed :=
    [booked 41
      { symbol := "XAUUSD", volume := 0, type := .buy, position := some 7
        price := 2390, deviation := 20, magic := 1, comment := "" }]
  next := 100
  fresh b hb := by
    obtain rfl := List.mem_singleton.mp hb
    decide
  apart := List.forall_mem_nil _

/-- Half of the lot is closed and the deal is found at the second look. -/
def halfClose : Work TradeResult :=
  platform (.closePosition SimTerminal.goldLot (some (1 / 2)) "Close")

theorem halfClose_addUp :
    AddUp (Prog.run beside (Prog.implement (through {}) halfClose) bought).2.landed
        (profits (Prog.dialogue (beside.implemented (through {})) halfClose bought)) ∧
      ∀ ticket total, (beside.implemented (through {}) (.fx (.getPositionRealizedPnl ticket))
          (Prog.run beside (Prog.implement (through {}) halfClose) bought).2).1 =
            .ok (some total) →
        ∃ position, Chars.int? ticket.toList = some position ∧
          total = (((Prog.run beside (Prog.implement (through {}) halfClose) bought).2.landed.filter
            (·.position = position)).map Booking.amount).sum :=
  profits_addUp history (fun _ t => .refl t) {} halfClose bought

end SimHistory

end Mt5

end TradeWorker
