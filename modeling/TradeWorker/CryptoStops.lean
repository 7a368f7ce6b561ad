import TradeWorker.ExchangeRuns

/-!
# Stops on the exchange

A crypto close and a stop move both cancel every resting order of the symbol
first. From there on a position of the symbol that is neither closed nor given
a new stop runs naked; only the failsafe of a TP1 ever says so, and only when it
closed nothing at all. This module follows the stops through both operations and
says exactly when no leg is left naked unnoticed.
-/

namespace TradeWorker

/-! ## Naked legs -/

def ExchangeBook.Live (book : ExchangeBook) (leg : String × Side) : Prop :=
  ∃ p ∈ book.positions, p.leg = leg ∧ 0 < p.volume

/-- A live leg had a resting stop before and is live without one after. -/
def Exposes (before after : ExchangeBook) : Prop :=
  ∃ leg ∈ before.stops, before.Live leg ∧ leg ∉ after.stops ∧ after.Live leg

/-- An operation exposes no leg, or returns a result that says so. -/
def KeepsStops (before : ExchangeBook) (out : Except Exn TradeResult)
    (after : ExchangeBook) : Prop :=
  (∃ res, out = .ok res ∧ res.Flagged) ∨ ¬ Exposes before after

theorem keepsStops_iff_of_unflagged {before after : ExchangeBook}
    {out : Except Exn TradeResult} (h : ∀ res, out = .ok res → ¬ res.Flagged) :
    KeepsStops before out after ↔ ¬ Exposes before after :=
  or_iff_right fun ⟨res, hres, hflag⟩ => h res hres hflag

theorem not_exposes_of_stops {before after : ExchangeBook}
    (h : ∀ leg ∈ before.stops, leg ∈ after.stops) : ¬ Exposes before after :=
  fun ⟨leg, hleg, _, hnaked, _⟩ => hnaked (h leg hleg)

/-- After the symbol was cleared, some positions closed and some legs protected
again, the naked legs are the protected positions left over. -/
theorem exposes_iff_of_cleared {before after : ExchangeBook} {symbol : String}
    {gone : List ExchangePosition} {again : String × Side → Prop}
    (hpositions : after.positions = before.positions.filter (· ∉ gone))
    (hstops : ∀ leg, leg ∈ after.stops ↔
      again leg ∨ leg ∈ before.stops ∧ leg.1 ≠ symbol) :
    Exposes before after ↔ ∃ p ∈ before.liveOn symbol,
      p.leg ∈ before.stops ∧ p ∉ gone ∧ ¬ again p.leg := by
  constructor
  · rintro ⟨leg, hleg, -, hnaked, p, hp, rfl, hvolume⟩
    rw [hstops, not_or, not_and, not_not] at hnaked
    rw [hpositions, List.mem_filter] at hp
    exact ⟨p, ExchangeBook.mem_liveOn.mpr ⟨hp.1, hvolume, hnaked.2 hleg⟩, hleg,
      by simpa using hp.2, hnaked.1⟩
  · rintro ⟨p, hp, hleg, hopen, hagain⟩
    obtain ⟨hmem, hvolume, hsymbol⟩ := ExchangeBook.mem_liveOn.mp hp
    refine ⟨p.leg, hleg, ⟨p, hmem, rfl, hvolume⟩, ?_, p, ?_, rfl, hvolume⟩
    · rw [hstops, not_or, not_and, not_not]
      exact ⟨hagain, fun _ => hsymbol⟩
    · rw [hpositions, List.mem_filter]
      exact ⟨hmem, by simpa using hopen⟩

/-- With no leg protected again, they are the protected positions still open. -/
theorem exposes_iff_of_closed {before after : ExchangeBook} {symbol : String}
    {gone : List ExchangePosition}
    (hpositions : after.positions = before.positions.filter (· ∉ gone))
    (hstops : ∀ leg, leg ∈ after.stops ↔ leg ∈ before.stops ∧ leg.1 ≠ symbol) :
    Exposes before after ↔ ∃ p ∈ before.liveOn symbol, p.leg ∈ before.stops ∧ p ∉ gone := by
  have hcleared : ∀ leg, leg ∈ after.stops ↔
      False ∨ leg ∈ before.stops ∧ leg.1 ≠ symbol := by simpa using hstops
  rw [exposes_iff_of_cleared hpositions hcleared]
  simp only [not_false_eq_true, and_true]

/-- Some live position of the symbol has a resting stop. -/
def ExchangeBook.Protected (book : ExchangeBook) (symbol : String) : Prop :=
  ∃ p ∈ book.liveOn symbol, p.leg ∈ book.stops

theorem exposes_iff_protected {before after : ExchangeBook} {symbol : String}
    (hpositions : after.positions = before.positions)
    (hstops : ∀ leg, leg ∈ after.stops ↔ leg ∈ before.stops ∧ leg.1 ≠ symbol) :
    Exposes before after ↔ before.Protected symbol := by
  have hall : after.positions = before.positions.filter (· ∉ []) := by simp [hpositions]
  rw [exposes_iff_of_closed hall hstops]
  simp [ExchangeBook.Protected]

section Crypto

variable (ex : CryptoExecutor) (acct : ExchangeAccount)

/-! ## The full close -/

/-- A comment that does not begin with the flag's first letter raises no flag. -/
theorem TradeResult.not_flagged {result : TradeResult} {c : Char} {text : List Char}
    (hresult : result.positionUnprotected = false) (hcomment : result.comment.toList = c :: text)
    (hc : c ≠ 'U') : ¬ result.Flagged := by
  rintro (h | h)
  · simp [hresult] at h
  · rw [hcomment, List.isPrefixOf_iff_prefix] at h
    exact hc (List.cons_prefix_cons.mp h).1.symm

theorem closeReport_not_flagged (reason : String) (first : ExchangePosition)
    (closed : List TradeResult) :
    ¬ (CryptoExecutor.closeReport reason first closed).Flagged := by
  unfold CryptoExecutor.closeReport
  split
  · exact TradeResult.not_flagged (c := 'C') rfl
      (by simp only [String.toList_append, List.append_assoc]; rfl) (by decide)
  · exact TradeResult.not_flagged (c := 'F') rfl
      (by simp only [TradeResult.fail, String.toList_append, List.append_assoc]; rfl) (by decide)

/-- The close stops before the cancellation is done, or fills every order for a
protected position. -/
def CloseKeepsStops (book : ExchangeBook) (symbol : String) (ticket : Option String) :
    Prop :=
  let live := book.liveOn (ex.getSymbol symbol)
  acct.read book.reads ≠ none ∨ filterByTicket live ticket = [] ∨
    acct.cancel book.cancels ≠ .ok () ∨
    ∀ p ∈ live, p.leg ∈ book.stops →
      p ∈ Batch.filled (·.success) acct.order book.sent (filterByTicket live ticket)

theorem closeAll_keepsStops_iff (w : World ExchangeBook) (symbol reason : String)
    (strategy : Option String) (price : Option ℚ) (ticket : Option String)
    {out : Except Exn TradeResult} {w' : World ExchangeBook}
    (hrun : Prog.run acct.backend.serve
      (ex.closeAllPositions symbol reason strategy price ticket) w = (out, w')) :
    KeepsStops w.rest out w'.rest ↔ CloseKeepsStops ex acct w.rest symbol ticket := by
  obtain ⟨out', w'', hrun', hclose⟩ :=
    crypto_closeAll_run ex acct w symbol reason strategy price ticket
  cases hrun.symm.trans hrun'
  cases hclose with
  | readFails hread =>
      exact iff_of_true (Or.inr (not_exposes_of_stops fun _ h => h))
        (Or.inl (by simp [hread]))
  | noneFound hread hnone =>
      exact iff_of_true (Or.inr (not_exposes_of_stops fun _ h => h)) (Or.inr (Or.inl hnone))
  | cancelFails hread hbatch hcancel =>
      exact iff_of_true (Or.inr (not_exposes_of_stops fun _ h => h))
        (Or.inr (Or.inr (Or.inl (by simp [hcancel]))))
  | @sent first rest book results hread hbatch hcancel hpositions hsent hcancels hstops hloop =>
      have hcleared : ∀ leg, leg ∈ book.stops ↔
          leg ∈ w.rest.stops ∧ leg.1 ≠ ex.getSymbol symbol := by
        simp [hstops]
      have hunflagged : ∀ res, results.map (CryptoExecutor.closeReport reason first) =
          .ok res → ¬ res.Flagged := by
        intro res hres
        cases results with
        | error e => cases hres
        | ok closed =>
            cases hres
            exact closeReport_not_flagged reason first closed
      rw [keepsStops_iff_of_unflagged hunflagged, exposes_iff_of_closed hpositions hcleared]
      simp only [CloseKeepsStops, hread, hbatch, hcancel, ne_eq, not_true_eq_false,
        reduceCtorEq, false_or, not_exists, not_and, not_not]

/-! ## The stop move -/

/-- The book once the stop of a leg was asked for. -/
def ExchangeBook.restop (book : ExchangeBook) (symbol : String)
    (answer : Except Exn TradeResult) (leg : String × Side) : ExchangeBook :=
  (book.look.clear (.ok ()) symbol).protect answer leg

/-- How an `update_position_sl` can end. Once the stop is placed the take-profit
may still raise. -/
inductive StopMoveRun (w : World ExchangeBook) (symbol : String) (ticket : Nat) :
    Except Exn TradeResult → World ExchangeBook → Prop where
  | readFails {e : Exn} (hread : acct.read w.rest.reads = some e) :
      StopMoveRun w symbol ticket (.error e) { w with rest := w.rest.look }
  | noneFound (hread : acct.read w.rest.reads = none)
      (hnone : w.rest.liveOn (ex.getSymbol symbol) = []) :
      StopMoveRun w symbol ticket (.ok (.fail "No Positions Found"))
        { w with rest := w.rest.look }
  | cancelFails {first : ExchangePosition} {rest : List ExchangePosition} {e : Exn}
      (hread : acct.read w.rest.reads = none)
      (hlive : w.rest.liveOn (ex.getSymbol symbol) = first :: rest)
      (hcancel : acct.cancel w.rest.cancels = .error e) :
      StopMoveRun w symbol ticket (.error e)
        { w with rest := w.rest.look.clear (.error e) (ex.getSymbol symbol) }
  | stopFails {first : ExchangePosition} {rest : List ExchangePosition} {e : Exn}
      (hread : acct.read w.rest.reads = none)
      (hlive : w.rest.liveOn (ex.getSymbol symbol) = first :: rest)
      (hcancel : acct.cancel w.rest.cancels = .ok ())
      (hstop : acct.stopLoss w.rest.stopOrders = .error e) :
      StopMoveRun w symbol ticket (.error e) { w with
        rest := w.rest.restop (ex.getSymbol symbol) (.error e)
          (pickPosition first rest ticket).leg }
  | refused {first : ExchangePosition} {rest : List ExchangePosition} {r : TradeResult}
      (hread : acct.read w.rest.reads = none)
      (hlive : w.rest.liveOn (ex.getSymbol symbol) = first :: rest)
      (hcancel : acct.cancel w.rest.cancels = .ok ())
      (hstop : acct.stopLoss w.rest.stopOrders = .ok r) (hr : r.success = false) :
      StopMoveRun w symbol ticket (.ok r) { w with
        rest := w.rest.restop (ex.getSymbol symbol) (.ok r) (pickPosition first rest ticket).leg }
  | placed {first : ExchangePosition} {rest : List ExchangePosition} {r : TradeResult}
      {out : Except Exn TradeResult} (hread : acct.read w.rest.reads = none)
      (hlive : w.rest.liveOn (ex.getSymbol symbol) = first :: rest)
      (hcancel : acct.cancel w.rest.cancels = .ok ())
      (hstop : acct.stopLoss w.rest.stopOrders = .ok r) (hr : r.success = true)
      (hout : ∀ res, out = .ok res → res.success = true) :
      StopMoveRun w symbol ticket out { w with
        rest := w.rest.restop (ex.getSymbol symbol) (.ok r) (pickPosition first rest ticket).leg }

theorem crypto_recoverEntryTp2_run (w : World ExchangeBook) (symbol : String)
    (strategy : Option String) :
    ∃ tp2, Prog.run acct.backend.serve
      (CryptoExecutor.recoverEntryTp2 symbol strategy) w = (.ok tp2, w) := by
  unfold CryptoExecutor.recoverEntryTp2
  split <;> exact ⟨_, rfl⟩

theorem crypto_updatePositionSl_run (w : World ExchangeBook) (symbol : String) (newSl : ℚ)
    (ticket : Nat) (strategy : Option String) :
    ∃ out w', Prog.run acct.backend.serve
      (ex.updatePositionSl symbol newSl ticket strategy) w = (out, w') ∧
        StopMoveRun ex acct w symbol ticket out w' := by
  have hlist := crypto_getOpenPositions_run ex acct w symbol
  unfold CryptoExecutor.updatePositionSl
  dsimp only
  cases hread : acct.read w.rest.reads with
  | some e =>
      rw [hread] at hlist
      exact ⟨_, _, Prog.run_bind_error _ hlist, .readFails hread⟩
  | none =>
      rw [hread] at hlist
      rw [Prog.run_bind_ok _ hlist]
      cases hlive : w.rest.liveOn (ex.getSymbol symbol) with
      | nil => exact ⟨_, _, rfl, .noneFound hread hlive⟩
      | cons first rest =>
          dsimp only
          have hcancel := acct.run_cancelAllOrders { w with rest := w.rest.look }
            (ex.getSymbol symbol)
          change Prog.run _ _ _ = (acct.cancel w.rest.cancels, { w with
            rest := w.rest.look.clear (acct.cancel w.rest.cancels) _ }) at hcancel
          cases hc : acct.cancel w.rest.cancels with
          | error e =>
              rw [hc] at hcancel
              exact ⟨_, _, Prog.run_bind_error _ hcancel, .cancelFails hread hlive hc⟩
          | ok u =>
              rw [hc] at hcancel
              rw [Prog.run_bind_ok _ hcancel]
              have hpick : (ex.getSymbol symbol, (pickPosition first rest ticket).side) =
                  (pickPosition first rest ticket).leg := by
                have hmem := pickPosition_mem first rest ticket
                rw [← hlive, ExchangeBook.mem_liveOn] at hmem
                rw [← hmem.2.2]
                rfl
              have hstop := acct.run_setStopLoss { w with
                rest := w.rest.look.clear (.ok u) (ex.getSymbol symbol) } (ex.getSymbol symbol)
                (pickPosition first rest ticket).side newSl (pickPosition first rest ticket).volume
              rw [hpick] at hstop
              change Prog.run _ _ _ = (acct.stopLoss w.rest.stopOrders, { w with
                rest := w.rest.restop _ (acct.stopLoss w.rest.stopOrders) _ }) at hstop
              cases hs : acct.stopLoss w.rest.stopOrders with
              | error e =>
                  rw [hs] at hstop
                  exact ⟨_, _, Prog.run_bind_error _ hstop, .stopFails hread hlive hc hs⟩
              | ok r =>
                  rw [hs] at hstop
                  rw [Prog.run_bind_ok _ hstop]
                  cases hr : r.success with
                  | false => exact ⟨_, _, rfl, .refused hread hlive hc hs hr⟩
                  | true =>
                      simp only [if_true]
                      generalize hbook : w.rest.restop (ex.getSymbol symbol) (.ok r)
                        (pickPosition first rest ticket).leg = book
                      obtain ⟨tp2, htp2⟩ := crypto_recoverEntryTp2_run acct
                        { w with rest := book } symbol strategy
                      rw [Prog.run_bind_ok _ htp2]
                      have hplaced : ∀ out : Except Exn TradeResult,
                          (∀ res, out = .ok res → res.success = true) →
                          StopMoveRun ex acct w symbol ticket out { w with rest := book } := by
                        subst hbook
                        exact fun out hout => .placed hread hlive hc hs hr hout
                      cases tp2 with
                      | none => exact ⟨_, _, rfl, hplaced _ fun res hres => by cases hres; rfl⟩
                      | some tp2 =>
                          have htp := run_exchange acct.backend { w with rest := book }
                            (.setTakeProfit (ex.getSymbol symbol)
                              (pickPosition first rest ticket).side tp2
                              (pickPosition first rest ticket).volume)
                          simp only [ExchangeAccount.backend, ExchangeAccount.cx] at htp
                          cases ht : acct.other (.setTakeProfit (ex.getSymbol symbol)
                              (pickPosition first rest ticket).side tp2
                              (pickPosition first rest ticket).volume) with
                          | error e =>
                              rw [ht] at htp
                              exact ⟨_, _, Prog.run_bind_error _ htp,
                                hplaced _ fun res hres => by cases hres⟩
                          | ok tpRes =>
                              rw [ht] at htp
                              exact ⟨_, _, Prog.run_bind_ok _ htp,
                                hplaced _ fun res hres => by cases hres; rfl⟩

/-! ## The stop move of a TP1 and its failsafe -/

/-- The failsafe close after a refused stop ends well: it fills every order for a
protected position, or it says that it filled none. -/
def FailsafeKeepsStops (book : ExchangeBook) (symbol : String) : Prop :=
  let filled := Batch.filled (·.success) acct.order book.sent (book.liveOn symbol)
  acct.read (book.reads + 1) = none ∧ acct.cancel (book.cancels + 1) = .ok () ∧
    (Batch.fault acct.order book.sent (book.liveOn symbol) = none ∧ filled = [] ∨
      ∀ p ∈ book.liveOn symbol, p.leg ∈ book.stops → p ∈ filled)

/-- The stop move stops before the cancellation is done; or the stop is placed
and no other leg had one; or it is refused and the failsafe close makes up for it.
Otherwise no leg of the symbol may have had a stop. -/
def MoveKeepsStops (book : ExchangeBook) (symbol : String) (ticket : Nat) : Prop :=
  match acct.read book.reads, book.liveOn (ex.getSymbol symbol),
      acct.cancel book.cancels with
  | none, first :: rest, .ok () =>
      match acct.stopLoss book.stopOrders with
      | .error _ => ¬ book.Protected (ex.getSymbol symbol)
      | .ok r =>
          if r.success then
            ∀ p ∈ first :: rest, p.leg ∈ book.stops →
              p.leg = (pickPosition first rest ticket).leg
          else
            ¬ book.Protected (ex.getSymbol symbol) ∨
              FailsafeKeepsStops acct book (ex.getSymbol symbol)
  | _, _, _ => True

theorem failsafeReport_flagged_iff {closeResult slResult failsafe : TradeResult}
    (h : ¬ closeResult.Flagged) :
    (ExecutorBackedMarket.failsafeReport closeResult slResult failsafe).Flagged ↔
      failsafe.success = false := by
  unfold ExecutorBackedMarket.failsafeReport
  dsimp only
  cases hs : failsafe.success with
  | true =>
      refine iff_of_false ?_ (by simp)
      have hflag : closeResult.positionUnprotected = false := by
        simpa using fun hflag => h (Or.inl hflag)
      exact TradeResult.not_flagged (c := 'T') hflag
        (by simp only [if_true, String.toList_append, List.append_assoc]; rfl) (by decide)
  | false => exact iff_of_true (Or.inl rfl) rfl

@[simp] theorem ExchangeBook.restop_positions (book : ExchangeBook) (symbol : String)
    (answer : Except Exn TradeResult) (leg : String × Side) :
    (book.restop symbol answer leg).positions = book.positions := rfl

theorem ExchangeBook.mem_restop_stops {book : ExchangeBook} {symbol : String}
    {answer : Except Exn TradeResult} {leg l : String × Side} :
    l ∈ (book.restop symbol answer leg).stops ↔
      (Batch.Fills (·.success) answer ∧ l = leg) ∨ l ∈ book.stops ∧ l.1 ≠ symbol := by
  have hcleared : l ∈ (book.look.clear (.ok ()) symbol).stops ↔
      l ∈ book.stops ∧ l.1 ≠ symbol := by
    simp [ExchangeBook.clear, ExchangeBook.look, Except.isOk, Except.toBool]
  rw [← hcleared]
  cases answer with
  | error e => simp [Batch.Fills, ExchangeBook.restop, ExchangeBook.protect]
  | ok r =>
      cases hr : r.success <;>
        simp [Batch.Fills, ExchangeBook.restop, ExchangeBook.protect, hr]

theorem exposes_restop_iff (book : ExchangeBook) (symbol : String)
    (answer : Except Exn TradeResult) (leg : String × Side) :
    Exposes book (book.restop symbol answer leg) ↔
      ∃ p ∈ book.liveOn symbol, p.leg ∈ book.stops ∧
        ¬ (Batch.Fills (·.success) answer ∧ p.leg = leg) := by
  have hpositions : (book.restop symbol answer leg).positions =
      book.positions.filter (· ∉ []) := by simp
  rw [exposes_iff_of_cleared hpositions fun _ => ExchangeBook.mem_restop_stops]
  simp

/-- No stop rests on the symbol after a stop order that failed. -/
theorem ExchangeBook.mem_restop_stops_of_not_fills {book : ExchangeBook} {symbol : String}
    {answer : Except Exn TradeResult} {leg l : String × Side}
    (h : ¬ Batch.Fills (·.success) answer) :
    l ∈ (book.restop symbol answer leg).stops ↔ l ∈ book.stops ∧ l.1 ≠ symbol := by
  rw [mem_restop_stops]
  simp only [h, false_and, false_or]

/-- The failsafe close after a refused stop. -/
theorem failsafe_keepsStops_iff (w : World ExchangeBook) (symbol : String)
    (strategy : Option String) (price : Option ℚ) {closeResult slResult : TradeResult}
    {leg : String × Side} (hlive : w.rest.liveOn (ex.getSymbol symbol) ≠ [])
    (hslResult : slResult.success = false) (hclose : ¬ closeResult.Flagged)
    {out : Except Exn TradeResult} {w' : World ExchangeBook}
    (hrun : Prog.run acct.backend.serve
      (ex.closeAllPositions symbol "SL_FAILSAFE" strategy price none)
      { w with rest := w.rest.restop (ex.getSymbol symbol) (.ok slResult) leg } = (out, w')) :
    KeepsStops w.rest
        (out.map (ExecutorBackedMarket.failsafeReport closeResult slResult)) w'.rest ↔
      ¬ w.rest.Protected (ex.getSymbol symbol) ∨
        FailsafeKeepsStops acct w.rest (ex.getSymbol symbol) := by
  obtain ⟨out', w'', hrun', hclosed⟩ := crypto_closeAll_run ex acct
    { w with rest := w.rest.restop (ex.getSymbol symbol) (.ok slResult) leg }
    symbol "SL_FAILSAFE" strategy price none
  cases hrun.symm.trans hrun'
  have hrestop : ∀ l, l ∈ (w.rest.restop (ex.getSymbol symbol) (.ok slResult) leg).stops ↔
      l ∈ w.rest.stops ∧ l.1 ≠ ex.getSymbol symbol := fun l =>
    ExchangeBook.mem_restop_stops_of_not_fills
      (Batch.not_fills_of_refuses ⟨slResult, rfl, hslResult⟩)
  have hstopped : ∀ book : ExchangeBook, book.positions = w.rest.positions →
      book.stops = (w.rest.restop (ex.getSymbol symbol) (.ok slResult) leg).stops →
      (Exposes w.rest book ↔ w.rest.Protected (ex.getSymbol symbol)) :=
    fun book hpositions hstops => exposes_iff_protected hpositions (hstops ▸ hrestop)
  cases hclosed with
  | readFails hread =>
      change acct.read (w.rest.reads + 1) = _ at hread
      rw [keepsStops_iff_of_unflagged (by simp [Except.map])]
      refine (not_congr (hstopped _ ?_ ?_)).trans ?_
      · rfl
      · rfl
      · simp [FailsafeKeepsStops, hread]
  | noneFound hread hnone => exact absurd hnone hlive
  | cancelFails hread hbatch hcancel =>
      change acct.cancel (w.rest.cancels + 1) = _ at hcancel
      rw [keepsStops_iff_of_unflagged (by simp [Except.map])]
      refine (not_congr (hstopped _ ?_ ?_)).trans ?_
      · rfl
      · rfl
      · simp [FailsafeKeepsStops, hcancel]
  | @sent first rest book results hread hbatch hcancel hpositions hsent hcancels hstops hloop =>
      change acct.read (w.rest.reads + 1) = none at hread
      change acct.cancel (w.rest.cancels + 1) = _ at hcancel
      change w.rest.liveOn (ex.getSymbol symbol) = first :: rest at hbatch
      change book.positions = w.rest.positions.filter
        (· ∉ Batch.filled (·.success) acct.order w.rest.sent (first :: rest)) at hpositions
      change LoopReturns acct.order w.rest.sent (first :: rest) results at hloop
      have hcleared : ∀ l, l ∈ book.stops ↔ l ∈ w.rest.stops ∧ l.1 ≠ ex.getSymbol symbol := by
        intro l
        rw [hstops, List.mem_filter, hrestop]
        simp
      have hflag : (∃ res, (results.map (CryptoExecutor.closeReport "SL_FAILSAFE" first)).map
            (ExecutorBackedMarket.failsafeReport closeResult slResult) = .ok res ∧
            res.Flagged) ↔
          Batch.fault acct.order w.rest.sent (first :: rest) = none ∧
            Batch.filled (·.success) acct.order w.rest.sent (first :: rest) = [] := by
        cases hfault : Batch.fault acct.order w.rest.sent (first :: rest) with
        | some e =>
            rw [hloop.raised e hfault]
            simp [Except.map]
        | none =>
            obtain ⟨closed, rfl, hclosed⟩ := hloop.closed hfault
            have hnil : closed = [] ↔
                Batch.filled (·.success) acct.order w.rest.sent (first :: rest) = [] := by
              rw [← Batch.reports_eq_nil_iff, ← List.map_eq_nil_iff, hclosed, List.map_eq_nil_iff]
            have hunfilled : (CryptoExecutor.closeReport "SL_FAILSAFE" first closed).success =
                false ↔ closed = [] := by
              rw [← Bool.not_eq_true, CryptoExecutor.closeReport_success, not_not]
            simp only [Except.map, Except.ok.injEq, exists_eq_left', true_and,
              failsafeReport_flagged_iff hclose, hunfilled, hnil]
      have hexposes := exposes_iff_of_closed hpositions hcleared
      rw [KeepsStops, hflag, hexposes]
      simp only [FailsafeKeepsStops, ExchangeBook.Protected, hread, hcancel, hbatch, true_and,
        not_exists, not_and, not_not]
      constructor
      · exact Or.inr
      · rintro (hnaked | hsafe)
        · exact Or.inr fun p hp hleg => absurd hleg (hnaked p hp)
        · exact hsafe

/-- The stop move of a TP1, with its failsafe. -/
theorem moveSl_keepsStops_iff (w : World ExchangeBook) (signal : Signal)
    (pos : ExchangePosition) {closeResult : TradeResult} (hclose : ¬ closeResult.Flagged)
    {out : Except Exn TradeResult} {w' : World ExchangeBook}
    (hrun : Prog.run acct.backend.serve
      ((cryptoMarket ex).moveSlToBreakeven signal pos closeResult) w = (out, w')) :
    KeepsStops w.rest out w'.rest ↔
      MoveKeepsStops ex acct w.rest signal.symbol pos.ticket := by
  obtain ⟨moved, w₁, hmove, hmoved⟩ := crypto_updatePositionSl_run ex acct w signal.symbol
    pos.priceOpen pos.ticket (some signal.strategy)
  have hkept : ∀ {out : Except Exn TradeResult} {book : ExchangeBook},
      book.stops = w.rest.stops → KeepsStops w.rest out book := fun hstops =>
    Or.inr (not_exposes_of_stops fun _ h => hstops ▸ h)
  cases hmoved with
  | readFails hread =>
      cases hrun.symm.trans (Prog.run_bind_error _ hmove)
      exact iff_of_true (hkept rfl) (by simp [MoveKeepsStops, hread])
  | noneFound hread hnone =>
      have hrun := hrun.symm.trans (Prog.run_bind_ok _ hmove)
      refine iff_of_true (hkept ?_) (by simp [MoveKeepsStops, hread, hnone])
      -- the failsafe finds nothing either
      obtain ⟨_, _, hfailsafe, hclosed⟩ := crypto_closeAll_run ex acct
        { w with rest := w.rest.look } signal.symbol "SL_FAILSAFE" (some signal.strategy)
        signal.price none
      simp only [TradeResult.fail_success, Bool.false_eq_true, if_false] at hrun
      rw [Prog.run_bind_pure] at hrun
      simp only [cryptoMarket, CryptoExecutor.protocol] at hrun
      rw [hfailsafe] at hrun
      cases hrun
      cases hclosed with
      | readFails _ => rfl
      | noneFound _ _ => rfl
      | cancelFails _ hbatch _ => cases hnone.symm.trans hbatch
      | sent _ hbatch _ _ _ _ _ _ => cases hnone.symm.trans hbatch
  | cancelFails hread hlive hcancel =>
      cases hrun.symm.trans (Prog.run_bind_error _ hmove)
      exact iff_of_true (hkept rfl) (by simp [MoveKeepsStops, hread, hlive, hcancel])
  | stopFails hread hlive hcancel hstop =>
      cases hrun.symm.trans (Prog.run_bind_error _ hmove)
      rw [keepsStops_iff_of_unflagged (by simp)]
      refine (not_congr (exposes_restop_iff _ _ _ _)).trans ?_
      simp [MoveKeepsStops, ExchangeBook.Protected, hread, hlive, hcancel, hstop, Batch.Fills]
  | @refused first rest r hread hlive hcancel hstop hr =>
      have hrun := hrun.symm.trans (Prog.run_bind_ok _ hmove)
      simp only [hr, Bool.false_eq_true, if_false] at hrun
      rw [Prog.run_bind_pure] at hrun
      obtain ⟨⟨out₂, w₂⟩, hfailsafe⟩ : ∃ p, Prog.run acct.backend.serve
          (ex.closeAllPositions signal.symbol "SL_FAILSAFE" (some signal.strategy)
            signal.price none)
          { w with
            rest := w.rest.restop (ex.getSymbol signal.symbol) (.ok r)
              (pickPosition first rest pos.ticket).leg } = p := ⟨_, rfl⟩
      simp only [cryptoMarket, CryptoExecutor.protocol, hfailsafe] at hrun
      cases hrun
      have hflag : ¬ ({ closeResult with slUpdate := some r } : TradeResult).Flagged := hclose
      rw [failsafe_keepsStops_iff ex acct w signal.symbol (some signal.strategy)
        signal.price (by simp [hlive]) hr hflag hfailsafe]
      simp [MoveKeepsStops, hread, hlive, hcancel, hstop, hr]
  | @placed first rest r _ hread hlive hcancel hstop hr hout =>
      have hw' : w'.rest = w.rest.restop (ex.getSymbol signal.symbol) (.ok r)
          (pickPosition first rest pos.ticket).leg := by
        cases moved with
        | error e => cases hrun.symm.trans (Prog.run_bind_error _ hmove); rfl
        | ok res =>
            have hrun := hrun.symm.trans (Prog.run_bind_ok _ hmove)
            simp only [hout res rfl, if_true] at hrun
            cases hrun
            rfl
      have hunflagged : ∀ res, out = .ok res → ¬ res.Flagged := by
        rintro res rfl
        cases moved with
        | error e => cases hrun.symm.trans (Prog.run_bind_error _ hmove)
        | ok res =>
            have hrun := hrun.symm.trans (Prog.run_bind_ok _ hmove)
            simp only [hout res rfl, if_true] at hrun
            cases hrun
            exact hclose
      rw [keepsStops_iff_of_unflagged hunflagged, hw', exposes_restop_iff]
      have hfills : Batch.Fills (·.success) (.ok r : Except Exn TradeResult) := ⟨r, rfl, hr⟩
      simp only [hfills, MoveKeepsStops, hread, hlive, hcancel, hstop, hr, if_true, true_and,
        not_exists, not_and, not_not]

/-! ## The partial close of a TP1 -/

/-- The leg and volume of the order a `partial_close_position` sends, if it sends
one. -/
def partialOrder (book : ExchangeBook) (symbol : String) (closeVolume : ℚ) (ticket : Nat) :
    Option ((String × Side) × ℚ) :=
  match acct.read book.reads, book.liveOn (ex.getSymbol symbol),
      acct.other (.getSymbolFilter (ex.getSymbol symbol)) with
  | none, first :: rest, .ok f =>
      let pos := pickPosition first rest ticket
      let volume := CryptoExecutor.normalizeWith f (min closeVolume pos.volume)
      if volume ≤ 0 then none else some (pos.leg, volume)
  | _, _, _ => none

/-- How a `partial_close_position` can end: with no order sent, or one. -/
inductive PartialCloseRun (w : World ExchangeBook) (symbol : String) (closeVolume : ℚ)
    (ticket : Nat) : Except Exn TradeResult → World ExchangeBook → Prop where
  | unsent {out : Except Exn TradeResult}
      (horder : partialOrder ex acct w.rest symbol closeVolume ticket = none)
      (hout : ∀ res, out = .ok res → res.success = false) :
      PartialCloseRun w symbol closeVolume ticket out { w with rest := w.rest.look }
  | raised {leg : String × Side} {volume : ℚ} {e : Exn}
      (horder : partialOrder ex acct w.rest symbol closeVolume ticket = some (leg, volume))
      (hanswer : acct.order w.rest.sent = .error e) :
      PartialCloseRun w symbol closeVolume ticket (.error e)
        { w with rest := w.rest.look.settle (.error e) leg volume true }
  | answered {leg : String × Side} {volume : ℚ} {r res : TradeResult}
      (horder : partialOrder ex acct w.rest symbol closeVolume ticket = some (leg, volume))
      (hanswer : acct.order w.rest.sent = .ok r) (hsuccess : res.success = r.success)
      (hflag : res.Flagged ↔ r.Flagged) :
      PartialCloseRun w symbol closeVolume ticket (.ok res)
        { w with rest := w.rest.look.settle (.ok r) leg volume true }

theorem crypto_normalizeVolume_run (w : World ExchangeBook) (symbol : String) (volume : ℚ) :
    Prog.run acct.backend.serve (ex.normalizeVolume symbol volume) w =
      ((acct.other (.getSymbolFilter (ex.getSymbol symbol))).map
        (CryptoExecutor.normalizeWith · volume), w) := by
  rw [CryptoExecutor.normalizeVolume, Prog.run_bind_pure, run_exchange]
  rfl

theorem crypto_partialClose_run (w : World ExchangeBook) (symbol : String) (closeVolume : ℚ)
    (ticket : Nat) (strategy : Option String) (price : Option ℚ) :
    ∃ out w', Prog.run acct.backend.serve
      (ex.partialClosePosition symbol closeVolume ticket strategy price) w = (out, w') ∧
        PartialCloseRun ex acct w symbol closeVolume ticket out w' := by
  have hlist := crypto_getOpenPositions_run ex acct w symbol
  unfold CryptoExecutor.partialClosePosition
  cases hread : acct.read w.rest.reads with
  | some e =>
      rw [hread] at hlist
      exact ⟨_, _, Prog.run_bind_error _ hlist,
        .unsent (by simp [partialOrder, hread]) fun _ h => by cases h⟩
  | none =>
      rw [hread] at hlist
      rw [Prog.run_bind_ok _ hlist]
      cases hlive : w.rest.liveOn (ex.getSymbol symbol) with
      | nil =>
          exact ⟨_, _, rfl,
            .unsent (by simp [partialOrder, hread, hlive]) fun _ h => by cases h; rfl⟩
      | cons first rest =>
          dsimp only
          have hnormalize := crypto_normalizeVolume_run ex acct
            { w with rest := w.rest.look } symbol
            (min closeVolume (pickPosition first rest ticket).volume)
          cases hf : acct.other (.getSymbolFilter (ex.getSymbol symbol)) with
          | error e =>
              rw [hf] at hnormalize
              exact ⟨_, _, Prog.run_bind_error _ hnormalize,
                .unsent (by simp [partialOrder, hread, hlive, hf]) fun _ h => by cases h⟩
          | ok f =>
              rw [hf] at hnormalize
              rw [Prog.run_bind_ok _ hnormalize]
              beta_reduce
              by_cases hvolume : CryptoExecutor.normalizeWith f
                  (min closeVolume (pickPosition first rest ticket).volume) ≤ 0
              · rw [if_pos hvolume]
                exact ⟨_, _, rfl, .unsent (by simp [partialOrder, hread, hlive, hf, hvolume])
                  fun _ h => by cases h; rfl⟩
              · rw [if_neg hvolume]
                have horder : partialOrder ex acct w.rest symbol closeVolume ticket =
                    some ((pickPosition first rest ticket).leg, CryptoExecutor.normalizeWith f
                      (min closeVolume (pickPosition first rest ticket).volume)) := by
                  simp [partialOrder, hread, hlive, hf, hvolume]
                generalize CryptoExecutor.normalizeWith f
                  (min closeVolume (pickPosition first rest ticket).volume) = volume at horder ⊢
                have hpos := pickPosition_mem first rest ticket
                rw [← hlive, ExchangeBook.mem_liveOn] at hpos
                obtain ⟨id, hid⟩ :=
                  crypto_closeClientOrderId_run acct { w with rest := w.rest.look }
                have hsend := acct.run_placeMarketOrder { w with rest := w.rest.look }
                  (ex.getSymbol symbol) (pickPosition first rest ticket).side volume true id
                have hleg : (ex.getSymbol symbol, (pickPosition first rest ticket).side) =
                    (pickPosition first rest ticket).leg := by rw [← hpos.2.2]; rfl
                rw [hleg] at hsend
                change Prog.run _ _ _ = (acct.order w.rest.sent, { w with
                  rest := w.rest.look.settle (acct.order w.rest.sent) _ volume true }) at hsend
                rw [Prog.run_bind_ok _ hid]
                cases hanswer : acct.order w.rest.sent with
                | error e =>
                    rw [hanswer] at hsend
                    exact ⟨_, _, Prog.run_bind_error _ hsend, .raised horder hanswer⟩
                | ok r =>
                    rw [hanswer] at hsend
                    rw [Prog.run_bind_ok _ hsend]
                    by_cases hr : r.success = true
                    · obtain ⟨entry, hentry⟩ := crypto_entryPriceFromDb_run acct
                        { w with
                          rest := w.rest.look.settle (.ok r)
                            (pickPosition first rest ticket).leg volume true } symbol strategy
                      obtain ⟨profit, hprofit⟩ := crypto_attachRealizedPnl_run
                        (B := acct.backend)
                        (w := { w with
                          rest := w.rest.look.settle (.ok r)
                            (pickPosition first rest ticket).leg volume true })
                        { r with
                          sourceTicket := some (ticketText
                            (LivePosition.ticket (pickPosition first rest ticket))) }
                        (pickPosition first rest ticket) price entry rfl
                      rw [if_pos hr, Prog.run_bind_ok _ hentry]
                      exact ⟨_, _, hprofit, .answered horder hanswer rfl Iff.rfl⟩
                    · rw [if_neg hr]
                      exact ⟨_, _, rfl, .answered horder hanswer rfl Iff.rfl⟩

/-! ## A whole TP1 -/

/-- What a TP1 asks to close of the position it names, before rounding. -/
def tp1Volume (signal : Signal) (named : ExchangePosition) : Option ℚ :=
  if ex.config.volumeDecisionEnabled then
    ((cryptoMarket ex).resolveTp1Params signal).1.map fun percent =>
      named.volume * (percent / 100)
  else signal.quantity

/-- The order a TP1 sends: the position it names, the leg and the volume. -/
structure Tp1Order where
  named : ExchangePosition
  leg : String × Side
  volume : ℚ

def tp1Order (book : ExchangeBook) (signal : Signal) (ticket : Option String) :
    Option Tp1Order :=
  match acct.read book.reads,
      filterByTicket (book.liveOn (ex.getSymbol signal.symbol)) ticket,
      acct.other (.getSymbolFilter (ex.getSymbol signal.symbol)) with
  | none, named :: _, .ok f =>
      (tp1Volume ex signal named).bind fun asked =>
        (partialOrder ex acct book.look signal.symbol (CryptoExecutor.normalizeWith f asked)
          named.ticket).map fun order => ⟨named, order.1, order.2⟩
  | _, _, _ => none

/-- A TP1 that sends no order, whose order is not filled or that moves no stop
exposes nothing; otherwise everything depends on the stop move. -/
def Tp1KeepsStops (book : ExchangeBook) (signal : Signal) (ticket : Option String) : Prop :=
  ∀ o, tp1Order ex acct book signal ticket = some o →
    Batch.Fills (·.success) (acct.order book.sent) →
      ((cryptoMarket ex).resolveTp1Params signal).2 = true →
        MoveKeepsStops ex acct (book.look.look.fill o.leg o.volume) signal.symbol o.named.ticket

/-- How a TP1 can end: with its stops untouched, or in a stop move after its
order was filled. -/
inductive Tp1Run (w : World ExchangeBook) (signal : Signal) (ticket : Option String) :
    Except Exn TradeResult → World ExchangeBook → Prop where
  | untouched {out : Except Exn TradeResult} {w' : World ExchangeBook}
      (hstops : w'.rest.stops = w.rest.stops)
      (hsafe : Tp1KeepsStops ex acct w.rest signal ticket) : Tp1Run w signal ticket out w'
  | moved {out : Except Exn TradeResult} {w' : World ExchangeBook} {o : Tp1Order}
      {closeResult : TradeResult}
      (horder : tp1Order ex acct w.rest signal ticket = some o)
      (hfill : Batch.Fills (·.success) (acct.order w.rest.sent))
      (hmove : ((cryptoMarket ex).resolveTp1Params signal).2 = true)
      (hclose : ¬ closeResult.Flagged)
      (hrun : Prog.run acct.backend.serve
        ((cryptoMarket ex).moveSlToBreakeven signal o.named closeResult)
        { w with rest := w.rest.look.look.fill o.leg o.volume } = (out, w')) :
      Tp1Run w signal ticket out w'

theorem crypto_resolveTp1Volume_run (w : World ExchangeBook) (signal : Signal)
    (named : ExchangePosition) :
    ∃ out, Prog.run acct.backend.serve ((cryptoMarket ex).resolveTp1Volume signal named
        ((cryptoMarket ex).resolveTp1Params signal).1) w = (out, w) ∧
      match tp1Volume ex signal named with
      | some asked =>
          out = (acct.other (.getSymbolFilter (ex.getSymbol signal.symbol))).map fun f =>
            .ok (CryptoExecutor.normalizeWith f asked)
      | none => ∃ failure, out = .ok (.error failure) := by
  have hrun : ∀ volume, Prog.run acct.backend.serve
      (ex.normalizeVolume signal.symbol volume >>= fun v => pure (.ok v)) w =
        ((acct.other (.getSymbolFilter (ex.getSymbol signal.symbol))).map fun f =>
          (.ok (CryptoExecutor.normalizeWith f volume) : Except TradeResult ℚ), w) := by
    intro volume
    rw [Prog.run_bind_pure, crypto_normalizeVolume_run]
    cases acct.other (.getSymbolFilter (ex.getSymbol signal.symbol)) <;> rfl
  have hconfig : (cryptoMarket ex).config = ex.config := rfl
  unfold ExecutorBackedMarket.resolveTp1Volume tp1Volume
  rw [hconfig]
  split
  · cases ((cryptoMarket ex).resolveTp1Params signal).1 with
    | none => exact ⟨_, rfl, _, rfl⟩
    | some percent => exact ⟨_, hrun _, rfl⟩
  · cases signal.quantity with
    | none => exact ⟨_, rfl, _, rfl⟩
    | some quantity => exact ⟨_, hrun _, rfl⟩

theorem crypto_tp1_run (w : World ExchangeBook) (signal : Signal) (ticket : Option String)
    {out : Except Exn TradeResult} {w' : World ExchangeBook}
    (hrun : Prog.run acct.backend.serve ((cryptoMarket ex).handleTp1 signal ticket) w =
      (out, w')) : Tp1Run ex acct w signal ticket out w' := by
  have hread := crypto_getOpenPositions_run ex acct w signal.symbol
  unfold ExecutorBackedMarket.handleTp1 ExecutorBackedMarket.getOpenPositions at hrun
  rw [Prog.bind_bind] at hrun
  have hnone : ∀ {out : Except Exn TradeResult} {book : ExchangeBook},
      tp1Order ex acct w.rest signal ticket = none → book.stops = w.rest.stops →
      Tp1Run ex acct w signal ticket out { w with rest := book } := fun horder hstops =>
    .untouched hstops fun o ho => by cases horder.symm.trans ho
  cases hr : acct.read w.rest.reads with
  | some e =>
      rw [hr] at hread
      cases hrun.symm.trans (Prog.run_bind_error _ hread)
      exact hnone (by simp [tp1Order, hr]) rfl
  | none =>
      rw [hr] at hread
      have hrun := hrun.symm.trans (Prog.run_bind_ok _ hread)
      dsimp only [Prog.pure_eq, Prog.ret_bind] at hrun
      cases hmatched : filterByTicket (w.rest.liveOn (ex.getSymbol signal.symbol)) ticket with
      | nil =>
          rw [hmatched] at hrun
          cases hrun
          exact hnone (by simp [tp1Order, hr, hmatched]) rfl
      | cons named _ =>
          rw [hmatched] at hrun
          dsimp only at hrun
          obtain ⟨volume, hvolume, hasked⟩ := crypto_resolveTp1Volume_run ex acct
            { w with rest := w.rest.look } signal named
          cases hv : tp1Volume ex signal named with
          | none =>
              simp only [hv] at hasked
              obtain ⟨failure, rfl⟩ := hasked
              have hrun := hrun.trans (Prog.run_bind_ok _ hvolume)
              cases hrun
              exact hnone (by
                unfold tp1Order
                rw [hr, hmatched]
                split <;> simp_all) rfl
          | some asked =>
              simp only [hv] at hasked
              subst hasked
              cases hf : acct.other (.getSymbolFilter (ex.getSymbol signal.symbol)) with
              | error e =>
                  rw [hf] at hvolume
                  cases hrun.trans (Prog.run_bind_error _ hvolume)
                  exact hnone (by simp [tp1Order, hr, hmatched, hf]) rfl
              | ok f =>
                  rw [hf] at hvolume
                  have hrun := hrun.trans (Prog.run_bind_ok _ hvolume)
                  dsimp only at hrun
                  obtain ⟨closed, w₁, hclose, hclosed⟩ := crypto_partialClose_run ex acct
                    { w with rest := w.rest.look } signal.symbol
                    (CryptoExecutor.normalizeWith f asked) named.ticket (some signal.strategy)
                    signal.price
                  have horder : tp1Order ex acct w.rest signal ticket =
                      (partialOrder ex acct w.rest.look signal.symbol
                        (CryptoExecutor.normalizeWith f asked) named.ticket).map
                          fun order => ⟨named, order.1, order.2⟩ := by
                    simp [tp1Order, hr, hmatched, hf, hv]
                  cases hclosed with
                  | unsent hunsent hout =>
                      rw [hunsent] at horder
                      cases closed with
                      | error e =>
                          cases hrun.trans (Prog.run_bind_error _ hclose)
                          exact hnone horder rfl
                      | ok res =>
                          have hrun := hrun.trans (Prog.run_bind_ok _ hclose)
                          simp only [hout res rfl, Bool.false_eq_true, false_and, if_false] at hrun
                          cases hrun
                          exact hnone horder rfl
                  | raised hsent hanswer =>
                      cases hrun.trans (Prog.run_bind_error _ hclose)
                      refine .untouched (by simp [ExchangeBook.look]) fun _ _ ⟨r, hok, _⟩ => ?_
                      cases hanswer.symm.trans hok
                  | @answered leg volume r res hsent hanswer hsuccess hflag =>
                      have hrun := hrun.trans (Prog.run_bind_ok _ hclose)
                      rw [hsent] at horder
                      by_cases hmove : res.success = true ∧
                          ((cryptoMarket ex).resolveTp1Params signal).2 = true
                      · rw [if_pos hmove] at hrun
                        have hr' : r.success = true := hsuccess.symm.trans hmove.1
                        have hfilled : w.rest.look.look.settle (.ok r) leg volume true =
                            w.rest.look.look.fill leg volume := by
                          simp [ExchangeBook.settle, hr']
                        rw [hfilled] at hrun
                        exact .moved horder ⟨r, hanswer, hr'⟩ hmove.2
                          (mt hflag.mp (acct.unflagged _ _ hanswer)) hrun.symm
                      · rw [if_neg hmove] at hrun
                        cases hrun
                        refine .untouched (by simp [ExchangeBook.look])
                          fun _ _ ⟨r', hok, hr'⟩ hparam => ?_
                        cases hanswer.symm.trans hok
                        exact absurd ⟨hsuccess.trans hr', hparam⟩ hmove

/-! ## Legs only close -/

theorem StopMoveRun.positions {w w' : World ExchangeBook} {symbol : String} {ticket : Nat}
    {out : Except Exn TradeResult} (h : StopMoveRun ex acct w symbol ticket out w') :
    w'.rest.positions = w.rest.positions := by
  cases h <;> rfl

theorem CryptoCloseRun.positions {w w' : World ExchangeBook} {symbol reason : String}
    {ticket : Option String} {out : Except Exn TradeResult}
    (h : CryptoCloseRun ex acct w symbol reason ticket out w') :
    w'.rest.positions.Sublist w.rest.positions := by
  cases h with
  | readFails _ => exact List.Sublist.refl _
  | noneFound _ _ => exact List.Sublist.refl _
  | cancelFails _ _ _ => exact List.Sublist.refl _
  | sent _ _ _ hpositions _ _ _ _ =>
      rw [hpositions]
      exact List.filter_sublist

theorem moveSl_positions (w : World ExchangeBook) (signal : Signal) (pos : ExchangePosition)
    (closeResult : TradeResult) {out : Except Exn TradeResult} {w' : World ExchangeBook}
    (hrun : Prog.run acct.backend.serve
      ((cryptoMarket ex).moveSlToBreakeven signal pos closeResult) w = (out, w')) :
    w'.rest.positions.Sublist w.rest.positions := by
  obtain ⟨moved, w₁, hmove, hmoved⟩ := crypto_updatePositionSl_run ex acct w signal.symbol
    pos.priceOpen pos.ticket (some signal.strategy)
  have hpositions := hmoved.positions
  cases moved with
  | error e =>
      cases hrun.symm.trans (Prog.run_bind_error _ hmove)
      rw [hpositions]
  | ok r =>
      have hrun := hrun.symm.trans (Prog.run_bind_ok _ hmove)
      by_cases hr : r.success = true
      · rw [if_pos hr] at hrun
        cases hrun
        rw [hpositions]
      · rw [if_neg hr, Prog.run_bind_pure] at hrun
        obtain ⟨out₂, w₂, hfailsafe, hclosed⟩ := crypto_closeAll_run ex acct w₁ signal.symbol
          "SL_FAILSAFE" (some signal.strategy) signal.price none
        simp only [cryptoMarket, CryptoExecutor.protocol, hfailsafe] at hrun
        cases hrun
        rw [← hpositions]
        exact hclosed.positions

theorem partialOrder_pos {book : ExchangeBook} {symbol : String} {closeVolume : ℚ}
    {ticket : Nat} {order : (String × Side) × ℚ}
    (h : partialOrder ex acct book symbol closeVolume ticket = some order) : 0 < order.2 := by
  unfold partialOrder at h
  split at h
  · dsimp only at h
    split at h
    · cases h
    · rename_i hvolume
      cases h
      exact not_le.mp hvolume
  · cases h

theorem tp1Order_pos {book : ExchangeBook} {signal : Signal} {ticket : Option String}
    {o : Tp1Order} (h : tp1Order ex acct book signal ticket = some o) : 0 < o.volume := by
  unfold tp1Order at h
  split at h
  · obtain ⟨asked, -, hmap⟩ := Option.bind_eq_some_iff.mp h
    obtain ⟨order, horder, rfl⟩ := Option.map_eq_some_iff.mp hmap
    exact partialOrder_pos ex acct horder
  · cases h

theorem ExchangeBook.live_of_live_fill {book : ExchangeBook} {leg l : String × Side}
    {volume : ℚ} (hvolume : 0 < volume) (h : (book.fill leg volume).Live l) : book.Live l := by
  obtain ⟨q, hq, rfl, hlive⟩ := h
  obtain ⟨p, hp, hpq⟩ := List.mem_filterMap.mp hq
  split at hpq
  · refine ⟨p, hp, (ExchangePosition.reduce_leg hpq).symm, ?_⟩
    unfold ExchangePosition.reduce at hpq
    split at hpq
    · exact hvolume.trans ‹_›
    · cases hpq
  · cases hpq
    exact ⟨_, hp, rfl, hlive⟩

/-- What a stop move exposes after a partial fill, it exposes of the book before. -/
theorem exposes_fill_iff {book after : ExchangeBook} {leg : String × Side} {volume : ℚ}
    (hvolume : 0 < volume)
    (hafter : after.positions.Sublist (book.fill leg volume).positions) :
    Exposes book after ↔ Exposes (book.fill leg volume) after := by
  have hlive : ∀ l, after.Live l → (book.fill leg volume).Live l :=
    fun l ⟨p, hp, hleg⟩ => ⟨p, hafter.subset hp, hleg⟩
  constructor
  · rintro ⟨l, hl, -, hnaked, h⟩
    exact ⟨l, hl, hlive l h, hnaked, h⟩
  · rintro ⟨l, hl, -, hnaked, h⟩
    exact ⟨l, hl, ExchangeBook.live_of_live_fill hvolume (hlive l h), hnaked, h⟩

theorem handleTp1_keepsStops_iff (w : World ExchangeBook) (signal : Signal)
    (ticket : Option String) {out : Except Exn TradeResult} {w' : World ExchangeBook}
    (hrun : Prog.run acct.backend.serve ((cryptoMarket ex).handleTp1 signal ticket) w =
      (out, w')) :
    KeepsStops w.rest out w'.rest ↔ Tp1KeepsStops ex acct w.rest signal ticket := by
  cases crypto_tp1_run ex acct w signal ticket hrun with
  | untouched hstops hsafe =>
      exact iff_of_true (Or.inr (not_exposes_of_stops fun _ h => hstops ▸ h)) hsafe
  | moved horder hfill hmove hclose hrun =>
      have hiff := moveSl_keepsStops_iff ex acct _ signal _ hclose hrun
      have hexposes := exposes_fill_iff (tp1Order_pos ex acct horder)
        (moveSl_positions ex acct _ signal _ _ hrun)
      rw [KeepsStops, show Exposes w.rest w'.rest ↔ _ from hexposes]
      refine hiff.trans ⟨fun hkeeps o ho _ _ => ?_, fun h => h _ horder hfill hmove⟩
      cases horder.symm.trans ho
      exact hkeeps

/-! ## Both operations -/

/-- An operation that takes stops off the exchange: a full close, or a TP1 with
its stop move and failsafe. -/
inductive StopOperation where
  | closeAll (symbol reason : String) (strategy : Option String) (price : Option ℚ)
      (ticket : Option String)
  | tp1 (signal : Signal) (ticket : Option String)

/-- The operation's program. -/
def StopOperation.program : StopOperation → Work TradeResult
  | .closeAll symbol reason strategy price ticket =>
      ex.closeAllPositions symbol reason strategy price ticket
  | .tp1 signal ticket => (cryptoMarket ex).handleTp1 signal ticket

/-- Where the operation leaves no leg naked unnoticed. -/
def StopOperation.Safe (book : ExchangeBook) : StopOperation → Prop
  | .closeAll symbol _ _ _ ticket => CloseKeepsStops ex acct book symbol ticket
  | .tp1 signal ticket => Tp1KeepsStops ex acct book signal ticket

theorem stopOperation_keepsStops_iff (w : World ExchangeBook) (o : StopOperation) :
    KeepsStops w.rest (Prog.run acct.backend.serve (o.program ex) w).1
        (Prog.run acct.backend.serve (o.program ex) w).2.rest ↔
      o.Safe ex acct w.rest := by
  cases o with
  | closeAll symbol reason strategy price ticket =>
      exact closeAll_keepsStops_iff ex acct w symbol reason strategy price ticket rfl
  | tp1 signal ticket => exact handleTp1_keepsStops_iff ex acct w signal ticket rfl

end Crypto

/-! ## A refused close after the cancellation -/

/-- An exchange that cancels what it is asked to and refuses every market order. -/
def refusingExchange : ExchangeAccount where
  read _ := none
  order _ := .ok (.fail "Margin is insufficient")
  cancel _ := .ok ()
  stopLoss _ := .ok { success := true }
  other _ := .error (.gateway "not connected")
  host := HostOp.quiet
  unflagged := by
    rintro n r h
    cases h
    exact TradeResult.not_flagged rfl rfl (by decide)

/-- A long on `BTCUSDT` with a resting stop. -/
def stoppedLong : World ExchangeBook where
  db := .empty
  rest := {
    positions := [⟨"BTCUSDT", .long, 1, 60000, 7⟩]
    stops := [("BTCUSDT", .long)]
    distinct := by decide }

/-- The refused close leaves the position live, without its stop and unflagged. -/
theorem refusedClose_exposes :
    ¬ KeepsStops stoppedLong.rest
      (Prog.run refusingExchange.backend.serve
        ((StopOperation.closeAll "BTCUSDT" "SL" none none none).program { config := {} })
        stoppedLong).1
      (Prog.run refusingExchange.backend.serve
        ((StopOperation.closeAll "BTCUSDT" "SL" none none none).program { config := {} })
        stoppedLong).2.rest := by
  refine (closeAll_keepsStops_iff { config := {} } refusingExchange stoppedLong "BTCUSDT" "SL"
    none none none rfl).not.mpr ?_
  have hlive : stoppedLong.rest.liveOn (CryptoExecutor.getSymbol { config := {} } "BTCUSDT") =
      [⟨"BTCUSDT", .long, 1, 60000, 7⟩] := by decide
  rintro (hread | hnone | hcancel | hfilled)
  · exact hread rfl
  · rw [hlive] at hnone
    cases hnone
  · exact hcancel rfl
  · rw [hlive] at hfilled
    cases hfilled _ (List.mem_singleton_self _) (by decide)

end TradeWorker
