import TradeWorker.Closing

/-!
# The crypto executor on a simulated exchange

What each operation of `CryptoExecutor` does to an exchange account's book,
whatever the account answers: the reads, the loop of closes, and a whole
`close_all_positions` by the point where it ends.
-/

namespace TradeWorker

def ExchangeBook.liveOn (book : ExchangeBook) (symbol : String) : List ExchangePosition :=
  (book.positions.filter (0 < ·.volume)).filter (·.symbol = symbol)

theorem ExchangeBook.mem_liveOn {book : ExchangeBook} {symbol : String}
    {p : ExchangePosition} :
    p ∈ book.liveOn symbol ↔ p ∈ book.positions ∧ 0 < p.volume ∧ p.symbol = symbol := by
  simp [liveOn, and_comm (a := p.symbol = symbol)]

theorem ExchangeBook.liveOn_sublist (book : ExchangeBook) (symbol : String) :
    (book.liveOn symbol).Sublist book.positions :=
  List.filter_sublist.trans List.filter_sublist

section Crypto

variable (ex : CryptoExecutor) (acct : ExchangeAccount)

/-! ## Reads -/

theorem crypto_getOpenPositions_run (w : World ExchangeBook) (symbol : String) :
    Prog.run acct.backend.serve (ex.getOpenPositions symbol) w =
      (match acct.read w.rest.reads with
        | some e => .error e
        | none => .ok (w.rest.liveOn (ex.getSymbol symbol)),
       { w with rest := w.rest.look }) := by
  rw [CryptoExecutor.getOpenPositions, Prog.run_bind,
    acct.run_getPositions w (ex.getSymbol symbol)]
  cases acct.read w.rest.reads with
  | some e => rfl
  | none => simp [ExchangeBook.liveOn, List.filter_filter, Bool.and_comm]

theorem crypto_closeClientOrderId_run (w : World ExchangeBook) :
    ∃ id, Prog.run acct.backend.serve CryptoExecutor.closeClientOrderId w = (.ok id, w) :=
  ⟨_, rfl⟩

/-- A profit is attached and nothing moves, on an exchange that can be asked without moving. -/
theorem crypto_attachRealizedPnl_run {β : Type} {B : Backend β} {w : World β}
    (result : TradeResult) (pos : ExchangePosition) (price entry : Option ℚ)
    (hstill : (B.cx (.getOrderRealizedPnl pos.symbol result.ticket) w.rest).2 = w.rest) :
    ∃ profit, Prog.run B.serve (CryptoExecutor.attachRealizedPnl result pos price entry) w =
      (.ok { result with profit }, w) := by
  unfold CryptoExecutor.attachRealizedPnl
  split
  · exact ⟨_, rfl⟩
  · dsimp only
    split
    · exact ⟨_, rfl⟩
    · have hlookup : ∃ profit, Prog.run B.serve
          (CryptoExecutor.exchangeRealizedPnl pos result.ticket) w = (.ok profit, w) := by
        unfold CryptoExecutor.exchangeRealizedPnl
        rw [Prog.run_tryCatch, run_exchange, hstill]
        cases (B.cx (.getOrderRealizedPnl pos.symbol result.ticket) w.rest).1 with
        | ok profit => exact ⟨profit, rfl⟩
        | error e => exact ⟨none, rfl⟩
      obtain ⟨profit, hprofit⟩ := hlookup
      exact ⟨_, Prog.run_bind_ok _ hprofit⟩

theorem crypto_entryPriceFromDb_run (w : World ExchangeBook) (symbol : String)
    (strategy : Option String) :
    ∃ price, Prog.run acct.backend.serve
      (CryptoExecutor.entryPriceFromDb symbol strategy) w = (.ok price, w) := by
  unfold CryptoExecutor.entryPriceFromDb
  split
  · exact ⟨_, rfl⟩
  · exact ⟨_, rfl⟩

/-- The loop takes the filled legs off the book. -/
theorem crypto_closeEach_run (resolved : String) (price entry : Option ℚ)
    (ps : List ExchangePosition) (w : World ExchangeBook) (hnodup : ps.Nodup)
    (hps : ∀ p ∈ ps, p ∈ w.rest.positions ∧ p.symbol = resolved) :
    ∃ w' out, Prog.run acct.backend.serve
        (CryptoExecutor.closeEach resolved price entry ps) w = (out, w') ∧
      w'.db = w.db ∧
      w'.rest.positions = w.rest.positions.filter (fun p =>
        p.leg ∉ (Batch.filled (·.success) acct.order w.rest.sent ps).map (·.leg)) ∧
      w'.rest.sent = Batch.next acct.order w.rest.sent ps ∧
      w'.rest.cancels = w.rest.cancels ∧ w'.rest.stops = w.rest.stops ∧
      LoopReturns acct.order w.rest.sent ps out := by
  induction ps generalizing w with
  | nil => exact ⟨w, .ok [], rfl, rfl, by simp [Batch.filled], rfl, rfl, rfl, LoopReturns.nil⟩
  | cons p ps ih =>
      obtain ⟨hp, hsymbol⟩ := hps p List.mem_cons_self
      obtain ⟨hne, hnodup⟩ := List.nodup_cons.mp hnodup
      obtain ⟨id, hid⟩ := crypto_closeClientOrderId_run acct w
      have horder := acct.run_placeMarketOrder w resolved p.side p.volume true id
      rw [CryptoExecutor.closeEach, Prog.run_bind_ok _ hid]
      have hleg : (resolved, p.side) = p.leg := by rw [← hsymbol]; rfl
      rw [hleg] at horder
      cases hc : acct.order w.rest.sent with
      | error e =>
          refine ⟨{ w with rest := w.rest.settle (.error e) p.leg p.volume true }, .error e,
            Prog.run_bind_error _ (hc ▸ horder), rfl, ?_, ?_, ?_, ?_,
            LoopReturns.error hc⟩
          · simp [Batch.filled, hc, ExchangeBook.settle, ExchangeBook.refuse]
          · simp [Batch.next, hc]
          · simp
          · simp
      | ok r =>
          rw [hc] at horder
          rw [Prog.run_bind_ok _ horder]
          generalize hw₁ : ({ w with
            rest := w.rest.settle (.ok r) p.leg p.volume true } : World ExchangeBook) = w₁
          have hpositions₁ : w₁.rest.positions = w.rest.positions.filter (fun q =>
              q.leg ∉ (if r.success then [p] else []).map (·.leg)) := by
            subst hw₁
            cases hs : r.success with
            | true =>
                simp [ExchangeBook.settle, hs, ExchangeBook.fill,
                  reduceLeg_volume w.rest.distinct hp]
            | false => simp [ExchangeBook.settle, hs, ExchangeBook.refuse]
          have hrest : ∀ q ∈ ps, q ∈ w₁.rest.positions ∧ q.symbol = resolved := by
            intro q hq
            obtain ⟨hqw, hqs⟩ := hps q (List.mem_cons_of_mem _ hq)
            refine ⟨?_, hqs⟩
            rw [hpositions₁, List.mem_filter]
            refine ⟨hqw, ?_⟩
            have hlegs : q.leg ≠ p.leg := fun h =>
              hne (List.inj_on_of_nodup_map w.rest.distinct hqw hp h ▸ hq)
            split <;> simp [hlegs]
          obtain ⟨w', out, hrun, hdb, hpositions, hsent, hcancels, hstops, hout⟩ :=
            ih w₁ hnodup hrest
          have hsent₁ : w₁.rest.sent = w.rest.sent + 1 := by subst hw₁; simp
          rw [hsent₁] at hpositions hsent hout
          obtain ⟨profit, hres⟩ := crypto_attachRealizedPnl_run (B := acct.backend) (w := w₁)
            r p price entry rfl
          refine ⟨w', _, ?_, ?_, ?_, ?_, ?_, ?_, hout.cons hc { r with profit } rfl⟩
          · by_cases hs : r.success = true
            · rw [if_pos hs, Prog.run_bind_ok _ hres, Prog.run_bind, hrun]
              simp only [if_pos hs]
              cases out <;> rfl
            · rw [if_neg hs, hrun]
              simp only [if_neg hs]
              cases out <;> rfl
          · rw [hdb, ← hw₁]
          · rw [hpositions, hpositions₁, List.filter_filter]
            refine List.filter_congr fun q _ => ?_
            cases hs : r.success <;> simp [Batch.filled, hc, hs, Bool.and_comm]
          · rw [hsent]
            simp [Batch.next, hc]
          · rw [hcancels, ← hw₁]
            simp
          · rw [hstops, ← hw₁]
            simp

/-! ## A whole close -/

/-- How a `close_all_positions` can end: at the read, with nothing found, at the
cancellation, or with its orders sent. -/
inductive CryptoCloseRun (w : World ExchangeBook) (symbol reason : String)
    (ticket : Option String) : Except Exn TradeResult → World ExchangeBook → Prop where
  | readFails {e : Exn} (hread : acct.read w.rest.reads = some e) :
      CryptoCloseRun w symbol reason ticket (.error e) { w with rest := w.rest.look }
  | noneFound (hread : acct.read w.rest.reads = none)
      (hnone : filterByTicket (w.rest.liveOn (ex.getSymbol symbol)) ticket = []) :
      CryptoCloseRun w symbol reason ticket (.ok (.fail "No Positions Found"))
        { w with rest := w.rest.look }
  | cancelFails {first : ExchangePosition} {rest : List ExchangePosition} {e : Exn}
      (hread : acct.read w.rest.reads = none)
      (hbatch : filterByTicket (w.rest.liveOn (ex.getSymbol symbol)) ticket = first :: rest)
      (hcancel : acct.cancel w.rest.cancels = .error e) :
      CryptoCloseRun w symbol reason ticket (.error e)
        { w with rest := w.rest.look.clear (.error e) (ex.getSymbol symbol) }
  | sent {first : ExchangePosition} {rest : List ExchangePosition} {book : ExchangeBook}
      {results : Except Exn (List TradeResult)}
      (hread : acct.read w.rest.reads = none)
      (hbatch : filterByTicket (w.rest.liveOn (ex.getSymbol symbol)) ticket = first :: rest)
      (hcancel : acct.cancel w.rest.cancels = .ok ())
      (hpositions : book.positions = w.rest.positions.filter
        (· ∉ Batch.filled (·.success) acct.order w.rest.sent (first :: rest)))
      (hsent : book.sent = Batch.next acct.order w.rest.sent (first :: rest))
      (hcancels : book.cancels = w.rest.cancels + 1)
      (hstops : book.stops = w.rest.stops.filter (·.1 ≠ ex.getSymbol symbol))
      (hloop : LoopReturns acct.order w.rest.sent (first :: rest) results) :
      CryptoCloseRun w symbol reason ticket
        (results.map (CryptoExecutor.closeReport reason first)) { w with rest := book }

theorem crypto_closeAll_run (w : World ExchangeBook) (symbol reason : String)
    (strategy : Option String) (price : Option ℚ) (ticket : Option String) :
    ∃ out w', Prog.run acct.backend.serve
      (ex.closeAllPositions symbol reason strategy price ticket) w = (out, w') ∧
        CryptoCloseRun ex acct w symbol reason ticket out w' := by
  have hlist := crypto_getOpenPositions_run ex acct w symbol
  unfold CryptoExecutor.closeAllPositions
  dsimp only
  cases hread : acct.read w.rest.reads with
  | some e =>
      rw [hread] at hlist
      exact ⟨_, _, Prog.run_bind_error _ hlist, .readFails hread⟩
  | none =>
      rw [hread] at hlist
      rw [Prog.run_bind_ok _ hlist]
      cases hbatch : filterByTicket (w.rest.liveOn (ex.getSymbol symbol)) ticket with
      | nil => exact ⟨_, _, rfl, .noneFound hread hbatch⟩
      | cons first rest =>
          have hsub : (first :: rest).Sublist (w.rest.liveOn (ex.getSymbol symbol)) := by
            rw [← hbatch]
            exact filterByTicket_sublist
          have hmem := fun p hp => ExchangeBook.mem_liveOn.mp (hsub.subset (a := p) hp)
          have hcancel := acct.run_cancelAllOrders { w with rest := w.rest.look }
            (ex.getSymbol symbol)
          change Prog.run _ _ _ = (acct.cancel w.rest.cancels, { w with
            rest := w.rest.look.clear (acct.cancel w.rest.cancels) _ }) at hcancel
          dsimp only
          cases hc : acct.cancel w.rest.cancels with
          | error e =>
              rw [hc] at hcancel
              exact ⟨_, _, Prog.run_bind_error _ hcancel, .cancelFails hread hbatch hc⟩
          | ok u =>
              rw [hc] at hcancel
              rw [Prog.run_bind_ok _ hcancel]
              obtain ⟨entry, hentry⟩ := crypto_entryPriceFromDb_run acct { w with
                rest := w.rest.look.clear (.ok u) (ex.getSymbol symbol) } symbol strategy
              obtain ⟨w', results, hrun, hdb, hpositions, hsent, hcancels, hstops, hloop⟩ :=
                crypto_closeEach_run acct (ex.getSymbol symbol) price entry (first :: rest)
                  { w with rest := w.rest.look.clear (.ok u) (ex.getSymbol symbol) }
                  ((List.Nodup.of_map _ w.rest.distinct).sublist
                    (hsub.trans (w.rest.liveOn_sublist _)))
                  fun p hp => ⟨(hmem p hp).1, (hmem p hp).2.2⟩
              have hw' : w' = { w with rest := w'.rest } := by
                cases w'
                cases hdb
                rfl
              rw [Prog.run_bind_ok _ hentry, Prog.run_bind, hrun, hw']
              refine ⟨results.map (CryptoExecutor.closeReport reason first), _, ?_,
                .sent hread hbatch hc ?_ hsent hcancels hstops hloop⟩
              · cases results <;> rfl
              · exact hpositions.trans (filter_key_not_mem w.rest.distinct fun p hp =>
                  (hmem p (Batch.mem_of_mem_filled hp)).1)

end Crypto

end TradeWorker
