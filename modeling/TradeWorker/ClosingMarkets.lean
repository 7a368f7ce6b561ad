import TradeWorker.ExchangeRuns

/-!
# Both markets close this way

The forex market against a simulated forex account, and the crypto market
against a simulated exchange whose reads succeed, are closing markets.
-/

namespace TradeWorker

/-! ## Forex -/

section Forex

variable (ex : ForexExecutor) (acct : ForexAccount)

def forexScript : CloseScript PlatformPosition where
  order := acct.close
  opening _ := none
  matching live symbol strategy :=
    ex.scope strategy (live.filter (·.symbol = acct.resolve symbol))

def forexView (book : ForexBook) : BookView PlatformPosition where
  live := book.positions
  sent := book.sent
  rounds := 0

theorem forex_getOpenPositions_run (w : World ForexBook) (symbol : String)
    (strategy : Option String) :
    Prog.run acct.backend.serve (ex.getOpenPositions symbol strategy) w =
      ((forexScript ex acct).matching (forexView w.rest).live symbol strategy, w) :=
  Prog.run_ofExcept ..

theorem forex_scope_sublist {strategy : Option String} {positions ps : List PlatformPosition}
    (h : ex.scope strategy positions = .ok ps) : ps.Sublist positions := by
  unfold ForexExecutor.scope at h
  split at h
  · cases h
    exact List.filter_sublist
  · rename_i s
    cases hm : ex.magicFor (some s) with
    | error e => simp [hm, Except.map] at h
    | ok magic =>
        rw [hm] at h
        cases h
        exact List.filter_sublist

/-- The loop takes the filled tickets off the book. -/
theorem forex_closeEach_run (comment : String) (ps : List PlatformPosition)
    (w : World ForexBook) :
    ∃ w' out, Prog.run acct.backend.serve (ForexExecutor.closeEach comment ps) w =
        (out, w') ∧
      w'.db = w.db ∧
      w'.rest.positions = w.rest.positions.filter (fun p =>
        p.ticket ∉ (Batch.filled (·.success) acct.close w.rest.sent ps).map (·.ticket)) ∧
      w'.rest.sent = Batch.next acct.close w.rest.sent ps ∧
      LoopReturns acct.close w.rest.sent ps out := by
  induction ps generalizing w with
  | nil => exact ⟨w, .ok [], rfl, rfl, by simp [Batch.filled], rfl, LoopReturns.nil⟩
  | cons p ps ih =>
      have hclose := acct.run_closePosition w p none comment
      cases hc : acct.close w.rest.sent with
      | error e =>
          refine ⟨{ w with rest := w.rest.settle (.error e) p.ticket none }, .error e, ?_,
            rfl, ?_, ?_, LoopReturns.error hc⟩
          · exact Prog.run_bind_error _ (hc ▸ hclose)
          · simp [Batch.filled, hc, ForexBook.settle, ForexBook.refuse]
          · simp [Batch.next, hc]
      | ok r =>
          obtain ⟨w', out, hrun, hdb, hpositions, hsent, hout⟩ :=
            ih { w with rest := w.rest.settle (.ok r) p.ticket none }
          simp only [ForexBook.settle_sent] at hpositions hsent hout
          refine ⟨w', _, ?_, hdb, ?_, ?_, hout.cons hc r rfl⟩
          · rw [hc] at hclose
            rw [ForexExecutor.closeEach, Prog.run_bind_ok _ hclose, Prog.run_bind, hrun]
            cases out <;> rfl
          · rw [hpositions]
            cases hs : r.success with
            | true =>
                simp [Batch.filled, hc, hs, ForexBook.settle, ForexBook.fill, closeTicket_none,
                  List.filter_filter, Bool.and_comm]
            | false => simp [Batch.filled, hc, hs, ForexBook.settle, ForexBook.refuse]
          · rw [hsent]
            simp [Batch.next, hc]

variable {ex acct} in
theorem forex_batch_subset {book : ForexBook} {r : CloseRequest}
    {ps : List PlatformPosition}
    (h : (forexScript ex acct).batch (forexView book) r = .ok ps) {p : PlatformPosition}
    (hp : p ∈ ps) : p ∈ book.positions := by
  unfold CloseScript.batch at h
  cases hm : (forexScript ex acct).matching (forexView book).live r.symbol r.strategy with
  | error e => simp [hm, Except.map] at h
  | ok all =>
      rw [hm] at h
      cases h
      exact (List.mem_filter.mp
        ((forex_scope_sublist ex hm).subset (mem_of_mem_filterByTicket hp))).1

/-- A forex close is a run of its script. -/
theorem forex_closes (w : World ForexBook) (r : CloseRequest) (reason : String) :
    ∃ w' out, Prog.run acct.backend.serve
      (ex.closeAllPositions r.symbol reason r.strategy r.ticket) w = (out, w') ∧
        ClosesAs (forexScript ex acct) forexView r w w' out := by
  have hread := forex_getOpenPositions_run ex acct w r.symbol r.strategy
  unfold ForexExecutor.closeAllPositions
  cases hmatching : (forexScript ex acct).matching (forexView w.rest).live r.symbol
      r.strategy with
  | error e =>
      have hbatch : (forexScript ex acct).batch (forexView w.rest) r = .error e := by
        simp [CloseScript.batch, hmatching, Except.map]
      exact ⟨w, _, Prog.run_bind_error _ (hmatching ▸ hread),
        ClosesAs.of_query_error hbatch rfl rfl⟩
  | ok positions =>
      have hbatch : (forexScript ex acct).batch (forexView w.rest) r =
          .ok (filterByTicket positions r.ticket) := by
        simp [CloseScript.batch, hmatching, Except.map]
      rw [Prog.run_bind_ok _ (hmatching ▸ hread)]
      cases hps : filterByTicket positions r.ticket with
      | nil => exact ⟨w, _, rfl, ClosesAs.of_none_found (hps ▸ hbatch) rfl rfl⟩
      | cons first rest =>
          rw [hps] at hbatch
          obtain ⟨w', results, hrun, hdb, hpositions, hsent, hloop⟩ :=
            forex_closeEach_run acct s!"Full Close {reason}" (first :: rest) w
          have hgone : ∀ p ∈ Batch.filled (·.success) acct.close w.rest.sent (first :: rest),
              p ∈ w.rest.positions := fun p hp =>
            forex_batch_subset hbatch (Batch.mem_of_mem_filled hp)
          refine ⟨w', results.map (ForexExecutor.closeReport reason first), ?_,
            ClosesAs.of_loop hbatch rfl hdb ?_ hsent rfl hloop
              (ForexExecutor.closeReport_success reason first)
              (fun _ => ForexExecutor.closeReport_sourceTicket)
              (ForexExecutor.closeReport_ticket reason first) (by simp) (by simp)⟩
          · dsimp only
            rw [Prog.run_bind, hrun]
            cases results <;> rfl
          · exact hpositions.trans (filter_key_not_mem w.rest.distinct hgone)

/-- The forex market on a simulated account. A row stands for the position under
its reference. -/
def forexClosing : ClosingMarket PlatformPosition ForexBook where
  market := forexMarket ex
  backend := acct.backend
  script := forexScript ex acct
  view := forexView
  tracks row p := sameTicket p.ticket row.refSourceId
  live_nodup book := List.Nodup.of_map _ book.distinct
  matching_sublist h := (forex_scope_sublist ex h).trans List.filter_sublist
  host_answers o _ := ⟨acct.host o, rfl⟩
  lists w symbol strategy := ⟨w.rest, forex_getOpenPositions_run ex acct w symbol strategy, rfl⟩
  closes w r reason _ := forex_closes ex acct w r reason

end Forex

/-! ## Crypto -/

/-- The account with position reads that never fail. -/
def ExchangeAccount.readable (acct : ExchangeAccount) : ExchangeAccount :=
  { acct with read := fun _ => none }

section Crypto

variable (ex : CryptoExecutor) (acct : ExchangeAccount)

/-- How an exchange account answers a close: the cancellation of the resting
orders opens it. -/
def cryptoScript : CloseScript ExchangePosition where
  order := acct.order
  opening n :=
    match acct.cancel n with
    | .error e => some e
    | .ok () => none
  matching live symbol _ := .ok (live.filter (·.symbol = ex.getSymbol symbol))

def cryptoView (book : ExchangeBook) : BookView ExchangePosition where
  live := book.positions.filter (0 < ·.volume)
  sent := book.sent
  rounds := book.cancels

/-- A crypto close is a run of its script. -/
theorem crypto_closes (w : World ExchangeBook) (r : CloseRequest) (reason : String)
    (price : Option ℚ) :
    ∃ w' out, Prog.run acct.readable.backend.serve
      (ex.closeAllPositions r.symbol reason r.strategy price r.ticket) w = (out, w') ∧
        ClosesAs (cryptoScript ex acct) cryptoView r w w' out := by
  obtain ⟨out, w', hrun, hclose⟩ :=
    crypto_closeAll_run ex acct.readable w r.symbol reason r.strategy price r.ticket
  have hquery : (cryptoScript ex acct).batch (cryptoView w.rest) r =
      .ok (filterByTicket (w.rest.liveOn (ex.getSymbol r.symbol)) r.ticket) := rfl
  refine ⟨w', out, hrun, ?_⟩
  cases hclose with
  | readFails hread => cases hread
  | noneFound hread hnone => exact ClosesAs.of_none_found (hnone ▸ hquery) rfl rfl
  | cancelFails hread hbatch hcancel =>
      refine ClosesAs.of_opening_error (hbatch ▸ hquery) ?_ rfl rfl
      change acct.cancel w.rest.cancels = _ at hcancel
      simp only [cryptoScript, cryptoView, hcancel]
  | @sent first rest book results hread hbatch hcancel hpositions hsent hcancels hstops hloop =>
      change acct.cancel w.rest.cancels = _ at hcancel
      have hopening : (cryptoScript ex acct).opening (cryptoView w.rest).rounds = none := by
        simp only [cryptoScript, cryptoView, hcancel]
      have hlive : (cryptoView book).live = (cryptoView w.rest).live.filter
          (· ∉ Batch.filled (·.success) acct.order w.rest.sent (first :: rest)) := by
        simp only [cryptoView, hpositions, List.filter_filter]
        exact List.filter_congr fun p _ => Bool.and_comm _ _
      have hrounds : (cryptoScript ex acct).opening (cryptoView book).rounds =
          (cryptoScript ex acct).opening ((cryptoView w.rest).rounds + 1) := by
        simp only [cryptoView, hcancels]
      refine ClosesAs.of_loop (hbatch ▸ hquery) hopening ?_ ?_ ?_ ?_ hloop
        (CryptoExecutor.closeReport_success reason first)
        (fun _ => CryptoExecutor.closeReport_sourceTicket)
        (CryptoExecutor.closeReport_ticket reason first) (by simp) (by simp)
      · rfl
      · exact hlive
      · exact hsent
      · exact hrounds

/-- The crypto market on a simulated exchange. A row stands for the position on
its resolved symbol. -/
def cryptoClosing : ClosingMarket ExchangePosition ExchangeBook where
  market := cryptoMarket ex
  backend := acct.readable.backend
  script := cryptoScript ex acct
  view := cryptoView
  tracks row p := p.symbol = ex.getSymbol row.symbol
  live_nodup book := (List.Nodup.of_map _ book.distinct).filter _
  matching_sublist h := by
    cases h
    exact List.filter_sublist
  host_answers o _ := ⟨acct.host o, rfl⟩
  lists w symbol _ := ⟨w.rest.look, crypto_getOpenPositions_run ex acct.readable w symbol, rfl⟩
  closes w r reason price := crypto_closes ex acct w r reason price

end Crypto

end TradeWorker
