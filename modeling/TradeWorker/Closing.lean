import TradeWorker.Broker

/-!
# What a full close does to a book

`close_all_positions` on either market is one batch of orders: the positions of
the request, one close each, and a report that says success as soon as one of
them was filled. `CloseScript.closed` and `CloseScript.fault` say what the
script makes of a request, and `ClosesAs` that a run did just that. A
`ClosingMarket` is a market and a broker for which every close is such a run;
both markets are one.
-/

namespace TradeWorker

/-! ## Requests and scripts -/

/-- What a close sees of a book: the live positions, the orders sent, and how
often it opened a batch. -/
structure BookView (Pos : Type) where
  live : List Pos
  sent : Nat
  rounds : Nat

/-- The arguments of `close_all_positions` that select positions. -/
structure CloseRequest where
  symbol : String
  strategy : Option String
  ticket : Option String

/-- How a broker answers a close: its orders, the call that opens a batch, and
the positions its query lists. -/
structure CloseScript (Pos : Type) where
  order : Nat → Except Exn TradeResult
  opening : Nat → Option Exn
  matching : List Pos → String → Option String → Except Exn (List Pos)

namespace CloseScript

variable {Pos : Type} [LivePosition Pos] (C : CloseScript Pos) (v : BookView Pos)
  (r : CloseRequest)

/-- The positions of a request, or the exception of the query. -/
def batch : Except Exn (List Pos) :=
  (C.matching v.live r.symbol r.strategy).map (filterByTicket · r.ticket)

def matched : List Pos :=
  match C.batch v r with
  | .ok ps => ps
  | .error _ => []

/-- The exception that ends a close. -/
def fault : Option Exn :=
  match C.batch v r with
  | .error e => some e
  | .ok [] => none
  | .ok (p :: ps) => (C.opening v.rounds).or (Batch.fault C.order v.sent (p :: ps))

/-- The positions a close takes off the book. -/
def closed : List Pos :=
  match C.opening v.rounds with
  | some _ => []
  | none => Batch.filled (·.success) C.order v.sent (C.matched v r)

/-- The broker's reference for the last position closed. -/
def lastTicket : Option String :=
  match C.opening v.rounds with
  | some _ => none
  | none =>
      ((Batch.reports (·.success) C.order v.sent (C.matched v r)).map (·.ticket)).getLast?.join

/-- The answers to the request's orders agree, or it ends in an exception. -/
def Settles : Prop :=
  C.matched v r = [] ∨ (C.opening v.rounds).isSome ∨
    Batch.Uniform (·.success) C.order v.sent (C.matched v r)

variable {C v r}

theorem matched_of_batch {ps : List Pos} (h : C.batch v r = .ok ps) :
    C.matched v r = ps := by
  simp [matched, h]

theorem closed_subset {p : Pos} (h : p ∈ C.closed v r) : p ∈ C.matched v r := by
  unfold closed at h
  split at h
  · cases h
  · exact Batch.mem_of_mem_filled h

/-- A request with no position closes nothing. -/
theorem closed_of_matched_nil (h : C.matched v r = []) : C.closed v r = [] := by
  unfold closed
  split
  · rfl
  · rw [h]
    rfl

theorem lastTicket_of_matched_nil (h : C.matched v r = []) : C.lastTicket v r = none := by
  unfold lastTicket
  split
  · rfl
  · rw [h]
    rfl

/-- Success that leaves nothing of the request live is agreement of the answers. -/
theorem settles_iff (hnodup : (C.matched v r).Nodup) :
    C.Settles v r ↔ (C.fault v r = none → C.closed v r ≠ [] →
      ∀ p ∈ C.matched v r, p ∈ C.closed v r) := by
  cases hbatch : C.batch v r with
  | error e => simp [Settles, matched, hbatch]
  | ok ps =>
      have hmatched := matched_of_batch hbatch
      cases ps with
      | nil => simp [Settles, hmatched]
      | cons p ps =>
          cases hopening : C.opening v.rounds with
          | some e => simp [Settles, fault, hbatch, hopening]
          | none =>
              rw [hmatched] at hnodup ⊢
              simp only [Settles, fault, closed, hbatch, hmatched, hopening, Option.none_or,
                reduceCtorEq, false_or, Option.isSome_none, Bool.false_eq_true]
              exact Batch.uniform_iff hnodup

end CloseScript

/-! ## Runs of a close -/

section Runs

variable {Pos β : Type} [LivePosition Pos] [DecidableEq Pos]

/-- The result a close reports: a success when some order was filled, under the
first position of the request and the reference of the last one filled. -/
structure Reports (C : CloseScript Pos) (v : BookView Pos) (r : CloseRequest)
    (res : TradeResult) : Prop where
  success : res.success = true ↔ C.closed v r ≠ []
  source : res.success = true → res.sourceTicket =
    (C.matched v r).head?.map fun p => ticketText (LivePosition.ticket p)
  ticket : res.ticket = C.lastTicket v r
  failsafe : res.slFailsafeClose = none
  forced : res.forcedClosed = []

/-- The run did to the book what the script makes of the request, reported that,
and touched nothing else. -/
structure ClosesAs (C : CloseScript Pos) (view : β → BookView Pos) (r : CloseRequest)
    (w w' : World β) (out : Except Exn TradeResult) : Prop where
  db : w'.db = w.db
  live : (view w'.rest).live =
    (view w.rest).live.filter (· ∉ C.closed (view w.rest) r)
  raised : ∀ e, C.fault (view w.rest) r = some e → out = .error e
  report : C.fault (view w.rest) r = none →
    ∃ res, out = .ok res ∧ Reports C (view w.rest) r res
  sent : C.fault (view w.rest) r = none →
    (view w'.rest).sent = (view w.rest).sent + (C.matched (view w.rest) r).length
  rounds : C.fault (view w.rest) r = none → C.opening (view w'.rest).rounds =
    C.opening ((view w.rest).rounds +
      if (C.matched (view w.rest) r).isEmpty then 0 else 1)

/-- A market, the broker behind it, and the proof that its query and its closes
do what the script says. -/
structure ClosingMarket (Pos β : Type) [LivePosition Pos] [DecidableEq Pos] where
  market : ExecutorBackedMarket Pos
  backend : Backend β
  script : CloseScript Pos
  view : β → BookView Pos
  /-- The live position a row stands for. -/
  tracks : Row → Pos → Bool
  live_nodup : ∀ s, (view s).live.Nodup
  matching_sublist : ∀ {live symbol strategy ps},
    script.matching live symbol strategy = .ok ps → ps.Sublist live
  host_answers : ∀ o s, ∃ a, backend.host o s = (.ok a, s)
  lists : ∀ (w : World β) (symbol : String) (strategy : Option String),
    ∃ s, Prog.run backend.serve (market.executor.getOpenPositions symbol strategy) w =
      (script.matching (view w.rest).live symbol strategy, { w with rest := s }) ∧
      view s = view w.rest
  closes : ∀ (w : World β) (r : CloseRequest) (reason : String) (price : Option ℚ),
    ∃ w' out, Prog.run backend.serve
      (market.executor.closeAllPositions r.symbol reason r.strategy price r.ticket) w =
        (out, w') ∧ ClosesAs script view r w w' out

namespace ClosingMarket

variable {M : ClosingMarket Pos β}

theorem batch_sublist {v : BookView Pos} {r : CloseRequest} {ps : List Pos}
    (h : M.script.batch v r = .ok ps) : ps.Sublist v.live := by
  unfold CloseScript.batch at h
  cases hm : M.script.matching v.live r.symbol r.strategy with
  | error e => simp [hm, Except.map] at h
  | ok all =>
      rw [hm] at h
      cases h
      exact filterByTicket_sublist.trans (M.matching_sublist hm)

theorem matched_sublist (v : BookView Pos) (r : CloseRequest) :
    (M.script.matched v r).Sublist v.live := by
  unfold CloseScript.matched
  split
  · rename_i ps hps
    exact batch_sublist hps
  · exact List.nil_sublist _

/-- The market's guard reads what a close of the same request would match. -/
theorem getOpenPositions_run (M : ClosingMarket Pos β) (w : World β) (r : CloseRequest) :
    ∃ s, Prog.run M.backend.serve
        (M.market.getOpenPositions r.symbol r.strategy r.ticket) w =
      (M.script.batch (M.view w.rest) r, { w with rest := s }) ∧ M.view s = M.view w.rest := by
  obtain ⟨s, hrun, hview⟩ := M.lists w r.symbol r.strategy
  refine ⟨s, ?_, hview⟩
  unfold ExecutorBackedMarket.getOpenPositions CloseScript.batch
  rw [Prog.run_bind, hrun]
  cases M.script.matching (M.view w.rest).live r.symbol r.strategy <;> rfl

/-- A position of the request stays live exactly when its order was not filled. -/
theorem live_after {w w' : World β} {r : CloseRequest} {out : Except Exn TradeResult}
    (h : ClosesAs M.script M.view r w w' out) {p : Pos} :
    p ∈ (M.view w'.rest).live ↔
      p ∈ (M.view w.rest).live ∧ p ∉ M.script.closed (M.view w.rest) r := by
  rw [h.live]
  simp

end ClosingMarket

end Runs

/-! ## The loop of closes -/

/-- What a loop of closes returned, against the answers to its orders. -/
structure LoopReturns {Pos : Type} (order : Nat → Except Exn TradeResult) (n : Nat)
    (ps : List Pos) (out : Except Exn (List TradeResult)) : Prop where
  raised : ∀ e, Batch.fault order n ps = some e → out = .error e
  closed : Batch.fault order n ps = none → ∃ results, out = .ok results ∧
    results.map (·.ticket) = (Batch.reports (·.success) order n ps).map (·.ticket)

theorem LoopReturns.nil {Pos : Type} {order : Nat → Except Exn TradeResult} {n : Nat} :
    LoopReturns order n ([] : List Pos) (.ok []) where
  raised e h := by cases h
  closed _ := ⟨[], rfl, rfl⟩

theorem LoopReturns.error {Pos : Type} {order : Nat → Except Exn TradeResult} {n : Nat}
    {p : Pos} {ps : List Pos} {e : Exn} (h : order n = .error e) :
    LoopReturns order n (p :: ps) (.error e) where
  raised e' he' := by
    simp only [Batch.fault, h, Option.some.injEq] at he'
    rw [he']
  closed hnone := by simp [Batch.fault, h] at hnone

/-- A loop whose first order is refused returns what the rest returns; one whose
first is filled adds a result. -/
theorem LoopReturns.cons {Pos : Type} {order : Nat → Except Exn TradeResult} {n : Nat}
    {p : Pos} {ps : List Pos} {res : TradeResult} (h : order n = .ok res)
    (res' : TradeResult) (hticket : res'.ticket = res.ticket)
    {out : Except Exn (List TradeResult)} (hrest : LoopReturns order (n + 1) ps out) :
    LoopReturns order n (p :: ps)
      (out.map fun results => if res.success then res' :: results else results) where
  raised e he := by
    simp only [Batch.fault, h] at he
    rw [hrest.raised e he]
    rfl
  closed hnone := by
    simp only [Batch.fault, h] at hnone
    obtain ⟨results, rfl, hresults⟩ := hrest.closed hnone
    refine ⟨_, rfl, ?_⟩
    simp only [Batch.reports, h]
    by_cases hs : res.success = true <;> simp [hs, hresults, hticket]

/-! ## The ways a close can go -/

section Cases

variable {Pos β : Type} [LivePosition Pos] [DecidableEq Pos] {C : CloseScript Pos}
  {view : β → BookView Pos} {r : CloseRequest} {w w' : World β}

theorem ClosesAs.of_query_error {e : Exn} (hbatch : C.batch (view w.rest) r = .error e)
    (hdb : w'.db = w.db) (hview : view w'.rest = view w.rest) :
    ClosesAs C view r w w' (.error e) := by
  have hfault : C.fault (view w.rest) r = some e := by simp [CloseScript.fault, hbatch]
  have hclosed : C.closed (view w.rest) r = [] :=
    CloseScript.closed_of_matched_nil (by simp [CloseScript.matched, hbatch])
  refine ⟨hdb, by simp [hview, hclosed], fun e' he' => ?_, ?_, ?_, ?_⟩
  · cases hfault.symm.trans he'
    rfl
  all_goals simp [hfault]

/-- The query listed nothing. -/
theorem ClosesAs.of_none_found {comment : String}
    (hbatch : C.batch (view w.rest) r = .ok []) (hdb : w'.db = w.db)
    (hview : view w'.rest = view w.rest) :
    ClosesAs C view r w w' (.ok (.fail comment)) := by
  have hmatched := CloseScript.matched_of_batch hbatch
  have hfault : C.fault (view w.rest) r = none := by simp [CloseScript.fault, hbatch]
  have hclosed := CloseScript.closed_of_matched_nil hmatched
  refine ⟨hdb, by simp [hview, hclosed], ?_, fun _ => ?_, ?_, ?_⟩
  · simp [hfault]
  · exact ⟨_, rfl, by simp [hclosed], by simp,
      (CloseScript.lastTicket_of_matched_nil hmatched).symm, rfl, rfl⟩
  · simp [hmatched, hview]
  · simp [hmatched, hview]

/-- The call that opens the batch raised. -/
theorem ClosesAs.of_opening_error {p : Pos} {ps : List Pos} {e : Exn}
    (hbatch : C.batch (view w.rest) r = .ok (p :: ps))
    (hopening : C.opening (view w.rest).rounds = some e) (hdb : w'.db = w.db)
    (hlive : (view w'.rest).live = (view w.rest).live) :
    ClosesAs C view r w w' (.error e) := by
  have hfault : C.fault (view w.rest) r = some e := by
    simp [CloseScript.fault, hbatch, hopening]
  have hclosed : C.closed (view w.rest) r = [] := by simp [CloseScript.closed, hopening]
  refine ⟨hdb, by simp [hlive, hclosed], fun e' he' => ?_, ?_, ?_, ?_⟩
  · cases hfault.symm.trans he'
    rfl
  all_goals simp [hfault]

/-- The orders went out: the loop's results are reported, the positions filled are
gone. -/
theorem ClosesAs.of_loop {p : Pos} {ps : List Pos}
    (hbatch : C.batch (view w.rest) r = .ok (p :: ps))
    (hopening : C.opening (view w.rest).rounds = none) (hdb : w'.db = w.db)
    (hlive : (view w'.rest).live = (view w.rest).live.filter
      (· ∉ Batch.filled (·.success) C.order (view w.rest).sent (p :: ps)))
    (hsent : (view w'.rest).sent = Batch.next C.order (view w.rest).sent (p :: ps))
    (hrounds : C.opening (view w'.rest).rounds = C.opening ((view w.rest).rounds + 1))
    {results : Except Exn (List TradeResult)}
    (hloop : LoopReturns C.order (view w.rest).sent (p :: ps) results)
    {report : List TradeResult → TradeResult}
    (hsuccess : ∀ closed, (report closed).success = true ↔ closed ≠ [])
    (hsource : ∀ closed, (report closed).success = true →
      (report closed).sourceTicket = some (ticketText (LivePosition.ticket p)))
    (hticket : ∀ closed, (report closed).ticket = (closed.map (·.ticket)).getLast?.join)
    (hfailsafe : ∀ closed, (report closed).slFailsafeClose = none)
    (hforced : ∀ closed, (report closed).forcedClosed = []) :
    ClosesAs C view r w w' (results.map report) := by
  have hmatched := CloseScript.matched_of_batch hbatch
  have hfault : C.fault (view w.rest) r =
      Batch.fault C.order (view w.rest).sent (p :: ps) := by
    simp [CloseScript.fault, hbatch, hopening]
  have hclosed : C.closed (view w.rest) r =
      Batch.filled (·.success) C.order (view w.rest).sent (p :: ps) := by
    simp [CloseScript.closed, hopening, hmatched]
  refine ⟨hdb, by rw [hlive, hclosed], fun e he => ?_, fun hnone => ?_, fun hnone => ?_,
    fun _ => by simpa [hmatched] using hrounds⟩
  · rw [hloop.raised e (hfault.symm.trans he)]
    rfl
  · obtain ⟨closed, rfl, htickets⟩ := hloop.closed (hfault.symm.trans hnone)
    refine ⟨report closed, rfl, ?_, fun hs => ?_, ?_, hfailsafe _, hforced _⟩
    · rw [hsuccess, hclosed, ne_eq, ne_eq, ← Batch.reports_eq_nil_iff, ← List.map_eq_nil_iff,
        htickets, List.map_eq_nil_iff]
    · rw [hmatched, hsource closed hs]
      rfl
    · simp only [hticket, htickets, CloseScript.lastTicket, hopening, hmatched]
  · rw [hsent, hmatched]
    exact Batch.next_of_fault_eq_none (hfault.symm.trans hnone)

end Cases

end TradeWorker
