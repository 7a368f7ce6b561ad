import TradeWorker.FullClose

/-!
# What FLAT writes off

FLAT closes first and looks at the store afterwards. A close that fails, for
whatever reason, is read as an empty book, and the row is marked `FLATTED`; a
close that succeeds for one position marks the row of another. The row FLAT
settles on is written off with its position gone exactly when every order for
the positions it stands for was filled.
-/

namespace TradeWorker

section Flat

variable {Pos β : Type} [LivePosition Pos] [DecidableEq Pos] (M : ClosingMarket Pos β)

/-! ## The close FLAT makes -/

def CloseScript.refusedView (C : CloseScript Pos) (v : BookView Pos) (r : CloseRequest) :
    BookView Pos where
  live := v.live
  sent := v.sent + (C.matched v r).length
  rounds := v.rounds + if (C.matched v r).isEmpty then 0 else 1

/-- The close that decides: the scoped one, or the unscoped retry when it filled
nothing and no one else may hold the symbol. -/
def flatDecision (v : BookView Pos) (r : CloseRequest) : BookView Pos × CloseRequest :=
  if M.script.closed v r ≠ [] ∨ M.market.allowsMultiStrategyPerSymbol = true ∨
      M.market.allowsMultiPositionsPerSymbol = true then (v, r)
  else (M.script.refusedView v r, ⟨r.symbol, none, none⟩)

def FlatFaults (v : BookView Pos) (r : CloseRequest) : Prop :=
  M.script.fault v r ≠ none ∨
    M.script.fault (flatDecision M v r).1 (flatDecision M v r).2 ≠ none

/-- A close depends on what it sees of the book. -/
theorem ClosesAs.agree {C : CloseScript Pos} {view : β → BookView Pos} {r : CloseRequest}
    {w w' : World β} {out : Except Exn TradeResult} (h : ClosesAs C view r w w' out)
    {v : BookView Pos} (hlive : (view w.rest).live = v.live)
    (hsent : (view w.rest).sent = v.sent)
    (hopening : C.opening (view w.rest).rounds = C.opening v.rounds) :
    (∀ e, C.fault v r = some e → out = .error e) ∧
      (C.fault v r = none → ∃ res, out = .ok res ∧ Reports C v r res) ∧
      (view w'.rest).live = v.live.filter (· ∉ C.closed v r) := by
  have hmatched : C.matched (view w.rest) r = C.matched v r := by
    simp only [CloseScript.matched, CloseScript.batch, hlive]
  have hfault : C.fault (view w.rest) r = C.fault v r := by
    simp only [CloseScript.fault, CloseScript.batch, hlive, hsent, hopening]
  have hclosed : C.closed (view w.rest) r = C.closed v r := by
    simp only [CloseScript.closed, hmatched, hsent, hopening]
  have hlast : C.lastTicket (view w.rest) r = C.lastTicket v r := by
    simp only [CloseScript.lastTicket, hmatched, hsent, hopening]
  refine ⟨hfault ▸ h.raised, fun hnone => ?_, by rw [h.live, hlive, hclosed]⟩
  obtain ⟨res, hres, hreport⟩ := h.report (hfault.trans hnone)
  exact ⟨res, hres, by rw [← hclosed]; exact hreport.success,
    by rw [← hmatched]; exact hreport.source, hlast ▸ hreport.ticket, hreport.failsafe,
    hreport.forced⟩

/-- The closes of FLAT end in an exception or in the decisive close's report. -/
theorem flatClose_run (w : World β) (signal : Signal) (ticket : Option String) :
    ∃ w' out, Prog.run M.backend.serve (SignalHandler.flatClose M.market signal ticket) w =
        (out, w') ∧ w'.db = w.db ∧
      let r : CloseRequest := ⟨signal.symbol, some signal.strategy, ticket⟩
      let d := flatDecision M (M.view w.rest) r
      (FlatFaults M (M.view w.rest) r → ∃ e, out = .error e) ∧
      (¬ FlatFaults M (M.view w.rest) r →
        (M.view w'.rest).live = (M.view w.rest).live.filter (· ∉ M.script.closed d.1 d.2) ∧
        ∃ res, out = .ok res ∧ Reports M.script d.1 d.2 res) := by
  dsimp only
  generalize hr : (⟨signal.symbol, some signal.strategy, ticket⟩ : CloseRequest) = r
  obtain ⟨w₁, out₁, hrun₁, hcloses₁⟩ := M.closes w r "FLAT" none
  have hfirst : Prog.run M.backend.serve (M.market.closeAllPositions signal.symbol "FLAT"
      (some signal.strategy) ticket) w = (out₁, w₁) := by
    subst hr
    exact hrun₁
  unfold SignalHandler.flatClose
  cases hfault₁ : M.script.fault (M.view w.rest) r with
  | some e =>
      rw [hcloses₁.raised e hfault₁] at hfirst
      refine ⟨w₁, .error e, Prog.run_bind_error _ hfirst, hcloses₁.db, fun _ => ⟨e, rfl⟩,
        fun h => absurd (Or.inl ?_) h⟩
      simp [hfault₁]
  | none =>
      obtain ⟨res₁, rfl, hreport₁⟩ := hcloses₁.report hfault₁
      rw [Prog.run_bind_ok _ hfirst]
      by_cases hdecided : M.script.closed (M.view w.rest) r ≠ [] ∨
          M.market.allowsMultiStrategyPerSymbol = true ∨
          M.market.allowsMultiPositionsPerSymbol = true
      · have hd : flatDecision M (M.view w.rest) r = (M.view w.rest, r) := if_pos hdecided
        have hcond : res₁.success = true ∨ M.market.allowsMultiStrategyPerSymbol = true ∨
            M.market.allowsMultiPositionsPerSymbol = true := by
          rwa [hreport₁.success]
        simp only [FlatFaults, hd, hfault₁, ne_eq, not_true_eq_false, or_self]
        rw [if_pos hcond]
        exact ⟨w₁, _, rfl, hcloses₁.db, False.elim, fun _ =>
          ⟨hcloses₁.live, res₁, rfl, hreport₁⟩⟩
      · have hd : flatDecision M (M.view w.rest) r =
            (M.script.refusedView (M.view w.rest) r, ⟨r.symbol, none, none⟩) :=
          if_neg hdecided
        have hcond : ¬ (res₁.success = true ∨
            M.market.allowsMultiStrategyPerSymbol = true ∨
            M.market.allowsMultiPositionsPerSymbol = true) := by
          rwa [hreport₁.success]
        rw [if_neg hcond]
        have hclosed₁ : M.script.closed (M.view w.rest) r = [] := by
          by_contra hne
          exact hdecided (Or.inl hne)
        have hlive₁ : (M.view w₁.rest).live = (M.view w.rest).live := by
          rw [hcloses₁.live, hclosed₁]
          simp
        obtain ⟨w₂, out₂, hrun₂, hcloses₂⟩ := M.closes w₁ ⟨r.symbol, none, none⟩ "FLAT" none
        obtain ⟨hraised, hreport, hlive⟩ := hcloses₂.agree
          (v := M.script.refusedView (M.view w.rest) r) hlive₁ (hcloses₁.sent hfault₁)
          (hcloses₁.rounds hfault₁)
        have hretry : Prog.run M.backend.serve (M.market.closeAllPositions signal.symbol "FLAT"
            none none) w₁ = (out₂, w₂) := by
          subst hr
          exact hrun₂
        simp only [FlatFaults, hd, hfault₁, ne_eq, not_true_eq_false, false_or, not_not]
        refine ⟨w₂, out₂, hretry, hcloses₂.db.trans hcloses₁.db, fun h => ?_, fun h => ?_⟩
        · obtain ⟨e, he⟩ := Option.ne_none_iff_exists'.mp h
          exact ⟨e, hraised e he⟩
        · exact ⟨hlive, hreport h⟩

/-! ## The rows FLAT marks -/

/-- The lookup closed duplicates and changed nothing else. -/
def Heals (before after : Db) : Prop :=
  ∃ heals now, (∀ u ∈ heals, StatusUpdate.status u = .forcedClosed) ∧
    after.rows = before.rows.map (·.updateEach heals now)

/-- The rows newly marked `FLATTED` are those under the reference. -/
structure MarksFlatted (before after : Db) (ref : Option String) : Prop where
  length : after.rows.length = before.rows.length
  marks : ∀ (i : Nat) (row row' : Row), before.rows[i]? = some row → after.rows[i]? = some row' →
    row.status ≠ .flatted → (row'.status = .flatted ↔ ref = some row.refSourceId)

theorem MarksFlatted.congr {before after after' : Db} {ref : Option String}
    (h : MarksFlatted before after ref) (hrows : after'.rows = after.rows) :
    MarksFlatted before after' ref :=
  ⟨hrows ▸ h.length, hrows ▸ h.marks⟩

theorem Heals.refl (db : Db) : Heals db db := ⟨[], 0, by simp, by simp⟩

theorem updateEach_forcedClosed_ne {heals : List StatusUpdate} {now : Int} {row : Row}
    (hheals : ∀ u ∈ heals, u.status = .forcedClosed) (hrow : row.status ≠ .flatted) :
    (row.updateEach heals now).status ≠ .flatted := by
  rw [Row.updateEach_status row hheals]
  split
  · decide
  · exact hrow

theorem Heals.marksNone {before after : Db} (h : Heals before after) :
    MarksFlatted before after none := by
  obtain ⟨heals, now, hheals, hrows⟩ := h
  refine ⟨by simp [hrows], fun i row row' hrow hrow' hne => ?_⟩
  simp only [hrows, List.getElem?_map, hrow, Option.map_some, Option.some.injEq] at hrow'
  subst hrow'
  simp [updateEach_forcedClosed_ne hheals hne]

/-- One update to `FLATTED` after the healing marks the rows under its reference. -/
theorem Heals.marks {before healed after : Db} (h : Heals before healed)
    {u : StatusUpdate} (hu : u.status = .flatted) {now : Int}
    (hrows : after.rows = updateRows u now healed.rows) :
    MarksFlatted before after u.refSourceId := by
  obtain ⟨heals, t, hheals, hhealed⟩ := h
  refine ⟨by simp [hrows, updateRows, hhealed], fun i row row' hrow hrow' hne => ?_⟩
  simp only [hrows, updateRows, hhealed, List.getElem?_map, hrow, Option.map_some,
    Option.some.injEq] at hrow'
  subst hrow'
  rw [Row.update_status, Row.updateEach_refSourceId]
  split
  · rename_i href
    simp [hu, href]
  · rename_i href
    simp [updateEach_forcedClosed_ne hheals hne, href]

theorem getDbPosition_run (w : World β) (strategy symbol : String)
    (uxid : Option String) :
    ∃ db, Prog.run M.backend.serve (SignalHandler.getDbPosition strategy symbol uxid) w =
        (.ok (w.db.activeByStrategy strategy symbol uxid).head?, { w with db }) ∧
      Heals w.db db ∧
      ((w.db.activeByStrategy strategy symbol uxid).head? = none → db = w.db) := by
  cases hrows : w.db.activeByStrategy strategy symbol uxid with
  | nil =>
      refine ⟨w.db, ?_, Heals.refl _, fun _ => rfl⟩
      rw [getDbPosition_of_length_le_one M.backend w _ _ _ (by simp [hrows]), hrows]
  | cons kept duplicates =>
      obtain ⟨db, hrun, hdb, -⟩ := getDbPosition_of_cons M.backend w _ _ _ hrows
      refine ⟨db, hrun, ⟨duplicates.map SignalHandler.healDuplicate, w.db.clock, ?_, hdb⟩,
        fun h => by cases h⟩
      rintro u hu
      obtain ⟨r, -, rfl⟩ := List.mem_map.mp hu
      rfl

/-! ## The handler -/

def flatRequest (w : World β) (signal : Signal) : CloseRequest where
  symbol := signal.symbol
  strategy := some signal.strategy
  ticket := if (SignalHandler.uxidScope M.market signal).isSome then
      (exitRow M w signal).map (·.refSourceId)
    else none

/-- A uxid is in force and no row answers to it: FLAT closes nothing. -/
def FlatOwnsNothing (w : World β) (signal : Signal) : Prop :=
  (SignalHandler.uxidScope M.market signal).isSome = true ∧ exitRow M w signal = none

/-- The reference FLAT settles on: its row's, or without one the first position the
deciding close filled. -/
def flatRef (w : World β) (signal : Signal) : Option String :=
  let d := flatDecision M (M.view w.rest) (flatRequest M w signal)
  match exitRow M w signal, (M.script.closed d.1 d.2).isEmpty with
  | some row, true => some row.refSourceId
  | some row, false => text? (some row.refSourceId) <|> M.script.lastTicket d.1 d.2
  | none, true => none
  | none, false =>
      (M.script.matched d.1 d.2).head?.map fun p => ticketText (LivePosition.ticket p)

theorem text?_ticketText (n : Nat) : text? (some (ticketText n)) = some (ticketText n) :=
  text?_eq_some.mpr ⟨rfl, Nat.repr_ne_empty⟩

/-- What the handler leaves of a FLAT whose closes went through. -/
structure FlatHandled (w w' : World β) (signal : Signal) (res : TradeResult) : Prop where
  failed : res.success = false → MarksFlatted w.db w'.db (flatRef M w signal)
  filled : res.success = true → Heals w.db w'.db ∧
    Processor.resultTicket res = flatRef M w signal
  failsafe : res.slFailsafeClose = none

variable {M} in
/-- The reference FLAT settles on when its close reports a failure. -/
theorem flatRef_of_failed {w : World β} {signal : Signal} {res : TradeResult}
    (hreport : Reports M.script
      (flatDecision M (M.view w.rest) (flatRequest M w signal)).1
      (flatDecision M (M.view w.rest) (flatRequest M w signal)).2 res)
    (hs : res.success = false) :
    flatRef M w signal = (exitRow M w signal).map (·.refSourceId) := by
  have hclosed : M.script.closed (flatDecision M (M.view w.rest) (flatRequest M w signal)).1
      (flatDecision M (M.view w.rest) (flatRequest M w signal)).2 = [] := by
    by_contra hne
    exact absurd (hreport.success.mpr hne) (by simp [hs])
  unfold flatRef
  dsimp only
  rw [hclosed]
  cases exitRow M w signal <;> rfl

variable {M} in
/-- The reference it settles on when its close reports a success. -/
theorem flatRef_of_filled {w : World β} {signal : Signal} {res : TradeResult}
    (hreport : Reports M.script
      (flatDecision M (M.view w.rest) (flatRequest M w signal)).1
      (flatDecision M (M.view w.rest) (flatRequest M w signal)).2 res)
    (hs : res.success = true) :
    flatRef M w signal = match exitRow M w signal with
      | some row => text? (some row.refSourceId) <|> res.ticket
      | none => text? res.sourceTicket <|> res.ticket := by
  have hne := hreport.success.mp hs
  have hempty : (M.script.closed (flatDecision M (M.view w.rest) (flatRequest M w signal)).1
      (flatDecision M (M.view w.rest) (flatRequest M w signal)).2).isEmpty = false := by
    simpa using hne
  unfold flatRef
  dsimp only
  rw [hempty, ← hreport.ticket]
  cases exitRow M w signal with
  | some row => rfl
  | none =>
      obtain ⟨p, hp⟩ := List.exists_mem_of_ne_nil _ hne
      obtain ⟨q, qs, hqs⟩ := List.exists_cons_of_ne_nil
        (List.ne_nil_of_mem (CloseScript.closed_subset hp))
      simp [hreport.source hs, hqs, text?_ticketText]

/-- What FLAT does with the decisive report. -/
theorem flatSettle_run {w w₁ : World β} {signal : Signal} {res : TradeResult}
    (hheals : Heals w.db w₁.db) (hnone : exitRow M w signal = none → w₁.db = w.db)
    (hreport : Reports M.script
      (flatDecision M (M.view w.rest) (flatRequest M w signal)).1
      (flatDecision M (M.view w.rest) (flatRequest M w signal)).2 res) :
    ∃ w' res', Prog.run M.backend.serve (SignalHandler.flatSettle M.market signal
        (exitRow M w signal) res) w₁ = (.ok res', w') ∧
      w'.rest = w₁.rest ∧ FlatHandled M w w' signal res' := by
  have hfailed := flatRef_of_failed hreport
  have hfilled := flatRef_of_filled hreport
  unfold SignalHandler.flatSettle SignalHandler.flatRow
  cases hrow : exitRow M w signal with
  | none =>
      rw [hrow] at hfailed hfilled
      have hlookup : Prog.run M.backend.serve (SignalHandler.getDbPosition signal.strategy
          signal.symbol (SignalHandler.uxidScope M.market signal)) w₁ = (.ok none, w₁) := by
        have hdb : w₁.db.activeByStrategy signal.strategy signal.symbol
            (SignalHandler.uxidScope M.market signal) = [] := by
          rw [hnone hrow]
          exact List.head?_eq_none_iff.mp hrow
        rw [getDbPosition_of_length_le_one M.backend w₁ _ _ _ (by simp [hdb]), hdb]
        rfl
      refine ⟨w₁, res, Prog.run_bind_ok _ hlookup, rfl, fun hs => ?_, fun hs => ?_,
        hreport.failsafe⟩
      · rw [hfailed hs]
        exact hheals.marksNone
      · exact ⟨hheals, (hfilled hs).symm⟩
  | some row =>
      rw [hrow] at hfailed hfilled
      cases hs : res.success with
      | true =>
          refine ⟨w₁, { res with sourceTicket := some row.refSourceId }, ?_, rfl,
            fun h => ?_, fun _ => ⟨hheals, (hfilled hs).symm⟩, hreport.failsafe⟩
          · simp [hs]
          · exact absurd (hs.symm.trans h) (by decide)
      | false =>
          have hu : (SignalHandler.flatSynced signal row).status.isActive = false := rfl
          have hmark := run_updatePositionStatus_inactive M.backend w₁ hu
          refine ⟨{ w₁ with db := w₁.db.close (SignalHandler.flatSynced signal row) hu }, res,
            ?_, rfl, fun _ => ?_, fun h => ?_, hreport.failsafe⟩
          · simp only [Prog.pure_eq, Prog.ret_bind, Bool.false_eq_true, if_false]
            exact Prog.run_bind_ok _ hmark
          · rw [hfailed hs]
            exact hheals.marks (u := SignalHandler.flatSynced signal row) rfl rfl
          · exact absurd (hs.symm.trans h) (by decide)

/-- What a FLAT that owns something does once its row is looked up. -/
structure FlatRuns (w w' : World β) (signal : Signal) (out : Except Exn TradeResult) :
    Prop where
  raised : FlatFaults M (M.view w.rest) (flatRequest M w signal) →
    MarksFlatted w.db w'.db none ∧ ∃ e, out = .error e
  live : ¬ FlatFaults M (M.view w.rest) (flatRequest M w signal) →
    (M.view w'.rest).live = (M.view w.rest).live.filter
      (· ∉ M.script.closed (flatDecision M (M.view w.rest) (flatRequest M w signal)).1
        (flatDecision M (M.view w.rest) (flatRequest M w signal)).2)
  handled : ¬ FlatFaults M (M.view w.rest) (flatRequest M w signal) →
    ∃ res, out = .ok res ∧ FlatHandled M w w' signal res

/-- The closes and the settlement, after the lookup. -/
theorem flatCloseSettle_run {w : World β} {signal : Signal} {db : Db}
    (hheals : Heals w.db db) (hnone : exitRow M w signal = none → db = w.db) :
    ∃ w' out, Prog.run M.backend.serve (do
        let result ← SignalHandler.flatClose M.market signal (flatRequest M w signal).ticket
        SignalHandler.flatSettle M.market signal (exitRow M w signal) result)
      { w with db } = (out, w') ∧ FlatRuns M w w' signal out := by
  obtain ⟨w₁, out₁, hclose, hdb, hfaults, hdone⟩ := flatClose_run M { w with db } signal
    (flatRequest M w signal).ticket
  change FlatFaults M (M.view w.rest) (flatRequest M w signal) → _ at hfaults
  change ¬ FlatFaults M (M.view w.rest) (flatRequest M w signal) → _ at hdone
  by_cases hf : FlatFaults M (M.view w.rest) (flatRequest M w signal)
  · obtain ⟨e, rfl⟩ := hfaults hf
    refine ⟨w₁, _, Prog.run_bind_error _ hclose, fun _ => ⟨?_, e, rfl⟩,
      fun h => absurd hf h, fun h => absurd hf h⟩
    rw [hdb]
    exact hheals.marksNone
  · obtain ⟨hlive, res, rfl, hreport⟩ := hdone hf
    have hheals₁ : Heals w.db w₁.db := hdb ▸ hheals
    obtain ⟨w', res', hsettle, hrest, hhandled⟩ :=
      flatSettle_run M hheals₁ (fun h => hdb.trans (hnone h)) hreport
    refine ⟨w', _, (Prog.run_bind_ok _ hclose).trans hsettle, fun h => absurd h hf,
      fun _ => ?_, fun _ => ⟨res', rfl, hhandled⟩⟩
    rw [hrest]
    exact hlive

/-- Where FLAT leaves the store and the book. -/
theorem handleFlat_run (w : World β) (signal : Signal) :
    ∃ w' out, Prog.run M.backend.serve (SignalHandler.handleFlat M.market signal) w =
        (out, w') ∧
      (FlatOwnsNothing M w signal → MarksFlatted w.db w'.db none ∧
        ∃ res, out = .ok res ∧ res.success = false) ∧
      (¬ FlatOwnsNothing M w signal → FlatRuns M w w' signal out) := by
  obtain ⟨db, hlookup, hheals, hnone⟩ := getDbPosition_run M w signal.strategy signal.symbol
    (SignalHandler.uxidScope M.market signal)
  obtain ⟨w', out, hrun, hruns⟩ := flatCloseSettle_run M hheals hnone
  unfold SignalHandler.handleFlat FlatOwnsNothing
  dsimp only [flatRequest] at hrun ⊢
  rw [Prog.run_bind_ok _ hlookup]
  rw [exitRow] at hrun ⊢
  cases hscope : SignalHandler.uxidScope M.market signal with
  | none =>
      rw [hscope] at hrun
      exact ⟨w', out, hrun, fun h => (by cases h.1), fun _ => hruns⟩
  | some u =>
      rw [hscope] at hrun
      cases hrow : (w.db.activeByStrategy signal.strategy signal.symbol (some u)).head? with
      | none =>
          exact ⟨_, _, rfl, fun _ => ⟨hheals.marksNone, _, rfl, rfl⟩,
            fun h => absurd ⟨rfl, rfl⟩ h⟩
      | some row =>
          rw [hrow] at hrun
          exact ⟨w', out, hrun, fun h => (by cases h.2), fun _ => hruns⟩

/-! ## The whole handling -/

/-- Logging, persisting and reporting a FLAT's result: the rows under its reference
are marked when it succeeded. -/
theorem recordResult_run (P : Processor Pos) (w : World β) {signal : Signal}
    (hflat : signal.action = .flat) (res : TradeResult) :
    ∃ w', Prog.run M.backend.serve (P.recordResult signal res) w = (.ok (), w') ∧
      w'.rest = w.rest ∧
      w'.db.rows = if res.success then
        updateRows (Processor.exitUpdate signal res .flatted) w.db.clock w.db.rows
      else w.db.rows := by
  obtain ⟨footer, hfooter⟩ := run_host_ok M.host_answers w .currentFooter
  have hlog := run_logPosition M.backend w (P.resultLog signal res)
  rw [Processor.recordResult, Prog.run_bind_ok _ hfooter, Prog.run_bind_ok _ hlog]
  cases hs : res.success with
  | false => exact ⟨_, run_notifyTrade M _ signal _ _ _, rfl, rfl⟩
  | true =>
      have hstatus : Processor.closeStatus signal.action = some .flatted := by rw [hflat]; rfl
      obtain ⟨hu, hpersist⟩ := persistSuccess_run M P
        { w with db := w.db.insertLog (P.resultLog signal res) } hstatus rfl res
      simp only [if_true]
      rw [Prog.run_bind_ok _ hpersist]
      exact ⟨_, run_notifyTrade M _ signal _ _ _, rfl, rfl⟩

/-- The rows a handled FLAT marks and the positions it leaves. -/
theorem executeFlat_run {P : Processor Pos} (hP : P.market = M.market) (w : World β)
    {signal : Signal} (hflat : signal.action = .flat) :
    ∃ w' out, Prog.run M.backend.serve (P.executeSignal signal) w = (out, w') ∧
      (FlatOwnsNothing M w signal ∨ FlatFaults M (M.view w.rest) (flatRequest M w signal) →
        MarksFlatted w.db w'.db none) ∧
      (¬ (FlatOwnsNothing M w signal ∨
          FlatFaults M (M.view w.rest) (flatRequest M w signal)) →
        MarksFlatted w.db w'.db (flatRef M w signal) ∧
        (M.view w'.rest).live = (M.view w.rest).live.filter
          (· ∉ M.script.closed (flatDecision M (M.view w.rest) (flatRequest M w signal)).1
            (flatDecision M (M.view w.rest) (flatRequest M w signal)).2)) := by
  obtain ⟨u, hhandling⟩ := run_host_ok M.host_answers w (.handling signal)
  obtain ⟨w₁, out₁, hrun, howns, hruns⟩ := handleFlat_run M w signal
  have hhandle : Prog.run M.backend.serve (SignalHandler.handle P.market signal) w =
      (out₁, w₁) := by
    rw [hP, SignalHandler.handle, Prog.run_bind_ok _ hhandling]
    simp only [hflat]
    exact hrun
  unfold Processor.executeSignal
  by_cases hown : FlatOwnsNothing M w signal
  · obtain ⟨hmarks, res, rfl, hs⟩ := howns hown
    obtain ⟨w₂, hrecord, -, hrows⟩ := recordResult_run M P w₁ hflat
      (Processor.repairPrice signal res)
    rw [Processor.repairPrice_success, hs] at hrows
    exact ⟨w₂, _, (Prog.run_bind_ok _ hhandle).trans hrecord,
      fun _ => hmarks.congr hrows, fun h => absurd (Or.inl hown) h⟩
  · have hruns := hruns hown
    by_cases hf : FlatFaults M (M.view w.rest) (flatRequest M w signal)
    · obtain ⟨hmarks, e, rfl⟩ := hruns.raised hf
      exact ⟨w₁, _, Prog.run_bind_error _ hhandle, fun _ => hmarks,
        fun h => absurd (Or.inr hf) h⟩
    · obtain ⟨res, rfl, hhandled⟩ := hruns.handled hf
      obtain ⟨w₂, hrecord, hrest, hrows⟩ := recordResult_run M P w₁ hflat
        (Processor.repairPrice signal res)
      refine ⟨w₂, _, (Prog.run_bind_ok _ hhandle).trans hrecord,
        fun h => absurd h (not_or.mpr ⟨hown, hf⟩), fun _ => ⟨?_, hrest ▸ hruns.live hf⟩⟩
      rw [Processor.repairPrice_success] at hrows
      cases hs : res.success with
      | false =>
          rw [hs] at hrows
          exact (hhandled.failed hs).congr hrows
      | true =>
          rw [hs] at hrows
          obtain ⟨hheals, href⟩ := hhandled.filled hs
          have hflatted : (Processor.exitUpdate signal (Processor.repairPrice signal res)
              .flatted).status = .flatted := by
            simp [Processor.exitUpdate, Processor.failsafeClosed, hhandled.failsafe]
          rw [← href, ← Processor.resultTicket_repairPrice signal res]
          exact hheals.marks hflatted hrows

/-! ## Safety -/

/-- No row the handling marks `FLATTED` stands for a position that is still live. -/
def FlatNeverWritesOff (P : Processor Pos) (w : World β) (signal : Signal) : Prop :=
  ∀ out w', Prog.run M.backend.serve (P.executeSignal signal) w = (out, w') →
    ∀ (i : Nat) (row row' : Row), w.db.rows[i]? = some row → w'.db.rows[i]? = some row' →
      row.status ≠ .flatted → row'.status = .flatted →
        ∀ p ∈ (M.view w'.rest).live, M.tracks row p = false

/-- Nothing is marked, or every live position that a row under the settled reference
stands for is one the deciding close filled. -/
def FlatCloses (w : World β) (signal : Signal) : Prop :=
  FlatOwnsNothing M w signal ∨ FlatFaults M (M.view w.rest) (flatRequest M w signal) ∨
    ∀ row ∈ w.db.rows, row.status ≠ .flatted → flatRef M w signal = some row.refSourceId →
      ∀ p ∈ (M.view w.rest).live, M.tracks row p = true →
        p ∈ M.script.closed (flatDecision M (M.view w.rest) (flatRequest M w signal)).1
          (flatDecision M (M.view w.rest) (flatRequest M w signal)).2

theorem flatNeverWritesOff_iff {P : Processor Pos} (hP : P.market = M.market) (w : World β)
    {signal : Signal} (hflat : signal.action = .flat) :
    FlatNeverWritesOff M P w signal ↔ FlatCloses M w signal := by
  obtain ⟨w', out, hrun, hnothing, hsettled⟩ := executeFlat_run M hP w hflat
  by_cases hquiet : FlatOwnsNothing M w signal ∨
      FlatFaults M (M.view w.rest) (flatRequest M w signal)
  · have hmarks := hnothing hquiet
    refine ⟨fun _ => or_assoc.mp (Or.inl hquiet), fun _ out' w'' hrun' i row row' hrow hrow'
      hne hflatted => ?_⟩
    cases hrun.symm.trans hrun'
    cases (hmarks.marks i row row' hrow hrow' hne).mp hflatted
  · obtain ⟨hmarks, hlive⟩ := hsettled hquiet
    constructor
    · refine fun h => or_assoc.mp (Or.inr fun row hmem hne href p hp htracks => ?_)
      obtain ⟨i, hi⟩ := List.mem_iff_getElem?.mp hmem
      have hi' : i < w'.db.rows.length := by
        rw [hmarks.length]
        exact (List.getElem?_eq_some_iff.mp hi).1
      have hrow' := List.getElem?_eq_getElem hi'
      have hmarked := (hmarks.marks i row _ hi hrow' hne).mpr href
      have hsafe := h out w' hrun i row _ hi hrow' hne hmarked
      by_contra hopen
      have hstays : p ∈ (M.view w'.rest).live := by
        rw [hlive]
        exact List.mem_filter.mpr ⟨hp, by simpa using hopen⟩
      exact absurd htracks (by simp [hsafe p hstays])
    · rintro h out' w'' hrun' i row row' hrow hrow' hne hflatted p hp
      cases hrun.symm.trans hrun'
      have hcloses := (or_assoc.mpr h).resolve_left hquiet
      rw [hlive, List.mem_filter] at hp
      have href := (hmarks.marks i row row' hrow hrow' hne).mp hflatted
      by_contra htracks
      have hclosed := hcloses row (List.mem_of_getElem? hrow) hne href p hp.1
        (by simpa using htracks)
      exact absurd hp.2 (by simpa using hclosed)

end Flat

/-- FLAT writes off no live position exactly when the close that decides fills every
order for the positions of the rows it marks; on either market, on every account. -/
theorem flat_neverWritesOff_iff (signal : Signal) (hflat : signal.action = .flat)
    (settings : WorkerSettings) :
    (∀ (ex : ForexExecutor) (acct : ForexAccount) (w : World ForexBook),
      FlatNeverWritesOff (forexClosing ex acct) (forexProcessor ex settings) w signal ↔
        FlatCloses (forexClosing ex acct) w signal) ∧
    (∀ (ex : CryptoExecutor) (acct : ExchangeAccount) (w : World ExchangeBook),
      FlatNeverWritesOff (cryptoClosing ex acct) (cryptoProcessor ex settings) w signal ↔
        FlatCloses (cryptoClosing ex acct) w signal) :=
  ⟨fun _ _ w => flatNeverWritesOff_iff _ rfl w hflat,
    fun _ _ w => flatNeverWritesOff_iff _ rfl w hflat⟩

/-! ## A refused FLAT -/

def refusing : ForexAccount :=
  { halfFilled with close := fun _ => .ok (.fail "Market closed") }

def flatOfGold : Signal :=
  { strategy := "GOLD", timestamp := 0, action := .flat, symbol := "XAUUSD" }

def oneLot : World ForexBook where
  db := { rows := [goldRow 1 "101" ""], oneActive := by decide }
  rest := { positions := [goldPosition 101], distinct := by decide }

theorem flatOfGold_neverWritesOff_iff :
    (∀ (ex : ForexExecutor) (acct : ForexAccount) (w : World ForexBook),
      FlatNeverWritesOff (forexClosing ex acct) (forexProcessor ex {}) w flatOfGold ↔
        FlatCloses (forexClosing ex acct) w flatOfGold) ∧
    (∀ (ex : CryptoExecutor) (acct : ExchangeAccount) (w : World ExchangeBook),
      FlatNeverWritesOff (cryptoClosing ex acct) (cryptoProcessor ex {}) w flatOfGold ↔
        FlatCloses (cryptoClosing ex acct) w flatOfGold) :=
  flat_neverWritesOff_iff flatOfGold rfl {}

/-- The refused close is read as an empty book: the row goes to `FLATTED` with its
position live. -/
theorem refusedFlat_writesOff :
    ¬ FlatNeverWritesOff (forexClosing goldExecutor refusing) (forexProcessor goldExecutor {})
      oneLot flatOfGold := by
  rw [flatNeverWritesOff_iff _ rfl oneLot rfl]
  rintro (⟨hscope, -⟩ | hfault | h)
  · cases hscope
  · rcases hfault with hfault | hfault <;> exact hfault rfl
  · have hclosed := h (goldRow 1 "101" "") (by decide) (by decide) (by decide)
      (goldPosition 101) (by decide) (by decide)
    exact absurd hclosed (by decide)

end TradeWorker
