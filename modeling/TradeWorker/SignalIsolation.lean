import TradeWorker.Broker
import TradeWorker.DuplicateHeal
import TradeWorker.ForexReach

/-!
# Signals that share a strategy and a symbol

With several positions allowed for one strategy on one symbol, the ticket of the
row under the signal's uxid is all that tells them apart. Full closes, FLAT and
re-entries carry that ticket into the query they close from. TP1 does not: its
partial close and its stop move look the ticket up in a list of their own and fall
back to the first position of the strategy, and its failsafe close carries no
ticket at all. This module says exactly when a TP1 stays on its own ticket.
-/

namespace TradeWorker

/-! ## A scripted platform -/

/-- A platform by the number of the call: the `n`-th may answer anything,
whatever it answered before. -/
structure PlatformScript where
  fx : Nat → (o : ForexOp) → Except Exn o.Ans
  host : (o : HostOp) → o.Ans

/-- The script as a backend; its state is the number of the next call. -/
def PlatformScript.backend (script : PlatformScript) : Backend Nat where
  fx o n := (script.fx n o, n + 1)
  cx _ n := (.error (.other "no exchange"), n)
  host o n := (.ok (script.host o), n)

/-! ## The tracked ticket -/

def Db.Tracks (db : Db) (strategy symbol uxid : String) (ticket : Nat) : Prop :=
  ∃ row ∈ db.activeByStrategy strategy symbol (some uxid),
    sameTicket ticket row.refSourceId = true

/-- Every row the lookup finds now was found in the store at the start. -/
def Db.FoundIn (strategy symbol uxid : String) (start db : Db) : Prop :=
  ∀ row ∈ db.activeByStrategy strategy symbol (some uxid),
    row ∈ start.activeByStrategy strategy symbol (some uxid)

/-- Closing rows finds no new ones. -/
theorem Db.FoundIn.updateRows {strategy symbol uxid : String} {start db db' : Db}
    (h : start.FoundIn strategy symbol uxid db) {u : StatusUpdate}
    (hu : u.status.isActive = false) (hrows : db'.rows = updateRows u db.clock db.rows) :
    start.FoundIn strategy symbol uxid db' := by
  intro row hrow
  obtain ⟨hmem, hmatch⟩ := List.mem_filter.mp hrow
  rw [hrows, mem_updateRows] at hmem
  obtain ⟨row₀, hrow₀, rfl⟩ := hmem
  by_cases href : u.refSourceId = some row₀.refSourceId
  · -- the updated row is closed
    simp [Row.matchesStrategy, Row.isActive, Row.update_status, href, hu] at hmatch
  · rw [Row.update, if_neg href] at hmatch ⊢
    exact h row₀ (List.mem_filter.mpr ⟨hrow₀, hmatch⟩)

/-- What the store promises of the lookup by the uxid. -/
def Db.answersFrom (start : Db) (strategy symbol uxid : String) :
    (o : DbOp) → Except Exn o.Ans → Prop
  | .selectActiveByStrategy s y u, r =>
      s = strategy → y = symbol → u = some uxid → ∀ rows, r = .ok rows →
        ∀ row ∈ rows, row ∈ start.activeByStrategy strategy symbol (some uxid)
  | _, _ => True

/-- While rows are only closed, the store keeps its promise. -/
theorem Db.foundIn_serve {β : Type} (B : Backend β) {T : PlatformPosition → Prop}
    {strategy symbol uxid : String} {start : Db} (o : WorkerOp) (w : World β)
    (h : start.FoundIn strategy symbol uxid w.db)
    (hguard : (touching (start.answersFrom strategy symbol uxid) T).guard o) :
    (touching (start.answersFrom strategy symbol uxid) T).answers o (B.serve o w).1 ∧
      start.FoundIn strategy symbol uxid (B.serve o w).2.db := by
  cases o with
  | fx o => exact ⟨trivial, h⟩
  | cx o => exact ⟨trivial, h⟩
  | host o => exact ⟨trivial, h⟩
  | db o =>
      cases o with
      | selectActiveByStrategy s y u =>
          refine ⟨?_, h⟩
          rintro rfl rfl rfl rows hrows
          cases hrows
          exact h
      | updateStatus u =>
          refine ⟨trivial, ?_⟩
          simp only [Backend.serve, Db.serve, Db.updateStatus_of_inactive _ hguard.2]
          exact h.updateRows hguard.2 rfl
      | insertRow r => exact absurd hguard.2 id
      | _ => exact ⟨trivial, h⟩

section Isolation

variable (ex : ForexExecutor)

/-! ## Everything but TP1 -/

/-- A query by a tracked ticket lists that ticket only. -/
theorem scoped_tracks {db : Db} {strategy symbol uxid : String} {row : Row}
    (hrow : row ∈ db.activeByStrategy strategy symbol (some uxid)) (s : Option String) :
    ex.Scoped (fun p => db.Tracks strategy symbol uxid p.ticket) s (some row.refSourceId) := by
  intro _ ps _ p hp
  exact ⟨row, hrow, (mem_filterByTicket_some.mp hp).2⟩

theorem handle_sends_tracked {signal : Signal} {u : String} (db : Db)
    (hmulti : ex.config.allowMultiPositionsPerSymbol = true)
    (hu : SignalHandler.uxidScope (forexMarket ex) signal = some u)
    (htp1 : signal.action ≠ .tp1) :
    Prog.Sends (touching (db.answersFrom signal.strategy signal.symbol u)
        fun p => db.Tracks signal.strategy signal.symbol u p.ticket) (fun _ => True)
      (SignalHandler.handle (forexMarket ex) signal) := by
  have hscope : ∀ rows row, row ∈ rows →
      db.answersFrom signal.strategy signal.symbol u (.selectActiveByStrategy signal.strategy
        signal.symbol (SignalHandler.uxidScope (forexMarket ex) signal)) (.ok rows) →
      ex.Scoped (fun p => db.Tracks signal.strategy signal.symbol u p.ticket)
        (some signal.strategy) (some row.refSourceId) := by
    intro rows row hrow hA
    exact scoped_tracks ex (hA rfl rfl hu rows rfl row hrow) _
  refine Prog.Sends.bind (sends_host _) fun _ _ => ?_
  cases hact : signal.action with
  | long | short =>
      refine SignalHandler.handleEntry_sends fun rows hrows t ht => ?_
      rw [SignalHandler.staleTickets, hu] at ht
      obtain ⟨row, hrow, rfl⟩ := List.mem_map.mp ht
      have hmem := (List.mem_filter.mp hrow).1
      refine hscope rows row hmem (hrows.resolve_left ?_)
      rintro rfl
      cases hmem
  | tp1 => exact absurd hact htp1
  | tp2 | sl | rSl =>
      refine SignalHandler.executeExit_sends fun rows row hrow hA => ?_
      rw [hu]
      exact touching_of_onPlatform (ForexExecutor.closeAllPositions_sends (hscope rows row hrow hA))
  | flat =>
      refine SignalHandler.handleFlat_sends (Or.inr hmulti) (fun hnone => ?_)
        fun rows row hrow _ hA => hscope rows row hrow hA
      cases hu.symm.trans hnone

/-! ## What a TP1 reads

Every query is two platform calls, the name of the symbol and the list. `n` is
the number of the first. -/

variable (script : PlatformScript) (signal : Signal)

/-- The positions a query by the signal's strategy lists. -/
def listedAt (n : Nat) : Except Exn (List PlatformPosition) :=
  (script.fx n (.resolveSymbol signal.symbol)).bind fun name =>
    (script.fx (n + 1) (.getPositions (some name))).bind (ex.scope (some signal.strategy))

def specAt (n : Nat) : Except Exn (Option SymbolSpec) :=
  (script.fx n (.resolveSymbol signal.symbol)).bind fun name =>
    script.fx (n + 1) (.getSymbolSpec name)

/-- The lots a TP1 asks to close of a position, unless it fails or raises first. -/
def tp1LotsAt (n : Nat) (pos : PlatformPosition) : Option ℚ :=
  if ex.config.volumeDecisionEnabled then
    ((forexMarket ex).resolveTp1Params signal).1.bind fun percent =>
      ((specAt script signal n).bind fun spec =>
        normalizeVolume spec (pos.volume * (percent / 100))).toOption
  else
    signal.quantity.bind fun quantity =>
      ((specAt script signal n).bind fun spec =>
        convertQuantityToLots spec quantity).toOption

/-- The positions a close of all of them sends a close for: up to the first that
raises. -/
def closesSentAt (comment : String) : Nat → List PlatformPosition → List PlatformPosition
  | _, [] => []
  | n, pos :: rest =>
      pos :: match script.fx n (.closePosition pos none comment) with
        | .ok _ => closesSentAt comment (n + 1) rest
        | .error _ => []

/-- The failsafe's query lists no other ticket among the positions it closes. -/
def FailsafeStays (ref : String) (n : Nat) : Prop :=
  ∀ ps, listedAt ex script signal n = .ok ps →
    ∀ p ∈ closesSentAt script "Full Close SL_FAILSAFE" (n + 2) ps, sameTicket p.ticket ref

/-- The stop move picks the ticket from its query, and unless the move succeeds
the failsafe stays on it. -/
def StopMoveStays (ref : String) (n : Nat) (pos : PlatformPosition) : Prop :=
  (listedAt ex script signal n = .ok [] → FailsafeStays ex script signal ref (n + 2)) ∧
    ∀ first rest, listedAt ex script signal n = .ok (first :: rest) →
      let picked := ForexExecutor.pick first rest pos.ticket
      sameTicket picked.ticket ref ∧
        ∀ r, script.fx (n + 2) (.modifySl picked pos.priceOpen) = .ok r → r.success = false →
          FailsafeStays ex script signal ref (n + 3)

/-- The partial close picks the ticket from its query, and if it is filled and
the stop is to be moved the stop move stays on it. -/
def PartialCloseStays (ref : String) (n : Nat) (pos : PlatformPosition) (lots : ℚ) : Prop :=
  ∀ first rest, listedAt ex script signal n = .ok (first :: rest) →
    let picked := ForexExecutor.pick first rest pos.ticket
    sameTicket picked.ticket ref ∧
      ∀ r, script.fx (n + 2)
          (.closePosition picked (some (min lots picked.volume)) "Partial Close TP1") = .ok r →
        r.success = true → ((forexMarket ex).resolveTp1Params signal).2 = true →
          StopMoveStays ex script signal ref (n + 3) pos

/-- A TP1 whose first two queries list the ticket and whose lots can be computed
stays on it from then on. -/
def Tp1Stays (ref : String) : Prop :=
  ∀ live pos others lots, listedAt ex script signal 0 = .ok live →
    filterByTicket live (some ref) ≠ [] →
    (listedAt ex script signal 2).map (filterByTicket · (some ref)) = .ok (pos :: others) →
    tp1LotsAt ex script signal 4 pos = some lots →
      PartialCloseStays ex script signal ref 6 pos lots

/-! ## Following a TP1 -/

section Follow

variable {ex script signal} {T : PlatformPosition → Prop} {α β : Type} (db : Db) (n : Nat)

/-- The calls of a run stay inside `T`. -/
abbrev StaysIn (script : PlatformScript) (T : PlatformPosition → Prop) (p : Work α)
    (w : World Nat) : Prop :=
  Prog.Obeys script.backend.serve (Touches T) p w

theorem staysIn_of_sends {Q : α → Prop} {p : Work α}
    (hp : Prog.Sends (touching (fun _ _ => True) T) Q p) (w : World Nat) :
    StaysIn script T p w :=
  fun o ho => (hp.calls (fun o _ => by cases o <;> trivial) w o ho).1

theorem staysIn_platform_bind {o : ForexOp} {f : o.Ans → Work β} :
    StaysIn script T (platform o >>= f) ⟨db, n⟩ ↔
      Touches T (.fx o) ∧ ∀ r, script.fx n o = .ok r → StaysIn script T (f r) ⟨db, n + 1⟩ := by
  have hrun : Prog.run script.backend.serve (platform o) ⟨db, n⟩ =
      (script.fx n o, ⟨db, n + 1⟩) := run_platform ..
  have hcalls : StaysIn script T (platform o) ⟨db, n⟩ ↔ Touches T (.fx o) := by
    simp only [StaysIn, platform, Prog.perform, Prog.obeys_call]
    refine and_iff_left ?_
    cases (script.backend.serve (.fx o) ⟨db, n⟩).1 <;> simp
  rw [StaysIn, Prog.obeys_bind, hrun]
  refine and_congr hcalls ⟨fun h r hr => h r _ (by rw [hr]), fun h r w' hr => ?_⟩
  cases Prod.ext_iff.mp hr with
  | intro hanswer hw =>
      cases hw
      exact h r hanswer

/-- The bind rule after calls that touch nothing, from their outcome. -/
theorem staysIn_bind {p : Work α} {f : α → Work β} {w : World Nat} {x : Except Exn α}
    {w' : World Nat} (hp : StaysIn script T p w)
    (hrun : Prog.run script.backend.serve p w = (x, w')) :
    StaysIn script T (p >>= f) w ↔ ∀ a, x = .ok a → StaysIn script T (f a) w' := by
  cases x with
  | error e => exact iff_of_true (Prog.obeys_bind_error hp hrun) fun a h => by cases h
  | ok a =>
      rw [StaysIn, Prog.obeys_bind_ok hp hrun]
      simp

/-- The run of two platform calls and a check: the first call names the symbol. -/
theorem named_run {γ : Type} (symbol : String) (o : String → ForexOp)
    (g : (name : String) → (o name).Ans → Except Exn γ) :
    ∃ m, Prog.run script.backend.serve (do
        let name ← platform (.resolveSymbol symbol)
        let answer ← platform (o name)
        Prog.ofExcept (g name answer)) ⟨db, n⟩ =
      ((script.fx n (.resolveSymbol symbol)).bind fun name =>
        (script.fx (n + 1) (o name)).bind (g name), ⟨db, m⟩) ∧
      ∀ c, ((script.fx n (.resolveSymbol symbol)).bind fun name =>
        (script.fx (n + 1) (o name)).bind (g name)) = .ok c → m = n + 2 := by
  have hname := run_platform script.backend ⟨db, n⟩ (.resolveSymbol symbol)
  simp only [PlatformScript.backend] at hname
  cases h : script.fx n (.resolveSymbol symbol) with
  | error e =>
      rw [h] at hname
      exact ⟨n + 1, Prog.run_bind_error _ hname, fun _ hc => by cases hc⟩
  | ok name =>
      rw [h] at hname
      have hanswer := run_platform script.backend ⟨db, n + 1⟩ (o name)
      simp only [PlatformScript.backend] at hanswer
      simp only [Except.bind]
      refine ⟨n + 2, (Prog.run_bind_ok _ hname).trans ?_, fun _ _ => rfl⟩
      cases h' : script.fx (n + 1) (o name) with
      | error e =>
          rw [h'] at hanswer
          exact Prog.run_bind_error _ hanswer
      | ok answer =>
          rw [h'] at hanswer
          exact (Prog.run_bind_ok _ hanswer).trans (Prog.run_ofExcept ..)

theorem staysIn_query_bind {f : List PlatformPosition → Work β} :
    StaysIn script T (ex.getOpenPositions signal.symbol (some signal.strategy) >>= f) ⟨db, n⟩ ↔
      ∀ ps, listedAt ex script signal n = .ok ps → StaysIn script T (f ps) ⟨db, n + 2⟩ := by
  obtain ⟨m, hrun, hm⟩ := @named_run script db n _ signal.symbol
    (fun name => .getPositions (some name)) fun _ => ex.scope (some signal.strategy)
  have hsends := touching_of_onPlatform (A := fun _ _ => True) (T := T)
    (onPlatform_of_consulting (ex.getOpenPositions_consults signal.symbol (some signal.strategy)))
  rw [staysIn_bind (staysIn_of_sends hsends _) hrun]
  exact forall_congr' fun ps => imp_congr_right fun hps => by rw [hm ps hps]

/-- The lots of a TP1 are computed by two calls that touch nothing. -/
theorem staysIn_volume_bind (pos : PlatformPosition) {f : Except TradeResult ℚ → Work β}
    (hfail : ∀ failure w, StaysIn script T (f (.error failure)) w) :
    StaysIn script T ((forexMarket ex).resolveTp1Volume signal pos
        ((forexMarket ex).resolveTp1Params signal).1 >>= f) ⟨db, n⟩ ↔
      ∀ lots, tp1LotsAt ex script signal n pos = some lots →
        StaysIn script T (f (.ok lots)) ⟨db, n + 2⟩ := by
  have hsized : ∀ g : Option SymbolSpec → Except Exn ℚ,
      StaysIn script T ((do
          let spec ← ForexExecutor.symbolSpec signal.symbol
          Prog.ofExcept (g spec)) >>= fun v => f (.ok v)) ⟨db, n⟩ ↔
        ∀ lots, ((specAt script signal n).bind g).toOption = some lots →
          StaysIn script T (f (.ok lots)) ⟨db, n + 2⟩ := by
    intro g
    obtain ⟨m, hrun, hm⟩ := @named_run script db n _ signal.symbol .getSymbolSpec fun _ => g
    have hspec : ((specAt script signal n).bind g) =
        (script.fx n (.resolveSymbol signal.symbol)).bind fun name =>
          (script.fx (n + 1) (.getSymbolSpec name)).bind g := by
      unfold specAt
      cases script.fx n (.resolveSymbol signal.symbol) <;> rfl
    rw [← hspec] at hrun hm
    have hprog : (ForexExecutor.symbolSpec signal.symbol >>= fun spec =>
        Prog.ofExcept (g spec)) = (do
          let name ← platform (.resolveSymbol signal.symbol)
          let answer ← platform (.getSymbolSpec name)
          Prog.ofExcept (g answer) : Work ℚ) := Prog.bind_bind ..
    rw [hprog, staysIn_bind ?_ hrun]
    · refine forall_congr' fun lots => ?_
      cases hlots : (specAt script signal n).bind g with
      | error e => simp [Except.toOption]
      | ok lots' =>
          simp only [hm _ hlots, Except.toOption, Except.ok.injEq, Option.some.injEq]
    · refine staysIn_of_sends (Q := fun _ => True) (touching_of_onPlatform ?_) _
      refine Prog.Sends.bind (sends_platform trivial) fun _ _ => ?_
      exact Prog.Sends.bind (sends_platform trivial) fun _ _ => by simp
  have hconfig : (forexMarket ex).config = ex.config := rfl
  unfold ExecutorBackedMarket.resolveTp1Volume tp1LotsAt
  rw [hconfig]
  split
  · cases ((forexMarket ex).resolveTp1Params signal).1 with
    | none => exact iff_of_true (hfail _ _) (by simp)
    | some percent =>
        simp only [Prog.bind_bind, Prog.pure_eq, Prog.ret_bind]
        exact hsized _
  · cases signal.quantity with
    | none => exact iff_of_true (hfail _ _) (by simp)
    | some quantity =>
        simp only [Prog.bind_bind, Prog.pure_eq, Prog.ret_bind]
        exact hsized _

/-- A loop of closes sends one for each position up to the first that raises. -/
theorem staysIn_closeEach (comment : String) (ps : List PlatformPosition) :
    StaysIn script T (ForexExecutor.closeEach comment ps) ⟨db, n⟩ ↔
      ∀ p ∈ closesSentAt script comment n ps, T p := by
  induction ps generalizing n with
  | nil => simp [ForexExecutor.closeEach, closesSentAt]
  | cons pos rest ih =>
      rw [ForexExecutor.closeEach, staysIn_platform_bind, closesSentAt, List.forall_mem_cons]
      refine and_congr Iff.rfl ?_
      cases script.fx n (.closePosition pos none comment) with
      | error e => simp
      | ok r =>
          simp only [Except.ok.injEq, forall_eq']
          rw [StaysIn, Prog.obeys_bind]
          simp [← ih]

theorem staysIn_closeAll (reason : String) :
    StaysIn script T (ex.closeAllPositions signal.symbol reason (some signal.strategy) none)
        ⟨db, n⟩ ↔
      ∀ ps, listedAt ex script signal n = .ok ps →
        ∀ p ∈ closesSentAt script s!"Full Close {reason}" (n + 2) ps, T p := by
  rw [ForexExecutor.closeAllPositions, staysIn_query_bind]
  refine forall_congr' fun ps => imp_congr_right fun _ => ?_
  cases ps with
  | nil => simp [closesSentAt]
  | cons first rest =>
      rw [← staysIn_closeEach db, filterByTicket_none]
      dsimp only
      rw [StaysIn, Prog.obeys_bind]
      simp

theorem forall_ok_list {γ : Type} {x : Except Exn (List γ)} {P : List γ → Prop} :
    (∀ as, x = .ok as → P as) ↔
      (x = .ok [] → P []) ∧ ∀ a as, x = .ok (a :: as) → P (a :: as) := by
  refine ⟨fun h => ⟨h [], fun a as => h (a :: as)⟩, fun h as has => ?_⟩
  cases as with
  | nil => exact h.1 has
  | cons a as => exact h.2 a as has

/-- A pure last step makes no call. -/
theorem staysIn_bind_pure {p : Work α} {f : α → β} {w : World Nat} :
    StaysIn script T (p >>= fun a => pure (f a)) w ↔ StaysIn script T p w := by
  rw [StaysIn, Prog.obeys_bind]
  simp

section Ticket

variable {ref : String}

abbrev Under (ref : String) (p : PlatformPosition) : Prop := sameTicket p.ticket ref = true

theorem staysIn_failsafe (f : TradeResult → TradeResult) :
    StaysIn script (Under ref) (ex.closeAllPositions signal.symbol "SL_FAILSAFE"
        (some signal.strategy) none >>= fun failsafe => pure (f failsafe)) ⟨db, n⟩ ↔
      FailsafeStays ex script signal ref n :=
  staysIn_bind_pure.trans (staysIn_closeAll db n "SL_FAILSAFE")

theorem staysIn_stopMove (pos : PlatformPosition) (closeResult : TradeResult) :
    StaysIn script (Under ref) ((forexMarket ex).moveSlToBreakeven signal pos closeResult)
        ⟨db, n⟩ ↔ StopMoveStays ex script signal ref n pos := by
  have hmove : (forexMarket ex).executor.updatePositionSl = ex.updatePositionSl := rfl
  have hclose : ∀ reason price ticket, (forexMarket ex).executor.closeAllPositions
      signal.symbol reason (some signal.strategy) price ticket =
        ex.closeAllPositions signal.symbol reason (some signal.strategy) ticket :=
    fun _ _ _ => rfl
  unfold ExecutorBackedMarket.moveSlToBreakeven
  rw [hmove, ForexExecutor.updatePositionSl, Prog.bind_bind, staysIn_query_bind, forall_ok_list]
  refine and_congr (imp_congr_right fun _ => ?_) (forall_congr' fun first =>
    forall_congr' fun rest => imp_congr_right fun _ => ?_)
  · simp only [Prog.pure_eq, Prog.ret_bind, TradeResult.fail_success, Bool.false_eq_true,
      if_false, hclose]
    exact staysIn_failsafe db (n + 2) _
  · dsimp only
    rw [staysIn_platform_bind]
    refine and_congr Iff.rfl (forall_congr' fun r => imp_congr_right fun _ => ?_)
    cases r.success with
    | true => simp
    | false =>
        simp only [Bool.false_eq_true, if_false, hclose, forall_const]
        exact staysIn_failsafe db (n + 3) _

theorem staysIn_partialClose (pos : PlatformPosition) (lots : ℚ) :
    StaysIn script (Under ref) (do
        let closeResult ← (forexMarket ex).executor.partialClosePosition signal.symbol lots
          pos.ticket (some signal.strategy) signal.price
        if closeResult.success ∧ ((forexMarket ex).resolveTp1Params signal).2 then
          (forexMarket ex).moveSlToBreakeven signal pos closeResult
        else pure closeResult) ⟨db, n⟩ ↔
      PartialCloseStays ex script signal ref n pos lots := by
  have hpart : (forexMarket ex).executor.partialClosePosition signal.symbol lots
      pos.ticket (some signal.strategy) signal.price =
        ex.partialClosePosition signal.symbol lots pos.ticket (some signal.strategy) := rfl
  rw [hpart, ForexExecutor.partialClosePosition, Prog.bind_bind, staysIn_query_bind,
    forall_ok_list]
  refine (and_iff_right fun _ => by simp).trans (forall_congr' fun first =>
    forall_congr' fun rest => imp_congr_right fun _ => ?_)
  dsimp only
  rw [Prog.bind_bind, staysIn_platform_bind]
  refine and_congr Iff.rfl (forall_congr' fun r => imp_congr_right fun _ => ?_)
  by_cases hr : r.success = true
  · rw [if_pos hr]
    simp only [Prog.pure_eq, Prog.ret_bind, hr, true_and, forall_const]
    split
    · rename_i hmove
      simp only [hmove, forall_const]
      exact staysIn_stopMove db (n + 3) pos _
    · rename_i hmove
      exact iff_of_true (by simp) fun h => absurd h hmove
  · rw [if_neg hr]
    simp [hr]

theorem staysIn_tp1 :
    StaysIn script (Under ref) ((forexMarket ex).handleTp1 signal (some ref)) ⟨db, n⟩ ↔
      ∀ pos others lots,
        (listedAt ex script signal n).map (filterByTicket · (some ref)) = .ok (pos :: others) →
        tp1LotsAt ex script signal (n + 2) pos = some lots →
          PartialCloseStays ex script signal ref (n + 4) pos lots := by
  have hquery : (forexMarket ex).executor.getOpenPositions = ex.getOpenPositions := rfl
  unfold ExecutorBackedMarket.handleTp1 ExecutorBackedMarket.getOpenPositions
  rw [hquery, Prog.bind_bind, staysIn_query_bind]
  simp only [Prog.pure_eq, Prog.ret_bind]
  cases listedAt ex script signal n with
  | error e => simp [Except.map]
  | ok ps =>
      simp only [Except.ok.injEq, forall_eq', Except.map]
      cases filterByTicket ps (some ref) with
      | nil => simp
      | cons pos others =>
          simp only [List.cons.injEq, and_imp]
          rw [staysIn_volume_bind db (n + 2) pos fun failure w => by simp]
          constructor
          · rintro h _ _ lots rfl rfl hlots
            exact (staysIn_partialClose db (n + 4) pos lots).mp (h lots hlots)
          · intro h lots hlots
            exact (staysIn_partialClose db (n + 4) pos lots).mpr (h pos others lots rfl rfl hlots)

theorem staysIn_executeTp1 {row : Row} {u : String}
    (hu : SignalHandler.uxidScope (forexMarket ex) signal = some u)
    (hrow : db.activeByStrategy signal.strategy signal.symbol (some u) = [row]) :
    StaysIn script (Under row.refSourceId) (SignalHandler.handleTp1 (forexMarket ex) signal)
        ⟨db, 0⟩ ↔ Tp1Stays ex script signal row.refSourceId := by
  have hlookup := getDbPosition_of_length_le_one script.backend ⟨db, 0⟩ signal.strategy
    signal.symbol (some u) (by simp [hrow])
  have hquery : (forexMarket ex).executor.getOpenPositions = ex.getOpenPositions := rfl
  unfold SignalHandler.handleTp1 SignalHandler.executeExit ExecutorBackedMarket.getOpenPositions
  dsimp only
  rw [hu, hquery, staysIn_bind (staysIn_of_sends (SignalHandler.getDbPosition_sends ..) _) hlookup,
    hrow]
  simp only [List.head?_cons, Except.ok.injEq, forall_eq', Option.isSome_some, if_true,
    Prog.bind_bind, Prog.pure_eq, Prog.ret_bind]
  rw [staysIn_query_bind]
  unfold Tp1Stays
  constructor
  · intro h live pos others lots hlive hfound hpos hlots
    have hexit := h live hlive
    rw [if_neg (by simpa using hfound)] at hexit
    rw [StaysIn, Prog.obeys_bind] at hexit
    exact (staysIn_tp1 db 2).mp hexit.1 pos others lots hpos hlots
  · intro h live hlive
    by_cases hfound : filterByTicket live (some row.refSourceId) = []
    · simp [hfound]
    · rw [if_neg (by simpa using hfound), StaysIn, Prog.obeys_bind]
      refine ⟨(staysIn_tp1 db 2).mpr fun pos others lots => h live pos others lots hlive hfound,
        fun result w _ => ?_⟩
      split <;> simp

/-- Without a row TP1 sends nothing. -/
theorem staysIn_executeTp1_none {u : String} {T : PlatformPosition → Prop}
    (hu : SignalHandler.uxidScope (forexMarket ex) signal = some u)
    (hrow : db.activeByStrategy signal.strategy signal.symbol (some u) = []) :
    StaysIn script T (SignalHandler.handleTp1 (forexMarket ex) signal) ⟨db, 0⟩ := by
  have hlookup := getDbPosition_of_length_le_one script.backend ⟨db, 0⟩ signal.strategy
    signal.symbol (some u) (by simp [hrow])
  unfold SignalHandler.handleTp1 SignalHandler.executeExit
  dsimp only
  rw [hu, staysIn_bind (staysIn_of_sends (SignalHandler.getDbPosition_sends ..) _) hlookup, hrow]
  simp

theorem staysIn_handle {u : String}
    (hu : SignalHandler.uxidScope (forexMarket ex) signal = some u)
    (htp1 : signal.action = .tp1) :
    StaysIn script (fun p => db.Tracks signal.strategy signal.symbol u p.ticket)
        (SignalHandler.handle (forexMarket ex) signal) ⟨db, 0⟩ ↔
      ∀ row ∈ db.activeByStrategy signal.strategy signal.symbol (some u),
        Tp1Stays ex script signal row.refSourceId := by
  have hhandling : Prog.run script.backend.serve (host (.handling signal)) ⟨db, 0⟩ =
      (.ok (), ⟨db, 0⟩) := run_host ..
  unfold SignalHandler.handle
  rw [staysIn_bind (staysIn_of_sends (sends_host _) _) hhandling]
  simp only [htp1]
  have hlength : (db.activeByStrategy signal.strategy signal.symbol (some u)).length ≤ 1 :=
    activeByStrategy_length_le_one (hu ▸ uxidScope_text? hu)
  match hrows : db.activeByStrategy signal.strategy signal.symbol (some u) with
  | [] =>
      have hnone : StaysIn script
          (fun p => db.Tracks signal.strategy signal.symbol u p.ticket)
          (SignalHandler.handleTp1 (forexMarket ex) signal) ⟨db, 0⟩ :=
        staysIn_executeTp1_none db hu hrows
      simp [hnone]
  | [row] =>
      have htracks : (fun p : PlatformPosition =>
          db.Tracks signal.strategy signal.symbol u p.ticket) = Under row.refSourceId := by
        funext p
        simp [Db.Tracks, hrows]
      rw [htracks, staysIn_executeTp1 db hu hrows]
      simp
  | _ :: _ :: _ => simp [hrows] at hlength

end Ticket

end Follow

/-- Everything the worker closes or moves for a signal with a uxid is under the
ticket tracked for it, exactly when the action is not TP1 or the TP1 stays on the
ticket. -/
theorem handle_staysOnTicket_iff (hmulti : ex.config.allowMultiPositionsPerSymbol = true)
    (u : String) (hu : signal.signalUxid = some u) (hne : u ≠ "") (db : Db) :
    (∀ o ∈ Prog.calls script.backend.serve (SignalHandler.handle (forexMarket ex) signal)
        ⟨db, 0⟩, Touches (fun p => db.Tracks signal.strategy signal.symbol u p.ticket) o) ↔
      (signal.action = .tp1 →
        ∀ row ∈ db.activeByStrategy signal.strategy signal.symbol (some u),
          Tp1Stays ex script signal row.refSourceId) := by
  have hscope : SignalHandler.uxidScope (forexMarket ex) signal = some u := by
    have hmarket : (forexMarket ex).allowsMultiPositionsPerSymbol = true := hmulti
    rw [SignalHandler.uxidScope, if_pos hmarket]
    exact text?_eq_some.mpr ⟨hu, hne⟩
  by_cases htp1 : signal.action = .tp1
  · simp only [htp1, true_implies]
    exact staysIn_handle db hscope htp1
  · refine iff_of_true (fun o ho => ?_) fun h => absurd h htp1
    exact ((handle_sends_tracked ex db hmulti hscope htp1).obeys (Db.foundIn_serve script.backend)
      (fun _ h => h) o ho).1

end Isolation

/-! ## A failsafe close beside a sibling -/

/-- `GOLD` may hold several positions for each symbol. -/
def multiGold : ForexExecutor where
  config := { allowMultiPositionsPerSymbol := true }
  strategyMagicMap := [("GOLD", 7)]

/-- A TP1 of signal `a` that moves the stop to breakeven. -/
def firstTp1 : Signal :=
  { strategy := "GOLD", timestamp := 0, action := .tp1, symbol := "XAUUSD"
    signalUxid := some "a", tp1Percent := some 50, moveSlToBe := some true }

/-- A platform that holds both tickets, fills every close and refuses the stop. -/
def bothTickets : PlatformScript where
  fx
    | _, .resolveSymbol s => .ok s
    | _, .getSymbolSpec _ => .ok (some
        { resolvedName := "XAUUSD", point := 1 / 100, digits := 2, volumeMin := 1 / 100
          volumeStep := 1 / 100, volumeMax := 100, tickValue := 1, tickSize := 1 / 100
          contractSize := 100, stopsLevel := 0 })
    | _, .getPositions _ => .ok [goldPosition 101, goldPosition 102]
    | _, .closePosition pos _ _ => .ok { success := true, ticket := some (ticketText pos.ticket) }
    | _, .modifySl _ _ => .ok (.fail "Invalid stops")
    | _, _ => .error (.gateway "not asked")
  host := HostOp.quiet

theorem firstTp1_staysOnTicket_iff :
    multiGold.config.allowMultiPositionsPerSymbol = true ∧ firstTp1.signalUxid = some "a" ∧
      "a" ≠ "" ∧
      ((∀ o ∈ Prog.calls bothTickets.backend.serve
          (SignalHandler.handle (forexMarket multiGold) firstTp1) ⟨twoSignals.db, 0⟩,
        Touches (fun p => twoSignals.db.Tracks "GOLD" "XAUUSD" "a" p.ticket) o) ↔
      (firstTp1.action = .tp1 →
        ∀ row ∈ twoSignals.db.activeByStrategy "GOLD" "XAUUSD" (some "a"),
          Tp1Stays multiGold bothTickets firstTp1 row.refSourceId)) :=
  ⟨rfl, rfl, by decide,
    handle_staysOnTicket_iff multiGold bothTickets firstTp1 rfl "a" rfl (by decide) twoSignals.db⟩

/-- The failsafe of the TP1 of `a` closes the ticket of `b`. -/
theorem firstTp1_closes_sibling :
    ¬ ∀ o ∈ Prog.calls bothTickets.backend.serve
        (SignalHandler.handle (forexMarket multiGold) firstTp1) ⟨twoSignals.db, 0⟩,
      Touches (fun p => twoSignals.db.Tracks "GOLD" "XAUUSD" "a" p.ticket) o := by
  have hrow : twoSignals.db.activeByStrategy "GOLD" "XAUUSD" (some "a") =
      [goldRow 1 "101" "a"] := by decide
  intro hstays
  have htp1 := (staysIn_handle twoSignals.db rfl rfl).mp hstays (goldRow 1 "101" "a")
    (hrow ▸ List.mem_singleton_self _)
  have hlisted : ∀ n, listedAt multiGold bothTickets firstTp1 n =
      .ok [goldPosition 101, goldPosition 102] := fun _ => rfl
  have hmatched : filterByTicket [goldPosition 101, goldPosition 102] (some "101") =
      [goldPosition 101] := by decide
  obtain ⟨lots, hlots⟩ : ∃ lots,
      tp1LotsAt multiGold bothTickets firstTp1 4 (goldPosition 101) = some lots :=
    Option.isSome_iff_exists.mp (by decide +kernel)
  have hclose := htp1 _ (goldPosition 101) [] lots (hlisted 0) (by rw [goldRow, hmatched]; simp)
    (by rw [hlisted, Except.map, goldRow, hmatched]) hlots
  have hmove := (hclose _ _ (hlisted 6)).2 _ rfl rfl rfl
  have hfailsafe := (hmove.2 _ _ (hlisted 9)).2 _ rfl rfl
  have hsibling := hfailsafe _ (hlisted 12) (goldPosition 102)
    (List.mem_cons_of_mem _ List.mem_cons_self)
  exact absurd hsibling (by decide)

end TradeWorker
