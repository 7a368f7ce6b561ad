import TradeWorker.Footprint

/-!
# What the forex path can touch

Two of the platform's operations act on an existing position: a close, whole or
partial, and a stop move. This module follows which positions can reach them,
whatever the platform answers. `touching A T` allows a close or a stop move only
on a position in `T`; `A` is what the store's answers promise.

The lemmas go up the call tree: executor, market, handler. Each says what the
caller must know of the positions the platform listed for its own operation to
stay inside `T`.
-/

namespace TradeWorker

def Touches (T : PlatformPosition → Prop) : WorkerOp → Prop
  | .fx (.closePosition pos _ _) => T pos
  | .fx (.modifySl pos _) => T pos
  | _ => True

def ClosesRows : WorkerOp → Prop
  | .db (.updateStatus u) => u.status.isActive = false
  | .db (.insertRow _) => False
  | _ => True

/-- The contract: store answers keep `A`, everything else may answer anything. -/
def touching (A : (o : DbOp) → Except Exn o.Ans → Prop) (T : PlatformPosition → Prop) :
    Prog.Contract WorkerOp WorkerOp.Ans Exn where
  guard o := Touches T o ∧ ClosesRows o
  answers
    | .db o, r => A o r
    | _, _ => True

/-- An executor's calls, on positions in `T`. -/
def onPlatform (T : PlatformPosition → Prop) : Prog.Contract WorkerOp WorkerOp.Ans Exn where
  guard o := o.atBroker = true ∧ Touches T o
  answers _ _ := True

section Reach

variable {A : (o : DbOp) → Except Exn o.Ans → Prop} {T : PlatformPosition → Prop}

/-- An executor's program, where the store's answers are looked at too. -/
theorem touching_of_onPlatform {α : Type} {Q : α → Prop} {p : Work α}
    (hp : Prog.Sends (onPlatform T) Q p) : Prog.Sends (touching A T) Q p := by
  refine hp.relax (fun o ho => ⟨ho.2, ?_⟩) fun _ _ _ => trivial
  unfold ClosesRows
  split
  · cases ho.1
  · cases ho.1
  · trivial

/-- What only asks touches no position. -/
theorem onPlatform_of_consulting {α : Type} {Q : α → Prop} {p : Work α}
    (hp : Prog.Sends consulting Q p) : Prog.Sends (onPlatform T) Q p := by
  refine hp.relax (fun o ho => ?_) fun _ _ _ => trivial
  cases o with
  | db o => exact ⟨ho, trivial⟩
  | cx o => exact ⟨rfl, trivial⟩
  | host o => exact ⟨atBroker_of_consults ho, trivial⟩
  | fx o =>
      cases o with
      | placeOrder | closePosition | modifySl => cases ho
      | resolveSymbol | getSymbolSpec | getTick | getPositions | getAccount | calcMargin
      | getPositionRealizedPnl => exact ⟨rfl, trivial⟩

theorem onPlatform_after {α γ : Type} {Q : α → Prop} {R : γ → Prop} {p : Work α}
    {f : α → Work γ} (hp : Prog.Sends consulting Q p)
    (hf : ∀ a, Q a → Prog.Sends (onPlatform T) R (f a)) :
    Prog.Sends (onPlatform T) R (p >>= f) :=
  Prog.Sends.bind (onPlatform_of_consulting hp) hf

/-! ## Calls that touch nothing -/

theorem sends_sql (o : DbOp) (ho : ClosesRows (.db o)) :
    Prog.Sends (touching A T) (fun a => A o (.ok a)) (sql o) :=
  Prog.sends_perform ⟨trivial, ho⟩ fun _ h => h

theorem sends_host (o : HostOp) :
    Prog.Sends (touching A T) (fun _ => True) (host o) :=
  Prog.sends_perform ⟨trivial, trivial⟩ fun _ _ => trivial

theorem sends_platform {o : ForexOp} (ho : Touches T (.fx o)) :
    Prog.Sends (onPlatform T) (fun _ => True) (platform o) :=
  Prog.sends_perform ⟨rfl, ho⟩ fun _ _ => trivial

theorem getOpenPositionsByStrategy_sends (strategy symbol : String)
    (uxid : Option String) :
    Prog.Sends (touching A T)
      (fun rows => rows = [] ∨ A (.selectActiveByStrategy strategy symbol uxid) (.ok rows))
      (getOpenPositionsByStrategy strategy symbol uxid) :=
  Prog.Sends.tryCatch
    ((sends_sql (.selectActiveByStrategy strategy symbol uxid) trivial).mono
      fun _ h => Or.inr h)
    fun _ => by simp

theorem getOpenPositionsForFlat_sends (strategy symbol refId : Option String) :
    Prog.Sends (touching A T) (fun _ => True)
      (getOpenPositionsForFlat strategy symbol refId) :=
  Prog.Sends.tryCatch
    ((sends_sql (.selectActiveForFlat strategy symbol refId) trivial).mono fun _ _ => trivial)
    fun _ => by simp

theorem updatePositionStatus_sends {u : StatusUpdate} (hu : u.status.isActive = false) :
    Prog.Sends (touching A T) (fun _ => True) (updatePositionStatus u) :=
  (sends_sql (.updateStatus u) hu).mono fun _ _ => trivial

theorem updateEach_sends {us : List StatusUpdate} (hus : ∀ u ∈ us, u.status.isActive = false) :
    Prog.Sends (touching A T) (fun _ => True) (updateEach us) := by
  induction us with
  | nil => simp [updateEach]
  | cons u us ih =>
      exact Prog.Sends.bind (updatePositionStatus_sends (hus u List.mem_cons_self)) fun _ _ =>
        ih fun u' hu' => hus u' (List.mem_cons_of_mem _ hu')

/-- A loop that closes one row for each item. -/
theorem updateEach_map_sends {rows : List Row} {f : Row → StatusUpdate}
    (hf : ∀ r, (f r).status.isActive = false) :
    Prog.Sends (touching A T) (fun _ => True) (updateEach (rows.map f)) :=
  updateEach_sends (List.forall_mem_map.mpr fun r _ => hf r)

namespace ForexExecutor

variable {ex : ForexExecutor}

theorem symbolSpec_consults (symbol : String) :
    Prog.Sends consulting (fun _ => True) (symbolSpec symbol) :=
  Prog.Sends.bind (consulting_fx rfl) fun _ _ => consulting_fx rfl

theorem normalize_consults (symbol : String) (volume : ℚ) :
    Prog.Sends consulting (fun _ => True) (normalize symbol volume) :=
  Prog.Sends.bind (symbolSpec_consults symbol) fun _ _ => by simp

theorem convertQuantity_consults (symbol : String) (quantity : ℚ) :
    Prog.Sends consulting (fun _ => True) (convertQuantity symbol quantity) :=
  Prog.Sends.bind (symbolSpec_consults symbol) fun _ _ => by simp

/-- A query returns a list the executor's own filter produced. -/
theorem getOpenPositions_consults (symbol : String) (strategy : Option String) :
    Prog.Sends consulting (fun ps => ∃ raw, ex.scope strategy raw = .ok ps)
      (ex.getOpenPositions symbol strategy) := by
  refine Prog.Sends.bind (consulting_fx rfl) fun _ _ => ?_
  refine Prog.Sends.bind (consulting_fx rfl) fun raw _ => ?_
  simp only [Prog.sends_ofExcept]
  exact fun ps hps => ⟨raw, hps⟩

theorem getEntryPrice_consults (signal : Signal) :
    Prog.Sends consulting (fun _ => True) (getEntryPrice signal) := by
  unfold getEntryPrice
  split
  · simp
  · refine Prog.Sends.bind (consulting_fx rfl) fun symbol _ => ?_
    exact Prog.Sends.bind (consulting_fx rfl) fun _ _ => by simp

/-! ## Entry -/

theorem resolveEntryVolume_consults (signal : Signal) (spec : Option SymbolSpec) (price : ℚ)
    (sl : Option ℚ) :
    Prog.Sends consulting (fun _ => True)
      (ex.resolveEntryVolume signal spec price sl) := by
  unfold resolveEntryVolume
  dsimp only
  split
  · exact Prog.Sends.bind (symbolSpec_consults _) fun _ _ => by simp
  · split
    · simp
    · refine Prog.Sends.bind (Q := fun _ => True) ?_ fun capital _ => ?_
      · unfold resolveCapital
        split
        · exact Prog.Sends.bind (consulting_fx rfl) fun _ _ => by simp
        · simp
      · cases capital with
        | none => simp
        | some capital =>
            refine Prog.Sends.bind (Q := fun _ => True) (by simp) fun _ _ => ?_
            simp

theorem fitVolumeToMargin_consults (symbol : String) (side : Side) (volume : Option ℚ)
    (price : ℚ) (spec : Option SymbolSpec) :
    Prog.Sends consulting (fun _ => True)
      (fitVolumeToMargin symbol side volume price spec) := by
  unfold fitVolumeToMargin
  cases volume with
  | none => simp
  | some volume =>
      refine Prog.Sends.bind (consulting_fx rfl) fun required _ => ?_
      split
      · split
        · simp
        · refine Prog.Sends.bind (Q := fun _ => True) ?_ fun free _ => ?_
          · exact Prog.Sends.bind (consulting_fx rfl) fun _ _ => by simp
          · cases free with
            | none => simp
            | some free =>
                dsimp only
                split
                · simp
                · refine Prog.Sends.bind (Q := fun _ => True) (by simp) fun _ _ => ?_
                  refine Prog.Sends.bind (consulting_fx rfl) fun margin _ => ?_
                  split
                  · split <;> simp
                  · simp
      · simp

theorem openPosition_sends (signal : Signal) :
    Prog.Sends (onPlatform T) (fun _ => True) (ex.openPosition signal) := by
  unfold openPosition
  split
  · simp
  · refine Prog.Sends.bind (sends_platform trivial) fun symbol _ => ?_
    refine Prog.Sends.bind (sends_platform trivial) fun spec _ => ?_
    refine Prog.Sends.bind (sends_platform trivial) fun tick _ => ?_
    cases tick with
    | none => simp
    | some tick =>
        dsimp only
        split
        · simp
        · refine onPlatform_after (resolveEntryVolume_consults ..) fun requested _ => ?_
          refine onPlatform_after (fitVolumeToMargin_consults ..) fun volume _ => ?_
          cases volume with
          | none => simp
          | some volume =>
              refine Prog.Sends.bind (Q := fun _ => True) (by simp) fun _ _ => ?_
              refine Prog.Sends.bind (sends_platform trivial) fun _ _ => ?_
              split <;> simp

/-! ## Exits -/

/-- Every position the query may list is in `T`. -/
def Scoped (ex : ForexExecutor) (T : PlatformPosition → Prop)
    (strategy ticket : Option String) : Prop :=
  ∀ raw ps, ex.scope strategy raw = .ok ps → ∀ p ∈ filterByTicket ps ticket, T p

theorem partialClosePosition_sends {symbol : String} {volume : ℚ} {ticket : Nat}
    {strategy : Option String} (h : ex.Scoped T strategy none) :
    Prog.Sends (onPlatform T) (fun _ => True)
      (ex.partialClosePosition symbol volume ticket strategy) := by
  refine onPlatform_after (getOpenPositions_consults symbol strategy) ?_
  rintro ps ⟨raw, hps⟩
  cases ps with
  | nil => simp
  | cons first rest =>
      have hT : T (pick first rest ticket) := h raw _ hps _ (pickPosition_mem ..)
      refine Prog.Sends.bind (sends_platform hT) fun _ _ => ?_
      split <;> simp

theorem updatePositionSl_sends {symbol : String} {newSl : ℚ} {ticket : Nat}
    {strategy : Option String} (h : ex.Scoped T strategy none) :
    Prog.Sends (onPlatform T) (fun _ => True)
      (ex.updatePositionSl symbol newSl ticket strategy) := by
  refine onPlatform_after (getOpenPositions_consults symbol strategy) ?_
  rintro ps ⟨raw, hps⟩
  cases ps with
  | nil => simp
  | cons first rest =>
      have hT : T (pick first rest ticket) := h raw _ hps _ (pickPosition_mem ..)
      exact sends_platform hT

theorem closeEach_sends {comment : String} {ps : List PlatformPosition}
    (h : ∀ p ∈ ps, T p) :
    Prog.Sends (onPlatform T) (fun _ => True) (closeEach comment ps) := by
  induction ps with
  | nil => simp [closeEach]
  | cons pos rest ih =>
      refine Prog.Sends.bind (sends_platform (h pos List.mem_cons_self)) fun _ _ => ?_
      refine Prog.Sends.bind (ih fun p hp => h p (List.mem_cons_of_mem _ hp)) fun _ _ => ?_
      simp

theorem closeAllPositions_sends {symbol reason : String} {strategy ticket : Option String}
    (h : ex.Scoped T strategy ticket) :
    Prog.Sends (onPlatform T) (fun _ => True)
      (ex.closeAllPositions symbol reason strategy ticket) := by
  refine onPlatform_after (getOpenPositions_consults symbol strategy) ?_
  rintro ps ⟨raw, hps⟩
  have hT := h raw ps hps
  generalize filterByTicket ps ticket = matching at hT
  cases matching with
  | nil => simp
  | cons first rest =>
      exact Prog.Sends.bind (closeEach_sends hT) fun _ _ => by simp

end ForexExecutor

/-! ## The market -/

variable {ex : ForexExecutor}

theorem forexMarket_getOpenPositions_sends (symbol : String)
    (strategy ticket : Option String) :
    Prog.Sends (onPlatform T) (fun _ => True)
      ((forexMarket ex).getOpenPositions symbol strategy ticket) :=
  onPlatform_of_consulting <|
    Prog.Sends.bind (ForexExecutor.getOpenPositions_consults symbol strategy) fun _ _ => by simp

theorem forexMarket_resolveTp1Volume_sends (signal : Signal) (pos : PlatformPosition)
    (percent : Option ℚ) :
    Prog.Sends (onPlatform T) (fun _ => True)
      ((forexMarket ex).resolveTp1Volume signal pos percent) := by
  unfold ExecutorBackedMarket.resolveTp1Volume
  split
  · split
    · simp
    · exact onPlatform_after (ForexExecutor.normalize_consults ..) fun _ _ => by simp
  · split
    · simp
    · exact onPlatform_after (ForexExecutor.convertQuantity_consults ..) fun _ _ => by simp

theorem forexMarket_handleTp1_sends {signal : Signal} {ticket : Option String}
    (h : ex.Scoped T (some signal.strategy) none) :
    Prog.Sends (onPlatform T) (fun _ => True)
      ((forexMarket ex).handleTp1 signal ticket) := by
  refine Prog.Sends.bind (forexMarket_getOpenPositions_sends ..) fun positions _ => ?_
  cases positions with
  | nil => simp
  | cons pos rest =>
      refine Prog.Sends.bind (forexMarket_resolveTp1Volume_sends ..) fun volume _ => ?_
      cases volume with
      | error failure => simp
      | ok volume =>
          refine Prog.Sends.bind (ForexExecutor.partialClosePosition_sends h)
            fun closeResult _ => ?_
          split
          · refine Prog.Sends.bind (ForexExecutor.updatePositionSl_sends h)
              fun slResult _ => ?_
            dsimp only
            split
            · simp
            · exact Prog.Sends.bind (ForexExecutor.closeAllPositions_sends h)
                fun _ _ => by simp
          · simp

/-! ## The handler -/

namespace SignalHandler

/-- The row a lookup returns came from the store. -/
theorem getDbPosition_sends (strategy symbol : String) (uxid : Option String) :
    Prog.Sends (touching A T)
      (fun row? => ∀ row ∈ row?, ∃ rows : List Row,
        A (.selectActiveByStrategy strategy symbol uxid) (.ok rows) ∧ row ∈ rows)
      (getDbPosition strategy symbol uxid) := by
  refine Prog.Sends.bind (getOpenPositionsByStrategy_sends ..) fun rows hrows => ?_
  cases rows with
  | nil => simp
  | cons kept duplicates =>
      refine Prog.Sends.bind (updateEach_map_sends fun _ => rfl) fun _ _ => ?_
      simp only [Prog.pure_eq, Prog.sends_ret, Option.mem_some_iff, forall_eq']
      exact ⟨_, hrows.resolve_left (List.cons_ne_nil _ _), List.mem_cons_self⟩

theorem forceCloseEach_sends {symbol strategy : String} {tickets : List (Option String)}
    (h : ∀ t ∈ tickets, ex.Scoped T (some strategy) t) (report : TradeResult) :
    Prog.Sends (touching A T) (fun _ => True)
      (forceCloseEach (forexMarket ex) symbol strategy tickets report) := by
  induction tickets generalizing report with
  | nil => simp [forceCloseEach]
  | cons ticket rest ih =>
      refine Prog.Sends.bind
        (touching_of_onPlatform
          (ForexExecutor.closeAllPositions_sends (h ticket List.mem_cons_self)))
        fun cleanup _ => ?_
      split
      · exact ih (fun t ht => h t (List.mem_cons_of_mem _ ht)) _
      · simp

theorem collectStale_sends (symbol strategy : String) (tickets : List (Option String)) :
    Prog.Sends (touching A T) (fun _ => True)
      (collectStale (forexMarket ex) symbol strategy tickets) := by
  induction tickets with
  | nil => simp [collectStale]
  | cons ticket rest ih =>
      refine Prog.Sends.bind (touching_of_onPlatform (forexMarket_getOpenPositions_sends ..))
        fun _ _ => ?_
      exact Prog.Sends.bind ih fun _ _ => by simp

theorem enterFresh_sends (signal : Signal) (dbStale : List Row) (stale : Bool)
    (cleanup : TradeResult) :
    Prog.Sends (touching A T) (fun _ => True)
      (enterFresh (forexMarket ex) signal dbStale stale cleanup) := by
  refine Prog.Sends.bind (updateEach_map_sends fun _ => rfl) fun _ _ => ?_
  refine Prog.Sends.bind (touching_of_onPlatform (ForexExecutor.openPosition_sends signal))
    fun _ _ => ?_
  split <;> simp

/-- An entry closes under the tickets its own rows gave it. -/
theorem handleEntry_sends {signal : Signal}
    (h : ∀ rows,
      rows = [] ∨ A (.selectActiveByStrategy signal.strategy signal.symbol
        (uxidScope (forexMarket ex) signal)) (.ok rows) →
      ∀ t ∈ staleTickets (uxidScope (forexMarket ex) signal) rows,
        ex.Scoped T (some signal.strategy) t) :
    Prog.Sends (touching A T) (fun _ => True)
      (handleEntry (forexMarket ex) signal) := by
  refine Prog.Sends.bind (getOpenPositionsForFlat_sends ..) fun holders _ => ?_
  dsimp only
  split
  · simp
  · refine Prog.Sends.bind (getOpenPositionsByStrategy_sends ..) fun rows hrows => ?_
    refine Prog.Sends.bind (collectStale_sends ..) fun stale _ => ?_
    split
    · exact enterFresh_sends ..
    · refine Prog.Sends.bind (forceCloseEach_sends (h rows hrows) _) fun cleanup _ => ?_
      split
      · exact enterFresh_sends ..
      · simp

/-- An exit runs the market's exit under the ticket of its row, or under none
when no uxid is in play. -/
theorem executeExit_sends {signal : Signal}
    {strategyFn : Signal → Option String → Work TradeResult} {c₁ c₂ : String}
    (h : ∀ rows : List Row, ∀ row ∈ rows,
      A (.selectActiveByStrategy signal.strategy signal.symbol
        (uxidScope (forexMarket ex) signal)) (.ok rows) →
      Prog.Sends (touching A T) (fun _ => True)
        (strategyFn signal (if (uxidScope (forexMarket ex) signal).isSome then
          some row.refSourceId else none))) :
    Prog.Sends (touching A T) (fun _ => True)
      (executeExit (forexMarket ex) signal strategyFn c₁ c₂) := by
  refine Prog.Sends.bind (getDbPosition_sends ..) fun row? hrow => ?_
  cases row? with
  | none => simp
  | some row =>
      obtain ⟨rows, hA, hmem⟩ := hrow row rfl
      refine Prog.Sends.bind (touching_of_onPlatform (forexMarket_getOpenPositions_sends ..))
        fun live _ => ?_
      split
      · simp
      · refine Prog.Sends.bind (h rows row hmem hA) fun _ _ => ?_
        split <;> simp

theorem flatSettle_sends (signal : Signal) (owned : Option Row) (result : TradeResult) :
    Prog.Sends (touching A T) (fun _ => True)
      (flatSettle (forexMarket ex) signal owned result) := by
  refine Prog.Sends.bind (Q := fun _ => True) ?_ fun row? _ => ?_
  · unfold flatRow
    cases owned with
    | none => exact (getDbPosition_sends ..).mono fun _ _ => trivial
    | some row => simp
  · cases row? with
    | none => simp
    | some row =>
        dsimp only
        split
        · simp
        · exact Prog.Sends.bind (updatePositionStatus_sends rfl) fun _ _ => by simp

/-- Where several strategies or signals may hold the symbol, FLAT sends the one
scoped close. -/
theorem handleFlat_sends {signal : Signal}
    (hmulti : (forexMarket ex).allowsMultiStrategyPerSymbol ∨
      (forexMarket ex).allowsMultiPositionsPerSymbol)
    (hnone : uxidScope (forexMarket ex) signal = none →
      ex.Scoped T (some signal.strategy) none)
    (hsome : ∀ rows : List Row, ∀ row ∈ rows, (uxidScope (forexMarket ex) signal).isSome →
      A (.selectActiveByStrategy signal.strategy signal.symbol
        (uxidScope (forexMarket ex) signal)) (.ok rows) →
      ex.Scoped T (some signal.strategy) (some row.refSourceId)) :
    Prog.Sends (touching A T) (fun _ => True)
      (handleFlat (forexMarket ex) signal) := by
  have hclose : ∀ ticket, ex.Scoped T (some signal.strategy) ticket →
      ∀ owned, Prog.Sends (touching A T) (fun _ => True) (do
        let result ← flatClose (forexMarket ex) signal ticket
        flatSettle (forexMarket ex) signal owned result) := by
    intro ticket hscope owned
    refine Prog.Sends.bind (Q := fun _ => True) ?_ fun _ _ => flatSettle_sends ..
    refine Prog.Sends.bind
      (touching_of_onPlatform (ForexExecutor.closeAllPositions_sends hscope)) fun result _ => ?_
    rw [if_pos (Or.inr hmulti)]
    simp
  refine Prog.Sends.bind (getDbPosition_sends ..) fun owned hrow => ?_
  cases hu : uxidScope (forexMarket ex) signal with
  | none =>
      exact hclose none (hnone hu) owned
  | some u =>
      cases owned with
      | none => simp
      | some row =>
          obtain ⟨rows, hA, hmem⟩ := hrow row rfl
          exact hclose _ (hsome rows row hmem (by simp [hu]) hA) _

end SignalHandler

end Reach

end TradeWorker
