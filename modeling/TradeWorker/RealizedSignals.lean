import TradeWorker.ClosingBooks

/-!
# The closes of one signal

What a signal closes comes back to its processor as one result, and is recorded as one event
and one for each row an entry cleared. The executor's sum is right. The handler's sum is
copied to every row an entry clears, a TP1 whose stop could not be moved reports its own close
and drops the emergency one, and a step that raises before its event drops what it closed.
-/

namespace TradeWorker

/-! ## What a timeline shows -/

def CycleEvent.isClose (event : CycleEvent) : Bool :=
  match event.outcome with
  | .adminFlat | .forceClosed | .unprotectedClosed | .reconciled | .platformClosed => true
  | .filled => decide (event.action ∈ ["TP1", "TP2", "SL", "R_SL", "FLAT"])
  | .failed | .rejected => false

/-- The total `_position_box` shows: `total_profit` of the closing events. -/
def realizedTotal (events : List CycleEvent) : Option ℚ :=
  match (events.filter (·.isClose)).filterMap (·.profit) with
  | [] => none
  | known => some known.sum

def closingProfits (events : List CycleEvent) : List (Option ℚ) :=
  (events.filter (·.isClose)).map (·.profit)

theorem getD_realizedTotal (events : List CycleEvent) :
    (realizedTotal events).getD 0 = sumKnown (closingProfits events) := by
  have hknown : (events.filter (·.isClose)).filterMap (·.profit) =
      (closingProfits events).filterMap id := by
    rw [closingProfits, List.filterMap_map]
    rfl
  unfold realizedTotal sumKnown
  rw [← hknown]
  cases (events.filter (·.isClose)).filterMap (·.profit) <;> rfl

/-! ## What the handler books -/

theorem logs_logPosition {β : Type} {B : Backend β} (l : LogRow) (w : World β) :
    Prog.Logs B.scribe (fun r log _ => r = .ok () ∧ log = []) (logPosition l) w := by
  refine Prog.Logs.tryCatch (logs_call (.db (.insertLog l)) w) ?_ ?_
  · rintro _ _ _ ⟨-, rfl, -⟩
    exact ⟨rfl, rfl⟩
  · rintro _ _ _ ⟨-, rfl, -⟩
    exact ⟨rfl, rfl⟩

section Reads

variable {β γ : Type} {B : Backend β} {w : World β}
  {Q : Except Exn γ → List (Option ℚ) → List Bool → Prop} {f : List Row → Work γ}

theorem books_activeForFlat (strategy symbol refId : Option String) :
    Books B Q (getOpenPositionsForFlat strategy symbol refId >>= f) w ↔
      Books B Q (f (w.db.activeForFlat strategy symbol refId)) w := Iff.rfl

theorem books_activeByStrategy (strategy symbol : String) (uxid : Option String) :
    Books B Q (getOpenPositionsByStrategy strategy symbol uxid >>= f) w ↔
      Books B Q (f (w.db.activeByStrategy strategy symbol uxid)) w := Iff.rfl

end Reads

section Handler

variable {β : Type} {B : Backend β} {w : World β} (m : Market) (signal : Signal)

namespace SignalHandler

theorem updateEach_unwritten (us : List StatusUpdate) :
    Prog.Sends unwritten (fun _ => True) (updateEach us) := by
  induction us with
  | nil => simp [updateEach]
  | cons u us ih => exact Prog.Sends.bind (unwritten_perform rfl) fun _ _ => ih

theorem getDbPosition_unwritten (strategy symbol : String) (uxid : Option String) :
    Prog.Sends unwritten (fun _ => True) (getDbPosition strategy symbol uxid) := by
  refine Prog.Sends.bind (unwritten_of_brokering (brokering_of_consulting
    (getOpenPositionsByStrategy_consults ..))) fun found _ => ?_
  cases found with
  | nil => simp
  | cons kept duplicates => exact Prog.Sends.bind (updateEach_unwritten _) fun _ _ => by simp

theorem getOpenPositions_unwritten (symbol : String) (strategy ticket : Option String) :
    Prog.Sends unwritten (fun _ => True) (m.booked.getOpenPositions symbol strategy ticket) :=
  unwritten_of_brokering
    (Prog.Sends.bind (m.atBroker.getOpenPositions symbol strategy) fun _ _ => by simp)

theorem executeExit_books {S : Option ℚ → List (Option ℚ) → Prop}
    {exit : Signal → Option String → Work TradeResult}
    (hexit : ∀ ticket w, Books B (fun r ps es => es = [] ∧ Accounts S r ps) (exit signal ticket) w)
    (noDbComment noMt5Comment : String) :
    Books B (fun r ps es => es = [] ∧ Accounts S r ps)
      (executeExit m.booked signal exit noDbComment noMt5Comment) w := by
  refine Books.after (getDbPosition_unwritten ..) (fun found w' _ => ?_)
    fun e => ⟨rfl, accounts_error e _⟩
  cases found with
  | none => exact books_ret ⟨rfl, accounts_fail _⟩
  | some row =>
      refine Books.after (getOpenPositions_unwritten m ..) (fun live w' _ => ?_)
        fun e => ⟨rfl, accounts_error e _⟩
      split
      · exact books_ret ⟨rfl, accounts_fail _⟩
      refine Books.bind (hexit _ w') ?_ fun e ps es h => ⟨h.1, accounts_error e ps⟩
      rintro result ps es w'' ⟨rfl, h⟩
      split
      · refine books_ret ⟨rfl, ?_⟩
        rintro _ ⟨⟩
        simpa using h result rfl
      · refine books_ret ⟨rfl, ?_⟩
        simpa using h

theorem collectStale_unwritten (symbol strategy : String) (tickets : List (Option String)) :
    Prog.Sends unwritten (fun _ => True) (collectStale m.booked symbol strategy tickets) := by
  induction tickets with
  | nil => simp [collectStale]
  | cons ticket rest ih =>
      exact Prog.Sends.bind (getOpenPositions_unwritten m ..) fun _ _ =>
        Prog.Sends.bind ih fun _ _ => by simp

/-! ### Entries -/

theorem getD_bookCleanup (report cleanup : TradeResult) :
    (bookCleanup report cleanup).profit.getD 0 =
      report.profit.getD 0 + cleanup.profit.getD 0 := by
  unfold bookCleanup
  cases cleanup.profit <;> simp

/-- The cleanup report carries what all the closes of the cleanup reported. -/
theorem forceCloseEach_books (symbol strategy : String) (tickets : List (Option String))
    (report : TradeResult) :
    Books B (fun r ps es => es = [] ∧ ∀ result, r = .ok result → result.success = true →
        result.profit.getD 0 = report.profit.getD 0 + sumKnown ps)
      (forceCloseEach m.booked symbol strategy tickets report) w := by
  induction tickets generalizing report w with
  | nil => exact books_ret ⟨rfl, by rintro _ ⟨⟩ _; simp⟩
  | cons ticket rest ih =>
      refine Books.bind (m.closeAllBooked_books ..) ?_ fun e ps es h => ⟨h.1, nofun⟩
      rintro cleanup ps es w' ⟨rfl, hsums⟩
      obtain ⟨-, hsum, -⟩ := hsums cleanup rfl
      split
      · rename_i hok
        refine Books.mono (ih (bookCleanup report cleanup)) ?_
        rintro r ps' es' ⟨rfl, h⟩
        refine ⟨rfl, fun result hr hsuccess => ?_⟩
        rw [h result hr hsuccess, getD_bookCleanup, hsum hok, sumKnown_append, add_assoc]
      · refine books_ret ⟨rfl, ?_⟩
        rintro _ ⟨⟩ hsuccess
        contradiction

/-- What an entry over `n` rows leaves in the books: nothing at the broker, or one entry, and
if that went well the profits of its cleanup at each of the rows. -/
def EntryBooks (n : Nat) (r : Except Exn TradeResult) (ps : List (Option ℚ)) (es : List Bool) :
    Prop :=
  (∀ e, r = .error e → es = []) ∧ ∀ result, r = .ok result →
    es = [] ∧ result.success = false ∨
    es = [result.success] ∧ (result.success = true → ∃ profit : Option ℚ,
      profit.getD 0 = sumKnown ps ∧ result.forcedClosed.map (·.profit) = List.replicate n profit)

theorem enterFresh_books (hB : B.ReportsPlainly) (found : List Row) (stale : Bool)
    (cleanup : TradeResult) :
    Books B (fun r ps es => (∀ e, r = .error e → es = []) ∧ ∀ result, r = .ok result →
        es = [result.success] ∧ (result.success = true → ps = [] ∧
          result.forcedClosed.map (·.profit) = List.replicate found.length cleanup.profit))
      (enterFresh m.booked signal found stale cleanup) w := by
  refine Books.after (updateEach_unwritten _) (fun _ w' _ => ?_) fun e => ⟨fun _ _ => rfl, nofun⟩
  refine Books.bind (m.booked_openPosition_books hB signal) ?_
    fun e ps es h => ⟨fun _ _ => (h.1 e rfl).2, nofun⟩
  rintro result ps es w'' ⟨-, h⟩
  obtain ⟨hforced, rfl, hps⟩ := h result rfl
  cases found with
  | nil =>
      refine books_ret ⟨nofun, ?_⟩
      rintro _ ⟨⟩
      exact ⟨rfl, fun hsuccess => ⟨by simp [hps hsuccess], by simp [hforced]⟩⟩
  | cons row rest =>
      refine books_ret ⟨nofun, ?_⟩
      rintro _ ⟨⟩
      refine ⟨rfl, fun hsuccess => ⟨by simp [hps hsuccess], ?_⟩⟩
      simp [forcedClosedEntry, Function.comp_def, List.map_const', List.replicate_succ]

theorem handleEntry_books (hB : B.ReportsPlainly) :
    Books B (EntryBooks
        (w.db.activeByStrategy signal.strategy signal.symbol (uxidScope m.strategy signal)).length)
      (handleEntry m.booked signal) w := by
  generalize hfound : w.db.activeByStrategy signal.strategy signal.symbol
    (uxidScope m.strategy signal) = found
  have hfail : ∀ comment w', Books B (EntryBooks found.length)
      (pure (.fail comment) : Work TradeResult) w' := fun comment w' =>
    books_ret ⟨nofun, by rintro _ ⟨⟩; exact .inl ⟨rfl, rfl⟩⟩
  have hfresh : ∀ stale cleanup ps w', cleanup.profit.getD 0 = sumKnown ps →
      Books B (fun r ps' es => EntryBooks found.length r (ps ++ ps') ([] ++ es))
        (enterFresh m.booked signal found stale cleanup) w' := by
    intro stale cleanup ps w' hsum
    refine Books.mono (enterFresh_books m signal hB found stale cleanup) ?_
    rintro r ps' es ⟨herr, hok⟩
    refine ⟨herr, fun result hr => Or.inr ?_⟩
    obtain ⟨hes, hforced⟩ := hok result hr
    refine ⟨hes, fun hsuccess => ⟨cleanup.profit, ?_, (hforced hsuccess).2⟩⟩
    rw [(hforced hsuccess).1, List.append_nil, hsum]
  rw [handleEntry, books_activeForFlat]
  dsimp only
  split
  · exact hfail _ _
  rw [replaceStale, books_activeByStrategy]
  have hscope : uxidScope m.booked signal = uxidScope m.strategy signal := rfl
  rw [hscope, hfound]
  refine Books.after (collectStale_unwritten m ..) (fun stale w' _ => ?_) fun e =>
    ⟨fun _ _ => rfl, nofun⟩
  split
  · exact hfresh false noCleanup [] w' rfl
  refine Books.bind (forceCloseEach_books m ..) ?_ fun e ps es h => ⟨fun _ _ => h.1, nofun⟩
  rintro cleanup ps es w'' ⟨rfl, hsum⟩
  split
  · rename_i hok
    refine hfresh true cleanup ps w'' ?_
    rw [hsum cleanup rfl hok]
    simp
  · refine books_ret ⟨nofun, ?_⟩
    rintro _ ⟨⟩
    exact .inl ⟨rfl, rfl⟩

/-! ### Exits -/

/-- A partial exit reports its own close, and not the emergency one after it. -/
abbrev Heads : Except Exn TradeResult → List (Option ℚ) → Prop :=
  Accounts fun profit ps => ∃ rest, ps = profit :: rest

theorem failsafeReport_keeps (closed moved failsafe : TradeResult) :
    let report := ExecutorBackedMarket.failsafeReport closed moved failsafe
    report.forcedClosed = closed.forcedClosed ∧ report.profit = closed.profit ∧
      report.success = closed.success := by
  unfold ExecutorBackedMarket.failsafeReport
  split
  · exact ⟨rfl, rfl, rfl⟩
  · exact ⟨rfl, rfl, rfl⟩

theorem moveSlToBreakeven_books (pos : m.Pos) {closed : TradeResult}
    (hforced : closed.forcedClosed = []) (hok : closed.success = true) :
    Books B (fun r ps es => es = [] ∧ Heads r (closed.profit :: ps))
      (m.booked.moveSlToBreakeven signal pos closed) w := by
  have hheads : ∀ {result : TradeResult} ps, result.forcedClosed = [] →
      result.profit = closed.profit → result.success = true →
      Heads (.ok result) (closed.profit :: ps) := by
    rintro result ps hforced hprofit hsuccess _ ⟨⟩
    exact ⟨hforced, fun _ => ⟨ps, by rw [hprofit]⟩, fun h => absurd hsuccess (by simp [h])⟩
  refine Books.after (unwritten_of_brokering (m.atBroker.updatePositionSl ..))
    (fun moved w' _ => ?_) fun e => ⟨rfl, accounts_error e _⟩
  dsimp only
  split
  · exact books_ret ⟨rfl, hheads [] hforced rfl hok⟩
  · refine Books.bind (m.closeAllBooked_books ..) ?_ fun e ps es h => ⟨h.1, accounts_error e _⟩
    rintro failsafe ps es w'' ⟨rfl, -⟩
    obtain ⟨hforced', hprofit, hok'⟩ :=
      failsafeReport_keeps { closed with slUpdate := some moved } moved failsafe
    exact books_ret ⟨rfl, hheads _ (hforced'.trans hforced) hprofit (hok'.trans hok)⟩

theorem resolveTp1Volume_unwritten (pos : m.Pos) (percent : Option ℚ) :
    Prog.Sends unwritten (fun volume => ∀ failure, volume = .error failure →
        ∃ comment, failure = .fail comment)
      (m.booked.resolveTp1Volume signal pos percent) := by
  unfold ExecutorBackedMarket.resolveTp1Volume
  split
  · split
    · exact Prog.sends_ret.mpr fun _ h => ⟨_, (Except.error.inj h).symm⟩
    · exact Prog.Sends.bind (unwritten_of_brokering (m.atBroker.normalizeVolume ..))
        fun volume _ => Prog.sends_ret.mpr nofun
  · split
    · exact Prog.sends_ret.mpr fun _ h => ⟨_, (Except.error.inj h).symm⟩
    · exact Prog.Sends.bind (unwritten_of_brokering (m.atBroker.convertQuantityToLots ..))
        fun volume _ => Prog.sends_ret.mpr nofun

theorem handleTp1_books (hB : B.ReportsPlainly) :
    Books B (fun r ps es => es = [] ∧ Heads r ps) (handleTp1 m.booked signal) w := by
  refine executeExit_books m signal (fun ticket w => ?_) _ _
  refine Books.after (getOpenPositions_unwritten m ..) (fun positions w' _ => ?_)
    fun e => ⟨rfl, accounts_error e _⟩
  cases positions with
  | nil => exact books_ret ⟨rfl, accounts_fail _⟩
  | cons pos rest =>
      refine Books.after (resolveTp1Volume_unwritten m ..) (fun volume w' hvolume => ?_)
        fun e => ⟨rfl, accounts_error e _⟩
      cases volume with
      | error failure =>
          obtain ⟨comment, rfl⟩ := hvolume failure rfl
          exact books_ret ⟨rfl, accounts_fail comment⟩
      | ok volume =>
          refine Books.bind (m.booked_partialClose_books hB ..) ?_ fun e ps es h =>
            ⟨h.1, accounts_error e ps⟩
          rintro closed ps es w'' ⟨rfl, -, h⟩
          obtain ⟨hforced, rfl⟩ := h closed rfl
          by_cases hmove : closed.success = true ∧ (m.booked.resolveTp1Params signal).2 = true
          · rw [if_pos hmove, if_pos hmove.1]
            exact moveSlToBreakeven_books m signal pos hforced hmove.1
          · rw [if_neg hmove]
            refine books_ret (And.intro rfl ?_)
            rintro _ ⟨⟩
            refine ⟨hforced, fun hsuccess => ⟨[], ?_⟩, fun hfailed => ?_⟩
            · rw [if_pos hsuccess, List.append_nil]
            · rw [if_neg (by simp [hfailed]), List.append_nil]

theorem handleFullClose_books :
    Books B (fun r ps es => es = [] ∧ Sums r ps) (handleFullClose m.booked signal) w :=
  executeExit_books m signal (fun _ _ => m.closeAllBooked_books ..) _ _

theorem flatClose_books (ticket : Option String) :
    Books B (fun r ps es => es = [] ∧ Sums r ps) (flatClose m.booked signal ticket) w := by
  refine Books.bind (m.closeAllBooked_books ..) ?_ fun e ps es h => ⟨h.1, accounts_error e ps⟩
  rintro result ps es w' ⟨rfl, hsums⟩
  split
  · refine books_ret ⟨rfl, ?_⟩
    rw [List.append_nil]
    exact hsums
  · rename_i hfailed
    have hnone : ps = [] := (hsums result rfl).2.2 (by
      simpa using fun h => hfailed (.inl h))
    rw [hnone]
    exact m.closeAllBooked_books ..

theorem handleFlat_books :
    Books B (fun r ps es => es = [] ∧ Sums r ps) (handleFlat m.booked signal) w := by
  have hflat : ∀ owned ticket w', Books B (fun r ps es => es = [] ∧ Sums r ps) (do
      let result ← flatClose m.booked signal ticket
      flatSettle m.booked signal owned result) w' := by
    intro owned ticket w'
    refine Books.bind (flatClose_books m signal ticket) ?_
      fun e ps es h => ⟨h.1, accounts_error e ps⟩
    rintro result ps es w'' ⟨rfl, hsums⟩
    refine Books.after (R := fun _ => True) ?_ (fun row w₃ _ => ?_)
      fun e => ⟨rfl, accounts_error e _⟩
    · cases owned with
      | none => exact getDbPosition_unwritten ..
      | some row => simp [flatRow]
    have hret : ∀ result' : TradeResult, result'.forcedClosed = result.forcedClosed →
        result'.success = result.success → result'.profit = result.profit →
        Sums (.ok result') (ps ++ []) := by
      rintro result' hforced hsuccess hprofit _ ⟨⟩
      rw [hforced, hsuccess, hprofit, List.append_nil]
      exact hsums result rfl
    cases row with
    | none => exact books_ret ⟨rfl, hret _ rfl rfl rfl⟩
    | some row =>
        dsimp only
        split
        · exact books_ret ⟨rfl, hret _ rfl rfl rfl⟩
        · exact Books.after (unwritten_perform rfl)
            (fun _ _ _ => books_ret ⟨rfl, hret _ rfl rfl rfl⟩)
            fun e => ⟨rfl, accounts_error e _⟩
  refine Books.after (getDbPosition_unwritten ..) (fun owned w' _ => ?_)
    fun e => ⟨rfl, accounts_error e _⟩
  dsimp only
  split
  · exact books_ret ⟨rfl, accounts_fail _⟩
  · exact hflat ..

theorem books_handling {γ : Type} {Q : Except Exn γ → List (Option ℚ) → List Bool → Prop}
    {p : Work γ} (hp : ∀ rest, Books B Q p { w with rest }) (herr : ∀ e, Q (.error e) [] []) :
    Books B Q (host (.handling signal) >>= fun _ => p) w := by
  refine Prog.Logs.bind (logs_call (.host (.handling signal)) w) ?_ ?_
  · rintro _ _ _ ⟨-, rfl, rfl⟩
    exact hp _
  · rintro e _ _ ⟨-, rfl, -⟩
    exact ⟨Booking.Silent.nil, herr e⟩

/-- What handling an entry leaves in the books. -/
theorem handle_entryBooks (hB : B.ReportsPlainly) (hentry : signal.action.isEntry = true) :
    Books B (EntryBooks (w.db.activeByStrategy signal.strategy signal.symbol
      (uxidScope m.strategy signal)).length) (handle m.booked signal) w := by
  refine books_handling signal (fun rest => ?_) fun e => ⟨fun _ _ => rfl, nofun⟩
  cases haction : signal.action with
  | long | short => exact handleEntry_books (w := { w with rest }) m signal hB
  | tp1 | tp2 | sl | rSl | flat =>
      rw [haction] at hentry
      cases hentry

/-- What handling an exit leaves in the books. -/
theorem handle_exitBooks (hB : B.ReportsPlainly) (hexit : signal.action.isEntry = false) :
    Books B (fun r ps es => es = [] ∧ (signal.action = .tp1 → Heads r ps) ∧
        (signal.action ≠ .tp1 → Sums r ps))
      (handle m.booked signal) w := by
  refine books_handling signal (fun rest => ?_) fun e =>
    ⟨rfl, fun _ => accounts_error e _, fun _ => accounts_error e _⟩
  have hsums : ∀ {p : Work TradeResult} {w' : World β}, signal.action ≠ .tp1 →
      Books B (fun r ps es => es = [] ∧ Sums r ps) p w' →
      Books B (fun r ps es => es = [] ∧ (signal.action = .tp1 → Heads r ps) ∧
        (signal.action ≠ .tp1 → Sums r ps)) p w' := fun hne h =>
    Books.mono h fun r ps es hr => ⟨hr.1, fun h => absurd h hne, fun _ => hr.2⟩
  cases haction : signal.action with
  | long | short =>
      rw [haction] at hexit
      cases hexit
  | tp1 =>
      refine Books.mono (handleTp1_books m signal hB) fun r ps es hr => ?_
      exact ⟨hr.1, fun _ => hr.2, fun h => absurd rfl h⟩
  | tp2 | sl | rSl =>
      rw [haction] at hsums
      exact hsums (by decide) (handleFullClose_books m signal)
  | flat =>
      rw [haction] at hsums
      exact hsums (by decide) (handleFlat_books m signal)

end SignalHandler

end Handler

/-! ## What the pipeline records -/

/-- Every event of the cycle is recorded: cycles are on, and the tables take them. -/
def Backend.RecordsCycle {β : Type} (B : Backend β) (strategy signalUxid : String) : Prop :=
  ∀ symbol event status b,
    (B.host (.recordCycle (some signalUxid) strategy symbol event status) b).1 = .ok true

section Recording

variable {β : Type} {B : Backend β} {w : World β} (strategy signalUxid : String)

/-- What the closing events of the cycle in a log sum up to. -/
def recordedProfit (log : List Booking) : ℚ :=
  sumKnown (closingProfits (Booking.eventsOf strategy signalUxid log))

@[simp] theorem recordedProfit_append (log log' : List Booking) :
    recordedProfit strategy signalUxid (log ++ log') =
      recordedProfit strategy signalUxid log + recordedProfit strategy signalUxid log' := by
  simp [recordedProfit, closingProfits]

theorem recordedProfit_recorded (uxid : Option String) (strategy' : String) (event : CycleEvent) :
    recordedProfit strategy signalUxid [.recorded uxid strategy' event] =
      if (strategy' = strategy ∧ uxid = some signalUxid) ∧ event.isClose = true then
        event.profit.getD 0
      else 0 := by
  by_cases hkey : strategy' = strategy ∧ uxid = some signalUxid
  · cases hclose : event.isClose <;>
      simp [recordedProfit, Booking.eventsOf, closingProfits, hkey, hclose]
  · simp [recordedProfit, Booking.eventsOf, closingProfits, hkey]

/-- No close, no entry, and no closing event of the cycle. -/
structure Uneventful (log : List Booking) : Prop where
  closes : Booking.closes log = []
  entries : Booking.entries log = []
  recorded : recordedProfit strategy signalUxid log = 0

theorem Uneventful.nil : Uneventful strategy signalUxid [] := ⟨rfl, rfl, rfl⟩

variable {strategy signalUxid}

theorem Uneventful.append {log log' : List Booking} (h : Uneventful strategy signalUxid log)
    (h' : Uneventful strategy signalUxid log') : Uneventful strategy signalUxid (log ++ log') :=
  ⟨by simp [h.closes, h'.closes], by simp [h.entries, h'.entries],
    by simp [h.recorded, h'.recorded]⟩

variable (strategy signalUxid)

def WorkerOp.recordsClose : WorkerOp → Bool
  | .host (.recordCycle uxid strategy' _ event _) =>
      decide (strategy' = strategy ∧ uxid = some signalUxid) && event.isClose
  | _ => false

/-- A program that books nothing and records no closing event in the cycle. -/
def recordingNone : Prog.Contract WorkerOp WorkerOp.Ans Exn where
  guard o := bookings o = none ∧ o.recordsClose strategy signalUxid = false
  answers _ _ := True

variable {strategy signalUxid}

theorem recordingNone_perform {o : WorkerOp} (ho : bookings o = none)
    (hclose : o.recordsClose strategy signalUxid = false) :
    Prog.Sends (recordingNone strategy signalUxid) (fun _ => True) (Prog.perform o) :=
  Prog.sends_perform ⟨ho, hclose⟩ fun _ _ => trivial

theorem scribe_recordingNone {o : WorkerOp}
    (ho : (recordingNone strategy signalUxid).guard o) (w : World β) :
    Uneventful strategy signalUxid (B.scribe o w).2 := by
  obtain ⟨hbooking, hclose⟩ := ho
  cases o with
  | db | fx | cx => exact Uneventful.nil ..
  | host o =>
      cases o with
      | notify report => cases report <;> first | exact Uneventful.nil .. | cases hbooking
      | recordCycle uxid strategy' symbol event status =>
          unfold Backend.scribe
          dsimp only
          split
          · refine ⟨rfl, rfl, ?_⟩
            rw [recordedProfit_recorded, if_neg]
            rintro ⟨hkey, hevent⟩
            simp [WorkerOp.recordsClose, hkey, hevent] at hclose
          · exact Uneventful.nil ..
      | currentFooter =>
          unfold Backend.scribe
          dsimp only
          split
          · exact ⟨rfl, rfl, rfl⟩
          · exact Uneventful.nil ..
      | signalsBlocked | ensureConnected | now | uuidHex | handling | notifyChannel =>
          exact Uneventful.nil ..

/-- Such a program, in the books. -/
theorem logs_uneventful {α : Type} {Q : α → Prop} {p : Work α}
    (hp : Prog.Sends (recordingNone strategy signalUxid) Q p) (w : World β) :
    Prog.Logs B.scribe (fun r log _ => Uneventful strategy signalUxid log ∧
      ∀ a, r = .ok a → Q a) p w :=
  Prog.Logs.mono (hp.logs (I := fun _ => True) (Uneventful.nil strategy signalUxid)
    (fun _ _ => Uneventful.append) (fun _ s _ ho => ⟨trivial, scribe_recordingNone ho s, trivial⟩)
    trivial) fun _ _ _ h => ⟨h.1, h.2.2⟩

variable (strategy signalUxid)

theorem recordingNone_of_brokering {α : Type} {Q : α → Prop} {p : Work α}
    (hp : Prog.Sends brokering Q p) : Prog.Sends (recordingNone strategy signalUxid) Q p := by
  refine hp.relax (fun o ho => ?_) fun _ _ _ => trivial
  cases o with
  | db | fx | cx => exact ⟨rfl, rfl⟩
  | host o =>
      cases o with
      | uuidHex => exact ⟨rfl, rfl⟩
      | signalsBlocked | ensureConnected | now | currentFooter | handling | notify
      | notifyChannel | recordCycle => cases ho

theorem logPosition_recordingNone (l : LogRow) :
    Prog.Sends (recordingNone strategy signalUxid) (fun _ => True) (logPosition l) :=
  Prog.Sends.tryCatch (recordingNone_perform rfl rfl) fun _ => by simp

/-- The report of an event that is no close, or of another cycle. -/
theorem notifyTrade_recordingNone (signal : Signal) (report : Report) (event : CycleEvent)
    (status : Option CycleStatus) (hevent : signal.strategy = strategy →
      signal.signalUxid = some signalUxid → event.isClose = false) :
    Prog.Sends (recordingNone strategy signalUxid) (fun _ => True)
      (Processor.notifyTrade signal report event status) := by
  refine Prog.Sends.bind (recordingNone_perform rfl ?_) fun owned _ => ?_
  · by_cases hkey : signal.strategy = strategy ∧ signal.signalUxid = some signalUxid
    · simp [WorkerOp.recordsClose, hevent hkey.1 hkey.2]
    · simp [WorkerOp.recordsClose, hkey]
  · split
    · simp
    · exact recordingNone_perform rfl rfl

/-- What stops a signal before the handler leaves no closing event. -/
theorem admits_recordingNone (m : Market) (settings : WorkerSettings) (signal : Signal) :
    Prog.Sends (recordingNone strategy signalUxid) (fun _ => True)
      ((m.processor settings).admits signal) := by
  refine Prog.Sends.bind (recordingNone_perform rfl rfl) fun connected _ => ?_
  split
  swap
  · simp
  refine Prog.Sends.bind (recordingNone_perform rfl rfl) fun blocked _ => ?_
  split
  · simp
  have hunknown : ∀ reason, Prog.Sends (recordingNone strategy signalUxid) (fun _ => True) (do
      let _footer ← host .currentFooter
      host (.notify (.signalRejected reason))
      pure false) := fun reason =>
    Prog.Sends.bind (recordingNone_perform rfl rfl) fun _ _ =>
      Prog.Sends.bind (recordingNone_perform rfl rfl) fun _ _ => by simp
  split
  · exact hunknown _
  · exact hunknown _
  · simp
  split
  swap
  · simp
  refine Prog.Sends.bind (recordingNone_of_brokering _ _ (brokering_of_consulting
    (entryRejection_consults ..))) fun reason _ => ?_
  cases reason with
  | none => simp
  | some reason =>
      refine Prog.Sends.bind (Q := fun _ => True) ?_ fun _ _ => by simp
      refine Prog.Sends.bind (recordingNone_perform rfl rfl) fun _ _ => ?_
      refine Prog.Sends.bind (logPosition_recordingNone ..) fun _ _ => ?_
      refine Prog.Sends.bind (Q := fun _ => True) (by simp) fun magic _ => ?_
      refine Prog.Sends.bind (Prog.Sends.tryCatch (recordingNone_perform rfl rfl)
        fun _ => by simp) fun _ _ => ?_
      exact notifyTrade_recordingNone _ _ _ _ _ _ fun _ _ => rfl

variable {strategy signalUxid}

/-- A signal that goes on has left nothing in the books, and found the store as it was. -/
theorem admits_reads (m : Market) (settings : WorkerSettings) (signal : Signal) :
    Prog.Logs B.scribe (fun r log w' => r = .ok true → log = [] ∧ w'.db = w.db)
      ((m.processor settings).admits signal) w := by
  have hstop : ∀ {α : Type} (p : Work α) {f : α → Work Bool} {P : List Booking → World β → Prop}
      (w' : World β), (∀ a w'', Prog.Logs B.scribe (fun r _ _ => r ≠ .ok true) (f a) w'') →
      Prog.Logs B.scribe (fun r log w'' => r = .ok true → P log w'') (p >>= f) w' :=
    fun p f P w' hf => Prog.Logs.bind (R := fun _ _ _ => True) trivial
      (fun a _ w'' _ => Prog.Logs.mono (hf a w'') fun _ _ _ hne h => absurd h hne)
      fun _ _ _ _ => nofun
  have hunknown : ∀ (report : Report) (w' : World β), Prog.Logs B.scribe
      (fun r _ _ => r ≠ .ok true) (do host (.notify report); pure false) w' := fun report w' =>
    Prog.Logs.bind (R := fun _ _ _ => True) trivial (fun _ _ _ _ => nofun) fun _ _ _ _ => nofun
  refine Prog.Logs.bind (logs_call (.host .ensureConnected) w) ?_ fun e _ _ _ => nofun
  rintro connected _ _ ⟨-, rfl, rfl⟩
  split
  swap
  · exact nofun
  refine Prog.Logs.bind (logs_call (.host .signalsBlocked) _) ?_ fun e _ _ _ => nofun
  rintro blocked _ _ ⟨-, rfl, rfl⟩
  split
  · exact nofun
  split
  · exact hstop _ _ fun _ w'' => hunknown _ w''
  · exact hstop _ _ fun _ w'' => hunknown _ w''
  · exact nofun
  split
  swap
  · exact fun _ => ⟨rfl, rfl⟩
  refine Prog.Logs.bind (R := fun _ log w' => log = [] ∧ w'.db = w.db) ?_ ?_ fun e _ _ _ => nofun
  · exact logs_brokering (brokering_of_consulting (entryRejection_consults m settings signal)) rfl
  rintro reason _ w' ⟨rfl, hdb⟩
  cases reason with
  | none => exact fun _ => ⟨rfl, hdb⟩
  | some reason => exact hstop _ _ fun _ _ => nofun

/-! ### The signal's own cycle -/

/-- A log of events alone that adds an amount to the cycle. -/
structure Notes (strategy signalUxid : String) (amount : ℚ) (log : List Booking) : Prop where
  closes : Booking.closes log = []
  entries : Booking.entries log = []
  footers : Booking.footers log = 0
  recorded : recordedProfit strategy signalUxid log = amount

theorem Notes.nil (strategy signalUxid : String) : Notes strategy signalUxid 0 [] :=
  ⟨rfl, rfl, rfl, rfl⟩

theorem Notes.append {a b : ℚ} {log log' : List Booking} (h : Notes strategy signalUxid a log)
    (h' : Notes strategy signalUxid b log') : Notes strategy signalUxid (a + b) (log ++ log') :=
  ⟨by simp [h.closes, h'.closes], by simp [h.entries, h'.entries],
    by simp [h.footers, h'.footers], by simp [h.recorded, h'.recorded]⟩

theorem scribe_recordCycle {uxid : Option String} {strategy' symbol : String} {event : CycleEvent}
    {status : Option CycleStatus}
    (h : (B.host (.recordCycle uxid strategy' symbol event status) w.rest).1 = .ok true) :
    (B.scribe (.host (.recordCycle uxid strategy' symbol event status)) w).2 =
      [.recorded uxid strategy' event] := by
  simp only [Backend.scribe, h]

theorem logs_recordCycle (hB : B.RecordsCycle strategy signalUxid) (symbol : String)
    (event : CycleEvent) (status : Option CycleStatus) :
    Prog.Logs B.scribe (fun r log _ => r = .ok true ∧
        log = [.recorded (some signalUxid) strategy event])
      (host (.recordCycle (some signalUxid) strategy symbol event status)) w := by
  have hanswer := hB symbol event status w.rest
  refine Prog.Logs.mono (logs_call (.host (.recordCycle (some signalUxid) strategy symbol event
    status)) w) ?_
  rintro r log w' ⟨rfl, rfl, -⟩
  exact ⟨hanswer, scribe_recordCycle hanswer⟩

theorem scribe_currentFooter : (B.scribe (.host .currentFooter) w).2 =
    match (B.host .currentFooter w.rest).1 with
    | .ok _ => [.footer]
    | .error _ => [] := rfl

section Own

variable {signal : Signal} (hstrategy : signal.strategy = strategy)
  (huxid : signal.signalUxid = some signalUxid) (hB : B.RecordsCycle strategy signalUxid)

include hstrategy huxid hB

theorem notifyTrade_own (report : Report) (event : CycleEvent) (status : Option CycleStatus) :
    Prog.Logs B.scribe (fun r log _ => r = .ok () ∧
        log = [.recorded (some signalUxid) strategy event])
      (Processor.notifyTrade signal report event status) w := by
  unfold Processor.notifyTrade
  rw [hstrategy, huxid]
  refine Prog.Logs.bind (logs_recordCycle hB ..) ?_ fun e _ _ h => nomatch h.1
  rintro owned _ w' ⟨howned, rfl⟩
  obtain rfl := Except.ok.inj howned
  exact ⟨rfl, rfl⟩

/-- An event of the cycle adds its profit if it is a close. -/
theorem notifyTrade_notes (report : Report) (event : CycleEvent) (status : Option CycleStatus) :
    Prog.Logs B.scribe (fun r log _ => r = .ok () ∧
        Notes strategy signalUxid (if event.isClose = true then event.profit.getD 0 else 0) log)
      (Processor.notifyTrade signal report event status) w := by
  refine Prog.Logs.mono (notifyTrade_own hstrategy huxid hB report event status) ?_
  rintro r _ _ ⟨rfl, rfl⟩
  refine ⟨rfl, rfl, rfl, rfl, ?_⟩
  rw [recordedProfit_recorded]
  simp

/-- Every cleared row adds the profit its entry carries. -/
theorem notifyForcedClosed_notes (forced : List ForcedClosed) :
    Prog.Logs B.scribe (fun r log _ => r = .ok () ∧
        Notes strategy signalUxid (sumKnown (forced.map (·.profit))) log)
      (Processor.notifyForcedClosed signal forced) w := by
  induction forced generalizing w with
  | nil => exact ⟨rfl, Notes.nil ..⟩
  | cons fc rest ih =>
      refine Prog.Logs.bind (notifyTrade_notes hstrategy huxid hB ..) ?_ fun e _ _ h => nomatch h.1
      rintro _ log w' ⟨-, hnotes⟩
      refine Prog.Logs.mono ih ?_
      rintro r log' w'' ⟨rfl, hnotes'⟩
      rw [List.map_cons, sumKnown_cons]
      exact ⟨rfl, hnotes.append hnotes'⟩

theorem persistSuccess_notes {Pos : Type} (P : Processor Pos) (result : TradeResult) :
    Prog.Logs B.scribe (fun _ log _ =>
        Notes strategy signalUxid (sumKnown (result.forcedClosed.map (·.profit))) log)
      (P.persistSuccess signal result) w := by
  refine Prog.Logs.bind (notifyForcedClosed_notes hstrategy huxid hB ..) ?_
    fun e _ _ h => nomatch h.1
  rintro _ log w' ⟨-, hnotes⟩
  refine Prog.Logs.mono (logs_unwritten (Q := fun _ => True) ?_ w') ?_
  · split
    · exact Prog.Sends.bind (Q := fun _ => True) (by simp) fun magic _ => unwritten_perform rfl
    · exact unwritten_perform rfl
  · rintro r _ w'' rfl
    rw [List.append_nil]
    exact hnotes

omit hstrategy huxid hB in
theorem cycleEvent_adds {Pos : Type} (P : Processor Pos) (result : TradeResult) :
    let event := P.cycleEvent signal result (Processor.outcomeReport signal result).2
    (if event.isClose = true then event.profit.getD 0 else 0) =
      if result.success = true ∧ signal.action.isEntry = false then result.profit.getD 0
      else 0 := by
  intro event
  have haction : event.action = signal.action.value := rfl
  have hprofit : event.profit = if signal.action.isEntry then none else result.profit := rfl
  have houtcome : event.outcome = (Processor.outcomeReport signal result).2 := rfl
  cases hentry : signal.action.isEntry with
  | true => simp [hprofit, hentry]
  | false =>
      have hexit : event.action ∈ ["TP1", "TP2", "SL", "R_SL", "FLAT"] := by
        rw [haction]
        cases hact : signal.action with
        | long | short =>
            rw [hact] at hentry
            cases hentry
        | tp1 | tp2 | sl | rSl | flat => decide
      have hclose : event.isClose = result.success := by
        unfold CycleEvent.isClose
        rw [houtcome, Processor.outcomeReport]
        cases result.success with
        | false => rfl
        | true => cases result.slFailsafeClose <;> simp [hexit]
      rw [hclose, hprofit, hentry]
      simp

/-- The end of the pipeline closes and enters nothing. A failure adds nothing; a success adds
the rows an entry cleared once the footer is read, and an exit its own close at the end. -/
theorem recordResult_logs {Pos : Type} (P : Processor Pos) (result : TradeResult) :
    Prog.Logs B.scribe (fun r log _ => Booking.closes log = [] ∧ Booking.entries log = [] ∧
        (r.isOk = true → Booking.footers log = 1) ∧ recordedProfit strategy signalUxid log =
          if Booking.footers log = 1 ∧ result.success = true then
            sumKnown (result.forcedClosed.map (·.profit)) +
              if r.isOk = true ∧ signal.action.isEntry = false then result.profit.getD 0 else 0
          else 0)
      (P.recordResult signal result) w := by
  refine Prog.Logs.bind (logs_call (.host .currentFooter) w) ?_ ?_
  swap
  · rintro e _ _ ⟨herr, rfl, -⟩
    have hraised : (B.host .currentFooter w.rest).1 = .error e := herr.symm
    rw [scribe_currentFooter, hraised]
    exact ⟨rfl, rfl, nofun, rfl⟩
  rintro footer _ _ ⟨hok, rfl, -⟩
  have hread : (B.host .currentFooter w.rest).1 = .ok footer := hok.symm
  rw [scribe_currentFooter, hread]
  refine Prog.Logs.mono (Q := fun r log _ => Notes strategy signalUxid (if result.success = true
    then sumKnown (result.forcedClosed.map (·.profit)) +
      if r.isOk = true ∧ signal.action.isEntry = false then result.profit.getD 0 else 0
    else 0) log) ?_ ?_
  · refine Prog.Logs.bind (logs_logPosition ..) ?_ fun e _ _ h => nomatch h.1
    rintro _ _ w₁ ⟨-, rfl⟩
    have hadds := @cycleEvent_adds signal Pos P result
    dsimp only at hadds ⊢
    split
    · rename_i hsuccess
      rw [hsuccess] at hadds
      refine Prog.Logs.bind (persistSuccess_notes hstrategy huxid hB P result) ?_ ?_
      · rintro _ log w₂ hnotes
        refine Prog.Logs.mono (notifyTrade_notes hstrategy huxid hB ..) ?_
        rintro r log' w₃ ⟨rfl, hnotes'⟩
        rw [hadds] at hnotes'
        simpa [hsuccess, Except.isOk, Except.toBool] using hnotes.append hnotes'
      · intro e log w₂ hnotes
        simpa [hsuccess, Except.isOk, Except.toBool] using hnotes
    · rename_i hfailed
      refine Prog.Logs.mono (notifyTrade_notes hstrategy huxid hB ..) ?_
      rintro r log' w₃ ⟨rfl, hnotes'⟩
      rw [hadds] at hnotes'
      simpa [hfailed] using hnotes'
  · rintro r log w₁ hnotes
    have hfooter : Booking.footers ([Booking.footer] ++ log) = 1 := by
      rw [Booking.footers_append, hnotes.footers]
      rfl
    have hadded : recordedProfit strategy signalUxid ([Booking.footer] ++ log) =
        recordedProfit strategy signalUxid log := by
      rw [recordedProfit_append]
      exact zero_add _
    refine ⟨?_, ?_, fun _ => hfooter, ?_⟩
    · exact (Booking.closes_append [.footer] log).trans hnotes.closes
    · exact (Booking.entries_append [.footer] log).trans hnotes.entries
    · show recordedProfit strategy signalUxid ([Booking.footer] ++ log) = 
        if Booking.footers ([Booking.footer] ++ log) = 1 ∧ _ then _ else _
      rw [hfooter, hadded, hnotes.recorded]
      simp

end Own

end Recording

/-! ## One signal -/

/-- When a signal's events sum up to its closes. An entry that closed anything has cleared
one row, filled, and come to its report; an exit has come to its end, and a TP1 has reported
all it closed but what sums up to nothing. -/
def FairSignal {β : Type} (m : Market) (w : World β) (signal : Signal) (r : Except Exn Unit)
    (log : List Booking) : Prop :=
  if signal.action.isEntry then
    sumKnown (Booking.profits log) = 0 ∨
      Booking.entries log = [true] ∧ Booking.footers log = 1 ∧
        (w.db.activeByStrategy signal.strategy signal.symbol
          (SignalHandler.uxidScope m.strategy signal)).length = 1
  else
    (r.isOk = true → signal.action = .tp1 → sumKnown (Booking.profits log).tail = 0) ∧
      (r.isOk = false → sumKnown (Booking.profits log) = 0)

theorem sumKnown_replicate (n : Nat) (profit : Option ℚ) :
    sumKnown (List.replicate n profit) = n * profit.getD 0 := by
  induction n with
  | zero => simp
  | succ n ih =>
      rw [List.replicate_succ, sumKnown_cons, ih]
      push_cast
      ring

@[simp] theorem Processor.repairPrice_forcedClosed (signal : Signal) (result : TradeResult) :
    (Processor.repairPrice signal result).forcedClosed = result.forcedClosed := by
  unfold Processor.repairPrice
  split <;> rfl

@[simp] theorem Processor.repairPrice_profit (signal : Signal) (result : TradeResult) :
    (Processor.repairPrice signal result).profit = result.profit := by
  unfold Processor.repairPrice
  split <;> rfl

section Signal

variable {β : Type} {B : Backend β} {w : World β} {strategy signalUxid : String}
  (m : Market) (settings : WorkerSettings) {signal : Signal}

theorem executeEntry_fair (hplain : B.ReportsPlainly) (hstrategy : signal.strategy = strategy)
    (huxid : signal.signalUxid = some signalUxid) (hB : B.RecordsCycle strategy signalUxid)
    (hentry : signal.action.isEntry = true) :
    Prog.Logs B.scribe (fun r log _ =>
        recordedProfit strategy signalUxid log = sumKnown (Booking.profits log) ↔
          FairSignal m w signal r log)
      ((m.bookedProcessor settings).executeSignal signal) w := by
  simp only [FairSignal, hentry, if_true]
  generalize hn : (w.db.activeByStrategy signal.strategy signal.symbol
    (SignalHandler.uxidScope m.strategy signal)).length = n
  refine Prog.Logs.bind (SignalHandler.handle_entryBooks m signal hplain hentry) ?_ ?_
  swap
  · rintro e log w' ⟨hsilent, herr, -⟩
    have hnone : recordedProfit strategy signalUxid log = 0 := by
      rw [recordedProfit, hsilent.events]
      rfl
    rw [hnone, herr e rfl]
    simp [eq_comm]
  rintro result log w' ⟨hsilent, -, hbooks⟩
  refine Prog.Logs.mono (recordResult_logs hstrategy huxid hB _ _) ?_
  rintro r log' w'' ⟨hcloses, hentries, -, hrecorded⟩
  have hnone : recordedProfit strategy signalUxid log = 0 := by
    rw [recordedProfit, hsilent.events]
    rfl
  have hprofits : Booking.profits (log ++ log') = Booking.profits log := by
    simp [Booking.profits, hcloses]
  rw [recordedProfit_append, hnone, hrecorded, zero_add, hprofits, Booking.entries_append, hentries,
    List.append_nil, Booking.footers_append, hsilent.footers, zero_add]
  rcases hbooks result rfl with ⟨hes, hfailed⟩ | ⟨hes, hcleared⟩
  · simp [hes, hfailed, eq_comm]
  · rw [hes, Processor.repairPrice_success]
    cases hsuccess : result.success with
    | false => simp [eq_comm]
    | true =>
        obtain ⟨profit, hsum, hforced⟩ := hcleared hsuccess
        rw [Processor.repairPrice_forcedClosed, hforced, sumKnown_replicate, hsum, hn]
        by_cases hread : Booking.footers log' = 1
        · have hone : (n : ℚ) * sumKnown (Booking.profits log) = sumKnown (Booking.profits log) ↔
              sumKnown (Booking.profits log) = 0 ∨ n = 1 := by
            rw [mul_left_eq_self₀, Nat.cast_eq_one, or_comm]
          simpa [hread, hentry] using hone
        · simp [hread, eq_comm]

theorem executeExit_fair (hplain : B.ReportsPlainly) (hstrategy : signal.strategy = strategy)
    (huxid : signal.signalUxid = some signalUxid) (hB : B.RecordsCycle strategy signalUxid)
    (hexit : signal.action.isEntry = false) :
    Prog.Logs B.scribe (fun r log _ =>
        recordedProfit strategy signalUxid log = sumKnown (Booking.profits log) ↔
          FairSignal m w signal r log)
      ((m.bookedProcessor settings).executeSignal signal) w := by
  simp only [FairSignal, hexit]
  refine Prog.Logs.bind (SignalHandler.handle_exitBooks m signal hplain hexit) ?_ ?_
  swap
  · rintro e log w' ⟨hsilent, -⟩
    have hnone : recordedProfit strategy signalUxid log = 0 := by
      rw [recordedProfit, hsilent.events]
      rfl
    rw [hnone]
    simp [Except.isOk, Except.toBool, eq_comm]
  rintro result log w' ⟨hsilent, -, htp1, hfull⟩
  refine Prog.Logs.mono (recordResult_logs hstrategy huxid hB _ _) ?_
  rintro r log' w'' ⟨hcloses, hentries, hread, hrecorded⟩
  have hnone : recordedProfit strategy signalUxid log = 0 := by
    rw [recordedProfit, hsilent.events]
    rfl
  have hprofits : Booking.profits (log ++ log') = Booking.profits log := by
    simp [Booking.profits, hcloses]
  rw [recordedProfit_append, hnone, hrecorded, zero_add, hprofits]
  generalize Booking.profits log = ps at htp1 hfull ⊢
  -- what the result says of the closes, whichever exit it is
  have haccounts : result.forcedClosed = [] ∧ (result.success = false → ps = []) ∧
      (result.success = true → (result.profit.getD 0 = sumKnown ps ↔
        (signal.action = .tp1 → sumKnown ps.tail = 0))) := by
    by_cases haction : signal.action = .tp1
    · obtain ⟨hforced, hhead, hfailed⟩ := htp1 haction result rfl
      refine ⟨hforced, hfailed, fun hsuccess => ?_⟩
      obtain ⟨rest, rfl⟩ := hhead hsuccess
      simp [haction, eq_comm]
    · obtain ⟨hforced, hsum, hfailed⟩ := hfull haction result rfl
      exact ⟨hforced, hfailed, fun hsuccess =>
        iff_of_true (hsum hsuccess) fun h => absurd h haction⟩
  obtain ⟨hforced, hfailed, hsum⟩ := haccounts
  rw [Processor.repairPrice_success, Processor.repairPrice_forcedClosed, hforced,
    Processor.repairPrice_profit]
  cases hsuccess : result.success with
  | false =>
      rw [hfailed hsuccess, if_neg (by simp), sumKnown_nil]
      simp
  | true =>
      cases r with
      | error e =>
          have hno : (Except.error e : Except Exn Unit).isOk = false := rfl
          simp only [hno, List.map_nil, sumKnown_nil, Bool.false_eq_true, false_and, if_false,
            add_zero, ite_self, false_implies, true_and, true_implies]
          exact eq_comm
      | ok _ =>
          have hread := hread rfl
          simpa [Except.isOk, Except.toBool, hread, hexit] using hsum hsuccess

/-- The events of a signal sum up to its closes where it is fair, and nowhere else. -/
theorem processMessage_fair (hplain : B.ReportsPlainly) (hstrategy : signal.strategy = strategy)
    (huxid : signal.signalUxid = some signalUxid) (hB : B.RecordsCycle strategy signalUxid) :
    Prog.Logs B.scribe (fun r log _ =>
        recordedProfit strategy signalUxid log = sumKnown (Booking.profits log) ↔
          FairSignal m w signal r log)
      ((m.bookedProcessor settings).processMessage signal) w := by
  rw [Processor.processMessage_eq, admits_booked]
  have hadmits := logs_uneventful (B := B)
    (admits_recordingNone strategy signalUxid m settings signal) w
  have hidle : ∀ (r : Except Exn Unit) log, Uneventful strategy signalUxid log →
      (recordedProfit strategy signalUxid log = sumKnown (Booking.profits log) ↔
        FairSignal m w signal r log) := by
    intro r log h
    have hprofits : Booking.profits log = [] := by simp [Booking.profits, h.closes]
    unfold FairSignal
    rw [h.recorded, hprofits]
    split <;> simp
  refine Prog.Logs.bind (R := fun r log (w' : World β) => Uneventful strategy signalUxid log ∧
    (r = .ok true → log = [] ∧ w'.db = w.db)) ⟨hadmits.1, admits_reads m settings signal⟩ ?_ ?_
  swap
  · rintro e log w' ⟨h, -⟩
    exact hidle _ log h
  rintro cleared log w' ⟨h, hcleared⟩
  cases cleared with
  | false => exact hidle (.ok ()) (log ++ []) (by rwa [List.append_nil])
  | true =>
      obtain ⟨rfl, hdb⟩ := hcleared rfl
      have hfair : ∀ r log, FairSignal m w' signal r log = FairSignal m w signal r log := by
        intro r log
        unfold FairSignal
        rw [hdb]
      cases hentry : signal.action.isEntry with
      | true =>
          refine Prog.Logs.mono (executeEntry_fair (w := w') m settings hplain hstrategy huxid hB
            hentry) fun r log _ hiff => ?_
          rw [List.nil_append, ← hfair]
          exact hiff
      | false =>
          refine Prog.Logs.mono (executeExit_fair (w := w') m settings hplain hstrategy huxid hB
            hentry) fun r log _ hiff => ?_
          rw [List.nil_append, ← hfair]
          exact hiff

/-- A signal of another cycle records nothing in this one. -/
theorem processMessage_other (hplain : B.ReportsPlainly)
    (hother : signal.strategy = strategy → signal.signalUxid ≠ some signalUxid) :
    Prog.Logs B.scribe (fun _ log _ => recordedProfit strategy signalUxid log = 0)
      ((m.bookedProcessor settings).processMessage signal) w := by
  have hreport : ∀ report event status, Prog.Sends (recordingNone strategy signalUxid)
      (fun _ => True) (Processor.notifyTrade signal report event status) := fun _ _ _ =>
    notifyTrade_recordingNone _ _ _ _ _ _ fun h h' => absurd h' (hother h)
  have hforced : ∀ forced, Prog.Sends (recordingNone strategy signalUxid)
      (fun _ => True) (Processor.notifyForcedClosed signal forced) := by
    intro forced
    induction forced with
    | nil => simp [Processor.notifyForcedClosed]
    | cons fc rest ih => exact Prog.Sends.bind (hreport ..) fun _ _ => ih
  have hrecord : ∀ result, Prog.Sends (recordingNone strategy signalUxid) (fun _ => True)
      ((m.bookedProcessor settings).recordResult signal result) := by
    intro result
    refine Prog.Sends.bind (recordingNone_perform rfl rfl) fun _ _ => ?_
    refine Prog.Sends.bind (logPosition_recordingNone ..) fun _ _ => ?_
    split
    · refine Prog.Sends.bind (Q := fun _ => True) ?_ fun _ _ => hreport ..
      refine Prog.Sends.bind (hforced _) fun _ _ => ?_
      split
      · exact Prog.Sends.bind (Q := fun _ => True) (by simp)
          fun _ _ => recordingNone_perform rfl rfl
      · exact recordingNone_perform rfl rfl
    · exact hreport ..
  have hhandle : ∀ w', Prog.Logs B.scribe (fun _ log _ => Booking.Silent log)
      (SignalHandler.handle m.booked signal) w' := by
    intro w'
    cases hentry : signal.action.isEntry with
    | true =>
        exact Prog.Logs.mono (SignalHandler.handle_entryBooks m signal hplain hentry)
          fun _ _ _ h => h.1
    | false =>
        exact Prog.Logs.mono (SignalHandler.handle_exitBooks m signal hplain hentry)
          fun _ _ _ h => h.1
  have hsilent : ∀ {log : List Booking}, Booking.Silent log →
      recordedProfit strategy signalUxid log = 0 := by
    intro log h
    rw [recordedProfit, h.events]
    rfl
  rw [Processor.processMessage_eq, admits_booked]
  refine Prog.Logs.bind (logs_uneventful
    (admits_recordingNone strategy signalUxid m settings signal) w) ?_
    fun e log w' h => h.1.recorded
  rintro cleared log w' ⟨h, -⟩
  simp only [recordedProfit_append, h.recorded, zero_add]
  cases cleared with
  | false => rfl
  | true =>
      refine Prog.Logs.bind (hhandle w') ?_ fun e log' _ h' => hsilent h'
      intro result log' w'' h'
      refine Prog.Logs.mono (logs_uneventful (hrecord _) w'') fun _ _ _ h'' => ?_
      rw [recordedProfit_append, hsilent h', h''.1.recorded, zero_add]

end Signal

end TradeWorker
