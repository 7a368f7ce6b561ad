import TradeWorker.BookedCloses

/-!
# The books of a run

The scribe writes down every close as it succeeds, every entry as it comes back from the
broker, every footer read and every event recorded. Of the executors it is told here what a
full close, a partial close and an entry book.
-/

namespace TradeWorker

/-! ## Sums of known profits -/

/-- The known figures summed; an unknown one contributes nothing. -/
def sumKnown (profits : List (Option ℚ)) : ℚ := (profits.filterMap id).sum

@[simp] theorem sumKnown_nil : sumKnown [] = 0 := rfl

@[simp] theorem sumKnown_cons (p : Option ℚ) (ps : List (Option ℚ)) :
    sumKnown (p :: ps) = p.getD 0 + sumKnown ps := by
  cases p <;> simp [sumKnown]

@[simp] theorem sumKnown_append (ps qs : List (Option ℚ)) :
    sumKnown (ps ++ qs) = sumKnown ps + sumKnown qs := by
  simp [sumKnown]

theorem getD_totalProfit (results : List TradeResult) :
    (totalProfit results).getD 0 = sumKnown (results.map (·.profit)) := by
  have hknown : results.filterMap (·.profit) = (results.map (·.profit)).filterMap id := by
    rw [List.filterMap_map]
    rfl
  unfold totalProfit sumKnown
  rw [← hknown]
  cases results.filterMap (·.profit) <;> rfl

/-! ## The books -/

/-- What is written down: a close under the key it is filed by, how an entry went, a footer
that was read, an event that was recorded. -/
inductive Booking where
  | closed (key : String) (profit : Option ℚ)
  | entered (success : Bool)
  | footer
  | recorded (signalUxid : Option String) (strategy : String) (event : CycleEvent)

namespace Booking

/-- The closes, with the keys they are filed by. -/
def closes (log : List Booking) : List (String × Option ℚ) :=
  log.filterMap fun
    | .closed key profit => some (key, profit)
    | _ => none

/-- The entries that reached the broker, and how they went. -/
def entries (log : List Booking) : List Bool :=
  log.filterMap fun
    | .entered success => some success
    | _ => none

def footers (log : List Booking) : Nat :=
  log.countP fun
    | .footer => true
    | _ => false

def eventsOf (strategy signalUxid : String) (log : List Booking) : List CycleEvent :=
  log.filterMap fun
    | .recorded uxid strategy' event =>
        if strategy' = strategy ∧ uxid = some signalUxid then some event else none
    | _ => none

section Append

variable (log log' : List Booking) (strategy signalUxid : String)

@[simp] theorem closes_append : closes (log ++ log') = closes log ++ closes log' :=
  List.filterMap_append

@[simp] theorem entries_append : entries (log ++ log') = entries log ++ entries log' :=
  List.filterMap_append

@[simp] theorem footers_append : footers (log ++ log') = footers log + footers log' :=
  List.countP_append

@[simp] theorem eventsOf_append : eventsOf strategy signalUxid (log ++ log') =
    eventsOf strategy signalUxid log ++ eventsOf strategy signalUxid log' :=
  List.filterMap_append

end Append

def closing (cs : List (String × Option ℚ)) : List Booking := cs.map fun c => .closed c.1 c.2

section Closing

variable (cs cs' : List (String × Option ℚ)) (strategy signalUxid : String)

@[simp] theorem closing_nil : closing [] = [] := rfl

@[simp] theorem closes_closing : closes (closing cs) = cs := by
  simp [closes, closing, List.filterMap_map]

@[simp] theorem entries_closing : entries (closing cs) = [] := by
  simp [entries, closing]

@[simp] theorem footers_closing : footers (closing cs) = 0 := by
  simp [footers, closing]

@[simp] theorem eventsOf_closing : eventsOf strategy signalUxid (closing cs) = [] := by
  simp [eventsOf, closing]

end Closing

end Booking

variable {β : Type}

/-- The backend, with everything of interest written down. -/
def Backend.scribe (B : Backend β) : Prog.Scribe WorkerOp WorkerOp.Ans Exn (World β) Booking
  | .host (.notify (.forceClosed key _ forced)), w => ((.ok (), w), [.closed key forced.profit])
  | .host (.notify (.orderFilled _ result _)), w => ((.ok (), w), [.entered result.success])
  | .host (.recordCycle uxid strategy symbol event status), w =>
      (B.serve (.host (.recordCycle uxid strategy symbol event status)) w,
        match (B.host (.recordCycle uxid strategy symbol event status) w.rest).1 with
        | .ok true => [.recorded uxid strategy event]
        | _ => [])
  | .host .currentFooter, w =>
      (B.serve (.host .currentFooter) w,
        match (B.host .currentFooter w.rest).1 with
        | .ok _ => [.footer]
        | .error _ => [])
  | o, w => (B.serve o w, [])

theorem scribe_scribes (B : Backend β) : Prog.Scribes bookings B.serve B.scribe where
  ghost o w a ho := by
    cases o with
    | db | fx | cx => cases ho
    | host o =>
        cases o with
        | notify report => cases report <;> first | rfl | cases ho
        | _ => cases ho
  real o w ho := by
    cases o with
    | db | fx | cx => rfl
    | host o =>
        cases o with
        | notify report => cases report <;> first | rfl | cases ho
        | _ => rfl

/-! ## What the gateways report -/

/-- A gateway's own report: of one order, with no rows cleared and nothing taken back. -/
structure TradeResult.Plain (result : TradeResult) : Prop where
  forced : result.forcedClosed = []
  rollback : result.rollback = none

/-- The gateways' reports of their orders are plain. -/
def reporting : Prog.Contract WorkerOp WorkerOp.Ans Exn where
  guard _ := True
  answers
    | .fx (.placeOrder _), r => ∀ result, r = .ok result → result.Plain
    | .fx (.closePosition ..), r => ∀ result, r = .ok result → result.Plain
    | .cx (.placeMarketOrder ..), r => ∀ result, r = .ok result → result.Plain
    | _, _ => True

/-- The backend's gateways report their own orders. -/
def Backend.ReportsPlainly (B : Backend β) : Prop :=
  ∀ o w, reporting.answers o (B.serve o w).1

section Reporting

theorem reporting_any {α : Type} (p : Work α) : Prog.Sends reporting (fun _ => True) p := by
  induction p with
  | ret a => simp
  | raise e => simp
  | call o k ih => exact ⟨trivial, fun r _ _ => ih r⟩

theorem reporting_after {α γ : Type} {Q : γ → Prop} {p : Work α} {f : α → Work γ}
    (hf : ∀ a, Prog.Sends reporting Q (f a)) : Prog.Sends reporting Q (p >>= f) :=
  Prog.Sends.bind (reporting_any p) fun a _ => hf a

/-- A report that failed, or that is plain. -/
def TradeResult.Honest (result : TradeResult) : Prop :=
  result.forcedClosed = [] ∧ (result.success = true → result.rollback = none)

theorem TradeResult.Plain.honest {result : TradeResult} (h : result.Plain) : result.Honest :=
  ⟨h.forced, fun _ => h.rollback⟩

theorem ForexExecutor.openPosition_honest (ex : ForexExecutor) (signal : Signal) :
    Prog.Sends reporting TradeResult.Honest (ex.openPosition signal) := by
  unfold ForexExecutor.openPosition
  split
  · exact Prog.sends_ret.mpr ⟨rfl, fun h => by cases h⟩
  refine reporting_after fun symbol => reporting_after fun spec => reporting_after fun tick => ?_
  cases tick with
  | none => exact Prog.sends_ret.mpr ⟨rfl, fun h => by cases h⟩
  | some tick =>
      dsimp only
      split
      · exact Prog.sends_ret.mpr ⟨rfl, fun h => by cases h⟩
      refine reporting_after fun requested => reporting_after fun volume => ?_
      cases volume with
      | none => exact Prog.sends_ret.mpr ⟨rfl, fun h => by cases h⟩
      | some volume =>
          refine reporting_after fun magic => ?_
          refine Prog.Sends.bind (Q := TradeResult.Plain)
            (Prog.sends_perform trivial fun result h => h result rfl) fun result hplain => ?_
          split
          · exact Prog.sends_ret.mpr hplain.honest
          · exact Prog.sends_ret.mpr hplain.honest

theorem ForexExecutor.partialClosePosition_plain (ex : ForexExecutor) (symbol : String)
    (volume : ℚ) (ticket : Nat) (strategy : Option String) :
    Prog.Sends reporting (fun result => result.forcedClosed = [])
      (ex.partialClosePosition symbol volume ticket strategy) := by
  refine reporting_after fun positions => ?_
  cases positions with
  | nil => exact Prog.sends_ret.mpr rfl
  | cons first rest =>
      refine Prog.Sends.bind (Q := TradeResult.Plain)
        (Prog.sends_perform trivial fun result h => h result rfl) fun result hplain => ?_
      split
      · exact Prog.sends_ret.mpr hplain.forced
      · exact Prog.sends_ret.mpr hplain.forced

theorem CryptoExecutor.attachTakeProfit_honest (symbol : String) (side : Side) (qty : ℚ)
    (signal : Signal) {result : TradeResult} (h : result.Plain) :
    Prog.Sends reporting TradeResult.Plain
      (CryptoExecutor.attachTakeProfit symbol side qty signal result) := by
  unfold CryptoExecutor.attachTakeProfit
  cases num? signal.tp2 with
  | none => exact Prog.sends_ret.mpr h
  | some tp2 => exact reporting_after fun tpRes => Prog.sends_ret.mpr ⟨h.forced, h.rollback⟩

theorem CryptoExecutor.attachEntryOrders_honest (symbol : String) (side : Side) (qty : ℚ)
    (signal : Signal) {result : TradeResult} (h : result.Plain) :
    Prog.Sends reporting TradeResult.Honest
      (CryptoExecutor.attachEntryOrders symbol side qty signal result) := by
  unfold CryptoExecutor.attachEntryOrders
  cases num? signal.sl with
  | none =>
      exact Prog.Sends.bind (attachTakeProfit_honest symbol side qty signal h) fun result h =>
        Prog.sends_ret.mpr ⟨h.forced, fun _ => h.rollback⟩
  | some sl =>
      refine reporting_after fun slRes => ?_
      dsimp only
      split
      · exact Prog.Sends.bind (attachTakeProfit_honest symbol side qty signal
          ⟨h.forced, h.rollback⟩) fun result h => Prog.sends_ret.mpr ⟨h.forced, fun _ => h.rollback⟩
      · exact reporting_after fun orderId => reporting_after fun closeRes =>
          Prog.sends_ret.mpr ⟨rfl, fun h => by cases h⟩

theorem CryptoExecutor.openPosition_honest (ex : CryptoExecutor) (signal : Signal) :
    Prog.Sends reporting TradeResult.Honest (ex.openPosition signal) := by
  have hfail : ∀ comment, Prog.Sends reporting TradeResult.Honest
      (pure (.fail comment) : Work TradeResult) := fun comment =>
    Prog.sends_ret.mpr ⟨rfl, fun h => by cases h⟩
  unfold CryptoExecutor.openPosition
  split
  · exact hfail _
  dsimp only
  split
  · exact hfail _
  refine reporting_after fun resolved => reporting_after fun qty => ?_
  split
  · exact hfail _
  refine reporting_after fun qty => ?_
  cases qty with
  | none => exact hfail _
  | some qty =>
      refine Prog.Sends.bind (Q := fun conflict => ∀ result, conflict = some result →
        result.Honest) ?_ fun conflict hconflict => ?_
      · unfold CryptoExecutor.nettingConflict
        split
        · simp
        · refine reporting_after fun rows => ?_
          dsimp only
          split
          · simp
          · refine Prog.sends_ret.mpr ?_
            rintro _ ⟨⟩
            exact ⟨rfl, fun h => by cases h⟩
      cases conflict with
      | some conflict => exact Prog.sends_ret.mpr (hconflict _ rfl)
      | none =>
          refine Prog.Sends.bind (Q := TradeResult.Plain)
            (Prog.sends_perform trivial fun result h => h result rfl) fun result hplain => ?_
          split
          · exact CryptoExecutor.attachEntryOrders_honest _ _ qty signal hplain
          · exact Prog.sends_ret.mpr hplain.honest

theorem CryptoExecutor.attachRealizedPnl_plain {result : TradeResult} (pos : ExchangePosition)
    (closePrice entryPrice : Option ℚ) (h : result.forcedClosed = []) :
    Prog.Sends reporting (fun result => result.forcedClosed = [])
      (CryptoExecutor.attachRealizedPnl result pos closePrice entryPrice) := by
  unfold CryptoExecutor.attachRealizedPnl
  split
  · exact Prog.sends_ret.mpr h
  · dsimp only
    split
    · exact Prog.sends_ret.mpr h
    · exact reporting_after fun profit => Prog.sends_ret.mpr h

theorem CryptoExecutor.partialClosePosition_plain (ex : CryptoExecutor) (symbol : String)
    (volume : ℚ) (ticket : Nat) (strategy : Option String) (closePrice : Option ℚ) :
    Prog.Sends reporting (fun result => result.forcedClosed = [])
      (ex.partialClosePosition symbol volume ticket strategy closePrice) := by
  refine reporting_after fun positions => ?_
  cases positions with
  | nil => exact Prog.sends_ret.mpr rfl
  | cons first rest =>
      refine reporting_after fun safeVolume => ?_
      split
      · exact Prog.sends_ret.mpr rfl
      refine reporting_after fun orderId => ?_
      refine Prog.Sends.bind (Q := TradeResult.Plain)
        (Prog.sends_perform trivial fun result h => h result rfl) fun result hplain => ?_
      split
      · exact reporting_after fun entryPrice => attachRealizedPnl_plain _ _ _ hplain.forced
      · exact Prog.sends_ret.mpr hplain.forced

namespace Market

theorem openPosition_honest (m : Market) (signal : Signal) :
    Prog.Sends reporting TradeResult.Honest (m.strategy.executor.openPosition signal) := by
  cases m with
  | forex ex => exact ex.openPosition_honest signal
  | crypto ex => exact ex.openPosition_honest signal

theorem partialClosePosition_plain (m : Market) (symbol : String) (volume : ℚ) (ticket : Nat)
    (strategy : Option String) (closePrice : Option ℚ) :
    Prog.Sends reporting (fun result => result.forcedClosed = [])
      (m.strategy.executor.partialClosePosition symbol volume ticket strategy closePrice) := by
  cases m with
  | forex ex => exact ex.partialClosePosition_plain symbol volume ticket strategy
  | crypto ex => exact ex.partialClosePosition_plain symbol volume ticket strategy closePrice

end Market

end Reporting

/-! ## What the executors book -/

namespace Booking

/-- What the closes reported. -/
def profits (log : List Booking) : List (Option ℚ) := (closes log).map (·.2)

@[simp] theorem profits_append (log log' : List Booking) :
    profits (log ++ log') = profits log ++ profits log' := by
  simp [profits]

/-- No footer, no event. -/
structure Silent (log : List Booking) : Prop where
  footers : footers log = 0
  events : ∀ strategy signalUxid, eventsOf strategy signalUxid log = []

theorem Silent.nil : Silent [] := ⟨rfl, fun _ _ => rfl⟩

theorem Silent.append {log log' : List Booking} (h : Silent log) (h' : Silent log') :
    Silent (log ++ log') :=
  ⟨by simp [h.footers, h'.footers], fun s u => by simp [h.events, h'.events]⟩

end Booking

/-- The program closes and enters as `Q` says, and reads no footer and records no event. -/
def Books {α : Type} (B : Backend β) (Q : Except Exn α → List (Option ℚ) → List Bool → Prop)
    (p : Work α) (w : World β) : Prop :=
  Prog.Logs B.scribe
    (fun r log _ => Booking.Silent log ∧ Q r (Booking.profits log) (Booking.entries log)) p w

/-- A call that leaves nothing in the books. -/
def WorkerOp.unwritten : WorkerOp → Bool
  | .host (.notify _) | .host (.recordCycle ..) | .host .currentFooter => false
  | _ => true

def unwritten : Prog.Contract WorkerOp WorkerOp.Ans Exn where
  guard o := o.unwritten = true
  answers _ _ := True

theorem unwritten_perform {o : WorkerOp} (ho : o.unwritten = true) :
    Prog.Sends unwritten (fun _ => True) (Prog.perform o) :=
  Prog.sends_perform ho fun _ _ => trivial

theorem unwritten_of_brokering {α : Type} {Q : α → Prop} {p : Work α}
    (hp : Prog.Sends brokering Q p) : Prog.Sends unwritten Q p := by
  refine hp.relax (fun o ho => ?_) fun _ _ _ => trivial
  cases o with
  | db | fx | cx => rfl
  | host o =>
      cases o with
      | uuidHex => rfl
      | signalsBlocked | ensureConnected | now | currentFooter | handling | notify
      | notifyChannel | recordCycle => cases ho

theorem scribe_unwritten (B : Backend β) {o : WorkerOp} (ho : o.unwritten = true) (w : World β) :
    (B.scribe o w).2 = [] := by
  cases o with
  | db | fx | cx => rfl
  | host o =>
      cases o with
      | notify | recordCycle | currentFooter => cases ho
      | signalsBlocked | ensureConnected | now | uuidHex | handling | notifyChannel => rfl

/-- Work at the broker leaves the store as it is. -/
theorem logs_brokering {α : Type} {Q : α → Prop} {p : Work α} (hp : Prog.Sends brokering Q p)
    {B : Backend β} {w : World β} {db : Db} (hw : w.db = db) :
    Prog.Logs B.scribe (fun _ log w' => log = [] ∧ w'.db = db) p w := by
  refine Prog.Logs.mono (hp.logs_nothing (W := B.scribe) (I := fun w' => w'.db = db) ?_ hw)
    fun _ _ _ h => ⟨h.1, h.2.1⟩
  rintro o s rfl ho
  cases o with
  | db o => exact ⟨trivial, rfl, Db.serve_of_isRead ho s.db⟩
  | fx | cx => exact ⟨trivial, rfl, rfl⟩
  | host o =>
      cases o with
      | uuidHex => exact ⟨trivial, rfl, rfl⟩
      | signalsBlocked | ensureConnected | now | currentFooter | handling | notify
      | notifyChannel | recordCycle => cases ho

theorem logs_unwritten {α : Type} {Q : α → Prop} {p : Work α} (hp : Prog.Sends unwritten Q p)
    {B : Backend β} (w : World β) : Prog.Logs B.scribe (fun _ log _ => log = []) p w :=
  Prog.Logs.mono (hp.logs_nothing (W := B.scribe) (I := fun _ => True)
    (fun _ s _ ho => ⟨trivial, scribe_unwritten B ho s, trivial⟩) trivial) fun _ _ _ h => h.1

theorem logs_call {B : Backend β} (o : WorkerOp) (w : World β) :
    Prog.Logs B.scribe (fun r log w' => r = (B.scribe o w).1.1 ∧ log = (B.scribe o w).2 ∧
      w' = (B.scribe o w).1.2) (Prog.perform o) w :=
  Prog.logs_perform.mpr ⟨rfl, rfl, rfl⟩

theorem scribe_reports {B : Backend β} (hB : B.ReportsPlainly) (o : WorkerOp) (w : World β) :
    reporting.answers o (B.scribe o w).1.1 := by
  cases o with
  | db o => trivial
  | fx o => exact hB (.fx o) w
  | cx o => exact hB (.cx o) w
  | host o => trivial

section Books

variable {B : Backend β} {α γ : Type} {w : World β}

theorem Books.mono {Q Q' : Except Exn α → List (Option ℚ) → List Bool → Prop} {p : Work α}
    (h : Books B Q p w) (hQ : ∀ r ps es, Q r ps es → Q' r ps es) : Books B Q' p w :=
  Prog.Logs.mono h fun _ _ _ hr => ⟨hr.1, hQ _ _ _ hr.2⟩

theorem books_ret {Q : Except Exn α → List (Option ℚ) → List Bool → Prop} {a : α}
    (h : Q (.ok a) [] []) : Books B Q (pure a) w :=
  Prog.logs_ret.mpr ⟨Booking.Silent.nil, h⟩

theorem Books.bind {R : Except Exn α → List (Option ℚ) → List Bool → Prop}
    {Q : Except Exn γ → List (Option ℚ) → List Bool → Prop} {p : Work α} {f : α → Work γ}
    (hp : Books B R p w)
    (hok : ∀ a ps es w', R (.ok a) ps es →
      Books B (fun r ps' es' => Q r (ps ++ ps') (es ++ es')) (f a) w')
    (herr : ∀ e ps es, R (.error e) ps es → Q (.error e) ps es) : Books B Q (p >>= f) w := by
  refine Prog.Logs.bind hp (fun a log w' hr => ?_) fun e log w' hr => ⟨hr.1, herr e _ _ hr.2⟩
  refine Prog.Logs.mono (hok a _ _ w' hr.2) fun r log' w'' hr' => ⟨hr.1.append hr'.1, ?_⟩
  simpa [Booking.profits] using hr'.2

/-- What leaves nothing in the books may stand before anything. -/
theorem Books.of_unwritten {R R' : α → Prop}
    {Q : Except Exn γ → List (Option ℚ) → List Bool → Prop} {p : Work α} {f : α → Work γ}
    (hp : Prog.Sends unwritten R p)
    (hreturns : Prog.Logs B.scribe (fun r _ _ => ∀ a, r = .ok a → R' a) p w)
    (hok : ∀ a w', R' a → Books B Q (f a) w') (herr : ∀ e, Q (.error e) [] []) :
    Books B Q (p >>= f) w := by
  have hquiet := hp.logs_nothing (W := B.scribe) (I := fun _ => True)
    (fun o s _ ho => ⟨trivial, scribe_unwritten B ho s, trivial⟩) (s := w) trivial
  refine Prog.Logs.bind (R := fun r log _ => log = [] ∧ ∀ a, r = .ok a → R' a)
    ⟨hquiet.1, hreturns⟩ ?_ ?_
  · rintro a log w' ⟨rfl, ha⟩
    exact hok a w' (ha a rfl)
  · rintro e log w' ⟨rfl, -⟩
    exact ⟨Booking.Silent.nil, herr e⟩

theorem Books.after {R : α → Prop} {Q : Except Exn γ → List (Option ℚ) → List Bool → Prop}
    {p : Work α} {f : α → Work γ} (hp : Prog.Sends unwritten R p)
    (hok : ∀ a w', R a → Books B Q (f a) w') (herr : ∀ e, Q (.error e) [] []) :
    Books B Q (p >>= f) w :=
  Books.of_unwritten hp
    (hp.logs_nothing (W := B.scribe) (I := fun _ => True)
      (fun o s _ ho => ⟨trivial, scribe_unwritten B ho s, trivial⟩) trivial).2.2
    hok herr

/-- The same, with what the gateways' reports are. -/
theorem Books.afterReport {R : α → Prop}
    {Q : Except Exn γ → List (Option ℚ) → List Bool → Prop} {p : Work α} {f : α → Work γ}
    (hB : B.ReportsPlainly) (hp : Prog.Sends brokering (fun _ => True) p)
    (hR : Prog.Sends reporting R p) (hok : ∀ a w', R a → Books B Q (f a) w')
    (herr : ∀ e, Q (.error e) [] []) : Books B Q (p >>= f) w :=
  Books.of_unwritten (unwritten_of_brokering hp)
    (hR.logs_returns (fun o s => scribe_reports hB o s) w) hok herr

theorem books_bookProfit (key : String) (result : TradeResult) :
    Books B (fun r ps es => r = .ok () ∧ ps = [result.profit] ∧ es = [])
      (bookProfit key result) w :=
  ⟨⟨rfl, fun _ _ => rfl⟩, rfl, rfl, rfl⟩

theorem books_bookClose (key : String) (result : TradeResult) :
    Books B (fun r ps es => r = .ok () ∧
        ps = (if result.success then [result.profit] else []) ∧ es = [])
      (bookClose key result) w := by
  unfold bookClose
  split
  · exact books_bookProfit key result
  · exact books_ret ⟨rfl, rfl, rfl⟩

/-- A report accounts for the closes behind it: its profit as `S` says where it succeeded,
and by there being none where it failed. -/
def Accounts (S : Option ℚ → List (Option ℚ) → Prop) (r : Except Exn TradeResult)
    (ps : List (Option ℚ)) : Prop :=
  ∀ result, r = .ok result → result.forcedClosed = [] ∧
    (result.success = true → S result.profit ps) ∧ (result.success = false → ps = [])

/-- Its profit is the sum of what the single closes reported. -/
abbrev Sums : Except Exn TradeResult → List (Option ℚ) → Prop :=
  Accounts fun profit ps => profit.getD 0 = sumKnown ps

theorem accounts_fail {S : Option ℚ → List (Option ℚ) → Prop} (comment : String) :
    Accounts S (.ok (.fail comment)) [] := by
  rintro _ ⟨⟩
  exact ⟨rfl, fun h => (nomatch h), fun _ => rfl⟩

theorem accounts_error {S : Option ℚ → List (Option ℚ) → Prop} (e : Exn)
    (ps : List (Option ℚ)) : Accounts S (.error e) ps := nofun

theorem ForexExecutor.closeEachBooked_books (comment : String) (positions : List PlatformPosition) :
    Books B (fun r ps es => es = [] ∧ ∀ closed, r = .ok closed → ps = closed.map (·.profit))
      (ForexExecutor.closeEachBooked comment positions) w := by
  induction positions generalizing w with
  | nil => exact books_ret ⟨rfl, by rintro _ ⟨⟩; rfl⟩
  | cons pos rest ih =>
      refine Books.after (unwritten_perform rfl) (fun result w' _ => ?_) fun e => ⟨rfl, nofun⟩
      refine Books.bind (books_bookClose _ result) ?_ fun e ps es h => nomatch h.1
      rintro _ _ _ w' ⟨-, rfl, rfl⟩
      refine Books.bind ih ?_ fun e ps es h => ⟨h.1, nofun⟩
      rintro closed ps es w' ⟨rfl, hclosed⟩
      refine books_ret ⟨rfl, ?_⟩
      rintro _ ⟨⟩
      rw [hclosed closed rfl]
      split <;> simp_all

theorem CryptoExecutor.closeEachBooked_books (X : String) (closePrice entryPrice : Option ℚ)
    (positions : List ExchangePosition) :
    Books B (fun r ps es => es = [] ∧ ∀ closed, r = .ok closed → ps = closed.map (·.profit))
      (CryptoExecutor.closeEachBooked X closePrice entryPrice positions) w := by
  induction positions generalizing w with
  | nil => exact books_ret ⟨rfl, by rintro _ ⟨⟩; rfl⟩
  | cons pos rest ih =>
      refine Books.after (unwritten_of_brokering (brokering_of_consulting
        CryptoExecutor.closeClientOrderId_consults)) (fun orderId w' _ => ?_) fun e => ⟨rfl, nofun⟩
      refine Books.after (unwritten_perform rfl) (fun result w' _ => ?_) fun e => ⟨rfl, nofun⟩
      split
      · refine Books.after (unwritten_of_brokering (brokering_of_consulting
          (CryptoExecutor.attachRealizedPnl_consults ..))) (fun result w' _ => ?_)
          fun e => ⟨rfl, nofun⟩
        refine Books.bind (books_bookProfit _ result) ?_ fun e ps es h => nomatch h.1
        rintro _ _ _ w' ⟨-, rfl, rfl⟩
        refine Books.bind ih ?_ fun e ps es h => ⟨h.1, nofun⟩
        rintro closed ps es w' ⟨rfl, hclosed⟩
        refine books_ret ⟨rfl, ?_⟩
        rintro _ ⟨⟩
        simp [hclosed closed rfl]
      · exact ih

theorem ForexExecutor.closeReport_sums (reason : String) (first : PlatformPosition)
    (closed : List TradeResult) :
    Sums (.ok (ForexExecutor.closeReport reason first closed)) (closed.map (·.profit)) := by
  rintro _ ⟨⟩
  unfold ForexExecutor.closeReport
  cases hlast : closed.getLast? with
  | none =>
      rw [List.getLast?_eq_none_iff] at hlast
      exact ⟨rfl, fun h => (nomatch h), fun _ => by simp [hlast]⟩
  | some last => exact ⟨rfl, fun _ => getD_totalProfit closed, fun h => (nomatch h)⟩

theorem CryptoExecutor.closeReport_sums (reason : String) (first : ExchangePosition)
    (closed : List TradeResult) :
    Sums (.ok (CryptoExecutor.closeReport reason first closed)) (closed.map (·.profit)) := by
  rintro _ ⟨⟩
  unfold CryptoExecutor.closeReport
  cases hlast : closed.getLast? with
  | none =>
      rw [List.getLast?_eq_none_iff] at hlast
      exact ⟨rfl, fun h => (nomatch h), fun _ => by simp [hlast]⟩
  | some last => exact ⟨rfl, fun _ => getD_totalProfit closed, fun h => (nomatch h)⟩

namespace Market

variable (m : Market)

theorem closeAllBooked_books (symbol reason : String) (strategy : Option String)
    (closePrice : Option ℚ) (ticket : Option String) :
    Books B (fun r ps es => es = [] ∧ Sums r ps)
      (m.closeAllBooked symbol reason strategy closePrice ticket) w := by
  cases m with
  | forex ex =>
      refine Books.after (unwritten_of_brokering ((forex_atBroker ex).getOpenPositions ..))
        (fun positions w' _ => ?_) fun e => ⟨rfl, accounts_error e _⟩
      generalize filterByTicket positions ticket = matching
      cases matching with
      | nil => exact books_ret ⟨rfl, accounts_fail _⟩
      | cons first rest =>
          refine Books.bind (ForexExecutor.closeEachBooked_books ..) ?_
            fun e ps es h => ⟨h.1, accounts_error e ps⟩
          rintro closed ps es w' ⟨rfl, hclosed⟩
          refine books_ret ⟨rfl, ?_⟩
          rw [hclosed closed rfl, List.append_nil]
          exact ForexExecutor.closeReport_sums reason first closed
  | crypto ex =>
      refine Books.after
        (unwritten_of_brokering ((crypto_atBroker ex).getOpenPositions symbol strategy))
        (fun positions w' _ => ?_) fun e => ⟨rfl, accounts_error e _⟩
      generalize filterByTicket positions ticket = matching
      cases matching with
      | nil => exact books_ret ⟨rfl, accounts_fail _⟩
      | cons first rest =>
          refine Books.after (unwritten_perform rfl) (fun _ w' _ => ?_)
            fun e => ⟨rfl, accounts_error e _⟩
          refine Books.after (unwritten_of_brokering (brokering_of_consulting
            (CryptoExecutor.entryPriceFromDb_consults ..))) (fun entryPrice w' _ => ?_)
            fun e => ⟨rfl, accounts_error e _⟩
          refine Books.bind (CryptoExecutor.closeEachBooked_books ..) ?_
            fun e ps es h => ⟨h.1, accounts_error e ps⟩
          rintro closed ps es w' ⟨rfl, hclosed⟩
          refine books_ret ⟨rfl, ?_⟩
          rw [hclosed closed rfl, List.append_nil]
          exact CryptoExecutor.closeReport_sums reason first closed

theorem booked_partialClose_books (hB : B.ReportsPlainly) (symbol : String) (volume : ℚ)
    (ticket : Nat) (strategy : Option String) (closePrice : Option ℚ) :
    Books B (fun r ps es => es = [] ∧ (∀ e, r = .error e → ps = []) ∧ ∀ result, r = .ok result →
        result.forcedClosed = [] ∧ ps = if result.success then [result.profit] else [])
      (m.booked.executor.partialClosePosition symbol volume ticket strategy closePrice) w := by
  refine Books.afterReport hB (m.atBroker.partialClosePosition ..)
    (m.partialClosePosition_plain ..) (fun result w' hplain => ?_) fun e => ⟨rfl, by simp⟩
  refine Books.bind (books_bookClose symbol result) ?_ fun e ps es h => nomatch h.1
  rintro _ _ _ w' ⟨-, rfl, rfl⟩
  refine books_ret ⟨rfl, nofun, ?_⟩
  rintro _ ⟨⟩
  exact ⟨hplain, by simp⟩

theorem booked_openPosition_books (hB : B.ReportsPlainly) (signal : Signal) :
    Books B (fun r ps es => (∀ e, r = .error e → ps = [] ∧ es = []) ∧ ∀ result, r = .ok result →
        result.forcedClosed = [] ∧ es = [result.success] ∧ (result.success = true → ps = []))
      (m.booked.executor.openPosition signal) w := by
  refine Books.afterReport hB (m.atBroker.openPosition signal) (m.openPosition_honest signal)
    (fun result w' hhonest => ?_) fun e => ⟨fun _ _ => ⟨rfl, rfl⟩, nofun⟩
  have hentry : Books B (fun r ps es => r = .ok () ∧ es = [result.success] ∧
      (result.success = true → ps = [])) (bookEntry signal result) w' := by
    refine Books.bind (R := fun r ps es => r = .ok () ∧ ps = [] ∧ es = [result.success])
      ⟨⟨rfl, fun _ _ => rfl⟩, rfl, rfl, rfl⟩ ?_ fun e ps es h => nomatch h.1
    rintro _ _ _ w'' ⟨-, rfl, rfl⟩
    cases hback : result.rollback with
    | none => exact books_ret ⟨rfl, rfl, fun _ => rfl⟩
    | some closed =>
        refine Books.mono (books_bookClose signal.symbol closed) ?_
        rintro r ps es ⟨rfl, -, rfl⟩
        refine ⟨rfl, rfl, fun hsuccess => ?_⟩
        rw [hhonest.2 hsuccess] at hback
        cases hback
  refine Books.bind hentry ?_ fun e ps es h => nomatch h.1
  rintro _ ps es w'' ⟨-, rfl, hps⟩
  refine books_ret ⟨nofun, ?_⟩
  rintro _ ⟨⟩
  exact ⟨hhonest.1, rfl, fun h => by simp [hps h]⟩

end Market

end Books

end TradeWorker
