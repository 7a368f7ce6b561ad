import TradeWorker.AdminFlat
import TradeWorker.ChangeFeed
import TradeWorker.FinalStatus

/-!
# The entry signal of a row

`gateway_message` holds the signal a row was opened by. Change capture reads the ids and
levels of its events from it, and a breakeven move the take-profit it puts back. An
update may carry a message of its own, and only two do: the one a successful exit is
booked with, and the one FLAT writes a row off with. Every other writer leaves the
column alone.
-/

namespace TradeWorker

/-! ## Updates that carry a message -/

/-- The call writes a message over the rows under the reference. -/
def WorkerOp.Books (ref : String) : WorkerOp → Prop
  | .db (.updateStatus u) => u.refSourceId = some ref ∧ u.message.isSome = true
  | _ => False

/-- The call writes a message over no row. -/
def WorkerOp.keepsMessages : WorkerOp → Bool
  | .db (.updateStatus u) => u.message.isNone
  | _ => true

def keepingMessages : Prog.Contract WorkerOp WorkerOp.Ans Exn where
  guard o := o.keepsMessages = true
  answers _ _ := True

theorem not_books_of_keepsMessages {o : WorkerOp} (ho : o.keepsMessages = true) (ref : String) :
    ¬ o.Books ref := by
  cases o with
  | fx | cx | host => exact id
  | db o =>
      cases o with
      | updateStatus u =>
          rintro ⟨-, hmessage⟩
          have hnone : u.message.isNone = true := ho
          rw [Option.isNone_iff_eq_none] at hnone
          rw [hnone] at hmessage
          cases hmessage
      | selectActiveByStrategy | selectActiveForFlat | selectLogged | selectPosition
      | insertLog | insertRow => exact id

/-- The message of the row in place `i`, and its reference. -/
def Db.Holds (db : Db) (i : ℕ) (ref : String) (message : Option Message) : Prop :=
  ∃ row, db.rows[i]? = some row ∧ row.refSourceId = ref ∧ row.gatewayMessage = message

/-- A call that does not book leaves it. -/
theorem Db.Answers.holds {o : WorkerOp} {db db' : Db} {r : Except Exn (WorkerOp.Ans o)}
    (h : Db.Answers o db r db') {i : ℕ} {ref : String} {message : Option Message}
    (hbooks : ¬ o.Books ref) (hrow : db.Holds i ref message) : db'.Holds i ref message := by
  obtain ⟨row, hi, rfl, rfl⟩ := hrow
  rcases h.rows with hsame | ⟨n, added, -, -, -, hrows⟩ | ⟨u, rfl, hrows⟩
  · exact ⟨row, hsame ▸ hi, rfl, rfl⟩
  · refine ⟨row, ?_, rfl, rfl⟩
    rw [hrows, List.getElem?_append_left (List.getElem?_eq_some_iff.mp hi).1]
    exact hi
  · refine ⟨row.update u db.clock, by rw [hrows, updateRows, List.getElem?_map, hi]; rfl,
      row.update_refSourceId u _, ?_⟩
    unfold Row.update
    split
    · rename_i hmatch
      cases hmessage : u.message with
      | none => simp [Row.apply, hmessage]
      | some message => exact (hbooks ⟨hmatch, by rw [hmessage]; rfl⟩).elim
    · rfl

/-! ## The writers that keep to it -/

section Keepers

theorem keepingMessages_sql {o : DbOp} (ho : WorkerOp.keepsMessages (.db o) = true) :
    Prog.Sends keepingMessages (fun _ => True) (sql o) :=
  Prog.sends_perform ho fun _ _ => trivial

theorem keepingMessages_of_aside {α : Type} {Q : α → Prop} {p : Work α}
    (hp : Prog.Sends aside Q p) : Prog.Sends keepingMessages Q p := by
  refine hp.relax (fun o ho => ?_) fun _ _ _ => trivial
  cases o with
  | fx | cx | host => rfl
  | db o =>
      cases o with
      | updateStatus => cases ho
      | selectActiveByStrategy | selectActiveForFlat | selectLogged | selectPosition
      | insertLog | insertRow => rfl

theorem keepingMessages_of_brokering {α : Type} {Q : α → Prop} {p : Work α}
    (hp : Prog.Sends brokering Q p) : Prog.Sends keepingMessages Q p := by
  refine hp.relax (fun o ho => ?_) fun _ _ _ => trivial
  cases o with
  | fx | cx | host => rfl
  | db o =>
      cases o with
      | updateStatus => cases ho
      | selectActiveByStrategy | selectActiveForFlat | selectLogged | selectPosition
      | insertLog | insertRow => rfl

theorem keepingMessages_swallow {α : Type} {p : Work α} (a : α)
    (hp : Prog.Sends keepingMessages (fun _ => True) p) :
    Prog.Sends keepingMessages (fun _ => True) (Prog.tryCatch p fun _ => pure a) :=
  Prog.Sends.tryCatch hp fun _ => by simp

theorem updatePositionStatus_keepsMessages {u : StatusUpdate} (hu : u.message = none) :
    Prog.Sends keepingMessages (fun _ => True) (updatePositionStatus u) :=
  keepingMessages_sql (by rw [WorkerOp.keepsMessages, hu]; rfl)

/-- An entry stores the signal in the row it inserts, and none in the rows it clears. -/
theorem handle_keepsMessages (m : Market) {signal : Signal}
    (hentry : signal.action.isEntry = true) :
    Prog.Sends keepingMessages (fun _ => True) (SignalHandler.handle m.strategy signal) := by
  have hkeeps : Prog.Sends keepingMessages (fun _ => True)
      (SignalHandler.handleEntry m.strategy signal) := by
    refine (SignalHandler.handleEntry_enters m signal).relax (fun o ho => ?_) fun _ _ _ => trivial
    cases o with
    | fx | cx | host => rfl
    | db o =>
        cases o with
        | updateStatus u => exact (Bool.and_eq_true_iff.mp ho).2
        | selectActiveByStrategy | selectActiveForFlat | selectLogged | selectPosition
        | insertLog | insertRow => rfl
  refine Prog.Sends.bind (Prog.sends_perform rfl fun _ _ => trivial) fun _ _ => ?_
  cases haction : signal.action with
  | long | short => exact hkeeps
  | tp1 | tp2 | sl | rSl | flat =>
      rw [haction] at hentry
      cases hentry

section Pipeline

variable (m : Market) (settings : WorkerSettings) {signal : Signal}

theorem recordResult_keepsMessages (hentry : signal.action.isEntry = true)
    (result : TradeResult) : Prog.Sends keepingMessages (fun _ => True)
      ((m.processor settings).recordResult signal result) := by
  have hnone : Processor.closeStatus signal.action = none := by
    cases haction : signal.action with
    | long | short => rfl
    | tp1 | tp2 | sl | rSl | flat =>
        rw [haction] at hentry
        cases hentry
  have hreport : ∀ report event status, Prog.Sends keepingMessages (fun _ => True)
      (Processor.notifyTrade signal report event status) := fun _ _ _ =>
    keepingMessages_of_aside (notifyTrade_aside ..)
  refine Prog.Sends.bind (keepingMessages_of_aside (aside_host rfl)) fun _ _ => ?_
  refine Prog.Sends.bind (keepingMessages_of_aside (logPosition_aside _)) fun _ _ => ?_
  split
  · refine Prog.Sends.bind (Q := fun _ => True) ?_ fun _ _ => hreport ..
    refine Prog.Sends.bind (keepingMessages_of_aside (notifyForcedClosed_aside ..)) fun _ _ => ?_
    rw [hnone]
    exact Prog.Sends.bind (Q := fun _ => True) (by simp) fun magic _ => keepingMessages_sql rfl
  · exact hreport ..

theorem processSignal_keepsMessages (hentry : signal.action.isEntry = true) :
    Prog.Sends keepingMessages (fun _ => True) ((m.processor settings).processSignal signal) := by
  have hunknown : ∀ report, Prog.Sends keepingMessages (fun _ => True) (do
      let _footer ← host .currentFooter
      host (.notify report)) := fun report =>
    keepingMessages_of_aside (Prog.Sends.bind (aside_host rfl) fun _ _ => aside_host rfl)
  have hexecute : Prog.Sends keepingMessages (fun _ => True)
      ((m.processor settings).executeSignal signal) := by
    unfold Processor.executeSignal
    rw [Market.processor_market]
    exact Prog.Sends.bind (handle_keepsMessages m hentry) fun result _ =>
      recordResult_keepsMessages m settings hentry _
  refine Prog.Sends.bind (keepingMessages_of_aside (aside_host rfl)) fun blocked _ => ?_
  split
  · simp
  split
  · exact hunknown _
  · exact hunknown _
  · simp
  refine Prog.Sends.bind (keepingMessages_of_aside (entryRejection_aside ..)) fun reason _ => ?_
  cases reason with
  | some reason => exact keepingMessages_of_aside (rejectSignal_aside ..)
  | none => exact hexecute

theorem processMessage_keepsMessages (hentry : signal.action.isEntry = true) :
    Prog.Sends keepingMessages (fun _ => True)
      ((m.processor settings).processMessage signal) := by
  refine Prog.Sends.bind (keepingMessages_of_aside (aside_host rfl)) fun connected _ => ?_
  split
  · exact processSignal_keepsMessages m settings hentry
  · simp

theorem retrySignal_keepsMessages (now : ℚ) (hentry : signal.action.isEntry = true) :
    Prog.Sends keepingMessages (fun _ => True)
      ((m.processor settings).retrySignal now signal) := by
  have hfresh : ∀ seen : Bool, Prog.Sends keepingMessages (fun _ => True)
      (if seen then pure ()
      else if Processor.maxRetryTimeout < now - signal.timestamp then pure ()
      else Prog.tryCatch ((m.processor settings).processSignal signal) fun _ => pure ()) := by
    intro seen
    split
    · simp
    split
    · simp
    exact keepingMessages_swallow _ (processSignal_keepsMessages m settings hentry)
  unfold Processor.retrySignal
  cases text? signal.signalId with
  | none => exact hfresh false
  | some id =>
      refine Prog.Sends.bind (Q := fun _ => True) ?_ fun seen _ => hfresh seen
      unfold signalExists
      split
      · simp
      · exact keepingMessages_swallow _ (keepingMessages_sql rfl)

end Pipeline

/-! ## ADMIN FLAT -/

def Market.handleAdminFlat (m : Market) (gateway accountId : String) (admin : AdminFlat)
    (isPrivate : Bool) (raw : String) : Work Unit :=
  match m with
  | .forex ex => (forexDesk ex gateway accountId).handleAdminFlat admin isPrivate raw
  | .crypto ex => (cryptoDesk ex gateway accountId).handleAdminFlat admin isPrivate raw

namespace AdminDesk

variable {Pos : Type} (desk : AdminDesk Pos)

structure AtBroker : Prop where
  getOpenPositions : ∀ symbol strategy,
    Prog.Sends brokering (fun _ => True) (desk.getOpenPositions symbol strategy)
  getAllOpenPositions : ∀ strategy,
    Prog.Sends brokering (fun _ => True) (desk.getAllOpenPositions strategy)
  closeSinglePosition : ∀ pos reason,
    Prog.Sends brokering (fun _ => True) (desk.closeSinglePosition pos reason)

variable {desk}

theorem closeLivePositionsForFlat_brokering (hdesk : desk.AtBroker) (admin : AdminFlat) :
    Prog.Sends brokering (fun _ => True) (desk.closeLivePositionsForFlat admin) := by
  have hclose : ∀ positions tally, Prog.Sends brokering (fun _ => True)
      (desk.closeEach positions tally) := by
    intro positions
    induction positions with
    | nil => simp [closeEach]
    | cons pos rest ih =>
        exact fun tally => Prog.Sends.bind (hdesk.closeSinglePosition pos "FLAT") fun _ _ => ih _
  refine Prog.Sends.bind (Q := fun _ => True) ?_ fun fetched _ => ?_
  · unfold fetchForFlat
    split
    · exact hdesk.getOpenPositions ..
    · exact hdesk.getAllOpenPositions _
  refine Prog.Sends.bind (Q := fun _ => True) ?_ fun positions _ => hclose positions _
  unfold narrowByRef
  split
  · simp
  · exact Prog.Sends.bind (brokering_of_consulting (getOpenPositionsForFlat_consults ..))
      fun _ _ => by simp

/-- The rows are marked without the payload, which goes to the log. -/
theorem settleRow_keepsMessages (tally : FlatTally) (raw : String) (row : Row) :
    Prog.Sends keepingMessages (fun _ => True) (desk.settleRow tally raw row) := by
  unfold settleRow
  split
  · refine Prog.Sends.bind (keepingMessages_of_aside (logPosition_aside _)) fun _ _ => ?_
    refine Prog.Sends.bind (updatePositionStatus_keepsMessages rfl) fun _ _ => ?_
    refine keepingMessages_of_aside (Prog.Sends.bind (aside_host rfl) fun now _ => ?_)
    refine Prog.Sends.bind (aside_host rfl) fun owned _ => ?_
    split
    · simp
    · exact aside_host rfl
  · split
    · exact Prog.Sends.bind (keepingMessages_of_aside (logPosition_aside _)) fun _ _ =>
        updatePositionStatus_keepsMessages rfl
    · simp

theorem handleAdminFlat_keepsMessages (hdesk : desk.AtBroker) (admin : AdminFlat)
    (isPrivate : Bool) (raw : String) :
    Prog.Sends keepingMessages (fun _ => True) (desk.handleAdminFlat admin isPrivate raw) := by
  have hsettle : ∀ tally rows, Prog.Sends keepingMessages (fun _ => True)
      (desk.settleEach tally raw rows) := by
    intro tally rows
    induction rows with
    | nil => simp [settleEach]
    | cons row rest ih =>
        exact Prog.Sends.bind (settleRow_keepsMessages tally raw row) fun _ _ => ih
  unfold handleAdminFlat
  split
  · refine Prog.Sends.bind (keepingMessages_of_brokering
      (closeLivePositionsForFlat_brokering hdesk admin)) fun tally _ => ?_
    refine Prog.Sends.bind (keepingMessages_of_brokering (brokering_of_consulting
      (getOpenPositionsForFlat_consults ..))) fun rows _ => ?_
    exact Prog.Sends.bind (keepingMessages_of_aside (aside_host rfl)) fun _ _ => hsettle tally rows
  · simp

end AdminDesk

theorem forexDesk_atBroker (ex : ForexExecutor) (gateway accountId : String) :
    (forexDesk ex gateway accountId).AtBroker where
  getOpenPositions symbol strategy :=
    brokering_of_consulting ((Market.forex_consults ex).getOpenPositions symbol strategy)
  getAllOpenPositions _ := brokering_of_consulting
    (Prog.Sends.bind (consulting_fx rfl) fun _ _ => by simp)
  closeSinglePosition _ _ :=
    Prog.Sends.bind (Prog.sends_perform rfl fun _ _ => trivial) fun _ _ => by simp

theorem cryptoDesk_atBroker (ex : CryptoExecutor) (gateway accountId : String) :
    (cryptoDesk ex gateway accountId).AtBroker where
  getOpenPositions symbol _ :=
    brokering_of_consulting (CryptoExecutor.getOpenPositions_consults symbol)
  getAllOpenPositions _ := brokering_of_consulting
    (Prog.Sends.bind (consulting_cx rfl) fun _ _ => by simp)
  closeSinglePosition _ _ := by
    refine Prog.Sends.bind (brokering_of_consulting CryptoExecutor.closeClientOrderId_consults)
      fun orderId _ => ?_
    refine Prog.Sends.bind (Prog.sends_perform rfl fun _ _ => trivial) fun result _ => ?_
    split
    · exact brokering_of_consulting (CryptoExecutor.attachRealizedPnl_consults ..)
    · simp

/-! ## Closes that no signal asked for -/

theorem handleTerminalCloses_keepsMessages (events : List CloseDetector.TerminalClosedEvent) :
    Prog.Sends keepingMessages (fun _ => True) (handleTerminalCloses events) := by
  induction events with
  | nil => simp [handleTerminalCloses]
  | cons event rest ih =>
      refine Prog.Sends.bind (keepingMessages_swallow _ ?_) fun _ _ => ih
      refine Prog.Sends.bind (keepingMessages_swallow _ (keepingMessages_sql rfl)) fun found _ => ?_
      cases found with
      | none => simp
      | some row =>
          refine Prog.Sends.bind (keepingMessages_of_aside (logPosition_aside _)) fun _ _ => ?_
          exact Prog.Sends.bind (updatePositionStatus_keepsMessages rfl) fun _ _ =>
            keepingMessages_of_aside (aside_host rfl)

theorem onMessage_keepsMessages (ex : CryptoExecutor) (float : String → Except Exn ℚ)
    (msg : UserEvent) :
    Prog.Sends keepingMessages (fun _ => True) (ex.onMessage float msg) := by
  have hclose : ∀ (event : ExchangeCloseEvent) comment rows,
      Prog.Sends keepingMessages (fun _ => True) (event.closeEach comment rows) := by
    intro event comment rows
    induction rows with
    | nil => simp [ExchangeCloseEvent.closeEach]
    | cons row rest ih =>
        refine Prog.Sends.bind (keepingMessages_of_aside (logPosition_aside _)) fun _ _ => ?_
        exact Prog.Sends.bind (updatePositionStatus_keepsMessages rfl) fun _ _ => ih
  unfold CryptoExecutor.onMessage
  split
  · simp
  · simp
  · refine keepingMessages_swallow _ ?_
    refine Prog.Sends.bind (keepingMessages_of_brokering (brokering_of_consulting
      (getOpenPositionsForFlat_consults ..))) fun rows _ => ?_
    unfold ExchangeCloseEvent.closeMatched
    split
    · simp
    · exact Prog.Sends.bind (hclose ..) fun _ _ => keepingMessages_of_aside
        (Prog.Sends.bind (aside_host rfl) fun _ _ => aside_host rfl)

theorem onMissedClose_keepsMessages (m : Market) (row : Row) :
    Prog.Sends keepingMessages (fun _ => True) (m.onMissedClose row) := by
  cases m with
  | forex ex =>
      refine Prog.Sends.bind (keepingMessages_of_aside (bestEffortPrice_aside_fx _))
        fun closePrice _ => ?_
      refine Prog.Sends.bind (keepingMessages_of_aside (logPosition_aside _)) fun _ _ => ?_
      refine Prog.Sends.bind (updatePositionStatus_keepsMessages rfl) fun _ _ => ?_
      refine keepingMessages_of_aside (Prog.Sends.bind (aside_host rfl) fun _ _ => ?_)
      exact Prog.Sends.bind (reconciledPnl_aside _) fun _ _ => aside_host rfl
  | crypto ex =>
      refine Prog.Sends.bind (keepingMessages_of_aside (bestEffortPrice_aside_cx _))
        fun closePrice _ => ?_
      refine Prog.Sends.bind (keepingMessages_of_aside (logPosition_aside _)) fun _ _ => ?_
      refine Prog.Sends.bind (updatePositionStatus_keepsMessages rfl) fun _ _ => ?_
      exact keepingMessages_of_aside (Prog.Sends.bind (aside_host rfl) fun _ _ => aside_host rfl)

theorem closeMissed_keepsMessages {Pos Key Id : Type} [DecidableEq Key] [DecidableEq Id]
    (m : Market) (suspected : Finset String) (s : Scan Pos Key Id) :
    Prog.Sends keepingMessages (fun _ => True)
      (ReconcileJob.closeMissed m.onMissedClose suspected s) := by
  have hclose : ∀ rows, Prog.Sends keepingMessages (fun _ => True)
      (ReconcileJob.closeEach m.onMissedClose rows) := by
    intro rows
    induction rows with
    | nil => simp [ReconcileJob.closeEach]
    | cons row rest ih =>
        exact Prog.Sends.bind (keepingMessages_swallow _ (onMissedClose_keepsMessages m row))
          fun _ _ => ih
  unfold ReconcileJob.closeMissed
  split
  · simp
  · exact Prog.Sends.bind (keepingMessages_of_brokering (brokering_of_consulting
      (getOpenPositionsForFlat_consults ..))) fun rows _ => hclose _

end Keepers

/-! ## What reads the message -/

/-- A row the self-heal closes is active no more; another stays as it was. -/
theorem matchesStrategy_healed (row : Row) (duplicates : List Row) (strategy symbol : String)
    (now : Int) :
    (row.updateEach (duplicates.map SignalHandler.healDuplicate) now).matchesStrategy strategy
        symbol none =
      (decide (row.refSourceId ∉ refsOf duplicates) &&
        row.matchesStrategy strategy symbol none) := by
  by_cases hmem : row.refSourceId ∈ refsOf duplicates
  · have hforced : ∀ u ∈ duplicates.map SignalHandler.healDuplicate, u.status = .forcedClosed :=
      List.forall_mem_map.mpr fun _ _ => rfl
    have hstatus := row.updateEach_status hforced now
    rw [if_pos] at hstatus
    · simp [Row.matchesStrategy, Row.isActive, hstatus, PositionStatus.isActive, hmem]
    · obtain ⟨duplicate, hduplicate, href⟩ := List.mem_map.mp hmem
      exact List.any_eq_true.mpr ⟨_, List.mem_map_of_mem hduplicate,
        by simp [SignalHandler.healDuplicate, href]⟩
  · have hsame : row.updateEach (duplicates.map SignalHandler.healDuplicate) now = row := by
      refine Row.updateEach_of_ne ?_ now
      intro u hu href
      obtain ⟨duplicate, hduplicate, rfl⟩ := List.mem_map.mp hu
      exact hmem (List.mem_map.mpr ⟨duplicate, hduplicate, Option.some.inj href⟩)
    simp [hsame, hmem]

/-- The row a lookup keeps is all that is left active under its strategy and symbol. -/
theorem activeByStrategy_healed {db healed : Db} {strategy symbol : String} {kept : Row}
    {duplicates : List Row} (h : db.activeByStrategy strategy symbol none = kept :: duplicates)
    (hrefs : (refsOf (kept :: duplicates)).Nodup)
    (hrows : healed.rows = db.rows.map
      (·.updateEach (duplicates.map SignalHandler.healDuplicate) db.clock)) :
    healed.activeByStrategy strategy symbol none = [kept] := by
  have hkept : kept.refSourceId ∉ refsOf duplicates := (List.nodup_cons.mp hrefs).1
  have hrest : (kept :: duplicates).filter
      (fun row => decide (row.refSourceId ∉ refsOf duplicates)) = [kept] := by
    have hnone : duplicates.filter
        (fun row => decide (row.refSourceId ∉ refsOf duplicates)) = [] :=
      List.filter_eq_nil_iff.mpr fun row hrow => by
        have hmem : row.refSourceId ∈ refsOf duplicates := List.mem_map_of_mem hrow
        simp [hmem]
    rw [List.filter_cons_of_pos (by simpa using hkept), hnone]
  unfold Db.activeByStrategy at h ⊢
  rw [hrows, List.filter_map]
  have hfilter : ∀ row : Row, ((fun r : Row => r.matchesStrategy strategy symbol none) ∘
      fun r : Row => r.updateEach (duplicates.map SignalHandler.healDuplicate) db.clock) row =
        (decide (row.refSourceId ∉ refsOf duplicates) &&
          row.matchesStrategy strategy symbol none) := fun row =>
    matchesStrategy_healed row duplicates strategy symbol db.clock
  rw [List.filter_congr fun row _ => hfilter row, ← List.filter_filter, h, hrest]
  have hsame : kept.updateEach (duplicates.map SignalHandler.healDuplicate) db.clock = kept := by
    refine Row.updateEach_of_ne ?_ _
    intro u hu href
    obtain ⟨duplicate, hduplicate, rfl⟩ := List.mem_map.mp hu
    exact hkept (List.mem_map.mpr ⟨duplicate, hduplicate, Option.some.inj href⟩)
  simp [hsame]

/-- A TP1 that has looked its row up recovers the take-profit of the row's message. -/
theorem recoverEntryTp2_run {β : Type} (B : Backend β) {w w₁ : World β} {strategy symbol : String}
    {kept : Row} (hstrategy : strategy ≠ "")
    (hrefs : (refsOf (w.db.activeByStrategy strategy symbol none)).Nodup)
    (hrun : Prog.run B.serve (SignalHandler.getDbPosition strategy symbol none) w =
      (.ok (some kept), w₁)) :
    Prog.run B.serve (CryptoExecutor.recoverEntryTp2 symbol (some strategy)) w₁ =
      (.ok (num? (kept.gatewayMessage.bind (·.tp2))), w₁) := by
  have hsole : w₁.db.activeByStrategy strategy symbol none = [kept] := by
    cases hrows : w.db.activeByStrategy strategy symbol none with
    | nil =>
        rw [getDbPosition_of_length_le_one B w _ _ _ (by simp [hrows]), hrows] at hrun
        cases hrun
    | cons first duplicates =>
        obtain ⟨db, hlookup, hdb, -⟩ := getDbPosition_of_cons B w _ _ _ hrows
        rw [hlookup] at hrun
        cases hrun
        rw [hrows] at hrefs
        exact activeByStrategy_healed hrows hrefs hdb
  have htext : text? (some strategy) = some strategy := text?_eq_some.mpr ⟨rfl, hstrategy⟩
  unfold CryptoExecutor.recoverEntryTp2
  rw [htext]
  dsimp only
  rw [Prog.run_bind_ok _ (run_getOpenPositionsByStrategy B w₁ strategy symbol none), hsole]
  cases hnum : num? (kept.gatewayMessage.bind (·.tp2)) <;> simp [hnum]

/-- What the row's readers make of its message: the events of change capture carry the ids
and levels of the entry, and a breakeven move recovers its take-profit. -/
structure Row.ReadsAs (row : Row) (entry : Signal) : Prop where
  message : row.gatewayMessage = some (.signal entry)
  event : ∀ cfg account e, buildEvent cfg account row = .ok e →
    e.signalId = entry.signalId ∧ e.sl = entry.sl ∧ e.tp1 = entry.tp1 ∧ e.tp2 = entry.tp2
  breakeven : ∀ {β : Type} (B : Backend β) (w w₁ : World β) (ex : CryptoExecutor)
    (signal : Signal), signal.strategy ≠ "" →
      (refsOf (w.db.activeByStrategy signal.strategy signal.symbol none)).Nodup →
      Prog.run B.serve (SignalHandler.getDbPosition signal.strategy signal.symbol
        (SignalHandler.uxidScope (cryptoMarket ex) signal)) w = (.ok (some row), w₁) →
      Prog.run B.serve
          (CryptoExecutor.recoverEntryTp2 signal.symbol (some signal.strategy)) w₁ =
        (.ok (num? entry.tp2), w₁)

theorem Row.readsAs_of_message {row : Row} {entry : Signal}
    (h : row.gatewayMessage = some (.signal entry)) : row.ReadsAs entry where
  message := h
  event := by
    intro cfg account e he
    unfold buildEvent at he
    split at he
    · cases he
    · cases he
      simp [h, extractSignalFields]
  breakeven := by
    intro β B w w₁ ex signal hstrategy hrefs hrun
    rw [recoverEntryTp2_run B hstrategy hrefs hrun, h]
    rfl

/-! ## The writers together -/

/-- Whether a thread handles the exits or the rest. -/
inductive WriterKind where
  | exit | other
  deriving DecidableEq

/-- The exits: TP1, TP2, SL, R_SL and FLAT signals, live or replayed. -/
inductive ExitWriter (m : Market) : Work Unit → Prop
  | live (mapping : Dict String Int) (settings : WorkerSettings) (signal : Signal)
      (hexit : signal.action.isEntry = false) :
      ExitWriter m (((m.withMagics mapping).processor settings).processMessage signal)
  | replayed (mapping : Dict String Int) (settings : WorkerSettings) (now : ℚ)
      (signal : Signal) (hexit : signal.action.isEntry = false) :
      ExitWriter m (((m.withMagics mapping).processor settings).retrySignal now signal)

/-- The rest: entries, ADMIN FLATs, and the closes nobody signalled. -/
inductive OtherWriter (m : Market) : Work Unit → Prop
  | live (mapping : Dict String Int) (settings : WorkerSettings) (signal : Signal)
      (hentry : signal.action.isEntry = true) :
      OtherWriter m (((m.withMagics mapping).processor settings).processMessage signal)
  | replayed (mapping : Dict String Int) (settings : WorkerSettings) (now : ℚ)
      (signal : Signal) (hentry : signal.action.isEntry = true) :
      OtherWriter m (((m.withMagics mapping).processor settings).retrySignal now signal)
  | adminFlat (mapping : Dict String Int) (gateway accountId : String) (admin : AdminFlat)
      (isPrivate : Bool) (raw : String) :
      OtherWriter m ((m.withMagics mapping).handleAdminFlat gateway accountId admin isPrivate raw)
  | exchangeClose {ex : CryptoExecutor} (hm : m = .crypto ex) (float : String → Except Exn ℚ)
      (msg : UserEvent) : OtherWriter m (ex.onMessage float msg)
  | terminalClose {ex : ForexExecutor} (hm : m = .forex ex)
      (events : List CloseDetector.TerminalClosedEvent) :
      OtherWriter m (handleTerminalCloses events)
  | missedClose {Pos Key Id : Type} [DecidableEq Key] [DecidableEq Id]
      (suspected : Finset String) (s : Scan Pos Key Id) :
      OtherWriter m (ReconcileJob.closeMissed m.onMissedClose suspected s)

theorem OtherWriter.keepsMessages {m : Market} {p : Work Unit} (hp : OtherWriter m p) :
    Prog.Sends keepingMessages (fun _ => True) p := by
  cases hp with
  | live mapping settings signal hentry => exact processMessage_keepsMessages _ settings hentry
  | replayed mapping settings now signal hentry =>
      exact retrySignal_keepsMessages _ settings now hentry
  | adminFlat mapping gateway accountId admin isPrivate raw =>
      cases m with
      | forex ex =>
          exact AdminDesk.handleAdminFlat_keepsMessages (forexDesk_atBroker _ gateway accountId)
            admin isPrivate raw
      | crypto ex =>
          exact AdminDesk.handleAdminFlat_keepsMessages (cryptoDesk_atBroker _ gateway accountId)
            admin isPrivate raw
  | exchangeClose hm float msg => exact onMessage_keepsMessages _ float msg
  | terminalClose hm events => exact handleTerminalCloses_keepsMessages events
  | missedClose suspected s => exact closeMissed_keepsMessages m suspected s

/-- Any number of threads of either kind, each starting anew when it is done. -/
def messageWriters (m : Market) :
    Pool.System (WriterKind × ℕ) WorkerOp WorkerOp.Ans Exn Unit Db where
  answers _ := Db.Answers
  starts i p db db' := db' = db ∧
    match i.1 with
    | .exit => ExitWriter m p
    | .other => OtherWriter m p
  drift db db' := db'.rows = db.rows
  crash db db' := db' = db

/-- The same, where no exit is booked on a row under the reference. -/
def unbooked (m : Market) (ref : String) :
    Pool.System (WriterKind × ℕ) WorkerOp WorkerOp.Ans Exn Unit Db :=
  (messageWriters m).restrict (fun i o _ _ => i.1 = .exit → ¬ o.Books ref) fun _ _ => True

def allIdle (db : Db) : Pool.Config (WriterKind × ℕ) WorkerOp WorkerOp.Ans Exn Unit Db where
  state := db
  thread _ := pure ()

/-- The threads that are no exits write no message. -/
theorem others_keepMessages {m : Market} {db : Db}
    {x : Pool.Config (WriterKind × ℕ) WorkerOp WorkerOp.Ans Exn Unit Db}
    (hx : Pool.Reach (messageWriters m) (pure ()) (allIdle db) x) (n : ℕ) :
    Prog.Sends keepingMessages (fun _ => True) (x.thread (.other, n)) := by
  refine hx.sends (I := fun i => i.1 = .other) ?_ (fun _ _ _ _ _ _ => trivial) (by simp)
    (fun i _ => by simp [allIdle]) (.other, n) rfl
  rintro ⟨kind, n⟩ p db db' rfl ⟨-, hp⟩
  exact OtherWriter.keepsMessages hp

theorem reach_of_unbooked {m : Market} {ref : String}
    {x y : Pool.Config (WriterKind × ℕ) WorkerOp WorkerOp.Ans Exn Unit Db}
    (h : Pool.Step (unbooked m ref) (pure ()) x y) :
    Pool.Step (messageWriters m) (pure ()) x y := by
  cases h with
  | start done h => exact .start done h
  | call at_call h => exact .call at_call h.2
  | drift h => exact .drift h.1
  | crash h => exact .crash h

/-- A row keeps its entry signal, and is read as such, in every run in which no exit is
booked on it. -/
theorem unbookedRun_readsAsEntry (m : Market) (db : Db)
    {x y : Pool.Config (WriterKind × ℕ) WorkerOp WorkerOp.Ans Exn Unit Db}
    (hx : Pool.Reach (messageWriters m) (pure ()) (allIdle db) x) {i : ℕ} {row : Row}
    {entry : Signal} (hrow : x.state.rows[i]? = some row)
    (hmessage : row.gatewayMessage = some (.signal entry))
    (hy : Pool.Reach (unbooked m row.refSourceId) (pure ()) x y) :
    ∃ row', y.state.rows[i]? = some row' ∧ row'.refSourceId = row.refSourceId ∧
      row'.ReadsAs entry := by
  have hkeeps : y.state.Holds i row.refSourceId (some (.signal entry)) ∧
      Pool.Reach (messageWriters m) (pure ()) (allIdle db) y := by
    induction hy with
    | refl => exact ⟨⟨row, hrow, rfl, hmessage⟩, hx⟩
    | @tail z y _ hstep ih =>
        obtain ⟨hholds, hz⟩ := ih
        refine ⟨?_, hz.tail (reach_of_unbooked hstep)⟩
        cases hstep with
        | start done h =>
            obtain ⟨rfl, -⟩ := h
            exact hholds
        | @call i o f r db' at_call h =>
            refine Db.Answers.holds h.2 ?_ hholds
            obtain ⟨kind, n⟩ := i
            cases kind with
            | exit => exact h.1 rfl
            | other =>
                have hthread := others_keepMessages hz n
                rw [at_call] at hthread
                exact not_books_of_keepsMessages hthread.1 _
        | drift h =>
            obtain ⟨kept, hi, hkept⟩ := hholds
            have hsame : _ = z.state.rows := h.1
            exact ⟨kept, hsame ▸ hi, hkept⟩
        | crash h =>
            cases h
            exact hholds
  obtain ⟨⟨row', hi, href, hsignal⟩, -⟩ := hkeeps
  exact ⟨row', hi, href, Row.readsAs_of_message hsignal⟩

/-! ## A TP1 is booked on its row -/

/-- A long of `GOLD`. -/
def entryOfGold : Signal :=
  { strategy := "GOLD", timestamp := 0, action := .long, symbol := "XAUUSD"
    signalId := some "s1", sl := some 2390, tp2 := some 2450 }

def tp1OfGold : Signal :=
  { strategy := "GOLD", timestamp := 0, action := .tp1, symbol := "XAUUSD"
    signalId := some "s2", tp1Percent := some 50 }

def entryRowOfGold : Row := { goldRow 1 "101" "" with gatewayMessage := some (.signal entryOfGold) }

theorem entryRowOfGold_oneActive : OneActive [entryRowOfGold] := List.pairwise_singleton _ _

def entryTracked : Db where
  rows := [entryRowOfGold]
  oneActive := entryRowOfGold_oneActive

/-- An account that holds the position and fills every close. -/
def fillingAccount : Prog.Server WorkerOp WorkerOp.Ans Exn Db
  | .db o, db => Db.serve o db
  | .fx (.resolveSymbol symbol), db => (.ok symbol, db)
  | .fx (.getSymbolSpec _), db => (.ok none, db)
  | .fx (.getPositions _), db => (.ok [goldPosition 101], db)
  | .fx (.closePosition _ _ _), db => (.ok { success := true, price := some 2420 }, db)
  | .host o, db => (.ok o.quiet, db)
  | _, db => (.error (.other "not asked"), db)

theorem fillingAccount_answers (o : WorkerOp) (db : Db) :
    Db.Answers o db (fillingAccount o db).1 (fillingAccount o db).2 := by
  cases o with
  | db o => exact Or.inl ⟨rfl, rfl⟩
  | fx o => cases o <;> rfl
  | cx o => rfl
  | host o => rfl

/-- `GOLD` on that account. -/
def tp1Work : Work Unit :=
  (((Market.forex goldExecutor).withMagics (.ofPairs [("GOLD", 7)])).processor {}).processMessage
    tp1OfGold

/-- The stop of the position is hit at the terminal: the row is closed, and keeps its entry. -/
theorem stopHit_readsAsEntry : ∃ row',
    ((allIdle entryTracked).serve fillingAccount (.other, 0) 10
      (handleTerminalCloses [stopHit "101"])).state.rows[0]? = some row' ∧
    row'.refSourceId = entryRowOfGold.refSourceId ∧ row'.ReadsAs entryOfGold := by
  have hevent : OtherWriter (.forex goldExecutor) (handleTerminalCloses [stopHit "101"]) :=
    .terminalClose rfl _
  have hrun : Pool.Reach (unbooked (.forex goldExecutor) entryRowOfGold.refSourceId) (pure ())
      (allIdle entryTracked) ((allIdle entryTracked).serve fillingAccount (.other, 0) 10
        (handleTerminalCloses [stopHit "101"])) :=
    Pool.Reach.serve 10 Relation.ReflTransGen.refl trivial ⟨rfl, hevent⟩
      (Prog.admitted_of_forall (fun o db => ⟨fun h => (nomatch h), fillingAccount_answers o db⟩) ..)
  have hrow : (allIdle entryTracked).state.rows[0]? = some entryRowOfGold := rfl
  exact unbookedRun_readsAsEntry (.forex goldExecutor) entryTracked Relation.ReflTransGen.refl hrow
    rfl hrun

/-- After the TP1 the row holds the TP1, whose id the next event carries and which names no
take-profit. -/
theorem tp1_overwritesEntry :
    ∃ y : Pool.Config (WriterKind × ℕ) WorkerOp WorkerOp.Ans Exn Unit Db,
      Pool.Reach (messageWriters (.forex goldExecutor)) (pure ()) (allIdle entryTracked) y ∧
      (entryTracked.rows[0]?).map (·.gatewayMessage) = some (some (.signal entryOfGold)) ∧
      (y.state.rows[0]?).map (·.refSourceId) = some entryRowOfGold.refSourceId ∧
      (y.state.rows[0]?).map (·.gatewayMessage) = some (some (.signal tp1OfGold)) ∧
      ∀ row', y.state.rows[0]? = some row' → ¬ row'.ReadsAs entryOfGold := by
  refine ⟨(allIdle entryTracked).serve fillingAccount (.exit, 0) 40 tp1Work, ?_, rfl,
    by decide +kernel, by decide +kernel, ?_⟩
  · exact Pool.Reach.serve 40 Relation.ReflTransGen.refl trivial
      ⟨rfl, .live (.ofPairs [("GOLD", 7)]) {} tp1OfGold rfl⟩
      (Prog.admitted_of_forall (fun o db => fillingAccount_answers o db) ..)
  · intro row' hrow hreads
    have hmessage : ((((allIdle entryTracked).serve fillingAccount (.exit, 0) 40
        tp1Work).state.rows[0]?).map (·.gatewayMessage)) = some (some (.signal tp1OfGold)) := by
      decide +kernel
    rw [hrow, Option.map_some, hreads.message] at hmessage
    have hsame : entryOfGold.signalId = tp1OfGold.signalId := by simp_all
    exact absurd hsame (by decide)

end TradeWorker
