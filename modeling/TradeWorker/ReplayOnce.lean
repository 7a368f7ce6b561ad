import TradeWorker.Aside
import TradeWorker.Handshake
import TradeWorker.Permit

/-!
# At most once for each signal id

A signal comes to the handler live, on the listener's thread, or in the replay of an ACK,
on the thread of a handshake or a reconnect. Only the replay asks whether the id was
logged, and it asks before the handler runs, while the log is written after. So an id is
handed on once where no live signal comes late, and no two attempts at an id overlap.
-/

namespace TradeWorker

/-! ## What hands a signal on -/

/-- Every call but the one that hands a signal to the handler. -/
def WorkerOp.keepsBack : WorkerOp → Bool
  | .host (.handling _) => false
  | _ => true

def keepingBack : Prog.Contract WorkerOp WorkerOp.Ans Exn where
  guard o := o.keepsBack = true
  answers _ _ := True

section KeepsBack

theorem keepingBack_sql (o : DbOp) : Prog.Sends keepingBack (fun _ => True) (sql o) :=
  Prog.sends_perform rfl fun _ _ => trivial

theorem keepingBack_host {o : HostOp} (ho : WorkerOp.keepsBack (.host o) = true) :
    Prog.Sends keepingBack (fun _ => True) (host o) :=
  Prog.sends_perform ho fun _ _ => trivial

theorem keepingBack_of_aside {α : Type} {Q : α → Prop} {p : Work α}
    (hp : Prog.Sends aside Q p) : Prog.Sends keepingBack Q p := by
  refine hp.relax (fun o ho => ?_) fun _ _ _ => trivial
  cases o with
  | db | fx | cx => rfl
  | host o =>
      cases o with
      | handling => cases ho
      | signalsBlocked | ensureConnected | now | uuidHex | currentFooter | notify
      | notifyChannel | recordCycle => rfl

theorem keepingBack_of_brokering {α : Type} {Q : α → Prop} {p : Work α}
    (hp : Prog.Sends brokering Q p) : Prog.Sends keepingBack Q p := by
  refine hp.relax (fun o ho => ?_) fun _ _ _ => trivial
  cases o with
  | db | fx | cx => rfl
  | host o =>
      cases o with
      | handling => cases ho
      | signalsBlocked | ensureConnected | now | uuidHex | currentFooter | notify
      | notifyChannel | recordCycle => rfl

theorem keepingBack_swallow {α : Type} {p : Work α} (a : α)
    (hp : Prog.Sends keepingBack (fun _ => True) p) :
    Prog.Sends keepingBack (fun _ => True) (Prog.tryCatch p fun _ => pure a) :=
  Prog.Sends.tryCatch hp fun _ => by simp

theorem updateEach_keepsBack (us : List StatusUpdate) :
    Prog.Sends keepingBack (fun _ => True) (updateEach us) := by
  induction us with
  | nil => simp [updateEach]
  | cons u us ih => exact Prog.Sends.bind (keepingBack_sql _) fun _ _ => ih

namespace SignalHandler

variable (m : Market)

theorem getDbPosition_keepsBack (strategy symbol : String) (uxid : Option String) :
    Prog.Sends keepingBack (fun _ => True) (getDbPosition strategy symbol uxid) := by
  refine Prog.Sends.bind (keepingBack_swallow _ (keepingBack_sql _)) fun rows _ => ?_
  cases rows with
  | nil => simp
  | cons kept duplicates => exact Prog.Sends.bind (updateEach_keepsBack _) fun _ _ => by simp

theorem handleEntry_keepsBack (signal : Signal) :
    Prog.Sends keepingBack (fun _ => True) (handleEntry m.strategy signal) := by
  refine (handleEntry_enters m signal).relax (fun o ho => ?_) fun _ _ _ => trivial
  cases o with
  | db | fx | cx => rfl
  | host o =>
      cases o with
      | handling => cases ho
      | signalsBlocked | ensureConnected | now | uuidHex | currentFooter | notify
      | notifyChannel | recordCycle => rfl

theorem executeExit_keepsBack {signal : Signal}
    {strategyFn : Signal → Option String → Work TradeResult} (c₁ c₂ : String)
    (hfn : ∀ ticket, Prog.Sends brokering (fun _ => True) (strategyFn signal ticket)) :
    Prog.Sends keepingBack (fun _ => True)
      (executeExit m.strategy signal strategyFn c₁ c₂) := by
  refine Prog.Sends.bind (getDbPosition_keepsBack ..) fun row? _ => ?_
  cases row? with
  | none => simp
  | some row =>
      refine Prog.Sends.bind (keepingBack_of_brokering (Q := fun _ => True) ?_) fun live _ => ?_
      · exact Prog.Sends.bind (m.atBroker.getOpenPositions ..) fun _ _ => by simp
      · split
        · simp
        · refine Prog.Sends.bind (keepingBack_of_brokering (hfn _)) fun result _ => ?_
          split <;> simp

theorem handleFlat_keepsBack (signal : Signal) :
    Prog.Sends keepingBack (fun _ => True) (handleFlat m.strategy signal) := by
  have hclose : ∀ ticket, Prog.Sends keepingBack (fun _ => True)
      (flatClose m.strategy signal ticket) := by
    intro ticket
    refine keepingBack_of_brokering (Prog.Sends.bind (m.atBroker.closeAllPositions ..)
      fun result _ => ?_)
    split
    · simp
    · exact m.atBroker.closeAllPositions ..
  have hsettle : ∀ owned result, Prog.Sends keepingBack (fun _ => True)
      (flatSettle m.strategy signal owned result) := by
    intro owned result
    refine Prog.Sends.bind (Q := fun _ => True) ?_ fun row? _ => ?_
    · cases owned with
      | none => exact getDbPosition_keepsBack ..
      | some row => simp [flatRow]
    · cases row? with
      | none => simp
      | some row =>
          dsimp only
          split
          · simp
          · exact Prog.Sends.bind (keepingBack_sql _) fun _ _ => by simp
  refine Prog.Sends.bind (getDbPosition_keepsBack ..) fun owned _ => ?_
  split
  · simp
  · exact Prog.Sends.bind (hclose _) fun result _ => hsettle _ _

def afterHandling (signal : Signal) : Work TradeResult :=
  match signal.action with
  | .long | .short => handleEntry m.strategy signal
  | .tp1 => handleTp1 m.strategy signal
  | .tp2 | .sl | .rSl => handleFullClose m.strategy signal
  | .flat => handleFlat m.strategy signal

theorem afterHandling_keepsBack (signal : Signal) :
    Prog.Sends keepingBack (fun _ => True) (afterHandling m signal) := by
  unfold afterHandling
  split
  · exact handleEntry_keepsBack ..
  · exact handleEntry_keepsBack ..
  · exact executeExit_keepsBack m _ _ fun ticket => handleTp1_brokering m signal ticket
  · exact executeExit_keepsBack m _ _ fun ticket => m.atBroker.closeAllPositions ..
  · exact executeExit_keepsBack m _ _ fun ticket => m.atBroker.closeAllPositions ..
  · exact executeExit_keepsBack m _ _ fun ticket => m.atBroker.closeAllPositions ..
  · exact handleFlat_keepsBack ..

end SignalHandler

end KeepsBack

/-! ## The pipeline -/

section Pipeline

variable (m : Market) (settings : WorkerSettings) (signal : Signal)

theorem persistSuccess_keepsBack (result : TradeResult) : Prog.Sends keepingBack (fun _ => True)
    ((m.processor settings).persistSuccess signal result) := by
  refine Prog.Sends.bind (keepingBack_of_aside (notifyForcedClosed_aside ..)) fun _ _ => ?_
  split
  · exact Prog.Sends.bind (Q := fun _ => True) (by simp) fun magic _ => keepingBack_sql _
  · exact keepingBack_sql _

theorem recordResult_keepsBack (result : TradeResult) : Prog.Sends keepingBack (fun _ => True)
    ((m.processor settings).recordResult signal result) := by
  refine Prog.Sends.bind (keepingBack_host rfl) fun _ _ => ?_
  refine Prog.Sends.bind (keepingBack_swallow _ (keepingBack_sql _)) fun _ _ => ?_
  split
  · exact Prog.Sends.bind (persistSuccess_keepsBack ..) fun _ _ =>
      keepingBack_of_aside (notifyTrade_aside ..)
  · exact keepingBack_of_aside (notifyTrade_aside ..)

end Pipeline

/-! ## The permit -/

/-- A signal handed on acts on its id and closes it; a lookup that finds nothing grants
the id asked for. -/
def handsOn : Permit WorkerOp WorkerOp.Ans Exn String where
  acts
    | .host (.handling signal), id => text? signal.signalId = some id
    | _, _ => False
  closes
    | .host (.handling signal), id => text? signal.signalId = some id
    | _, _ => False
  grants
    | .db (.selectLogged asked), r, id => asked = id ∧ r = .ok false
    | _, _, _ => False
  answers _ _ := True
  acts_of_closes := id
  not_closes_of_grants := by
    intro o r id hgrant hclose
    cases o with
    | db | fx | cx => exact hclose
    | host o => exact hgrant

section Licensed

variable (m : Market) (settings : WorkerSettings) (signal : Signal)

theorem quiet_of_keepingBack {α : Type} {Q : α → Prop} {p : Work α}
    (hp : Prog.Sends keepingBack Q p) : Prog.Sends handsOn.quiet Q p := by
  refine hp.relax (fun o ho id hact => ?_) fun _ _ _ => trivial
  cases o with
  | db | fx | cx => exact hact
  | host o =>
      cases o with
      | handling => cases ho
      | signalsBlocked | ensureConnected | now | uuidHex | currentFooter | notify
      | notifyChannel | recordCycle => exact hact

/-- An attempt at a signal hands on that signal, once. -/
theorem executeSignal_licensed : handsOn.Licensed ((m.processor settings).executeSignal signal)
    {id | text? signal.signalId = some id} := by
  have hhandle : SignalHandler.handle m.strategy signal =
      (host (.handling signal) >>= fun _ => SignalHandler.afterHandling m signal) := rfl
  unfold Processor.executeSignal
  rw [Market.processor_market, hhandle, Prog.bind_bind]
  refine ⟨fun id hact => hact, fun r G _ => ?_⟩
  cases r with
  | error e => exact trivial
  | ok u =>
      have hrest : Prog.Sends keepingBack (fun _ => True) (do
          let result ← SignalHandler.afterHandling m signal
          (m.processor settings).recordResult signal (Processor.repairPrice signal result)) :=
        Prog.Sends.bind (SignalHandler.afterHandling_keepsBack m signal) fun result _ =>
          recordResult_keepsBack ..
      exact Permit.Licensed.of_quiet (quiet_of_keepingBack hrest) G

theorem processSignal_licensed : handsOn.Licensed ((m.processor settings).processSignal signal)
    {id | text? signal.signalId = some id} := by
  refine Permit.Licensed.after_quiet (quiet_of_keepingBack (keepingBack_host rfl))
    fun blocked _ => ?_
  split
  · exact trivial
  split
  · exact Permit.Licensed.of_quiet (quiet_of_keepingBack (Prog.Sends.bind (keepingBack_host rfl)
      fun _ _ => keepingBack_host rfl)) _
  · exact Permit.Licensed.of_quiet (quiet_of_keepingBack (Prog.Sends.bind (keepingBack_host rfl)
      fun _ _ => keepingBack_host rfl)) _
  · exact trivial
  split
  · refine Permit.Licensed.after_quiet
      (quiet_of_keepingBack (keepingBack_of_aside (entryRejection_aside m settings signal)))
      fun reason _ => ?_
    cases reason with
    | some reason =>
        exact Permit.Licensed.of_quiet (quiet_of_keepingBack
          (keepingBack_of_aside (rejectSignal_aside m settings signal reason))) _
    | none => exact executeSignal_licensed m settings signal
  · exact executeSignal_licensed m settings signal

/-- A replayed signal is handed on under the grant of its own lookup. -/
theorem retrySignal_licensed (now : ℚ) :
    handsOn.Licensed ((m.processor settings).retrySignal now signal) ∅ := by
  have hfresh : ∀ (seen : Bool) (G : Set String),
      (seen = false → {id | text? signal.signalId = some id} ⊆ G) → handsOn.Licensed
        (if seen then pure ()
        else if Processor.maxRetryTimeout < now - signal.timestamp then pure ()
        else Prog.tryCatch ((m.processor settings).processSignal signal) fun _ => pure ()) G := by
    intro seen G hG
    split
    · exact trivial
    rename_i hseen
    split
    · exact trivial
    exact ((processSignal_licensed m settings signal).grow
      (hG (Bool.eq_false_iff.mpr hseen))).swallow ()
  unfold Processor.retrySignal
  cases hid : text? signal.signalId with
  | none => exact hfresh false ∅ fun _ id hmem => by rw [hid] at hmem; cases hmem
  | some id =>
      have hne : id ≠ "" := (text?_eq_some.mp hid).2
      dsimp only
      unfold signalExists
      rw [if_neg hne]
      refine ⟨fun k hact => hact, fun r G hr => ?_⟩
      cases r with
      | error e => exact hfresh true G fun h => by cases h
      | ok seen =>
          refine hfresh seen G fun hseen k hmem => ?_
          rw [hid] at hmem
          obtain rfl := Option.some.inj hmem
          exact (hr.2 id).mpr (Or.inl ⟨rfl, congrArg Except.ok hseen⟩)

end Licensed

/-! ## The threads -/

/-- The same where a worker hears control messages too. -/
abbrev deskHandsOn : Permit DeskOp DeskOp.Ans Exn String := handsOn.inl ControlOp.Ans

theorem quiet_of_stepOnly {α : Type} {Q : α → Prop} {p : DeskWork α} {n : Nat} (hn : n ≠ 3)
    (hp : Prog.Sends (stepOnly n) Q p) : Prog.Sends deskHandsOn.quiet Q p := by
  refine hp.relax (fun o ho id hact => ?_) fun _ _ _ => trivial
  cases o with
  | inr o => exact hact
  | inl o =>
      rcases ho with hstep | hstep
      · cases hstep
      · exact hn (Option.some.inj hstep).symm

theorem retryEach_licensed (worker : ControlWorker) (now : ℚ) (signals : List Signal) :
    deskHandsOn.Licensed (worker.retryEach now signals) ∅ := by
  induction signals with
  | nil => exact trivial
  | cons signal rest ih =>
      refine Permit.Licensed.after_quiet (quiet_of_stepOnly (n := 0) (by omega)
        (control_stepOnly (Or.inl rfl))) fun live _ => ?_
      exact Permit.Licensed.bind (retrySignal_licensed ..).embed fun _ => ih

theorem replay_licensed (worker : ControlWorker) (signals : List Signal) :
    deskHandsOn.Licensed (worker.replay signals) ∅ := by
  unfold ControlWorker.replay
  split
  · exact trivial
  · refine Permit.Licensed.after_quiet (quiet_of_stepOnly (n := 0) (by omega)
      (control_stepOnly (Or.inl rfl))) fun live _ => ?_
    split
    · exact trivial
    · refine Permit.Licensed.bind (Permit.Licensed.of_quiet (quiet_of_keepingBack
        (keepingBack_host (o := .now) rfl)) ∅).embed fun now => retryEach_licensed ..

theorem applyWorkerConnectedAck_licensed (worker : ControlWorker) (V : Validators)
    (data : Dict String Json) :
    deskHandsOn.Licensed (worker.applyWorkerConnectedAck V data) ∅ := by
  unfold ControlWorker.applyWorkerConnectedAck
  split
  · exact trivial
  rename_i ack _
  unfold ControlWorker.applySections
  split
  swap
  · exact trivial
  refine Permit.Licensed.after_quiet (Q := fun _ => True)
    (quiet_of_stepOnly (n := 0) (by omega) ?_) fun _ _ => ?_
  · cases ack.settings with
    | none => simp
    | some settings => exact applyWorkerSettings_stepOnly settings
  refine Permit.Licensed.after_quiet (Q := fun _ => True)
    (quiet_of_stepOnly (n := 1) (by omega) ?_) fun _ _ => ?_
  · cases ack.strategyMagicMap with
    | none => simp
    | some pushed => exact applyStrategyMagicMap_stepOnly worker pushed
  refine Permit.Licensed.after_quiet
    (quiet_of_stepOnly (by omega) (applyMarketInit_stepOnly worker _)) fun _ _ => ?_
  exact replay_licensed worker _

/-- The listener, and a thread for the handshake and for each reconnect. -/
inductive SignalThread where
  | listener
  | announcer (n : Nat)
  deriving DecidableEq

/-- The store, and the ids handed to the handler so far. -/
structure HandedOn where
  db : Db
  handled : List String := []

/-- The store answers as it does, a read of it may fail, and the rest may answer anything. -/
def HandedOn.Answers : (o : DeskOp) → HandedOn → Except Exn (DeskOp.Ans o) → HandedOn → Prop
  | .inl (.db o), s, r, s' =>
      (r = (s.db.serve o).1 ∧ s' = { s with db := (s.db.serve o).2 }) ∨
        (o.isRead = true ∧ (∃ e, r = .error e) ∧ s' = s)
  | .inl (.host (.handling signal)), s, _, s' =>
      s' = { s with handled := s.handled ++ (text? signal.signalId).toList }
  | _, s, _, s' => s' = s

/-- Signals come live and in replies, at any time; a crash ends every thread. -/
def receiving (worker : ControlWorker) (V : Validators) :
    Pool.System SignalThread DeskOp DeskOp.Ans Exn Unit HandedOn where
  answers _ := HandedOn.Answers
  starts
    | .listener, p, s, s' => s' = s ∧ ∃ mapping settings signal,
        p = Prog.embed (((worker.market.withMagics mapping).processor settings).processMessage
          signal)
    | .announcer _, p, s, s' => s' = s ∧ ∃ data, p = worker.applyWorkerConnectedAck V data
  drift _ _ := False
  crash s s' := s' = s

def awaiting (db : Db) : Pool.Config SignalThread DeskOp DeskOp.Ans Exn Unit HandedOn where
  state := { db }
  thread _ := pure ()

theorem HandedOn.Answers.handled {o : DeskOp} {s s' : HandedOn} {r : Except Exn (DeskOp.Ans o)}
    (h : HandedOn.Answers o s r s') :
    s'.handled = s.handled ∨ ∃ signal, o = .inl (.host (.handling signal)) ∧
      s'.handled = s.handled ++ (text? signal.signalId).toList := by
  cases o with
  | inr o =>
      cases h
      exact Or.inl rfl
  | inl o =>
      cases o with
      | fx o | cx o =>
          cases h
          exact Or.inl rfl
      | db o =>
          rcases h with ⟨-, rfl⟩ | ⟨-, -, rfl⟩
          · exact Or.inl rfl
          · exact Or.inl rfl
      | host o =>
          cases o with
          | handling signal =>
              cases h
              exact Or.inr ⟨signal, rfl, rfl⟩
          | signalsBlocked | ensureConnected | now | uuidHex | currentFooter | notify
          | notifyChannel | recordCycle =>
              cases h
              exact Or.inl rfl

def HandedOn.Closed (s : HandedOn) (id : String) : Prop := id ∈ s.handled

theorem receiving_governs (worker : ControlWorker) (V : Validators) :
    deskHandsOn.Governs (receiving worker V) HandedOn.Closed where
  start := by
    intro i p s s' h
    cases i with
    | listener =>
        obtain ⟨rfl, mapping, settings, signal, rfl⟩ := h
        refine ⟨⟨{id | text? signal.signalId = some id}, Permit.Licensed.embed ?_⟩,
          fun _ => id⟩
        refine Permit.Licensed.after_quiet (quiet_of_keepingBack (keepingBack_host rfl))
          fun connected _ => ?_
        split
        · exact processSignal_licensed ..
        · exact trivial
    | announcer n =>
        obtain ⟨rfl, data, rfl⟩ := h
        exact ⟨⟨∅, applyWorkerConnectedAck_licensed worker V data⟩, fun _ => id⟩
  call := by
    intro i o s r s' h id hclosed
    unfold HandedOn.Closed at hclosed ⊢
    rcases h.handled with hsame | ⟨signal, rfl, hhanded⟩
    · rw [hsame] at hclosed
      exact Or.inl hclosed
    · rw [hhanded, List.mem_append, Option.mem_toList] at hclosed
      exact hclosed
  drift h := h.elim
  crash h _ hclosed := by
    cases h
    exact hclosed

/-- Where every thread that is about to hand an id on began, or was granted it, while the
id was open, and no two are about to at a time, no id is handed on twice. -/
theorem carefulRun_handsOnOnce (worker : ControlWorker) (V : Validators) (db : Db)
    {y : Pool.Config SignalThread DeskOp DeskOp.Ans Exn Unit HandedOn}
    (h : deskHandsOn.CarefulRun (receiving worker V) HandedOn.Closed (pure ()) (awaiting db) y) :
    y.state.handled.Nodup := by
  have hstart : deskHandsOn.Kept HandedOn.Closed (awaiting db) :=
    ⟨fun _ => ⟨∅, trivial⟩, fun _ _ harmed => harmed.elim⟩
  induction h with
  | refl => exact List.nodup_nil
  | @tail x y hrun hstep ih =>
      have hkept := Permit.CarefulRun.kept (receiving_governs worker V) ⟨(), rfl⟩ hrun hstart
      cases hstep with
      | @start i p s' done hp armed =>
          have hsame : s' = x.state := by
            cases i with
            | listener => exact hp.1
            | announcer n => exact hp.1
          rw [hsame]
          exact ih
      | @call i o f r s' at_call hr expected granted alone =>
          rcases HandedOn.Answers.handled hr with hsame | ⟨signal, rfl, hhanded⟩
          · rw [hsame]
            exact ih
          · rw [hhanded]
            refine List.nodup_append.mpr ⟨ih, by cases text? signal.signalId <;> simp, ?_⟩
            intro id hid id' hid' hsame
            rw [Option.mem_toList] at hid'
            rw [hsame] at hid
            exact hkept.act_open at_call (k := id') hid' hid
      | drift hd => exact hd.elim
      | crash hc =>
          cases hc
          exact ih

/-! ## A signal that comes late -/

/-- A quiet exchange that holds nothing, and answers for the process around it. -/
def HandedOn.serve : Prog.Server DeskOp DeskOp.Ans Exn HandedOn
  | .inl (.db (.selectLogged id)), s =>
      if id ∈ s.handled then (.error (.sqlite "database is locked"), s)
      else (.ok (s.db.logged id), s)
  | .inl (.db o), s => ((s.db.serve o).1, { s with db := (s.db.serve o).2 })
  | .inl (.host (.handling signal)), s =>
      (.ok (), { s with handled := s.handled ++ (text? signal.signalId).toList })
  | .inl (.host .ensureConnected), s => (.ok true, s)
  | .inl (.host .signalsBlocked), s => (.ok false, s)
  | .inl (.host .now), s => (.ok 0, s)
  | .inl (.host .currentFooter), s => (.ok "", s)
  | .inl (.host (.recordCycle ..)), s => (.ok true, s)
  | .inl (.cx (.getPositions _)), s => (.ok [], s)
  | .inr .live, s => (.ok goldLive, s)
  | _, s => (.error (.other "not asked"), s)

theorem HandedOn.serve_selectLogged (id : String) (s : HandedOn) :
    HandedOn.serve (.inl (.db (.selectLogged id))) s =
      if id ∈ s.handled then (.error (.sqlite "database is locked"), s)
      else (.ok (s.db.logged id), s) := rfl

theorem HandedOn.serve_answers (o : DeskOp) (s : HandedOn) :
    HandedOn.Answers o s (HandedOn.serve o s).1 (HandedOn.serve o s).2 ∧
      deskHandsOn.answers o (HandedOn.serve o s).1 ∧
        ∀ id, deskHandsOn.grants o (HandedOn.serve o s).1 id → ¬ s.Closed id := by
  cases o with
  | inr o => cases o <;> exact ⟨rfl, trivial, fun _ => False.elim⟩
  | inl o =>
      refine ⟨?_, trivial, ?_⟩
      · cases o with
        | fx o => rfl
        | cx o => cases o <;> rfl
        | host o => cases o <;> rfl
        | db o =>
            cases o with
            | selectLogged asked =>
                rw [HandedOn.serve_selectLogged]
                split
                · exact Or.inr ⟨rfl, ⟨_, rfl⟩, rfl⟩
                · exact Or.inl ⟨rfl, rfl⟩
            | selectActiveByStrategy | selectActiveForFlat | selectPosition | insertLog | insertRow
            | updateStatus => exact Or.inl ⟨rfl, rfl⟩
      · intro id hgrant hclosed
        cases o with
        | fx | cx | host => exact hgrant
        | db o =>
            cases o with
            | selectLogged asked =>
                obtain ⟨rfl, hfresh⟩ := hgrant
                unfold HandedOn.Closed at hclosed
                rw [HandedOn.serve_selectLogged, if_pos hclosed] at hfresh
                cases hfresh
            | selectActiveByStrategy | selectActiveForFlat | selectPosition | insertLog | insertRow
            | updateStatus => exact hgrant

/-- A FLAT under id `S1`. -/
def flatOne : Signal where
  strategy := "TREND"
  timestamp := 0
  action := .flat
  symbol := "BTCUSDT"
  signalId := some "S1"

def oneSignal : Validators := { plainValidators with signal := fun _ => .ok flatOne }

def replayedFlat : Dict String Json :=
  .ofPairs [("account_id", .str "CRYPTO-BINANCE-1"), ("retry_signals", .arr [.null])]

def flatWorker : ControlWorker where
  market := .crypto { config := {} }

/-- The replay hands the FLAT on, and logs it. -/
theorem replayedFlat_handsOnOnce :
    ∃ y : Pool.Config SignalThread DeskOp DeskOp.Ans Exn Unit HandedOn,
    deskHandsOn.CarefulRun (receiving flatWorker oneSignal) HandedOn.Closed (pure ())
        (awaiting .empty) y ∧
      y.state.handled = ["S1"] ∧ y.state.db.logs.map (·.signalId) = [some "S1"] ∧
        y.state.handled.Nodup := by
  have hstart : deskHandsOn.CarefulRun (receiving flatWorker oneSignal) HandedOn.Closed (pure ())
      (awaiting .empty) (awaiting .empty) := Relation.ReflTransGen.refl
  have hstarts : (receiving flatWorker oneSignal).starts (.announcer 0)
      (flatWorker.applyWorkerConnectedAck oneSignal replayedFlat) { db := .empty }
      { db := .empty } := ⟨rfl, replayedFlat, rfl⟩
  have hbegun := hstart.tail (Permit.Careful.start (i := .announcer 0) trivial hstarts
    fun id _ => List.not_mem_nil)
  have hack := Permit.CarefulRun.advance (i := .announcer 0) (T := HandedOn.serve) 40 hbegun
    (fun j hj => by
      simp only [Function.update_of_ne hj]
      exact trivial)
    (Prog.admitted_of_forall HandedOn.serve_answers ..)
  exact ⟨_, hack, by decide +kernel, by decide +kernel,
    carefulRun_handsOnOnce flatWorker oneSignal .empty hack⟩

/-- Its live message was still on the way: the listener hands it on again. -/
theorem lateFlat_handsOnTwice : ∃ y : Pool.Config SignalThread DeskOp DeskOp.Ans Exn Unit HandedOn,
    Pool.Reach (receiving flatWorker oneSignal) (pure ()) (awaiting .empty) y ∧
      ¬ y.state.handled.Nodup := by
  have hserve : ∀ i n, ∀ p : DeskWork Unit, ∀ s,
      Prog.Admitted ((receiving flatWorker oneSignal).answers i) HandedOn.serve n p s :=
    fun i => Prog.admitted_of_forall fun o s => (HandedOn.serve_answers o s).1
  have hstart : Pool.Reach (receiving flatWorker oneSignal) (pure ()) (awaiting .empty)
      (awaiting .empty) := Relation.ReflTransGen.refl
  have hack := (hstart.start (i := .announcer 0) trivial ⟨rfl, replayedFlat, rfl⟩).advance
    (i := .announcer 0) 40 (hserve _ _ _ _)
  have hlive := (hack.start (i := .listener) trivial
    ⟨rfl, .empty, {}, flatOne, rfl⟩).advance (i := .listener) 40 (hserve _ _ _ _)
  exact ⟨_, hlive, by decide +kernel⟩

end TradeWorker
