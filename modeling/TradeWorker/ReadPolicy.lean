import TradeWorker.Exclusivity
import TradeWorker.ReconcileJob
import TradeWorker.StrategyIsolation

/-!
# Trading policy when reads fail

A failed read of the rows is answered as if nothing were open, and every caller takes
it for that: the guards let an entry pass, the cleanup goes ahead, and the reconciler
takes a tracked position for one opened by hand. Policy holds where some guard still
sees a row to reject on, or there is none, and where the reconciler's failed reads meet
no position that looked untracked before.
-/

namespace TradeWorker

/-! ## Entries -/

/-- What the policy speaks about on a market: which row stands for which position, which
call closes which, and which positions the cleanup of an entry can close. -/
structure PolicyMarket (Pos : Type) [LivePosition Pos] where
  processor : Processor Pos
  tracks : Row → Pos → Prop
  closes : WorkerOp → Pos → Prop
  reach : Signal → Pos → Prop
  asks_quote : processor.AsksQuote
  closes_acts : ∀ {o p}, closes o p → o.acts = true
  handle_reaches : ∀ {signal : Signal}, signal.action.isEntry = true →
    Prog.Sends ⟨fun o => ∀ p, closes o p → reach signal p, fun _ _ => True⟩ (fun _ => True)
      (SignalHandler.handle processor.market signal)

namespace PolicyMarket

variable {Pos : Type} [LivePosition Pos] (M : PolicyMarket Pos)

/-- A guard of the processor or the handler turns the entry away, on what the reads from
number `n` on show. -/
def SeesReject (fails : Nat → Bool) (n : Nat) (db : Db) (signal : Signal) : Prop :=
  M.processor.GuardsSee fails n db signal ∨
    (M.processor.market.allowsMultiStrategyPerSymbol = false ∧
      ∃ row ∈ shown (fails (n + 1 + M.processor.capReads)) (Processor.onSymbol db signal),
        row.strategy ≠ signal.strategy)

/-- An active row of another strategy stands for the position. -/
def HeldByOther (db : Db) (signal : Signal) (p : Pos) : Prop :=
  ∃ row ∈ db.rows, row.isActive = true ∧ row.strategy ≠ signal.strategy ∧ M.tracks row p

variable {β : Type} (live : β → Pos → Prop)

/-- One entry handled within policy: nothing is opened that the guards reject on what
the store holds, and the cleanup closes no live position of another strategy's row. -/
structure KeepsPolicy (h : Processor.Handling (World (Counted β))) : Prop where
  opens : ∀ o ∈ h.calls, o.opens = true → ¬ M.processor.GuardsReject h.before.db h.signal
  spares : ∀ o ∈ beforeOpening h.calls, ∀ p, live h.before.rest.rest p →
    M.HeldByOther h.before.db h.signal p → ¬ M.closes o p

/-- The reads show a guard what it rejects, or there is nothing to reject and no live
position in reach belongs to another strategy's row. -/
def ReadsSuffice (fails : Nat → Bool) (h : Processor.Handling (World (Counted β))) : Prop :=
  M.SeesReject fails (h.delivery.firstRead h.signal h.before.rest.reads) h.before.db h.signal ∨
    (¬ M.processor.GuardsReject h.before.db h.signal ∧
      ∀ p, live h.before.rest.rest p → M.reach h.signal p →
        ¬ M.HeldByOther h.before.db h.signal p)

/-- The handler's own guard: another strategy's row, when the read shows one. -/
theorem handleEntry_refuses (B : Backend β) (fails : Nat → Bool) (w : World (Counted β))
    (signal : Signal)
    (hmulti : M.processor.market.allowsMultiStrategyPerSymbol = false)
    (hother : ∃ row ∈ shown (fails w.rest.reads) (Processor.onSymbol w.db signal),
      row.strategy ≠ signal.strategy) :
    Prog.Obeys (B.faulty fails) Idle
      (SignalHandler.handleEntry M.processor.market signal) w := by
  have hread := faulty_getOpenPositionsForFlat_run B fails w none (some signal.symbol) none
  have hidle := obeys_idle (meek_flat none (some signal.symbol) none) (B.faulty fails) w
  obtain ⟨row, hrow, hstrategy⟩ := hother
  unfold SignalHandler.handleEntry
  rw [Prog.obeys_bind_ok hidle hread]
  dsimp only
  have hothers : (((shown (fails w.rest.reads) (w.db.activeForFlat none (some signal.symbol)
      none)).map (·.strategy)).filter (· ≠ signal.strategy)).dedup ≠ [] := by
    refine List.ne_nil_of_mem (a := row.strategy) (List.mem_dedup.mpr ?_)
    exact List.mem_filter.mpr ⟨List.mem_map_of_mem hrow, by simpa using hstrategy⟩
  rw [if_pos ⟨hothers, by simp [hmulti]⟩]
  simp

/-- An entry the handler refuses does nothing at the broker. -/
theorem executeSignal_idles (B : Backend β) (fails : Nat → Bool) (w : World (Counted β))
    {signal : Signal} (hentry : signal.action.isEntry = true)
    (hmulti : M.processor.market.allowsMultiStrategyPerSymbol = false)
    (hother : ∃ row ∈ shown (fails w.rest.reads) (Processor.onSymbol w.db signal),
      row.strategy ≠ signal.strategy) :
    Prog.Obeys (B.faulty fails) (fun o => o.acts = false) (M.processor.executeSignal signal) w := by
  have hhandle : Prog.Obeys (B.faulty fails) (fun o => o.acts = false)
      (SignalHandler.handle M.processor.market signal) w := by
    refine Prog.obeys_bind.mpr ⟨?_, ?_⟩
    · exact fun o ho => (obeys_idle (meek_host _) (B.faulty fails) w o ho).1
    · intro _ w' hrun
      rw [faulty_host_run] at hrun
      obtain ⟨-, rfl⟩ := Prod.ext_iff.mp hrun
      have hidle := M.handleEntry_refuses B fails
        (w.move (B.host (.handling signal) w.rest.rest).2) signal hmulti hother
      have hquiet : Prog.Obeys (B.faulty fails) (fun o => o.acts = false)
          (SignalHandler.handleEntry M.processor.market signal)
          (w.move (B.host (.handling signal) w.rest.rest).2) := fun o ho => (hidle o ho).1
      cases haction : signal.action with
      | long | short => exact hquiet
      | tp1 | tp2 | sl | rSl | flat => simp [haction, SignalAction.isEntry] at hentry
  refine Prog.obeys_bind.mpr ⟨hhandle, ?_⟩
  intro result w' _ o ho
  have hmeek := M.processor.recordResult_meek (W := fun _ => True) hentry (fun _ => trivial)
    (fun _ _ _ _ => trivial) (Processor.repairPrice signal result)
  exact (hmeek.calls (fun _ _ => trivial) w' o ho).1

/-- An entry some guard sees reason to reject does nothing at the broker. -/
theorem deliver_idles (B : Backend β) (fails : Nat → Bool) (w : World (Counted β))
    (d : Processor.Delivery) {signal : Signal} (hentry : signal.action.isEntry = true)
    (hsees : M.SeesReject fails (d.firstRead signal w.rest.reads) w.db signal) :
    Prog.Obeys (B.faulty fails) (fun o => o.acts = false) (M.processor.deliver d signal) w := by
  have hidle : ∀ o, Idle o → o.acts = false := fun _ ho => ho.1
  cases Processor.deliver_becomes B fails M.asks_quote hentry d w with
  | ends w' hdb h => exact h.obeys hidle (by simp)
  | rejects w' reason hdb h =>
      refine h.obeys hidle ?_
      intro o ho
      have hmeek := M.processor.rejectSignal_meek (W := fun _ => True) (fun _ => trivial)
        (fun _ _ => trivial) signal reason
      exact (hmeek.calls (fun _ _ => trivial) w' o ho).1
  | executes w' hdb hreads hsee h =>
      obtain ⟨hmulti, hother⟩ := hsees.resolve_left hsee
      refine h.obeys hidle (M.executeSignal_idles B fails w' hentry hmulti ?_)
      rwa [hreads, hdb]

/-- Whatever the reads show, an entry closes positions in its own reach only. -/
theorem deliver_reaches (B : Backend β) (fails : Nat → Bool) (w : World (Counted β))
    (d : Processor.Delivery) {signal : Signal} (hentry : signal.action.isEntry = true) :
    Prog.Obeys (B.faulty fails) (fun o => ∀ p, M.closes o p → M.reach signal p)
      (M.processor.deliver d signal) w := by
  have hquiet : ∀ o : WorkerOp, o.acts = false → ∀ p, M.closes o p → M.reach signal p := by
    intro o ho p hp
    rw [M.closes_acts hp] at ho
    cases ho
  have hidle : ∀ o, Idle o → ∀ p, M.closes o p → M.reach signal p :=
    fun o ho => hquiet o ho.1
  cases Processor.deliver_becomes B fails M.asks_quote hentry d w with
  | ends w' hdb h => exact h.obeys hidle (by simp)
  | rejects w' reason hdb h =>
      refine h.obeys hidle ?_
      intro o ho
      have hmeek := M.processor.rejectSignal_meek (W := fun _ => True) (fun _ => trivial)
        (fun _ _ => trivial) signal reason
      exact hquiet o (hmeek.calls (fun _ _ => trivial) w' o ho).1
  | executes w' hdb hreads hsee h =>
      refine h.obeys hidle (Prog.obeys_bind.mpr ⟨?_, ?_⟩)
      · exact (M.handle_reaches hentry).calls (fun _ _ => trivial) w'
      · intro result w'' _ o ho
        have hmeek := M.processor.recordResult_meek (W := fun _ => True) hentry
          (fun _ => trivial) (fun _ _ _ _ => trivial) (Processor.repairPrice signal result)
        exact hquiet o (hmeek.calls (fun _ _ => trivial) w'' o ho).1

theorem handleOne_keepsPolicy (B : Backend β) (fails : Nat → Bool) (w : World (Counted β))
    (d : Processor.Delivery) {signal : Signal} (hentry : signal.action.isEntry = true)
    (hreads : M.ReadsSuffice live fails (M.processor.handleOne (B.faulty fails) d signal w)) :
    M.KeepsPolicy live (M.processor.handleOne (B.faulty fails) d signal w) := by
  obtain ⟨-, hcalls⟩ := M.processor.handleOne_becomes (B.faulty fails) d signal w
  rcases hreads with hsees | ⟨hallowed, hapart⟩
  · have hidle := M.deliver_idles B fails w d hentry hsees
    constructor
    · intro o ho hopens
      rw [hcalls] at ho
      have hacts : o.acts = false := hidle o ho
      rw [WorkerOp.acts_of_opens hopens] at hacts
      cases hacts
    · intro o ho p _ _ hcloses
      have hacts : o.acts = false := hidle o (hcalls ▸ mem_of_mem_beforeOpening ho)
      rw [M.closes_acts hcloses] at hacts
      cases hacts
  · constructor
    · intro _ _ _
      exact hallowed
    · intro o ho p hlive hother hcloses
      have hreach := M.deliver_reaches B fails w d hentry o
        (hcalls ▸ mem_of_mem_beforeOpening ho) p hcloses
      exact hapart p hlive hreach hother

/-- A run of entries, each of which the reads suffice for, keeps policy throughout. -/
theorem entries_keepPolicy (B : Backend β) (fails : Nat → Bool)
    {signals : List (Processor.Delivery × Signal)}
    (hentries : ∀ x ∈ signals, x.2.action.isEntry = true) (w : World (Counted β))
    (hreads : ∀ h ∈ M.processor.handleEach (B.faulty fails) signals w,
      M.ReadsSuffice live fails h) :
    ∀ h ∈ M.processor.handleEach (B.faulty fails) signals w, M.KeepsPolicy live h := by
  refine Processor.forall_handleEach (I := fun _ => True) _ ?_ trivial hreads
  intro d signal w' hmem _ hsuffice
  exact ⟨M.handleOne_keepsPolicy live B fails w' d (hentries _ hmem) hsuffice, trivial⟩

end PolicyMarket

/-! ## The two markets -/

def ClosesTicket : WorkerOp → PlatformPosition → Prop
  | .fx (.closePosition pos _ _), p => pos = p
  | _, _ => False

/-- On forex the cleanup goes by the magic number of the strategy. -/
def forexPolicy (ex : ForexExecutor) (settings : WorkerSettings) :
    PolicyMarket PlatformPosition where
  processor := forexProcessor ex settings
  tracks row p := row.refSourceId = ticketText p.ticket
  closes := ClosesTicket
  reach signal p := ex.strategyMagicMap.lookup signal.strategy = some p.magic
  asks_quote := by
    intro signal
    show Prog.Sends asking (fun _ => True) (ForexExecutor.getEntryPrice signal)
    unfold ForexExecutor.getEntryPrice
    split
    · simp
    · refine Prog.Sends.bind (Prog.sends_perform rfl fun _ _ => trivial) fun symbol _ => ?_
      exact Prog.Sends.bind (Prog.sends_perform rfl fun _ _ => trivial) fun _ _ => by simp
  closes_acts := by
    intro o p h
    unfold ClosesTicket at h
    split at h
    · rfl
    · exact False.elim h
  handle_reaches := by
    intro signal hentry
    have hentry' : Prog.Sends (touching (fun _ _ => True)
        (fun p => ex.strategyMagicMap.lookup signal.strategy = some p.magic)) (fun _ => True)
        (SignalHandler.handle (forexMarket ex) signal) := by
      refine Prog.Sends.bind (sends_host _) fun _ _ => ?_
      cases haction : signal.action with
      | long | short =>
          exact SignalHandler.handleEntry_sends fun _ _ t _ => ex.scoped_magic signal.strategy t
      | tp1 | tp2 | sl | rSl | flat => simp [haction, SignalAction.isEntry] at hentry
    refine hentry'.relax ?_ ?_
    · rintro o ⟨htouches, -⟩ p hp
      unfold ClosesTicket at hp
      split at hp
      · exact hp ▸ htouches
      · exact False.elim hp
    · intro o r _
      cases o <;> trivial

/-- On an exchange it goes by the resolved symbol. -/
def cryptoPolicy (ex : CryptoExecutor) (settings : WorkerSettings) :
    PolicyMarket ExchangePosition where
  processor := cryptoProcessor ex settings
  tracks row p := ex.getSymbol row.symbol = p.symbol
  closes o p := o.reducedLeg = some p.leg
  reach signal p := ex.getSymbol signal.symbol = p.symbol
  asks_quote := ex.asksQuote settings
  closes_acts := WorkerOp.acts_of_reducedLeg
  handle_reaches := by
    intro signal hentry
    have hreduces := SignalHandler.handle_reduces ex (W := fun _ => True)
      (fun _ _ => trivial) hentry
    refine hreduces.relax ?_ fun _ _ _ => trivial
    rintro o ⟨hsymbol, -⟩ p hp
    exact (hsymbol.symbol_eq hp).symm

/-! ## Reconcile scans -/

namespace ReconcileJob

variable {Pos Key Id : Type} [DecidableEq Key] [DecidableEq Id]

/-- A scan against what the store holds: `scan` has the rows stored, and the read of them
may fail. -/
structure StoredScan (Pos Key Id : Type) where
  scan : Scan Pos Key Id
  readFails : Bool

/-- The scan as the job makes it. -/
def StoredScan.seen (s : StoredScan Pos Key Id) : Scan Pos Key Id :=
  { s.scan with dbRows := shown s.readFails s.scan.dbRows }

/-- A stored active row tracks the position. -/
def StoredScan.Tracked (s : StoredScan Pos Key Id) (pos : Pos) : Prop :=
  ∃ row ∈ s.scan.dbRows, ∃ keys, s.scan.trackedKeys row = .ok keys ∧
    ¬ Disjoint (s.scan.liveKeys pos) keys

/-- The id was listed as untracked by the last import pass made. -/
def LookedUntracked (manual : Bool) (earlier : List (Scan Pos Key Id)) (id : Id) : Prop :=
  ∃ before previous skipped, earlier = before ++ previous :: skipped ∧
    (∀ s ∈ skipped, ∀ live tracked, ¬ ImportPass manual s live tracked) ∧
    ∃ pos, Untracked manual previous pos ∧ previous.liveId pos = id

/-- No tracked position is handed to the manual handler, at any scan of the run. -/
def ImportsOnlyUntracked (manual : Bool) (scans : List (StoredScan Pos Key Id)) : Prop :=
  ∀ earlier cur later, scans = earlier ++ cur :: later →
    ∀ c ∈ (scan manual (runScans manual initial (earlier.map (·.seen))) cur.seen).imports,
      ¬ cur.Tracked c.1

/-- A scan whose read fails meets no tracked position that looked untracked at the import
pass before. -/
def FailuresApart (manual : Bool) (scans : List (StoredScan Pos Key Id)) : Prop :=
  ∀ earlier cur later, scans = earlier ++ cur :: later → cur.readFails = true →
    ∀ live, livePositions cur.scan = some live → ∀ pos ∈ live, cur.Tracked pos →
      ¬ LookedUntracked manual (earlier.map (·.seen)) (cur.scan.liveId pos)

omit [DecidableEq Id] in
theorem mem_trackedSet {trackedKeys : Row → Except Exn (Finset Key)} {rows : List Row}
    {tracked keys : Finset Key} (h : trackedSet trackedKeys rows = .ok tracked) {row : Row}
    (hrow : row ∈ rows) (hkeys : trackedKeys row = .ok keys) : keys ⊆ tracked := by
  induction rows generalizing tracked with
  | nil => cases hrow
  | cons r rest ih =>
      unfold trackedSet at h
      cases hr : trackedKeys r with
      | error e => simp [hr, bind, Except.bind] at h
      | ok rkeys =>
          cases hothers : trackedSet trackedKeys rest with
          | error e => simp [hr, hothers, bind, Except.bind] at h
          | ok others =>
              simp only [hr, hothers, bind, Except.bind, pure, Except.pure,
                Except.ok.injEq] at h
              subst h
              rcases List.mem_cons.mp hrow with rfl | hrow
              · cases hr.symm.trans hkeys
                exact Finset.subset_union_left
              · exact (ih hothers hrow).trans Finset.subset_union_right

omit [DecidableEq Id] in
/-- An answered read shows every tracked position as tracked. -/
theorem not_tracked_of_untracked {manual : Bool} {s : StoredScan Pos Key Id} {pos : Pos}
    (h : Untracked manual s.seen pos) (hread : s.readFails = false) : ¬ s.Tracked pos := by
  obtain ⟨live, tracked, ⟨-, -, htracked⟩, -, hdisjoint⟩ := h
  rintro ⟨row, hrow, keys, hkeys, hmeets⟩
  have hrow' : row ∈ s.seen.dbRows := by
    simpa [StoredScan.seen, hread] using hrow
  exact hmeets (hdisjoint.mono_right (mem_trackedSet htracked hrow' hkeys))

/-- Failed reads that meet no such position import nothing that is tracked. -/
theorem importsOnlyUntracked_of_apart {manual : Bool} {scans : List (StoredScan Pos Key Id)}
    (h : FailuresApart manual scans) : ImportsOnlyUntracked manual scans := by
  intro earlier cur later hscans c hc htracked
  obtain ⟨huntracked, hlooked⟩ := imports_twice_untracked hc
  cases hread : cur.readFails with
  | false => exact not_tracked_of_untracked huntracked hread htracked
  | true =>
      have ⟨live, _, ⟨_, hlive, _⟩, hmem, _⟩ := huntracked
      exact h earlier cur later hscans hread live hlive c.1 hmem htracked hlooked

end ReconcileJob

/-! ## The worker under failing reads -/

/-- Whatever reads fail: in every run of entries, each of which the reads suffice for,
nothing is opened that the guards reject on what the store holds and no cleanup closes a
live position of another strategy's row, on either market; and in every run of scans
whose failed reads meet no tracked position that looked untracked, nothing tracked is
imported. -/
theorem failedReads_keepPolicy (settings : WorkerSettings) (fails : Nat → Bool)
    (signals : List (Processor.Delivery × Signal))
    (hentries : ∀ x ∈ signals, x.2.action.isEntry = true) :
    (∀ (ex : ForexExecutor) (β : Type) (B : Backend β) (live : β → PlatformPosition → Prop)
        (w : World (Counted β)),
      (∀ h ∈ (forexProcessor ex settings).handleEach (B.faulty fails) signals w,
        (forexPolicy ex settings).ReadsSuffice live fails h) →
      ∀ h ∈ (forexProcessor ex settings).handleEach (B.faulty fails) signals w,
        (forexPolicy ex settings).KeepsPolicy live h) ∧
    (∀ (ex : CryptoExecutor) (β : Type) (B : Backend β) (live : β → ExchangePosition → Prop)
        (w : World (Counted β)),
      (∀ h ∈ (cryptoProcessor ex settings).handleEach (B.faulty fails) signals w,
        (cryptoPolicy ex settings).ReadsSuffice live fails h) →
      ∀ h ∈ (cryptoProcessor ex settings).handleEach (B.faulty fails) signals w,
        (cryptoPolicy ex settings).KeepsPolicy live h) ∧
    ∀ (Pos Key Id : Type) [DecidableEq Key] [DecidableEq Id] (manual : Bool)
      (scans : List (ReconcileJob.StoredScan Pos Key Id)),
      ReconcileJob.FailuresApart manual scans →
        ReconcileJob.ImportsOnlyUntracked manual scans := by
  refine ⟨?_, ?_, ?_⟩
  · intro ex β B live w hreads
    exact (forexPolicy ex settings).entries_keepPolicy live B fails hentries w hreads
  · intro ex β B live w hreads
    exact (cryptoPolicy ex settings).entries_keepPolicy live B fails hentries w hreads
  · intro Pos Key Id _ _ manual scans hapart
    exact ReconcileJob.importsOnlyUntracked_of_apart hapart

/-! ## A blind worker -/

instance (P : Processor ExchangePosition) (db : Db) (signal : Signal) :
    Decidable (P.GuardsReject db signal) :=
  inferInstanceAs (Decidable (_ ∨ _))

section Decide

variable (ex : CryptoExecutor) (settings : WorkerSettings)

instance (row : Row) (p : ExchangePosition) :
    Decidable ((cryptoPolicy ex settings).tracks row p) :=
  inferInstanceAs (Decidable (_ = _))

instance (db : Db) (signal : Signal) (p : ExchangePosition) :
    Decidable ((cryptoPolicy ex settings).HeldByOther db signal p) :=
  inferInstanceAs (Decidable (∃ row ∈ db.rows, _ ∧ _ ∧ _))

instance (o : WorkerOp) (p : ExchangePosition) :
    Decidable ((cryptoPolicy ex settings).closes o p) :=
  inferInstanceAs (Decidable (_ = _))

end Decide

/-- The same symbol entered by two strategies, with the scripted reads failing. -/
def rivalLongs (fails : Nat → Bool) :
    List (Processor.Handling (World (Counted (List ExchangePosition)))) :=
  (cryptoProcessor netExecutor {}).handleEach (netExchange.faulty fails)
    [(.live, longOf "A" "BTCUSDT"), (.live, longOf "B" "BTCUSDT")] flatNet

/-- A position with its row stored, at a scan that cannot read it. -/
def blindScan : ReconcileJob.StoredScan ExchangePosition String String where
  scan := ReconcileJob.cryptoScan netExecutor (.ok [⟨"BTCUSDT", .long, 1, 60000, 7⟩])
    [{ id := 1, refSourceId := "1", refId := "1", strategy := "A", symbol := "BTCUSDT"
       action := "long", volume := 1, openedPrice := 60000, status := .opened }]
    (fun _ => .ok ()) (fun _ => .ok ())
  readFails := true

/-- With the reads of the first entry failing nothing is lost: there was nothing to
read. One blind scan imports nothing yet. -/
theorem firstBlind_keepsPolicy :
    (∀ h ∈ (forexProcessor twoStrategies {}).handleEach (netExchange.faulty (· < 4))
        [(.live, longOf "A" "BTCUSDT"), (.live, longOf "B" "BTCUSDT")] flatNet,
      (forexPolicy twoStrategies {}).KeepsPolicy (fun _ _ => True) h) ∧
    (∀ h ∈ rivalLongs (· < 4), (cryptoPolicy netExecutor {}).KeepsPolicy (fun ps p => p ∈ ps) h) ∧
    ReconcileJob.ImportsOnlyUntracked true [blindScan] := by
  obtain ⟨hforex, hcrypto, hscans⟩ := failedReads_keepPolicy {} (· < 4)
    [(.live, longOf "A" "BTCUSDT"), (.live, longOf "B" "BTCUSDT")] (by decide)
  refine ⟨hforex twoStrategies _ netExchange _ flatNet ?_,
    hcrypto netExecutor _ netExchange _ flatNet ?_, hscans _ _ _ true [blindScan] ?_⟩
  · intro h hh
    have hrows : ∀ h ∈ (forexProcessor twoStrategies {}).handleEach (netExchange.faulty (· < 4))
        [(.live, longOf "A" "BTCUSDT"), (.live, longOf "B" "BTCUSDT")] flatNet,
        h.before.db.rows = [] := by decide +kernel
    refine Or.inr ⟨?_, ?_⟩
    · simp [Processor.GuardsReject, Processor.onSymbol, Processor.blockedBy, Processor.cappedBy,
        Db.activeForFlat, hrows h hh, forexPolicy, forexProcessor]
    · rintro p - - ⟨row, hrow, -⟩
      rw [hrows h hh] at hrow
      cases hrow
  · intro h hh
    rcases List.mem_cons.mp hh with rfl | hh
    · refine Or.inr ⟨by decide +kernel, ?_⟩
      rintro p - - ⟨row, hrow, -⟩
      cases hrow
    · rw [List.mem_singleton.mp hh]
      exact Or.inl (Or.inl (Or.inl (by decide +kernel)))
  · rintro earlier cur later hscan - live - pos - - ⟨before, previous, skipped, heq, -⟩
    have hlength := congrArg List.length hscan
    have hlength' := congrArg List.length heq
    simp only [List.length_append, List.length_cons, List.length_map, List.length_nil]
      at hlength hlength'
    omega

/-- With those of the second entry failing, the second strategy closes the first one's
position and opens its own; and two blind scans import a tracked position. -/
theorem secondBlind_loosensPolicy :
    (∃ h ∈ rivalLongs (4 ≤ ·), (cryptoProcessor netExecutor {}).GuardsReject h.before.db h.signal ∧
      (∃ o ∈ h.calls, o.opens = true) ∧
      ∃ o ∈ beforeOpening h.calls, ∃ p ∈ h.before.rest.rest,
        (cryptoPolicy netExecutor {}).HeldByOther h.before.db h.signal p ∧
          (cryptoPolicy netExecutor {}).closes o p) ∧
    ¬ ReconcileJob.ImportsOnlyUntracked true [blindScan, blindScan] := by
  refine ⟨by decide +kernel, fun h => ?_⟩
  have himported : (ReconcileJob.scan true (ReconcileJob.runScans true ReconcileJob.initial
      [blindScan.seen]) blindScan.seen).imports.map (·.1) =
        [⟨"BTCUSDT", .long, 1, 60000, 7⟩] := by decide +kernel
  obtain ⟨c, hc, hpos⟩ := List.mem_map.mp (himported ▸ List.mem_singleton_self _)
  refine h [blindScan] blindScan [] rfl c hc ?_
  rw [hpos]
  exact ⟨_, List.mem_cons_self, _, rfl, by decide +kernel⟩

end TradeWorker
