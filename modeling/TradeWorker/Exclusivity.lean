import TradeWorker.EntryPolicy
import TradeWorker.Broker

/-!
# One position for each instrument

On an exchange a symbol has many spellings and one net position. The guards compare
spellings, the broker side resolves them; the index on the rows compares spellings
too. So at most one active row stands for each resolved symbol as long as the guards
turn away every entry whose instrument is held under another key.
-/

namespace TradeWorker

/-! ## Rows of one instrument -/

/-- At most one active row for each resolved symbol. -/
def CryptoExecutor.OnePerInstrument (ex : CryptoExecutor) (rows : List Row) : Prop :=
  rows.Pairwise fun a b =>
    ¬ (a.isActive = true ∧ b.isActive = true ∧ ex.getSymbol a.symbol = ex.getSymbol b.symbol)

/-- Every active row of the entry's instrument has the entry's own key. -/
def CryptoExecutor.OwnKeyOnly (ex : CryptoExecutor) (signal : Signal) (rows : List Row) : Prop :=
  ∀ row ∈ rows, row.isActive = true →
    ex.getSymbol row.symbol = ex.getSymbol signal.symbol → row.key = signal.rowKey

theorem Row.update_symbol (r : Row) (u : StatusUpdate) (now : Int) :
    (r.update u now).symbol = r.symbol :=
  congrArg (·.2.1) (Row.update_key r u now)

theorem Row.isActive_of_update {r : Row} {u : StatusUpdate} {now : Int}
    (hu : u.status.isActive = false) (h : (r.update u now).isActive = true) :
    r.isActive = true := by
  rw [Row.isActive, Row.update_status] at h
  split at h
  · rw [hu] at h
    cases h
  · exact h

/-! ## What an entry may write -/

/-- A log row, a closed status, a closed row, or a row with the entry's key. -/
def EntryWrites (signal : Signal) : DbOp → Prop
  | .insertLog _ => True
  | .updateStatus u => u.status.isActive = false
  | .insertRow n => n.status.isActive = false ∨
      (n.strategy, n.symbol, n.signalUxid.getD "") = signal.rowKey
  | _ => False

def RejectWrites : DbOp → Prop
  | .insertLog _ => True
  | .insertRow n => n.status.isActive = false
  | _ => False

namespace CryptoExecutor

variable (ex : CryptoExecutor)

theorem OnePerInstrument.append_inactive {rows : List Row} {r : Row}
    (h : ex.OnePerInstrument rows) (hr : r.isActive = false) :
    ex.OnePerInstrument (rows ++ [r]) := by
  refine List.pairwise_append.mpr ⟨h, List.pairwise_singleton _ _, ?_⟩
  intro a _ b hb
  rw [List.mem_singleton.mp hb, hr]
  rintro ⟨-, hactive, -⟩
  cases hactive

theorem rejectWrites_keep (o : DbOp) (db : Db) (ho : RejectWrites o)
    (h : ex.OnePerInstrument db.rows) : ex.OnePerInstrument (Db.serve o db).2.rows := by
  cases o with
  | insertLog l => exact h
  | insertRow n =>
      rcases Db.serve_insertRow n db with hsame | ⟨r, hr, hrows⟩
      · rw [hsame]
        exact h
      · have hclosed : r.isActive = false := by
          rw [Row.isActive, (NewRow.toRow?_key hr).2]
          exact ho
        rw [hrows]
        exact OnePerInstrument.append_inactive ex h hclosed
  | selectActiveByStrategy s y u | selectActiveForFlat s y r | selectLogged i
  | selectPosition r | updateStatus u => exact False.elim ho

/-- The instruments while an entry is handled: apart from its own they are held once,
and its own is held under its key alone. -/
structure HeldFor (signal : Signal) (db : Db) : Prop where
  apart : db.rows.Pairwise fun a b => a.isActive = true → b.isActive = true →
    ex.getSymbol a.symbol = ex.getSymbol b.symbol →
      ex.getSymbol a.symbol = ex.getSymbol signal.symbol
  own : ex.OwnKeyOnly signal db.rows

variable {ex}

/-- The index allows one active row under the entry's key. -/
theorem HeldFor.onePerInstrument {signal : Signal} {db : Db} (h : ex.HeldFor signal db) :
    ex.OnePerInstrument db.rows := by
  refine (List.Pairwise.and_mem.mp (h.apart.and db.oneActive)).imp ?_
  rintro a b ⟨ha, hb, hapart, hindex⟩ ⟨hactive, hactive', hsame⟩
  have hown := hapart hactive hactive' hsame
  have hkey := h.own a ha hactive hown
  have hkey' := h.own b hb hactive' (hsame.symm.trans hown)
  exact hindex ⟨hactive, hactive', hkey.trans hkey'.symm⟩

theorem OnePerInstrument.heldFor {signal : Signal} {db : Db} (h : ex.OnePerInstrument db.rows)
    (hown : ex.OwnKeyOnly signal db.rows) : ex.HeldFor signal db where
  apart := h.imp fun hnot hactive hactive' hsame => absurd ⟨hactive, hactive', hsame⟩ hnot
  own := hown

theorem HeldFor.updateRows {signal : Signal} {db db' : Db} (h : ex.HeldFor signal db)
    {u : StatusUpdate} (hu : u.status.isActive = false) {now : Int}
    (hrows : db'.rows = TradeWorker.updateRows u now db.rows) : ex.HeldFor signal db' where
  apart := by
    rw [hrows]
    refine List.Pairwise.map _ (fun a b hab hactive hactive' hsame => ?_) h.apart
    rw [Row.update_symbol, Row.update_symbol] at hsame
    rw [Row.update_symbol]
    exact hab (Row.isActive_of_update hu hactive) (Row.isActive_of_update hu hactive') hsame
  own := by
    rw [hrows]
    intro row hrow hactive hsame
    obtain ⟨r, hr, rfl⟩ := mem_updateRows.mp hrow
    rw [Row.update_symbol] at hsame
    rw [Row.update_key]
    exact h.own r hr (Row.isActive_of_update hu hactive) hsame

theorem HeldFor.append {signal : Signal} {db db' : Db} (h : ex.HeldFor signal db) {r : Row}
    (hr : r.isActive = true → r.key = signal.rowKey) (hrows : db'.rows = db.rows ++ [r]) :
    ex.HeldFor signal db' where
  apart := by
    rw [hrows]
    refine List.pairwise_append.mpr ⟨h.apart, List.pairwise_singleton _ _, ?_⟩
    intro a _ b hb _ hactive hsame
    rw [List.mem_singleton.mp hb] at hactive hsame
    have hsymbol : r.symbol = signal.symbol := congrArg (·.2.1) (hr hactive)
    rw [hsame, hsymbol]
  own := by
    rw [hrows]
    intro row hrow hactive hsame
    rcases List.mem_append.mp hrow with hrow | hrow
    · exact h.own row hrow hactive hsame
    · rw [List.mem_singleton.mp hrow] at hactive ⊢
      exact hr hactive

theorem entryWrites_keep {signal : Signal} (o : DbOp) (db : Db) (ho : EntryWrites signal o)
    (h : ex.HeldFor signal db) : ex.HeldFor signal (Db.serve o db).2 := by
  cases o with
  | insertLog l => exact ⟨h.apart, h.own⟩
  | updateStatus u =>
      exact h.updateRows ho (Db.serve_updateStatus_inactive ho db)
  | insertRow n =>
      rcases Db.serve_insertRow n db with hsame | ⟨r, hr, hrows⟩
      · rw [hsame]
        exact h
      · obtain ⟨hkey, hstatus⟩ := NewRow.toRow?_key hr
        refine h.append (r := r) (fun hactive => ?_) hrows
        rcases ho with hclosed | hown
        · rw [Row.isActive, hstatus, hclosed] at hactive
          cases hactive
        · exact hkey.trans hown
  | selectActiveByStrategy s y u | selectActiveForFlat s y r | selectLogged i
  | selectPosition r => exact False.elim ho

/-! ## A run of entries -/

/-- The call reduces the position the row stands for. -/
def ReducesHolding (ex : CryptoExecutor) (o : WorkerOp) (row : Row) : Prop :=
  o.reducedLeg.map (·.1) = some (ex.getSymbol row.symbol)

instance (o : WorkerOp) (row : Row) : Decidable (ex.ReducesHolding o row) :=
  inferInstanceAs (Decidable (_ = _))

/-- One entry handled: each instrument stays held once, and the cleanup closes no
position of another strategy's row. -/
structure ExclusiveHandling {β : Type} (ex : CryptoExecutor)
    (h : Processor.Handling (World (Counted β))) : Prop where
  before : ex.OnePerInstrument h.before.db.rows
  after : ex.OnePerInstrument h.after.db.rows
  spares : ∀ o ∈ beforeOpening h.calls, ∀ row ∈ h.before.db.rows, row.isActive = true →
    row.strategy ≠ h.signal.strategy → ¬ ex.ReducesHolding o row

/-- The entry is turned away by a guard, on what its read shows, unless the instrument
is held under its own key alone. -/
def GuardedHandling {β : Type} (ex : CryptoExecutor) (settings : WorkerSettings)
    (fails : Nat → Bool) (h : Processor.Handling (World (Counted β))) : Prop :=
  (cryptoProcessor ex settings).GuardsSee fails
      (h.delivery.firstRead h.signal h.before.rest.reads) h.before.db h.signal ∨
    ex.OwnKeyOnly h.signal h.before.db.rows

theorem asksQuote (ex : CryptoExecutor) (settings : WorkerSettings) :
    (cryptoProcessor ex settings).AsksQuote := by
  intro signal
  refine Prog.Sends.tryCatch ?_ fun _ => by simp
  exact Prog.Sends.bind (Prog.sends_perform rfl fun _ _ => trivial) fun _ _ => by simp

theorem not_reduces_of_not_acts {o : WorkerOp} (h : o.acts = false) (row : Row) :
    ¬ ex.ReducesHolding o row := by
  intro hreduces
  obtain ⟨leg, hleg, -⟩ := Option.map_eq_some_iff.mp hreduces
  rw [WorkerOp.acts_of_reducedLeg hleg] at h
  cases h

/-- An entry that reaches the handler reduces its own instrument alone, and writes rows
under its own key. -/
theorem executeSignal_reduces (ex : CryptoExecutor) (settings : WorkerSettings) {signal : Signal}
    (hentry : signal.action.isEntry = true) :
    Prog.Sends (reducing (ex.getSymbol signal.symbol) (EntryWrites signal)) (fun _ => True)
      ((cryptoProcessor ex settings).executeSignal signal) := by
  have hclears : ∀ u : StatusUpdate, u.status = .forcedClosed →
      EntryWrites signal (.updateStatus u) := by
    intro u hu
    rw [EntryWrites, hu]
    rfl
  refine Prog.Sends.bind (SignalHandler.handle_reduces ex hclears hentry) fun result _ => ?_
  refine Prog.Sends.relax (Processor.recordResult_meek (W := EntryWrites signal) _ hentry
    (fun _ => trivial) ?_ _) ?_ fun _ _ _ => trivial
  · intro n hstrategy hsymbol huxid
    exact Or.inr (by rw [hstrategy, hsymbol, huxid]; rfl)
  · rintro o ⟨hacts, hwrites⟩
    refine ⟨?_, hwrites⟩
    unfold Reduces
    split
    · cases hacts
    · cases hacts
    · trivial

/-- One guarded entry keeps the instruments exclusive. -/
theorem handleOne_exclusive {β : Type} (B : Backend β) (fails : Nat → Bool)
    (settings : WorkerSettings) (d : Processor.Delivery) {signal : Signal}
    (hentry : signal.action.isEntry = true) {w : World (Counted β)}
    (hbefore : ex.OnePerInstrument w.db.rows)
    (hguarded : ex.GuardedHandling settings fails
      ((cryptoProcessor ex settings).handleOne (B.faulty fails) d signal w)) :
    ex.ExclusiveHandling ((cryptoProcessor ex settings).handleOne (B.faulty fails) d signal w) := by
  obtain ⟨hafter, hcalls⟩ := (cryptoProcessor ex settings).handleOne_becomes (B.faulty fails) d
    signal w
  have hbecomes := Processor.deliver_becomes B fails (ex.asksQuote settings) hentry d w
  -- it is enough to look at the delivery itself
  suffices hdeliver : ex.OnePerInstrument (Prog.run (B.faulty fails)
        ((cryptoProcessor ex settings).deliver d signal) w).2.db.rows ∧
      Prog.Obeys (B.faulty fails) (fun o => ∀ row ∈ w.db.rows, row.isActive = true →
        row.strategy ≠ signal.strategy → ¬ ex.ReducesHolding o row)
        ((cryptoProcessor ex settings).deliver d signal) w by
    refine ⟨hbefore, hafter ▸ hdeliver.1, ?_⟩
    intro o ho
    exact hdeliver.2 o (hcalls ▸ mem_of_mem_beforeOpening ho)
  have hidle : ∀ o, Idle o → ∀ row ∈ w.db.rows, row.isActive = true →
      row.strategy ≠ signal.strategy → ¬ ex.ReducesHolding o row :=
    fun o ho row _ _ _ => not_reduces_of_not_acts ho.1 row
  cases hbecomes with
  | ends w' hdb h =>
      refine ⟨?_, h.obeys hidle (by simp)⟩
      rw [h.state, Prog.run_ret, hdb]
      exact hbefore
  | rejects w' reason hdb h =>
      have hsends := (cryptoProcessor ex settings).rejectSignal_meek (W := RejectWrites)
        (fun _ => trivial) (fun n hn => by rw [RejectWrites, hn]; rfl) signal reason
      have hkeeps := hsends.keeps (S := B.faulty fails)
        (I := fun w => ex.OnePerInstrument w.db.rows)
        (fun o w hw ho => ⟨trivial, faulty_keeps (I := fun db => ex.OnePerInstrument db.rows)
          (fun o db => ex.rejectWrites_keep o db) o w hw ho.2⟩) (hdb ▸ hbefore)
      refine ⟨h.state ▸ hkeeps, h.obeys hidle ?_⟩
      intro o ho row _ _ _
      exact not_reduces_of_not_acts (hsends.calls (fun _ _ => trivial) w' o ho).1 row
  | executes w' hdb hreads hsee h =>
      have hown : ex.OwnKeyOnly signal w.db.rows := hguarded.resolve_left hsee
      have hsends := ex.executeSignal_reduces settings hentry
      have hkeeps := hsends.keeps (S := B.faulty fails) (I := fun w => ex.HeldFor signal w.db)
        (fun o w hw ho => ⟨trivial, faulty_keeps (I := fun db => ex.HeldFor signal db)
          (fun o db => entryWrites_keep o db) o w hw ho.2⟩) (hdb ▸ hbefore.heldFor hown)
      refine ⟨h.state ▸ hkeeps.onePerInstrument, h.obeys hidle ?_⟩
      intro o ho row hrow hactive hstrategy hreduces
      have hsymbol := (hsends.calls (fun _ _ => trivial) w' o ho).1
      refine hstrategy (congrArg (·.1) (hown row hrow hactive ?_))
      obtain ⟨leg, hleg, hrowSymbol⟩ := Option.map_eq_some_iff.mp hreduces
      exact hrowSymbol.symm.trans (hsymbol.symbol_eq hleg)

/-- In every run of guarded entries, live or replayed and whatever the exchange and the
store's reads do, each instrument is held by one active row at most, and no cleanup
closes the position of another strategy's row. -/
theorem entries_exclusive {β : Type} (B : Backend β) (fails : Nat → Bool)
    (settings : WorkerSettings) (ex : CryptoExecutor)
    (signals : List (Processor.Delivery × Signal))
    (hentries : ∀ x ∈ signals, x.2.action.isEntry = true) (w : World (Counted β))
    (hstart : ex.OnePerInstrument w.db.rows)
    (hguarded : ∀ h ∈ (cryptoProcessor ex settings).handleEach (B.faulty fails) signals w,
      ex.GuardedHandling settings fails h) :
    ∀ h ∈ (cryptoProcessor ex settings).handleEach (B.faulty fails) signals w,
      ex.ExclusiveHandling h := by
  refine Processor.forall_handleEach (I := fun w => ex.OnePerInstrument w.db.rows) _ ?_ hstart
    hguarded
  intro d signal w' hmem hw' hC
  have hexclusive := handleOne_exclusive B fails settings d (hentries _ hmem) hw' hC
  exact ⟨hexclusive, hexclusive.after⟩

end CryptoExecutor

/-! ## Two spellings of one symbol -/

/-- An exchange with one net position for each symbol, where every order is filled. -/
def netExchange : Backend (List ExchangePosition) where
  fx _ ps := (.error (.other "no platform"), ps)
  cx
    | .getPositions symbol, ps => (.ok (ps.filter fun p => symbol.all (p.symbol = ·)), ps)
    | .placeMarketOrder symbol side quantity reduceOnly orderId, ps =>
        (.ok { success := true, ticket := some orderId, price := some 60000
               volume := some quantity },
          if reduceOnly then ps.filter (·.symbol ≠ symbol)
          else ps ++ [⟨symbol, side, quantity, 60000, ps.length⟩])
    | .getSymbolFilter _, ps => (.ok {}, ps)
    | .getMarkPrice _, ps => (.ok 60000, ps)
    | .cancelAllOrders _, ps => (.ok (), ps)
    | _, ps => (.error (.gateway "not asked"), ps)
  host o ps := (.ok (HostOp.quiet o), ps)

/-- An executor that trades the quantities it is sent. -/
def netExecutor : CryptoExecutor where
  config := { volumeDecisionEnabled := false }

def longOf (strategy symbol : String) : Signal :=
  { strategy, symbol, action := .long, timestamp := 0, quantity := some 1 }

/-- Nothing held, nothing stored. -/
def flatNet : World (Counted (List ExchangePosition)) where
  db := .empty
  rest := { rest := [] }

/-- Longs handled one after the other, with every read answered. -/
def longs (signals : List Signal) :
    List (Processor.Handling (World (Counted (List ExchangePosition)))) :=
  (cryptoProcessor netExecutor {}).handleEach (netExchange.faulty fun _ => false)
    (signals.map fun signal => (.live, signal)) flatNet

/-- Spelled alike, the second entry is turned away. -/
theorem longs_exclusive :
    (longs [longOf "A" "BTCUSDT", longOf "B" "BTCUSDT"]).length = 2 ∧
      ∀ h ∈ longs [longOf "A" "BTCUSDT", longOf "B" "BTCUSDT"],
        netExecutor.ExclusiveHandling h := by
  refine ⟨rfl, CryptoExecutor.entries_exclusive netExchange (fun _ => false) {} netExecutor _
    (by decide) flatNet List.Pairwise.nil ?_⟩
  intro h hh
  rcases List.mem_cons.mp hh with rfl | hh
  · refine Or.inr ?_
    intro row hrow
    cases hrow
  · rw [List.mem_singleton.mp hh]
    exact Or.inl (Or.inl (by decide +kernel))

/-- Spelled apart, the second entry closes the first one's position, and both rows stay
active. -/
theorem aliasedLongs_notExclusive :
    ∃ h ∈ longs [longOf "A" "BTCUSDT", longOf "B" "BTCUSD"],
      ¬ netExecutor.OnePerInstrument h.after.db.rows ∧
        ∃ o ∈ beforeOpening h.calls, ∃ row ∈ h.before.db.rows, row.isActive = true ∧
          row.strategy ≠ h.signal.strategy ∧ netExecutor.ReducesHolding o row := by
  unfold CryptoExecutor.OnePerInstrument
  decide +kernel

end TradeWorker
