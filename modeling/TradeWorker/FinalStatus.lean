import TradeWorker.Aside
import TradeWorker.ClosingMarkets
import TradeWorker.CloseHandlers
import TradeWorker.FlatSafety
import TradeWorker.Handshake
import TradeWorker.Permit

/-!
# A final status stays

`update_position_status` writes any status over any other, and each of its callers reads
first and writes later. What they read is the permit: a writer updates only references
that a read of its own has given it. So a final status stays in every run in which a
reference is read while it is not final, and made final while no other writer is between
its read and its write.
-/

namespace TradeWorker

/-! ## The permit -/

def refsOf (rows : List Row) : List String := rows.map (·.refSourceId)

/-- Rows that can be told apart by their references. -/
def DistinctRefs (rows : List Row) : Prop := (refsOf rows).Nodup ∧ "" ∉ refsOf rows

/-- A status written under a reference acts on it, and closes it where it is final. A row
or a position read grants its reference. -/
def statusWrites : Permit WorkerOp WorkerOp.Ans Exn String where
  acts
    | .db (.updateStatus u), ref => u.refSourceId = some ref
    | .db (.insertRow n), ref => n.status.isTerminal = true ∧ n.refId = some ref
    | _, _ => False
  closes
    | .db (.updateStatus u), ref => u.refSourceId = some ref ∧ u.status.isTerminal = true
    | .db (.insertRow n), ref => n.status.isTerminal = true ∧ n.refId = some ref
    | _, _ => False
  grants
    | .db (.selectActiveByStrategy ..), r, ref => ∃ rows, r = .ok rows ∧ ref ∈ refsOf rows
    | .db (.selectActiveForFlat ..), r, ref => ∃ rows, r = .ok rows ∧ ref ∈ refsOf rows
    | .db (.selectPosition asked), r, ref => asked = ref ∧ ∃ row, r = .ok (some row)
    | .fx (.getPositions _), r, ref =>
        ∃ ps, r = .ok ps ∧ ref ∈ ps.map fun p => ticketText p.ticket
    | .cx (.getPositions _), r, ref =>
        ∃ ps, r = .ok ps ∧ ref ∈ ps.map fun p => ticketText p.ticket
    | _, _, _ => False
  answers
    | .db (.selectActiveByStrategy ..), r => ∀ rows, r = .ok rows → DistinctRefs rows
    | .db (.selectActiveForFlat ..), r => ∀ rows, r = .ok rows → DistinctRefs rows
    | _, _ => True
  acts_of_closes := by
    intro o ref hclose
    cases o with
    | fx | cx | host => exact hclose
    | db o =>
        cases o with
        | updateStatus u => exact hclose.1
        | insertRow n => exact hclose
        | selectActiveByStrategy | selectActiveForFlat | selectLogged | selectPosition
        | insertLog => exact hclose
  not_closes_of_grants := by
    intro o r ref hgrant hclose
    cases o with
    | fx | cx | host => exact hclose
    | db o =>
        cases o with
        | updateStatus u => exact hgrant
        | insertRow n => exact hgrant
        | selectActiveByStrategy | selectActiveForFlat | selectLogged | selectPosition
        | insertLog => exact hclose

/-- Guards, refusals and reports write no status. -/
theorem statusQuiet_of_aside {α : Type} {Q : α → Prop} {p : Work α}
    (hp : Prog.Sends aside Q p) : Prog.Sends statusWrites.quiet Q p := by
  refine hp.relax (fun o ho ref hact => ?_) fun _ _ _ => trivial
  cases o with
  | fx | cx | host => exact hact
  | db o =>
      cases o with
      | updateStatus u => cases ho
      | insertRow n =>
          have hopen : (!n.status.isTerminal) = true := ho
          rw [hact.1] at hopen
          cases hopen
      | selectActiveByStrategy | selectActiveForFlat | selectLogged | selectPosition
      | insertLog => exact hact

theorem statusQuiet_of_brokering {α : Type} {Q : α → Prop} {p : Work α}
    (hp : Prog.Sends brokering Q p) : Prog.Sends statusWrites.quiet Q p := by
  refine hp.relax (fun o ho ref hact => ?_) fun _ _ _ => trivial
  cases o with
  | fx | cx | host => exact hact
  | db o =>
      cases o with
      | insertLog | insertRow | updateStatus => cases ho
      | selectActiveByStrategy | selectActiveForFlat | selectLogged | selectPosition =>
          exact hact

theorem bestEffortPrice_aside_fx (symbol : String) :
    Prog.Sends aside (fun _ => True) (ForexExecutor.bestEffortPrice symbol) :=
  aside_swallow _ (Prog.Sends.bind (aside_fx rfl) fun _ _ =>
    Prog.Sends.bind (aside_fx rfl) fun _ _ => by simp)

theorem bestEffortPrice_aside_cx (resolved : String) :
    Prog.Sends aside (fun _ => True) (CryptoExecutor.bestEffortPrice resolved) :=
  aside_swallow _ (Prog.Sends.bind (aside_cx rfl) fun _ _ => by simp)

theorem reconciledPnl_aside (positionTicket : String) :
    Prog.Sends aside (fun _ => True) (ForexExecutor.reconciledPnl positionTicket) := by
  unfold ForexExecutor.reconciledPnl
  split
  · simp
  · exact aside_swallow _ (aside_fx rfl)

/-! ## Reads -/

/-- What a read of rows leaves: nothing lost, and its rows' references granted. -/
def RowsGranted (G : Set String) (r : Except Exn (List Row)) (G' : Set String) : Prop :=
  G ⊆ G' ∧ ∀ rows, r = .ok rows → DistinctRefs rows ∧ ∀ ref ∈ refsOf rows, ref ∈ G'

theorem rowsGranted_nil (G : Set String) : RowsGranted G (.ok []) G := by
  refine ⟨Set.Subset.rfl, ?_⟩
  rintro rows ⟨⟩
  exact ⟨⟨List.nodup_nil, List.not_mem_nil⟩, fun ref hmem => nomatch hmem⟩

/-- A read that answers no rows where it fails: its rows are granted, if `statusWrites` has
them so and nothing else. -/
theorem grants_of_read {read : Work (List Row)} {G : Set String}
    (hread : Prog.wp statusWrites.env
      (fun r G' => (∀ rows, r = .ok rows → DistinctRefs rows) ∧
        ∀ ref, ref ∈ G' ↔ (∃ rows, r = .ok rows ∧ ref ∈ refsOf rows) ∨ ref ∈ G) read G) :
    Prog.wp statusWrites.env (RowsGranted G) (Prog.tryCatch read fun _ => pure []) G := by
  refine Prog.wp_tryCatch.mpr (Prog.wp_mono hread ?_)
  rintro r G' ⟨hdistinct, hG'⟩
  have hgrow : G ⊆ G' := fun ref hmem => (hG' ref).mpr (Or.inr hmem)
  cases r with
  | error e => exact ⟨hgrow, (rowsGranted_nil G').2⟩
  | ok rows =>
      refine ⟨hgrow, ?_⟩
      rintro _ ⟨⟩
      exact ⟨hdistinct rows rfl, fun ref hmem => (hG' ref).mpr (Or.inl ⟨rows, rfl, hmem⟩)⟩

theorem getOpenPositionsByStrategy_grants (strategy symbol : String) (uxid : Option String)
    (G : Set String) : Prog.wp statusWrites.env (RowsGranted G)
      (getOpenPositionsByStrategy strategy symbol uxid) G := by
  refine grants_of_read (Prog.wp_perform.mpr ⟨fun ref hact => hact.elim, ?_⟩)
  rintro r G' ⟨hdistinct, hG'⟩
  exact ⟨hdistinct, fun ref => (hG' ref).trans (or_congr_right (and_iff_left id))⟩

theorem getOpenPositionsForFlat_grants (strategy symbol refId : Option String)
    (G : Set String) : Prog.wp statusWrites.env (RowsGranted G)
      (getOpenPositionsForFlat strategy symbol refId) G := by
  refine grants_of_read (Prog.wp_perform.mpr ⟨fun ref hact => hact.elim, ?_⟩)
  rintro r G' ⟨hdistinct, hG'⟩
  exact ⟨hdistinct, fun ref => (hG' ref).trans (or_congr_right (and_iff_left id))⟩

/-! ## Loops of updates -/

theorem updatePositionStatus_spends (u : StatusUpdate) {S : Set String}
    (hS : ∀ ref, u.refSourceId = some ref → ref ∈ S) :
    statusWrites.Spends S (updatePositionStatus u) :=
  Permit.spends_perform hS

/-- A loop over rows whose body spends the row's reference. -/
theorem spends_rows (loop : List Row → Work Unit) (body : Row → Work Unit)
    (hnil : loop [] = pure ()) (hcons : ∀ row rest, loop (row :: rest) =
      (body row >>= fun _ => loop rest))
    (hbody : ∀ row, statusWrites.Spends {row.refSourceId} (body row)) {rows : List Row}
    (hrows : (refsOf rows).Nodup) : statusWrites.Spends {ref | ref ∈ refsOf rows} (loop rows) := by
  induction rows with
  | nil =>
      rw [hnil]
      exact Permit.Spends.of_quiet (Q := fun _ => True) (by simp)
  | cons row rest ih =>
      obtain ⟨hnew, hrest⟩ := List.nodup_cons.mp hrows
      have hboth := (hbody row).bind (fun _ => ih hrest) fun ref hmem => by
        rw [Set.mem_singleton_iff.mp hmem]
        exact hnew
      have hall : {ref | ref ∈ refsOf (row :: rest)} =
          {row.refSourceId} ∪ {ref | ref ∈ refsOf rest} := by
        ext ref
        exact List.mem_cons
      rw [hcons, hall]
      exact hboth

/-- Updates of rows, each under the row's own reference. -/
theorem updateEach_spends {update : Row → StatusUpdate}
    (hupdate : ∀ row, (update row).refSourceId = some row.refSourceId) {rows : List Row}
    (hrows : (refsOf rows).Nodup) :
    statusWrites.Spends {ref | ref ∈ refsOf rows} (updateEach (rows.map update)) :=
  spends_rows (fun rows => updateEach (rows.map update))
    (fun row => updatePositionStatus (update row)) rfl (fun _ _ => rfl)
    (fun row => updatePositionStatus_spends _ fun ref href => by
      rw [hupdate row] at href
      exact (Option.some.inj href).symm) hrows

/-! ## The handler -/

/-- A reference that may be updated: granted, and none that falls back to the ticket. -/
def RowGranted (G : Set String) (row : Row) : Prop :=
  row.refSourceId ∈ G ∧ row.refSourceId ≠ ""

/-- A successful result that names a reference names a granted one. -/
def ResultGranted (G : Set String) (result : TradeResult) : Prop :=
  result.success = true → ∀ ref, Processor.resultTicket result = some ref → ref ∈ G

theorem ResultGranted.of_failure {G : Set String} {result : TradeResult}
    (hfail : result.success = false) : ResultGranted G result := by
  intro hok
  rw [hfail] at hok
  cases hok

theorem RowGranted.result {G : Set String} {row : Row} (hrow : RowGranted G row)
    (result : TradeResult) :
    ResultGranted G { result with sourceTicket := some row.refSourceId } := by
  intro _ ref href
  have hticket : text? (some row.refSourceId) = some row.refSourceId :=
    text?_eq_some.mpr ⟨rfl, hrow.2⟩
  unfold Processor.resultTicket at href
  rw [hticket] at href
  cases href
  exact hrow.1

/-- What a read of live positions leaves: their tickets granted. -/
def TicketsGranted {Pos : Type} [LivePosition Pos] (G : Set String) (r : Except Exn (List Pos))
    (G' : Set String) : Prop :=
  G ⊆ G' ∧ ∀ ps, r = .ok ps → ∀ p ∈ ps, ticketText (LivePosition.ticket p) ∈ G'

/-- What a close leaves: it names, where it succeeds, the ticket of a position it read. -/
def CloseGranted (G : Set String) (r : Except Exn TradeResult) (G' : Set String) : Prop :=
  G ⊆ G' ∧ ∀ result, r = .ok result → ResultGranted G' result

theorem resultGranted_ticket {G : Set String} {result : TradeResult} {ticket : Nat}
    (hsource : result.success = true → result.sourceTicket = some (ticketText ticket))
    (hticket : ticketText ticket ∈ G) : ResultGranted G result := by
  intro hok ref href
  unfold Processor.resultTicket at href
  rw [hsource hok, text?_ticketText] at href
  cases href
  exact hticket

namespace ForexExecutor

variable (ex : ForexExecutor)

theorem getOpenPositions_grants (symbol : String) (strategy : Option String) (G : Set String) :
    Prog.wp statusWrites.env (TicketsGranted G) (ex.getOpenPositions symbol strategy) G := by
  refine Prog.wp_bind_of (Permit.wp_of_quiet
    (statusQuiet_of_aside (aside_fx (o := .resolveSymbol symbol) rfl)) G) ?_
    fun e G' hG' => ⟨hG'.1, fun ps hps => nomatch hps⟩
  rintro resolved G₁ ⟨hgrow, -⟩
  have hread : Prog.wp statusWrites.env (TicketsGranted G₁)
      (platform (.getPositions (some resolved))) G₁ := by
    refine Prog.wp_perform.mpr ⟨fun ref hact => hact.elim, ?_⟩
    rintro r G₂ ⟨-, hG₂⟩
    refine ⟨fun ref hmem => (hG₂ ref).mpr (Or.inr ⟨hmem, id⟩), ?_⟩
    rintro ps rfl p hp
    exact (hG₂ _).mpr (Or.inl ⟨ps, rfl, List.mem_map_of_mem hp⟩)
  refine Prog.wp_bind_of hread ?_ fun e G₂ hG₂ => ⟨hgrow.trans hG₂.1, fun ps hps => nomatch hps⟩
  rintro positions G₂ ⟨hgrow', hgranted⟩
  refine Prog.wp_ofExcept.mpr ⟨hgrow.trans hgrow', fun ps hps p hp => ?_⟩
  exact hgranted positions rfl p ((forex_scope_sublist ex hps).subset hp)

theorem closeAllPositions_grants (symbol reason : String) (strategy ticket : Option String)
    (G : Set String) : Prog.wp statusWrites.env (CloseGranted G)
      (ex.closeAllPositions symbol reason strategy ticket) G := by
  refine Prog.wp_bind_of (ex.getOpenPositions_grants symbol strategy G) ?_
    fun e G' hG' => ⟨hG'.1, fun result hresult => nomatch hresult⟩
  rintro positions G₁ ⟨hgrow, hgranted⟩
  cases hmatching : filterByTicket positions ticket with
  | nil =>
      refine ⟨hgrow, ?_⟩
      rintro result ⟨⟩
      exact .of_failure rfl
  | cons first rest =>
      have hfirst : first ∈ positions :=
        mem_of_mem_filterByTicket (t := ticket) (hmatching ▸ List.mem_cons_self)
      have hclose : Prog.Sends brokering (fun _ => True)
          (closeEach s!"Full Close {reason}" (first :: rest)) :=
        Market.brokering_of_onPlatform (closeEach_sends fun _ _ => trivial)
      refine Prog.wp_bind_of (Permit.wp_of_quiet (statusQuiet_of_brokering hclose) G₁) ?_
        fun e G₂ hG₂ => ⟨hgrow.trans hG₂.1, fun result hresult => nomatch hresult⟩
      rintro closed G₂ ⟨hgrow', -⟩
      refine ⟨hgrow.trans hgrow', ?_⟩
      rintro result ⟨⟩
      exact resultGranted_ticket closeReport_sourceTicket
        (hgrow' (hgranted positions rfl first hfirst))

end ForexExecutor

namespace CryptoExecutor

variable (ex : CryptoExecutor)

theorem getOpenPositions_grants (symbol : String) (G : Set String) :
    Prog.wp statusWrites.env (TicketsGranted G) (ex.getOpenPositions symbol) G := by
  have hread : Prog.wp statusWrites.env (TicketsGranted G)
      (exchange (.getPositions (some (ex.getSymbol symbol)))) G := by
    refine Prog.wp_perform.mpr ⟨fun ref hact => hact.elim, ?_⟩
    rintro r G' ⟨-, hG'⟩
    refine ⟨fun ref hmem => (hG' ref).mpr (Or.inr ⟨hmem, id⟩), ?_⟩
    rintro ps rfl p hp
    exact (hG' _).mpr (Or.inl ⟨ps, rfl, List.mem_map_of_mem hp⟩)
  refine Prog.wp_bind_of hread ?_ fun e G' hG' => ⟨hG'.1, fun ps hps => nomatch hps⟩
  rintro positions G' ⟨hgrow, hgranted⟩
  refine ⟨hgrow, ?_⟩
  rintro ps ⟨⟩ p hp
  exact hgranted positions rfl p (List.mem_of_mem_filter hp)

theorem closeAllPositions_grants (symbol reason : String) (strategy : Option String)
    (closePrice : Option ℚ) (ticket : Option String) (G : Set String) :
    Prog.wp statusWrites.env (CloseGranted G)
      (ex.closeAllPositions symbol reason strategy closePrice ticket) G := by
  refine Prog.wp_bind_of (ex.getOpenPositions_grants symbol G) ?_
    fun e G' hG' => ⟨hG'.1, fun result hresult => nomatch hresult⟩
  rintro positions G₁ ⟨hgrow, hgranted⟩
  cases hmatching : filterByTicket positions ticket with
  | nil =>
      refine ⟨hgrow, ?_⟩
      rintro result ⟨⟩
      exact .of_failure rfl
  | cons first rest =>
      have hfirst : first ∈ positions :=
        mem_of_mem_filterByTicket (t := ticket) (hmatching ▸ List.mem_cons_self)
      have hclose : Prog.Sends brokering
          (fun result => result.success = true →
            result.sourceTicket = some (ticketText first.ticket)) (do
          exchange (.cancelAllOrders (ex.getSymbol symbol))
          let entryPrice ← entryPriceFromDb symbol strategy
          let closed ← closeEach (ex.getSymbol symbol) closePrice entryPrice (first :: rest)
          pure (closeReport reason first closed)) := by
        refine Market.brokering_of_onExchange (X := ex.getSymbol symbol) ?_
        refine Prog.Sends.bind (onExchange_exchange trivial) fun _ _ => ?_
        refine onExchange_after (entryPriceFromDb_consults ..) fun entryPrice _ => ?_
        exact Prog.Sends.bind (closeEach_reduces ..) fun closed _ =>
          Prog.sends_ret.mpr closeReport_sourceTicket
      refine Prog.wp_mono (Permit.wp_of_quiet (statusQuiet_of_brokering hclose) G₁)
        fun r G₂ hG₂ => ⟨hgrow.trans hG₂.1, fun result hresult => ?_⟩
      exact resultGranted_ticket (hG₂.2 result hresult)
        (hG₂.1 (hgranted positions rfl first hfirst))

end CryptoExecutor

theorem Market.closeAllPositions_grants (m : Market) (symbol reason : String)
    (strategy ticket : Option String) (G : Set String) :
    Prog.wp statusWrites.env (CloseGranted G)
      (m.strategy.closeAllPositions symbol reason strategy ticket) G := by
  cases m with
  | forex ex => exact ex.closeAllPositions_grants symbol reason strategy ticket G
  | crypto ex => exact ex.closeAllPositions_grants symbol reason strategy none ticket G

namespace SignalHandler

/-- The healed duplicates are other rows than the one kept. -/
theorem getDbPosition_grants (strategy symbol : String) (uxid : Option String)
    (G : Set String) : Prog.wp statusWrites.env (fun r G' => ∀ found, r = .ok found →
      (found = none → G ⊆ G') ∧ ∀ row, found = some row → RowGranted G' row)
      (getDbPosition strategy symbol uxid) G := by
  refine Prog.wp_bind_of (getOpenPositionsByStrategy_grants strategy symbol uxid G) ?_
    fun e G' _ found hfound => nomatch hfound
  rintro rows G' ⟨hgrow, hrows⟩
  obtain ⟨⟨hnodup, hempty⟩, hgranted⟩ := hrows rows rfl
  cases rows with
  | nil =>
      rintro found ⟨⟩
      exact ⟨fun _ => hgrow, fun row hrow => nomatch hrow⟩
  | cons kept duplicates =>
      obtain ⟨hkept, hduplicates⟩ := List.nodup_cons.mp hnodup
      have hspent := updateEach_spends (fun row => (rfl : (healDuplicate row).refSourceId = _))
        hduplicates G' fun ref hmem => hgranted ref (List.mem_cons_of_mem _ hmem)
      refine Prog.wp_bind_of hspent ?_ fun e G'' _ found hfound => nomatch hfound
      rintro _ G'' hG'' found ⟨⟩
      refine ⟨fun hnone => (nomatch hnone), ?_⟩
      rintro row ⟨⟩
      refine ⟨hG'' ⟨hgranted _ List.mem_cons_self, hkept⟩, fun hsame => hempty ?_⟩
      rw [← hsame]
      exact List.mem_cons_self

variable (m : Market)

/-- An exit that succeeds names the row it went by. -/
theorem executeExit_grants {signal : Signal}
    {strategyFn : Signal → Option String → Work TradeResult} (c₁ c₂ : String)
    (hfn : ∀ ticket, Prog.Sends brokering (fun _ => True) (strategyFn signal ticket))
    (G : Set String) : Prog.wp statusWrites.env
      (fun r G' => ∀ result, r = .ok result → ResultGranted G' result)
      (executeExit m.strategy signal strategyFn c₁ c₂) G := by
  refine Prog.wp_bind_of (getDbPosition_grants signal.strategy signal.symbol _ G) ?_
    fun e G' _ result hresult => nomatch hresult
  intro found G' hfound
  cases found with
  | none =>
      rintro result ⟨⟩
      exact .of_failure rfl
  | some row =>
      have hrow := (hfound _ rfl).2 row rfl
      have hlive : ∀ ticket, Prog.Sends brokering (fun _ => True)
          (m.strategy.getOpenPositions signal.symbol (some signal.strategy) ticket) :=
        fun ticket => Prog.Sends.bind (m.atBroker.getOpenPositions ..) fun _ _ => by simp
      refine Prog.wp_bind_of (Permit.wp_of_quiet (statusQuiet_of_brokering (hlive _)) G') ?_
        fun e G'' _ result hresult => nomatch hresult
      rintro live G'' ⟨hgrow, -⟩
      split
      · rintro result ⟨⟩
        exact .of_failure rfl
      · refine Prog.wp_bind_of (Permit.wp_of_quiet (statusQuiet_of_brokering (hfn _)) G'') ?_
          fun e H _ result hresult => nomatch hresult
        rintro closed H ⟨hgrow', -⟩
        split
        · rintro result ⟨⟩
          exact RowGranted.result ⟨hgrow' (hgrow hrow.1), hrow.2⟩ closed
        · rename_i hfail
          rintro result ⟨⟩
          exact .of_failure (Bool.eq_false_iff.mpr hfail)

theorem handleEntry_licensed (signal : Signal) (G : Set String) :
    statusWrites.Licensed (handleEntry m.strategy signal) G := by
  have hfresh : ∀ rows stale cleanup, (refsOf rows).Nodup →
      statusWrites.Spends {ref | ref ∈ refsOf rows}
        (enterFresh m.strategy signal rows stale cleanup) := by
    intro rows stale cleanup hrows
    refine (updateEach_spends (fun row => (rfl : (clearStale stale cleanup row).refSourceId = _))
      hrows).then_quiet (Q := fun _ => True) fun _ => statusQuiet_of_brokering ?_
    refine Prog.Sends.bind (m.atBroker.openPosition signal) fun result _ => ?_
    split <;> simp
  refine Prog.wp_bind_of (getOpenPositionsForFlat_grants ..) (fun holders G₁ _ => ?_)
    fun _ _ _ => trivial
  dsimp only
  split
  · exact trivial
  refine Prog.wp_bind_of (getOpenPositionsByStrategy_grants ..) ?_ fun _ _ _ => trivial
  rintro rows G₂ ⟨-, hrows⟩
  obtain ⟨⟨hnodup, -⟩, hgranted⟩ := hrows rows rfl
  refine Prog.wp_bind_of (Permit.wp_of_quiet
    (statusQuiet_of_brokering (collectStale_brokering m ..)) G₂) ?_ fun _ _ _ => trivial
  rintro stale G₃ ⟨hgrow, -⟩
  dsimp only
  split
  · exact (hfresh rows _ _ hnodup).licensed fun ref hmem => hgrow (hgranted ref hmem)
  refine Prog.wp_bind_of (Permit.wp_of_quiet
    (statusQuiet_of_brokering (forceCloseStale_brokering m ..)) G₃) ?_ fun _ _ _ => trivial
  rintro cleanup G₄ ⟨hgrow', -⟩
  split
  · exact (hfresh rows _ _ hnodup).licensed fun ref hmem => hgrow' (hgrow (hgranted ref hmem))
  · exact trivial

/-- FLAT settles on the row it owned, on the one it finds, or on what it closed. -/
theorem flatSettle_grants (signal : Signal) {owned : Option Row} {result : TradeResult}
    {G : Set String} (howned : ∀ row, owned = some row → RowGranted G row)
    (hresult : ResultGranted G result) : Prog.wp statusWrites.env
      (fun r G' => ∀ result, r = .ok result → ResultGranted G' result)
      (flatSettle m.strategy signal owned result) G := by
  have hsettle : ∀ row G', RowGranted G' row → Prog.wp statusWrites.env
      (fun r G' => ∀ result, r = .ok result → ResultGranted G' result)
      (if result.success then pure { result with sourceTicket := some row.refSourceId }
      else do
        updatePositionStatus (flatSynced signal row)
        pure result) G' := by
    intro row G' hrow
    split
    · rintro _ ⟨⟩
      exact hrow.result result
    · rename_i hfail
      have hspent := updatePositionStatus_spends (S := {row.refSourceId}) (flatSynced signal row)
        (fun ref href => (Option.some.inj href).symm) G' (by simpa using hrow.1)
      refine Prog.wp_bind_of hspent ?_ fun e G'' _ result hok => nomatch hok
      rintro _ G'' - _ ⟨⟩
      exact .of_failure (Bool.eq_false_iff.mpr hfail)
  cases owned with
  | some row => exact hsettle row G (howned row rfl)
  | none =>
      refine Prog.wp_bind_of (getDbPosition_grants ..) ?_ fun e G' _ result hok => nomatch hok
      intro found G' hfound
      cases found with
      | none =>
          rintro _ ⟨⟩ hok ref href
          exact (hfound _ rfl).1 rfl (hresult hok ref href)
      | some row => exact hsettle row G' ((hfound _ rfl).2 row rfl)

theorem handleFlat_grants (signal : Signal) (G : Set String) : Prog.wp statusWrites.env
    (fun r G' => ∀ result, r = .ok result → ResultGranted G' result)
    (handleFlat m.strategy signal) G := by
  have hflat : ∀ owned ticket G, (∀ row, owned = some row → RowGranted G row) →
      Prog.wp statusWrites.env (fun r G' => ∀ result, r = .ok result → ResultGranted G' result)
        (flatClose m.strategy signal ticket >>= flatSettle m.strategy signal owned) G := by
    intro owned ticket G howned
    have hclose : Prog.wp statusWrites.env (CloseGranted G)
        (flatClose m.strategy signal ticket) G := by
      refine Prog.wp_bind_of (m.closeAllPositions_grants ..) ?_
        fun e G' hG' => ⟨hG'.1, fun result hresult => nomatch hresult⟩
      rintro result G' ⟨hgrow, hresult⟩
      split
      · refine ⟨hgrow, ?_⟩
        rintro _ ⟨⟩
        exact hresult result rfl
      · exact Prog.wp_mono (m.closeAllPositions_grants ..)
          fun r G'' hG'' => ⟨hgrow.trans hG''.1, hG''.2⟩
    refine Prog.wp_bind_of hclose ?_ fun e G' _ result hok => nomatch hok
    rintro result G' ⟨hgrow, hresult⟩
    exact flatSettle_grants m signal
      (fun row hrow => ⟨hgrow (howned row hrow).1, (howned row hrow).2⟩) (hresult result rfl)
  refine Prog.wp_bind_of (getDbPosition_grants ..) ?_ fun e G' _ result hok => nomatch hok
  intro owned G' howned
  split
  · rintro result ⟨⟩
    exact .of_failure rfl
  · exact hflat _ _ G' (howned _ rfl).2

/-- What the handler of an exit returns is granted. -/
theorem handle_grants {signal : Signal} (hexit : signal.action.isEntry = false) (G : Set String) :
    Prog.wp statusWrites.env
      (fun r G' => ∀ result, r = .ok result → ResultGranted G' result)
      (handle m.strategy signal) G := by
  have hhandling : Prog.Sends statusWrites.quiet (fun _ => True) (host (.handling signal)) :=
    Prog.sends_perform (fun _ hact => hact) fun _ _ => trivial
  refine Prog.wp_bind_of (Permit.wp_of_quiet hhandling G) ?_
    fun e G' _ result hok => nomatch hok
  rintro _ G' -
  cases haction : signal.action with
  | long | short =>
      rw [haction] at hexit
      cases hexit
  | tp1 => exact executeExit_grants m _ _ (fun ticket => handleTp1_brokering m signal ticket) G'
  | tp2 | sl | rSl =>
      exact executeExit_grants m _ _ (fun ticket => m.atBroker.closeAllPositions ..) G'
  | flat => exact handleFlat_grants m signal G'

end SignalHandler

/-! ## The pipeline -/

namespace StatusWrites

section Pipeline

variable (m : Market) (settings : WorkerSettings) (signal : Signal)

theorem persistSuccess_licensed {result : TradeResult} {G : Set String}
    (hsuccess : result.success = true)
    (hresult : signal.action.isEntry = false → ResultGranted G result) :
    statusWrites.Licensed ((m.processor settings).persistSuccess signal result) G := by
  refine Permit.Licensed.after_quiet (statusQuiet_of_aside (notifyForcedClosed_aside ..))
    fun _ _ => ?_
  have hexit : ∀ status, signal.action.isEntry = false → statusWrites.Licensed
      (updatePositionStatus (Processor.exitUpdate signal result status)) G :=
    fun status hentry => (updatePositionStatus_spends (S := G) _
      fun ref href => hresult hentry hsuccess ref href).licensed Set.Subset.rfl
  cases haction : signal.action with
  | long | short =>
      have hinsert : ∀ magic, Prog.Sends aside (fun _ => True)
          (insertPosition ((m.processor settings).entryRow signal result magic)) :=
        fun magic => aside_sql rfl
      exact Permit.Licensed.of_quiet (statusQuiet_of_aside
        (Prog.Sends.bind (Q := fun _ => True) (by simp) fun magic _ => hinsert magic)) G
  | tp1 | tp2 | sl | rSl | flat =>
      rw [haction] at hexit
      exact hexit _ rfl

theorem recordResult_licensed {result : TradeResult} {G : Set String}
    (hresult : signal.action.isEntry = false → ResultGranted G result) :
    statusWrites.Licensed ((m.processor settings).recordResult signal result) G := by
  refine Permit.Licensed.after_quiet (statusQuiet_of_aside (aside_host rfl)) fun _ _ => ?_
  refine Permit.Licensed.after_quiet (statusQuiet_of_aside (logPosition_aside _)) fun _ _ => ?_
  have hnotify : ∀ report event status, statusWrites.Licensed
      (Processor.notifyTrade signal report event status) ∅ := fun report event status =>
    Permit.Licensed.of_quiet (statusQuiet_of_aside (notifyTrade_aside ..)) ∅
  split
  · rename_i hsuccess
    exact Permit.Licensed.bind (persistSuccess_licensed m settings signal hsuccess hresult)
      fun _ => hnotify ..
  · exact (hnotify ..).grow (Set.empty_subset G)

theorem executeSignal_licensed (G : Set String) :
    statusWrites.Licensed ((m.processor settings).executeSignal signal) G := by
  unfold Processor.executeSignal
  rw [Market.processor_market]
  cases hentry : signal.action.isEntry with
  | false =>
      refine Prog.wp_bind_of (SignalHandler.handle_grants m hentry G) ?_ fun _ _ _ => trivial
      intro result G' hresult
      refine recordResult_licensed m settings signal fun _ hok ref href => ?_
      rw [Processor.repairPrice_success] at hok
      rw [Processor.resultTicket_repairPrice] at href
      exact hresult result rfl hok ref href
  | true =>
      have hhandle : statusWrites.Licensed (SignalHandler.handle m.strategy signal) G := by
        refine Permit.Licensed.after_quiet (Q := fun _ => True)
          (Prog.sends_perform (fun _ hact => hact) fun _ _ => trivial) fun _ _ => ?_
        cases haction : signal.action with
        | long | short => exact SignalHandler.handleEntry_licensed m signal G
        | tp1 | tp2 | sl | rSl | flat =>
            rw [haction] at hentry
            cases hentry
      refine Permit.Licensed.bind hhandle fun result =>
        recordResult_licensed m settings signal fun hexit => ?_
      rw [hentry] at hexit
      cases hexit

theorem processSignal_licensed (G : Set String) :
    statusWrites.Licensed ((m.processor settings).processSignal signal) G := by
  refine Permit.Licensed.after_quiet (statusQuiet_of_aside (aside_host rfl)) fun blocked _ => ?_
  split
  · exact trivial
  split
  · exact Permit.Licensed.of_quiet (statusQuiet_of_aside
      (Prog.Sends.bind (aside_host rfl) fun _ _ => aside_host rfl)) G
  · exact Permit.Licensed.of_quiet (statusQuiet_of_aside
      (Prog.Sends.bind (aside_host rfl) fun _ _ => aside_host rfl)) G
  · exact trivial
  split
  · refine Permit.Licensed.after_quiet (statusQuiet_of_aside (entryRejection_aside ..))
      fun reason _ => ?_
    cases reason with
    | some reason =>
        exact Permit.Licensed.of_quiet (statusQuiet_of_aside (rejectSignal_aside ..)) G
    | none => exact executeSignal_licensed m settings signal G
  · exact executeSignal_licensed m settings signal G

theorem processMessage_licensed :
    statusWrites.Licensed ((m.processor settings).processMessage signal) ∅ := by
  refine Permit.Licensed.after_quiet (statusQuiet_of_aside (aside_host rfl))
    fun connected _ => ?_
  split
  · exact processSignal_licensed ..
  · exact trivial

theorem retrySignal_licensed (now : ℚ) :
    statusWrites.Licensed ((m.processor settings).retrySignal now signal) ∅ := by
  have hfresh : ∀ seen : Bool, statusWrites.Licensed
      (if seen then pure ()
      else if Processor.maxRetryTimeout < now - signal.timestamp then pure ()
      else Prog.tryCatch ((m.processor settings).processSignal signal) fun _ => pure ()) ∅ := by
    intro seen
    split
    · exact trivial
    split
    · exact trivial
    exact (processSignal_licensed m settings signal ∅).swallow ()
  unfold Processor.retrySignal
  cases text? signal.signalId with
  | none => exact hfresh false
  | some id =>
      refine Permit.Licensed.after_quiet (Q := fun _ => True) (statusQuiet_of_aside ?_)
        fun seen _ => hfresh seen
      unfold signalExists
      split
      · simp
      · exact aside_swallow _ (aside_sql rfl)

end Pipeline

/-! ## The other writers -/

theorem handleTerminalClose_licensed (event : CloseDetector.TerminalClosedEvent) :
    statusWrites.Licensed (handleTerminalClose event) ∅ := by
  have hread : Prog.wp statusWrites.env
      (fun r G' => ∀ row, r = .ok (some row) → event.sourceTicket ∈ G')
      (getPosition event.sourceTicket) ∅ := by
    refine Prog.wp_tryCatch.mpr (Prog.wp_perform.mpr ⟨fun ref hact => hact.elim, ?_⟩)
    rintro r G' ⟨-, hG'⟩
    cases r with
    | error e => exact fun row hrow => nomatch hrow
    | ok found =>
        rintro row ⟨⟩
        exact (hG' _).mpr (Or.inl ⟨rfl, row, rfl⟩)
  refine Prog.wp_bind_of hread ?_ fun _ _ _ => trivial
  intro found G' hfound
  cases found with
  | none => exact trivial
  | some row =>
      refine Permit.Licensed.after_quiet (statusQuiet_of_aside (logPosition_aside _))
        fun _ _ => ?_
      refine Permit.Licensed.bind ((updatePositionStatus_spends (S := {event.sourceTicket}) _
        fun ref href => (Option.some.inj href).symm).licensed ?_) fun _ =>
          Permit.Licensed.of_quiet (statusQuiet_of_aside (aside_host rfl)) ∅
      exact Set.singleton_subset_iff.mpr (hfound row rfl)

theorem handleTerminalCloses_licensed (events : List CloseDetector.TerminalClosedEvent) :
    statusWrites.Licensed (handleTerminalCloses events) ∅ := by
  induction events with
  | nil => exact trivial
  | cons event rest ih =>
      exact Permit.Licensed.bind ((handleTerminalClose_licensed event).swallow ()) fun _ => ih

theorem closeEach_spends (event : ExchangeCloseEvent) (comment : String)
    {rows : List Row} (hrows : (refsOf rows).Nodup) :
    statusWrites.Spends {ref | ref ∈ refsOf rows} (event.closeEach comment rows) :=
  spends_rows (event.closeEach comment)
    (fun row => do
      logPosition (event.closeLog comment row)
      updatePositionStatus (event.closeUpdate comment row)) rfl
    (fun _ _ => (Prog.bind_bind ..).symm)
    (fun _ => Permit.Spends.after_quiet (statusQuiet_of_aside (logPosition_aside _)) fun _ _ =>
      updatePositionStatus_spends _ fun _ href => (Option.some.inj href).symm) hrows

theorem onExchangeClose_licensed (ex : CryptoExecutor)
    (event : ExchangeCloseEvent) : statusWrites.Licensed (ex.onExchangeClose event) ∅ := by
  refine Prog.wp_bind_of (getOpenPositionsForFlat_grants ..) ?_ fun _ _ _ => trivial
  rintro rows G' ⟨-, hrows⟩
  obtain ⟨⟨hnodup, -⟩, hgranted⟩ := hrows rows rfl
  generalize hmatched : rows.filter (fun row => ex.getSymbol row.symbol = event.symbol) = matched
  have hsub : (refsOf matched).Sublist (refsOf rows) :=
    (hmatched ▸ List.filter_sublist).map _
  unfold ExchangeCloseEvent.closeMatched
  split
  · exact trivial
  · refine Permit.Licensed.bind ((closeEach_spends event _ (hsub.nodup hnodup)).licensed
      fun ref hmem => hgranted ref (hsub.subset hmem)) fun _ => ?_
    exact Permit.Licensed.of_quiet (statusQuiet_of_aside
      (Prog.Sends.bind (aside_host rfl) fun _ _ => aside_host rfl)) ∅

theorem onMessage_licensed (ex : CryptoExecutor)
    (float : String → Except Exn ℚ) (msg : UserEvent) :
    statusWrites.Licensed (ex.onMessage float msg) ∅ := by
  unfold CryptoExecutor.onMessage
  split
  · exact trivial
  · exact trivial
  · exact (onExchangeClose_licensed ex _).swallow ()

theorem onMissedClose_spends (m : Market) (row : Row) :
    statusWrites.Spends {row.refSourceId} (m.onMissedClose row) := by
  have hupdate : ∀ comment closePrice, statusWrites.Spends {row.refSourceId}
      (updatePositionStatus (missedUpdate comment row closePrice)) := fun comment closePrice =>
    updatePositionStatus_spends _ fun ref href => (Option.some.inj href).symm
  cases m with
  | forex ex =>
      refine Permit.Spends.after_quiet (statusQuiet_of_aside (bestEffortPrice_aside_fx _))
        fun closePrice _ => ?_
      refine Permit.Spends.after_quiet (statusQuiet_of_aside (logPosition_aside _)) fun _ _ => ?_
      refine (hupdate _ closePrice).then_quiet (Q := fun _ => True) fun _ =>
        statusQuiet_of_aside ?_
      refine Prog.Sends.bind (aside_host rfl) fun _ _ => ?_
      exact Prog.Sends.bind (reconciledPnl_aside _) fun _ _ => aside_host rfl
  | crypto ex =>
      refine Permit.Spends.after_quiet (statusQuiet_of_aside (bestEffortPrice_aside_cx _))
        fun closePrice _ => ?_
      refine Permit.Spends.after_quiet (statusQuiet_of_aside (logPosition_aside _)) fun _ _ => ?_
      refine (hupdate _ closePrice).then_quiet (Q := fun _ => True) fun _ =>
        statusQuiet_of_aside ?_
      exact Prog.Sends.bind (aside_host rfl) fun _ _ => aside_host rfl

/-- A scan closes rows it read, each once. -/
theorem closeMissed_licensed {Pos Key Id : Type} [DecidableEq Key] [DecidableEq Id] (m : Market)
    (suspected : Finset String) (s : Scan Pos Key Id) :
    statusWrites.Licensed (ReconcileJob.closeMissed m.onMissedClose suspected s) ∅ := by
  unfold ReconcileJob.closeMissed
  split
  · exact trivial
  rename_i live _
  refine Prog.wp_bind_of (getOpenPositionsForFlat_grants ..) ?_ fun _ _ _ => trivial
  rintro rows G' ⟨-, hrows⟩
  have hgranted := (hrows rows rfl).2
  have hnodup : (refsOf (ReconcileJob.confirmedRows suspected s live rows)).Nodup :=
    Confirm.confirmed_keys_nodup suspected Row.refSourceId _
  refine (spends_rows (ReconcileJob.closeEach m.onMissedClose)
    (fun row => Prog.tryCatch (m.onMissedClose row) fun _ => pure ()) rfl
    (fun _ _ => rfl) (fun row => (onMissedClose_spends m row).swallow ()) hnodup).licensed
    fun ref hmem => hgranted ref ?_
  obtain ⟨row, hrow, rfl⟩ := List.mem_map.mp hmem
  obtain ⟨k, -, hcandidate⟩ := Confirm.mem_confirmed.mp hrow
  exact List.mem_map_of_mem (List.mem_of_mem_filter (Confirm.mem_keyBy hcandidate).1)

end StatusWrites

/-! ## The writers together -/

/-- The programs that write a status: a signal live or replayed, an exchange's close event, a
terminal's close events, and a reconcile scan. -/
inductive StatusWriter (m : Market) : Work Unit → Prop
  | live (mapping : Dict String Int) (settings : WorkerSettings) (signal : Signal) :
      StatusWriter m (((m.withMagics mapping).processor settings).processMessage signal)
  | replayed (mapping : Dict String Int) (settings : WorkerSettings) (now : ℚ)
      (signal : Signal) :
      StatusWriter m (((m.withMagics mapping).processor settings).retrySignal now signal)
  | exchangeClose {ex : CryptoExecutor} (hm : m = .crypto ex) (float : String → Except Exn ℚ)
      (msg : UserEvent) : StatusWriter m (ex.onMessage float msg)
  | terminalClose {ex : ForexExecutor} (hm : m = .forex ex)
      (events : List CloseDetector.TerminalClosedEvent) :
      StatusWriter m (handleTerminalCloses events)
  | missedClose {Pos Key Id : Type} [DecidableEq Key] [DecidableEq Id]
      (suspected : Finset String) (s : Scan Pos Key Id) :
      StatusWriter m (ReconcileJob.closeMissed m.onMissedClose suspected s)

theorem StatusWriter.licensed {m : Market} {p : Work Unit} (hp : StatusWriter m p) :
    statusWrites.Licensed p ∅ := by
  cases hp with
  | live mapping settings signal => exact StatusWrites.processMessage_licensed ..
  | replayed mapping settings now signal => exact StatusWrites.retrySignal_licensed ..
  | exchangeClose hm float msg => exact StatusWrites.onMessage_licensed ..
  | terminalClose hm events => exact StatusWrites.handleTerminalCloses_licensed events
  | missedClose suspected s => exact StatusWrites.closeMissed_licensed m suspected s

/-- The store answers as it does, or fails and stays; the rest may answer anything. -/
def Db.Answers : (o : WorkerOp) → Db → Except Exn (WorkerOp.Ans o) → Db → Prop
  | .db o, db, r, db' =>
      (r = (Db.serve o db).1 ∧ db' = (Db.serve o db).2) ∨ ((∃ e, r = .error e) ∧ db' = db)
  | _, db, _, db' => db' = db

/-- Any number of writers, each starting anew when it is done. -/
def statusWriters (m : Market) : Pool.System ℕ WorkerOp WorkerOp.Ans Exn Unit Db where
  answers _ := Db.Answers
  starts _ p db db' := db' = db ∧ StatusWriter m p
  drift db db' := db'.rows = db.rows
  crash db db' := db' = db

def atRest (db : Db) : Pool.Config ℕ WorkerOp WorkerOp.Ans Exn Unit Db where
  state := db
  thread _ := pure ()

/-- A row under the reference is in a final status. -/
def Db.Final (db : Db) (ref : String) : Prop :=
  ∃ row ∈ db.rows, row.refSourceId = ref ∧ row.status.isTerminal = true

/-- What a call does to the rows. -/
theorem Db.Answers.rows {o : WorkerOp} {db db' : Db} {r : Except Exn (WorkerOp.Ans o)}
    (h : Db.Answers o db r db') : db'.rows = db.rows ∨
      (∃ n row, o = .db (.insertRow n) ∧ row.status = n.status ∧
        n.refId = some row.refSourceId ∧ db'.rows = db.rows ++ [row]) ∨
      ∃ u, o = .db (.updateStatus u) ∧ db'.rows = updateRows u db.clock db.rows := by
  cases o with
  | fx | cx | host =>
      cases h
      exact Or.inl rfl
  | db o =>
      rcases h with ⟨-, rfl⟩ | ⟨-, rfl⟩
      swap
      · exact Or.inl rfl
      cases o with
      | selectActiveByStrategy | selectActiveForFlat | selectLogged | selectPosition
      | insertLog => exact Or.inl rfl
      | insertRow n =>
          rcases Db.serve_insertRow n db with hsame | ⟨row, hrow, hrows⟩
          · exact Or.inl (congrArg Db.rows hsame)
          · exact Or.inr (Or.inl ⟨n, row, rfl, NewRow.toRow?_status hrow,
              NewRow.toRow?_refSourceId hrow, hrows⟩)
      | updateStatus u =>
          cases hu : db.updateStatus u with
          | error e => exact Or.inl (by simp only [Db.serve, hu])
          | ok db' =>
              refine Or.inr (Or.inr ⟨u, rfl, ?_⟩)
              simpa only [Db.serve, hu] using (Db.updateStatus_ok hu).1

/-- Only a final status written under a reference makes it final. -/
theorem Db.Answers.final {o : WorkerOp} {db db' : Db} {r : Except Exn (WorkerOp.Ans o)}
    (h : Db.Answers o db r db') {ref : String} (hfinal : db'.Final ref) :
    db.Final ref ∨ statusWrites.closes o ref := by
  obtain ⟨row, hrow, rfl, hstatus⟩ := hfinal
  rcases h.rows with hsame | ⟨n, added, rfl, hn, href, hrows⟩ | ⟨u, rfl, hrows⟩
  · rw [hsame] at hrow
    exact Or.inl ⟨row, hrow, rfl, hstatus⟩
  · rw [hrows, List.mem_append, List.mem_singleton] at hrow
    rcases hrow with hrow | rfl
    · exact Or.inl ⟨row, hrow, rfl, hstatus⟩
    · rw [hn] at hstatus
      exact Or.inr ⟨hstatus, href⟩
  · rw [hrows] at hrow
    obtain ⟨old, hold, rfl⟩ := mem_updateRows.mp hrow
    rw [Row.update_status] at hstatus
    rw [Row.update_refSourceId]
    split at hstatus
    · rename_i hmatch
      exact Or.inr ⟨hmatch, hstatus⟩
    · exact Or.inl ⟨old, hold, rfl, hstatus⟩

theorem statusWriters_governs (m : Market) :
    statusWrites.Governs (statusWriters m) Db.Final where
  start := by
    rintro i p db db' ⟨rfl, hp⟩
    exact ⟨⟨∅, hp.licensed⟩, fun _ => id⟩
  call h _ hfinal := Db.Answers.final h hfinal
  drift := by
    rintro db db' hrows ref ⟨row, hrow, href⟩
    have hsame : db'.rows = db.rows := hrows
    rw [hsame] at hrow
    exact ⟨row, hrow, href⟩
  crash := by
    rintro db db' rfl ref hfinal
    exact hfinal

theorem atRest_kept (db : Db) : statusWrites.Kept Db.Final (atRest db) :=
  ⟨fun _ => ⟨∅, trivial⟩, fun _ _ harmed => harmed.elim⟩

/-- A call of a writer leaves the rows in a final status as they are. -/
theorem Db.Answers.keeps {o : WorkerOp} {db db' : Db} {r : Except Exn (WorkerOp.Ans o)}
    (h : Db.Answers o db r db') (hopen : ∀ ref, statusWrites.acts o ref → ¬ db.Final ref)
    {i : ℕ} {row : Row} (hrow : db.rows[i]? = some row) (hfinal : row.status.isTerminal = true) :
    db'.rows[i]? = some row := by
  rcases h.rows with hsame | ⟨n, added, -, -, -, hrows⟩ | ⟨u, rfl, hrows⟩
  · rw [hsame]
    exact hrow
  · rw [hrows]
    exact List.getElem?_append_left (List.getElem?_eq_some_iff.mp hrow).1 ▸ hrow
  · have hother : u.refSourceId ≠ some row.refSourceId := fun href =>
      hopen row.refSourceId href ⟨row, List.mem_of_getElem? hrow, rfl, hfinal⟩
    rw [hrows, updateRows, List.getElem?_map, hrow, Option.map_some, Row.update, if_neg hother]

/-- Where references are read while they are not final, and made final while no other
writer is on its way to them, a row in a final status keeps it. -/
theorem carefulRun_finalStays (m : Market) (db : Db)
    {x y : Pool.Config ℕ WorkerOp WorkerOp.Ans Exn Unit Db}
    (hx : statusWrites.CarefulRun (statusWriters m) Db.Final (pure ()) (atRest db) x)
    (hy : statusWrites.CarefulRun (statusWriters m) Db.Final (pure ()) x y) {i : ℕ} {row : Row}
    (hrow : x.state.rows[i]? = some row) (hfinal : row.status.isTerminal = true) :
    y.state.rows[i]? = some row := by
  induction hy with
  | refl => exact hrow
  | @tail z y hrun hstep ih =>
      have hkept := Permit.CarefulRun.kept (statusWriters_governs m) ⟨(), rfl⟩
        (hx.trans hrun) (atRest_kept db)
      cases hstep with
      | start done h armed =>
          obtain ⟨rfl, -⟩ := h
          exact ih
      | @call i o f r db' at_call h expected granted alone =>
          exact Db.Answers.keeps h (fun ref hact => hkept.act_open at_call hact) ih hfinal
      | drift h =>
          have hsame : _ = z.state.rows := h
          rw [hsame]
          exact ih
      | crash h =>
          cases h
          exact ih

/-! ## A FLAT, and the close event after it -/

theorem goldRow_oneActive : OneActive [goldRow 1 "101" ""] := List.pairwise_singleton _ _

def oneTracked : Db where
  rows := [goldRow 1 "101" ""]
  oneActive := goldRow_oneActive

def stopHit (ticket : String) : CloseDetector.TerminalClosedEvent where
  sourceTicket := ticket
  dealTicket := "900"
  symbol := "XAUUSD"
  closeReason := .sl
  dealReason := 4
  closePrice := 2390
  closeVolume := 1
  closeTime := 0
  entryPrice := 2400
  sl := some 2390
  tp := none
  account := none
  profit := none

/-- A flat account, and a quiet host. -/
def flatAccount : Prog.Server WorkerOp WorkerOp.Ans Exn Db
  | .db o, db => Db.serve o db
  | .fx (.resolveSymbol symbol), db => (.ok symbol, db)
  | .fx (.getPositions _), db => (.ok [], db)
  | .host o, db => (.ok o.quiet, db)
  | _, db => (.error (.other "not asked"), db)

theorem flatAccount_answers (o : WorkerOp) (db : Db) :
    Db.Answers o db (flatAccount o db).1 (flatAccount o db).2 := by
  cases o with
  | db o => exact Or.inl ⟨rfl, rfl⟩
  | fx o => cases o <;> rfl
  | cx o => rfl
  | host o => rfl

/-- References that may be read: told apart, and none of them final. -/
def Db.Readable (db : Db) (refs : List String) : Prop :=
  refs.Nodup ∧ "" ∉ refs ∧ ∀ row ∈ db.rows, row.refSourceId ∈ refs → row.status.isTerminal = false

instance (db : Db) (refs : List String) : Decidable (db.Readable refs) :=
  inferInstanceAs (Decidable (_ ∧ _ ∧ _))

/-- The same account, with a store that refuses the other reads. -/
def carefulAccount : Prog.Server WorkerOp WorkerOp.Ans Exn Db
  | .db (.selectActiveByStrategy strategy symbol uxid), db =>
      if db.Readable (refsOf (db.activeByStrategy strategy symbol uxid)) then
        (.ok (db.activeByStrategy strategy symbol uxid), db)
      else (.error (.sqlite "database is locked"), db)
  | .db (.selectActiveForFlat strategy symbol refId), db =>
      if db.Readable (refsOf (db.activeForFlat strategy symbol refId)) then
        (.ok (db.activeForFlat strategy symbol refId), db)
      else (.error (.sqlite "database is locked"), db)
  | .db (.selectPosition ref), db =>
      if db.Readable [ref] then (.ok (db.position ref), db)
      else (.error (.sqlite "database is locked"), db)
  | o, db => flatAccount o db

theorem Db.Readable.not_final {db : Db} {refs : List String} (h : db.Readable refs)
    {ref : String} (href : ref ∈ refs) : ¬ db.Final ref := by
  rintro ⟨row, hrow, rfl, hfinal⟩
  rw [h.2.2 row hrow href] at hfinal
  cases hfinal

theorem carefulAccount_answers (o : WorkerOp) (db : Db) :
    Db.Answers o db (carefulAccount o db).1 (carefulAccount o db).2 ∧
      statusWrites.answers o (carefulAccount o db).1 ∧
        ∀ ref, statusWrites.grants o (carefulAccount o db).1 ref → ¬ db.Final ref := by
  have hrows : ∀ rows : List Row, db.Readable (refsOf rows) →
      (∀ rows', (Except.ok rows : Except Exn (List Row)) = .ok rows' → DistinctRefs rows') ∧
        ∀ ref, (∃ rows', (Except.ok rows : Except Exn (List Row)) = .ok rows' ∧
          ref ∈ refsOf rows') → ¬ db.Final ref := by
    intro rows hreadable
    constructor
    · rintro _ ⟨⟩
      exact ⟨hreadable.1, hreadable.2.1⟩
    · rintro ref ⟨_, ⟨⟩, href⟩
      exact hreadable.not_final href
  have hlocked : ∀ e : Exn,
      (∀ rows, (Except.error e : Except Exn (List Row)) = .ok rows → DistinctRefs rows) ∧
        ∀ ref, (∃ rows, (Except.error e : Except Exn (List Row)) = .ok rows ∧
          ref ∈ refsOf rows) → ¬ db.Final ref :=
    fun e => ⟨(fun rows hok => nomatch hok), fun ref ⟨_, hok, _⟩ => nomatch hok⟩
  cases o with
  | host o => exact ⟨rfl, trivial, fun _ hgrant => hgrant.elim⟩
  | cx o =>
      refine ⟨rfl, trivial, fun ref hgrant => ?_⟩
      cases o with
      | getPositions =>
          obtain ⟨_, ⟨⟩, -⟩ := hgrant
      | getSymbolFilter | getMarkPrice | placeMarketOrder | setStopLoss | setTakeProfit
      | cancelAllOrders | getOrderRealizedPnl | getAccount => exact hgrant.elim
  | fx o =>
      refine ⟨flatAccount_answers (.fx o) db, trivial, fun ref hgrant => ?_⟩
      cases o with
      | getPositions =>
          obtain ⟨_, ⟨⟩, href⟩ := hgrant
          cases href
      | resolveSymbol | getSymbolSpec | getTick | getAccount | calcMargin | placeOrder
      | closePosition | modifySl | getPositionRealizedPnl => exact hgrant.elim
  | db o =>
      cases o with
      | selectActiveByStrategy strategy symbol uxid =>
          simp only [carefulAccount]
          split
          · rename_i hreadable
            exact ⟨Or.inl ⟨rfl, rfl⟩, hrows _ hreadable⟩
          · exact ⟨Or.inr ⟨⟨_, rfl⟩, rfl⟩, hlocked _⟩
      | selectActiveForFlat strategy symbol refId =>
          simp only [carefulAccount]
          split
          · rename_i hreadable
            exact ⟨Or.inl ⟨rfl, rfl⟩, hrows _ hreadable⟩
          · exact ⟨Or.inr ⟨⟨_, rfl⟩, rfl⟩, hlocked _⟩
      | selectPosition asked =>
          simp only [carefulAccount]
          split
          · rename_i hreadable
            refine ⟨Or.inl ⟨rfl, rfl⟩, trivial, ?_⟩
            rintro _ ⟨rfl, -⟩
            exact hreadable.not_final List.mem_cons_self
          · refine ⟨Or.inr ⟨⟨_, rfl⟩, rfl⟩, trivial, ?_⟩
            rintro _ ⟨-, -, ⟨⟩⟩
      | selectLogged | insertLog | insertRow | updateStatus =>
          exact ⟨Or.inl ⟨rfl, rfl⟩, trivial, fun _ hgrant => hgrant.elim⟩

/-- `GOLD` signals on a flat account. -/
def flatWork : Work Unit :=
  (((Market.forex goldExecutor).withMagics (.ofPairs [("GOLD", 7)])).processor {}).processMessage
    flatOfGold

/-- The FLAT is through, and thread 1 has handled the close event of a ticket. -/
def closedAfterFlat (T : Prog.Server WorkerOp WorkerOp.Ans Exn Db) (ticket : String) :
    Pool.Config ℕ WorkerOp WorkerOp.Ans Exn Unit Db :=
  ((atRest oneTracked).serve T 0 40 flatWork).serve T 1 10
    (handleTerminalCloses [stopHit ticket])

theorem flatWork_writes : StatusWriter (.forex goldExecutor) flatWork :=
  .live (.ofPairs [("GOLD", 7)]) {} flatOfGold

/-- The event of a ticket nobody tracks leaves the flattened row alone. -/
theorem flattened_stays :
    ∃ row, ((atRest oneTracked).serve carefulAccount 0 40 flatWork).state.rows[0]? = some row ∧
      row.status = .flatted ∧
      (closedAfterFlat carefulAccount "102").state.rows[0]? = some row := by
  have hflat : statusWrites.CarefulRun (statusWriters (.forex goldExecutor)) Db.Final (pure ())
      (atRest oneTracked) ((atRest oneTracked).serve carefulAccount 0 40 flatWork) :=
    Permit.CarefulRun.serve 40 Relation.ReflTransGen.refl (fun _ => trivial)
      ⟨rfl, flatWork_writes⟩ (fun ref harmed => (harmed.mem flatWork_writes.licensed).elim)
      (Prog.admitted_of_forall carefulAccount_answers ..)
  have hdone : ∀ j, Pool.Finished
      (((atRest oneTracked).serve carefulAccount 0 40 flatWork).thread j) := by
    intro j
    by_cases hj : j = 0
    · subst hj
      decide +kernel
    · simp only [Pool.Config.serve, Function.update_of_ne hj]
      exact trivial
  have hevent := StatusWriter.terminalClose (m := .forex goldExecutor) rfl [stopHit "102"]
  have hclose : statusWrites.CarefulRun (statusWriters (.forex goldExecutor)) Db.Final (pure ())
      ((atRest oneTracked).serve carefulAccount 0 40 flatWork)
      (closedAfterFlat carefulAccount "102") :=
    Permit.CarefulRun.serve 10 Relation.ReflTransGen.refl hdone
      ⟨rfl, hevent⟩ (fun ref harmed => (harmed.mem hevent.licensed).elim)
      (Prog.admitted_of_forall carefulAccount_answers ..)
  have hflatted : ((((atRest oneTracked).serve carefulAccount 0 40 flatWork).state.rows[0]?).map
      fun row => row.status) = some .flatted := by decide +kernel
  obtain ⟨row, hrow, hstatus⟩ := Option.map_eq_some_iff.mp hflatted
  refine ⟨row, hrow, hstatus, ?_⟩
  exact carefulRun_finalStays (.forex goldExecutor) oneTracked hflat hclose hrow
    (by rw [hstatus]; rfl)

/-- The event of the ticket itself comes after the FLAT, and is written over it. -/
theorem flattened_overwritten :
    ∃ x y : Pool.Config ℕ WorkerOp WorkerOp.Ans Exn Unit Db,
      Pool.Reach (statusWriters (.forex goldExecutor)) (pure ()) (atRest oneTracked) x ∧
      Pool.Reach (statusWriters (.forex goldExecutor)) (pure ()) x y ∧
      (x.state.rows[0]?).map (·.status) = some .flatted ∧
      (y.state.rows[0]?).map (·.status) = some .terminalClosed := by
  have hadmitted : ∀ i n, ∀ p : Work Unit, ∀ db, Prog.Admitted
      ((statusWriters (.forex goldExecutor)).answers i) flatAccount n p db :=
    fun i => Prog.admitted_of_forall flatAccount_answers
  refine ⟨(atRest oneTracked).serve flatAccount 0 40 flatWork, closedAfterFlat flatAccount "101",
    ?_, ?_, by decide +kernel, by decide +kernel⟩
  · exact Pool.Reach.serve 40 Relation.ReflTransGen.refl trivial ⟨rfl, flatWork_writes⟩
      (hadmitted 0 40 flatWork oneTracked)
  · exact Pool.Reach.serve 10 Relation.ReflTransGen.refl trivial
      ⟨rfl, .terminalClose rfl _⟩ (hadmitted 1 10 _ _)

end TradeWorker
