import TradeWorker.AdminFlat
import TradeWorker.Broker

/-!
# The pass of an ADMIN FLAT

The pass against any desk and any broker: which positions it asks the broker to
close, which of them are gone afterwards, and which rows it marks.
-/

namespace TradeWorker

/-- A desk and the broker behind it: the positions live, the closes asked for so
far, and the answers, by number, to the orders. The fetch may raise, or list
fewer positions than there are. -/
structure FlatBroker (Pos β : Type) [DecidableEq Pos] where
  desk : AdminDesk Pos
  backend : Backend β
  instrument : String → String
  live : β → List Pos
  asked : β → List Pos
  sent : β → Nat
  order : Nat → Except Exn TradeResult
  fetched : β → AdminFlat → Except Exn (List Pos)
  live_nodup : ∀ s, (live s).Nodup
  fetched_sublist : ∀ {s admin ps}, fetched s admin = .ok ps → ps.Sublist (live s)
  host_answers : ∀ o s, ∃ a, backend.host o s = (.ok a, s)
  fetches : ∀ (w : World β) (admin : AdminFlat), ∃ s,
    Prog.run backend.serve (desk.fetchForFlat admin) w =
      (fetched w.rest admin, { w with rest := s }) ∧
    live s = live w.rest ∧ asked s = asked w.rest ∧ sent s = sent w.rest
  closes : ∀ (w : World β) (p : Pos), p ∈ live w.rest → ∃ s out,
    Prog.run backend.serve (desk.closeSinglePosition p "FLAT") w =
      (out, { w with rest := s }) ∧
    asked s = asked w.rest ++ [p] ∧ sent s = sent w.rest + 1 ∧
    (∀ e, order (sent w.rest) = .error e → out = .error e ∧ live s = live w.rest) ∧
    ∀ r, order (sent w.rest) = .ok r → (∃ r', out = .ok r' ∧ r'.success = r.success) ∧
      live s = if r.success then (live w.rest).filter (· ≠ p) else live w.rest

namespace FlatBroker

variable {Pos β : Type} [DecidableEq Pos] (F : FlatBroker Pos β)

/-! ## What the pass goes by -/

/-- The row stands for the position. -/
def Tracks (row : Row) (p : Pos) : Prop :=
  F.desk.flatMatchKey p ∈ F.desk.flatDbMatchKeys row

instance (row : Row) (p : Pos) : Decidable (F.Tracks row p) :=
  inferInstanceAs (Decidable (_ ∈ _))

variable (w : World β) (admin : AdminFlat)

def selected : List Row := w.db.activeForFlat admin.strategy admin.symbol admin.refId

/-- The positions the pass means to close. -/
def targets : List Pos :=
  match F.fetched w.rest admin with
  | .error _ => []
  | .ok ps =>
      if text? admin.refId = none then ps
      else ps.filter fun p => ∃ row ∈ selected w admin, F.Tracks row p

/-- The exception that ends the close pass. -/
def fault : Option Exn :=
  match F.fetched w.rest admin with
  | .error e => some e
  | .ok _ => Batch.fault F.order (F.sent w.rest) (F.targets w admin)

/-- The positions a close is sent for. -/
def tried : List Pos := Batch.reached F.order (F.sent w.rest) (F.targets w admin)

/-- The positions whose close succeeds. -/
def closed : List Pos :=
  Batch.filled (·.success) F.order (F.sent w.rest) (F.targets w admin)

/-- The reconciliation settles a selected row: a position it stands for was closed,
or none was a target. -/
def Settles (row : Row) : Prop :=
  (∃ p ∈ F.closed w admin, F.Tracks row p) ∨ ∀ p ∈ F.targets w admin, ¬ F.Tracks row p

variable {w admin}

theorem targets_sublist : (F.targets w admin).Sublist (F.live w.rest) := by
  unfold targets
  split
  · exact List.nil_sublist _
  · rename_i ps hps
    split
    · exact F.fetched_sublist hps
    · exact List.filter_sublist.trans (F.fetched_sublist hps)

/-- The targets of a directive are what the fetch lists, and for a reference those of them
that a selected row stands for. -/
theorem mem_targets_iff {p : Pos} :
    p ∈ F.targets w admin ↔ (∃ ps, F.fetched w.rest admin = .ok ps ∧ p ∈ ps) ∧
      ∀ ref, text? admin.refId = some ref → ∃ row ∈ selected w admin, F.Tracks row p := by
  unfold targets
  cases F.fetched w.rest admin with
  | error e => simp
  | ok ps => cases text? admin.refId <;> simp

theorem closed_subset_targets {p : Pos} (h : p ∈ F.closed w admin) : p ∈ F.targets w admin :=
  Batch.mem_of_mem_filled h

theorem closed_subset_tried {p : Pos} (h : p ∈ F.closed w admin) : p ∈ F.tried w admin :=
  Batch.mem_reached_of_mem_filled h

theorem tried_subset_live {p : Pos} (h : p ∈ F.tried w admin) : p ∈ F.live w.rest :=
  F.targets_sublist.subset ((Batch.reached_sublist _ _).subset h)

/-! ## The close pass -/

/-- What the tally says, against the positions tried and closed. -/
structure Books (tally : FlatTally) (tried closed : List Pos) : Prop where
  closed_iff : ∀ k, (tally.closed.lookup k).isSome ↔ ∃ p ∈ closed, F.desk.flatMatchKey p = k
  attempted_iff : ∀ k, k ∈ tally.attempted ↔ ∃ p ∈ tried, F.desk.flatMatchKey p = k

theorem Books.empty : F.Books {} [] [] where
  closed_iff k := by simp
  attempted_iff k := by simp

variable {F} in
/-- One close more in the books. -/
theorem Books.tallyClose {tally : FlatTally} {tried closed : List Pos} {result : TradeResult}
    {p : Pos} (h : F.Books tally tried closed) :
    F.Books (AdminDesk.tallyClose tally (F.desk.flatMatchKey p) result) (tried ++ [p])
      (if result.success then closed ++ [p] else closed) where
  closed_iff k := by
    unfold AdminDesk.tallyClose
    cases hs : result.success with
    | false => simpa [hs] using h.closed_iff k
    | true =>
        by_cases hk : F.desk.flatMatchKey p = k
        · subst hk
          simp
        · have hk' : (k == F.desk.flatMatchKey p) = false := by
            simpa using fun heq => hk heq.symm
          simp only [if_true, List.lookup_cons, hk', h.closed_iff, List.mem_append,
            List.mem_singleton]
          constructor
          · rintro ⟨q, hq, hkey⟩
            exact ⟨q, Or.inl hq, hkey⟩
          · rintro ⟨q, hq | rfl, hkey⟩
            · exact ⟨q, hq, hkey⟩
            · exact absurd hkey hk
  attempted_iff k := by
    simp only [AdminDesk.tallyClose, List.mem_cons, h.attempted_iff, List.mem_append,
      List.mem_nil_iff, or_false]
    constructor
    · rintro (rfl | ⟨q, hq, hkey⟩)
      · exact ⟨p, Or.inr rfl, rfl⟩
      · exact ⟨q, Or.inl hq, hkey⟩
    · rintro ⟨q, hq | rfl, hkey⟩
      · exact Or.inr ⟨q, hq, hkey⟩
      · exact Or.inl hkey.symm

/-- The loop of closes: what it asks for, what is gone, and its books. -/
theorem closeEach_run (ps : List Pos) (w : World β) (hnodup : ps.Nodup)
    (hlive : ∀ p ∈ ps, p ∈ F.live w.rest) {tally : FlatTally} {tried closed : List Pos}
    (hbooks : F.Books tally tried closed) :
    ∃ s out, Prog.run F.backend.serve (F.desk.closeEach ps tally) w =
        (out, { w with rest := s }) ∧
      F.live s = (F.live w.rest).filter
        (· ∉ Batch.filled (·.success) F.order (F.sent w.rest) ps) ∧
      F.asked s = F.asked w.rest ++ Batch.reached F.order (F.sent w.rest) ps ∧
      (∀ e, Batch.fault F.order (F.sent w.rest) ps = some e → out = .error e) ∧
      (Batch.fault F.order (F.sent w.rest) ps = none → ∃ tally', out = .ok tally' ∧
        F.Books tally' (tried ++ ps)
          (closed ++ Batch.filled (·.success) F.order (F.sent w.rest) ps)) := by
  induction ps generalizing w tally tried closed with
  | nil =>
      refine ⟨w.rest, .ok tally, rfl, by simp [Batch.filled], by simp [Batch.reached], ?_, ?_⟩
      · intro e he
        cases he
      · intro _
        exact ⟨tally, rfl, by simpa [Batch.filled] using hbooks⟩
  | cons p ps ih =>
      obtain ⟨hp, hnodup⟩ := List.nodup_cons.mp hnodup
      obtain ⟨s, out, hrun, hasked, hsent, herror, hok⟩ := F.closes w p (hlive p (by simp))
      cases horder : F.order (F.sent w.rest) with
      | error e =>
          obtain ⟨rfl, hsame⟩ := herror e horder
          refine ⟨s, .error e, Prog.run_bind_error _ hrun, ?_, ?_, ?_, ?_⟩
          · simp [hsame, Batch.filled, horder]
          · simp [hasked, Batch.reached, horder]
          · intro e' he'
            simp only [Batch.fault, horder, Option.some.injEq] at he'
            rw [he']
          · intro hnone
            simp [Batch.fault, horder] at hnone
      | ok r =>
          obtain ⟨⟨r', rfl, hsuccess⟩, hlive'⟩ := hok r horder
          have hrest : ∀ q ∈ ps, q ∈ F.live s := by
            intro q hq
            rw [hlive']
            split
            · refine List.mem_filter.mpr ⟨hlive q (List.mem_cons_of_mem p hq), ?_⟩
              have hne : q ≠ p := fun h => hp (h ▸ hq)
              simpa using hne
            · exact hlive q (List.mem_cons_of_mem p hq)
          obtain ⟨s', out', hrun', hlive'', hasked', hfault, hbooked⟩ :=
            ih { w with rest := s } hnodup hrest hbooks.tallyClose
          simp only [hsent] at hlive'' hasked' hfault hbooked
          refine ⟨s', out', (Prog.run_bind_ok _ hrun).trans hrun', ?_, ?_, ?_, ?_⟩
          · rw [hlive'', hlive']
            cases hs : r.success with
            | false => simp [Batch.filled, horder, hs]
            | true =>
                simp [Batch.filled, horder, hs, List.filter_filter, Bool.and_comm]
          · rw [hasked', hasked]
            simp [Batch.reached, horder]
          · intro e he
            simp only [Batch.fault, horder] at he
            exact hfault e he
          · intro hnone
            simp only [Batch.fault, horder] at hnone
            obtain ⟨tally', rfl, hbooks'⟩ := hbooked hnone
            refine ⟨tally', rfl, ?_⟩
            simp only [Batch.filled, horder, hsuccess] at hbooks' ⊢
            by_cases hs : r.success = true
            · simpa [hs] using hbooks'
            · simpa [hs] using hbooks'

/-- The narrowing by reference: a query, and the positions it leaves. -/
theorem narrowByRef_run (w : World β) {s : β} (admin : AdminFlat) {ps : List Pos}
    (hps : F.fetched w.rest admin = .ok ps) :
    Prog.run F.backend.serve (F.desk.narrowByRef admin ps) { w with rest := s } =
      (.ok (F.targets w admin), { w with rest := s }) := by
  unfold AdminDesk.narrowByRef targets
  rw [hps]
  cases href : text? admin.refId with
  | none => simp
  | some ref =>
      have hread := run_getOpenPositionsForFlat F.backend { w with rest := s } admin.strategy
        admin.symbol admin.refId
      dsimp only
      rw [Prog.run_bind_ok _ hread]
      have hsame : ∀ p ∈ ps, decide (F.desk.flatMatchKey p ∈
          F.desk.allowedKeys (selected w admin)) = decide (∃ row ∈ selected w admin,
            F.Tracks row p) := by
        intro p _
        exact decide_eq_decide.mpr List.mem_flatMap
      simp only [reduceCtorEq, if_false]
      rw [← List.filter_congr hsame]
      rfl

theorem closeLivePositionsForFlat_run (w : World β) (admin : AdminFlat) :
    ∃ s out, Prog.run F.backend.serve (F.desk.closeLivePositionsForFlat admin) w =
        (out, { w with rest := s }) ∧
      F.live s = (F.live w.rest).filter (· ∉ F.closed w admin) ∧
      F.asked s = F.asked w.rest ++ F.tried w admin ∧
      (∀ e, F.fault w admin = some e → out = .error e) ∧
      (F.fault w admin = none → ∃ tally, out = .ok tally ∧
        F.Books tally (F.targets w admin) (F.closed w admin)) := by
  obtain ⟨s, hfetch, hlive, hasked, hsent⟩ := F.fetches w admin
  unfold AdminDesk.closeLivePositionsForFlat
  cases hps : F.fetched w.rest admin with
  | error e =>
      have htargets : F.targets w admin = [] := by simp [targets, hps]
      rw [hps] at hfetch
      refine ⟨s, .error e, Prog.run_bind_error _ hfetch, ?_, ?_, ?_, ?_⟩
      · simp [closed, htargets, Batch.filled, hlive]
      · simp [tried, htargets, Batch.reached, hasked]
      · intro e' he'
        simp only [fault, hps, Option.some.injEq] at he'
        rw [he']
      · intro hnone
        simp [fault, hps] at hnone
  | ok ps =>
      have hnarrow := F.narrowByRef_run w (s := s) admin hps
      have hfault : F.fault w admin =
          Batch.fault F.order (F.sent w.rest) (F.targets w admin) := by
        simp [fault, hps]
      have hall : ∀ p ∈ F.targets w admin, p ∈ F.live s := by
        intro p hp
        rw [hlive]
        exact F.targets_sublist.subset hp
      obtain ⟨s', out, hloop, hlive', hasked', herror, hbooked⟩ :=
        F.closeEach_run (F.targets w admin) { w with rest := s }
          (F.targets_sublist.nodup (F.live_nodup _)) hall (Books.empty F)
      simp only [hsent, hlive, hasked] at hlive' hasked' herror hbooked
      rw [hps] at hfetch
      refine ⟨s', out, ?_, hlive', hasked', ?_, ?_⟩
      · rw [Prog.run_bind_ok _ hfetch, Prog.run_bind_ok _ hnarrow]
        exact hloop
      · intro e he
        exact herror e (hfault.symm.trans he)
      · intro hnone
        obtain ⟨tally, rfl, hbooks⟩ := hbooked (hfault.symm.trans hnone)
        exact ⟨tally, rfl, by simpa [closed] using hbooks⟩

/-! ## The reconciliation -/

def updates (tally : FlatTally) (rows : List Row) : List StatusUpdate :=
  rows.filterMap (F.desk.flatUpdate tally)

theorem flatUpdate_eq_some {tally : FlatTally} {row : Row} {u : StatusUpdate}
    (h : F.desk.flatUpdate tally row = some u) :
    u.status = .flatted ∧ u.refSourceId = some row.refSourceId := by
  unfold AdminDesk.flatUpdate at h
  split at h
  · cases h
    exact ⟨rfl, rfl⟩
  · split at h
    · cases h
      exact ⟨rfl, rfl⟩
    · cases h

theorem updates_flatted {tally : FlatTally} {rows : List Row} :
    ∀ u ∈ F.updates tally rows, u.status = .flatted := by
  intro u hu
  obtain ⟨row, -, hrow⟩ := List.mem_filterMap.mp hu
  exact (F.flatUpdate_eq_some hrow).1

variable {F} in
/-- A row gets an update exactly when the reconciliation settles it. -/
theorem Books.flatUpdate_isSome {tally : FlatTally} {w : World β} {admin : AdminFlat}
    (h : F.Books tally (F.targets w admin) (F.closed w admin)) (row : Row) :
    (F.desk.flatUpdate tally row).isSome ↔ F.Settles w admin row := by
  have hmatched : F.desk.matchedClose tally row = none ↔
      ¬ ∃ p ∈ F.closed w admin, F.Tracks row p := by
    unfold AdminDesk.matchedClose
    rw [List.findSome?_eq_none_iff]
    constructor
    · rintro hnone ⟨p, hp, hkey⟩
      have hsome := (h.closed_iff (F.desk.flatMatchKey p)).mpr ⟨p, hp, rfl⟩
      rw [hnone _ hkey] at hsome
      cases hsome
    · intro hno key hkey
      by_contra hne
      obtain ⟨p, hp, rfl⟩ := (h.closed_iff key).mp (Option.isSome_iff_ne_none.mpr hne)
      exact hno ⟨p, hp, hkey⟩
  have huntried : F.desk.untried tally row = true ↔
      ∀ p ∈ F.targets w admin, ¬ F.Tracks row p := by
    unfold AdminDesk.untried
    rw [List.all_eq_true]
    constructor
    · intro hall p hp hkey
      have hnot := of_decide_eq_true (hall _ hkey)
      exact hnot ((h.attempted_iff _).mpr ⟨p, hp, rfl⟩)
    · intro hno key hkey
      refine decide_eq_true fun hin => ?_
      obtain ⟨p, hp, rfl⟩ := (h.attempted_iff key).mp hin
      exact hno p hp hkey
  unfold AdminDesk.flatUpdate Settles
  rw [← huntried]
  split
  · rename_i result hresult
    have hclosed : ∃ p ∈ F.closed w admin, F.Tracks row p := by
      by_contra hno
      rw [hmatched.mpr hno] at hresult
      cases hresult
    exact iff_of_true rfl (Or.inl hclosed)
  · rename_i hnone
    have hnot := hmatched.mp hnone
    split
    · rename_i hfree
      exact iff_of_true rfl (Or.inr hfree)
    · rename_i hfree
      refine iff_of_false (by simp) ?_
      rintro (hclosed | hfree')
      · exact hnot hclosed
      · exact hfree hfree'

theorem notifyFlatClosed_run (w : World β) (row : Row) (result : TradeResult) :
    Prog.run F.backend.serve (AdminDesk.notifyFlatClosed row result) w = (.ok (), w) := by
  obtain ⟨now, hnow⟩ := run_host_ok F.host_answers w .now
  unfold AdminDesk.notifyFlatClosed
  rw [Prog.run_bind_ok _ hnow]
  obtain ⟨owned, howned⟩ := run_host_ok F.host_answers w (.recordCycle row.signalUxid row.strategy
    row.symbol _ (some (.position .flatted)))
  rw [Prog.run_bind_ok _ howned]
  split
  · rfl
  · obtain ⟨u, hu⟩ := run_host_ok F.host_answers w (.notifyChannel (.adminFlatClosed row result))
    exact hu

/-- One row: it is left alone, or its update goes through. -/
theorem settleRow_run (w : World β) (tally : FlatTally) (raw : String) (row : Row) :
    ∃ db, Prog.run F.backend.serve (F.desk.settleRow tally raw row) w =
        (.ok (), { w with db }) ∧
      db.rows = w.db.rows.map
        (·.updateEach (F.desk.flatUpdate tally row).toList w.db.clock) ∧
      db.clock = w.db.clock := by
  unfold AdminDesk.settleRow AdminDesk.flatUpdate
  split
  · rename_i result hresult
    have hlog := run_logPosition F.backend w (F.desk.flatLog row (some result) raw)
    have hmark := run_updatePositionStatus_inactive F.backend
      { w with db := w.db.insertLog (F.desk.flatLog row (some result) raw) }
      (u := AdminDesk.flatClosed row result) rfl
    refine ⟨(w.db.insertLog (F.desk.flatLog row (some result) raw)).close
      (AdminDesk.flatClosed row result) rfl, ?_, rfl, rfl⟩
    rw [Prog.run_bind_ok _ hlog, Prog.run_bind_ok _ hmark]
    exact F.notifyFlatClosed_run _ row result
  · split
    · have hlog := run_logPosition F.backend w (F.desk.flatLog row none raw)
      have hmark := run_updatePositionStatus_inactive F.backend
        { w with db := w.db.insertLog (F.desk.flatLog row none raw) }
        (u := F.desk.flatSynced row) rfl
      refine ⟨(w.db.insertLog (F.desk.flatLog row none raw)).close
        (F.desk.flatSynced row) rfl, ?_, rfl, rfl⟩
      rw [Prog.run_bind_ok _ hlog]
      exact hmark
    · exact ⟨w.db, rfl, by simp, rfl⟩

theorem settleEach_run (tally : FlatTally) (raw : String) (rows : List Row) (w : World β) :
    ∃ db, Prog.run F.backend.serve (F.desk.settleEach tally raw rows) w =
        (.ok (), { w with db }) ∧
      db.rows = w.db.rows.map (·.updateEach (F.updates tally rows) w.db.clock) := by
  induction rows generalizing w with
  | nil => exact ⟨w.db, rfl, by simp [updates]⟩
  | cons row rest ih =>
      obtain ⟨db, hrow, hrows, hclock⟩ := F.settleRow_run w tally raw row
      obtain ⟨db', hrest, hrows'⟩ := ih { w with db }
      refine ⟨db', ?_, ?_⟩
      · rw [AdminDesk.settleEach, Prog.run_bind_ok _ hrow]
        exact hrest
      · rw [hrows', hrows, List.map_map, hclock]
        refine List.map_congr_left fun r _ => ?_
        simp only [Function.comp_apply, Row.updateEach, ← List.foldl_append]
        congr 1
        cases hu : F.desk.flatUpdate tally row <;> simp [updates, hu]

/-! ## The whole pass -/

/-- The pass marks the rows under a reference: it comes to its end, and settles a
selected row of that reference. -/
def Marks (w : World β) (admin : AdminFlat) (ref : String) : Prop :=
  F.fault w admin = none ∧ ∃ row ∈ selected w admin, row.refSourceId = ref ∧
    F.Settles w admin row

structure PassRuns (w w' : World β) (admin : AdminFlat) : Prop where
  live : F.live w'.rest = (F.live w.rest).filter (· ∉ F.closed w admin)
  asked : F.asked w'.rest = F.asked w.rest ++ F.tried w admin
  length : w'.db.rows.length = w.db.rows.length
  flatted : ∀ (i : Nat) (row row' : Row), w.db.rows[i]? = some row →
    w'.db.rows[i]? = some row' →
    (row'.status = .flatted ↔ row.status = .flatted ∨ F.Marks w admin row.refSourceId)

theorem flatPass_run (w : World β) (admin : AdminFlat) (raw : String) :
    ∃ w' out, Prog.run F.backend.serve (F.desk.flatPass admin raw) w = (out, w') ∧
      F.PassRuns w w' admin := by
  obtain ⟨s, out, hclose, hlive, hasked, hfault, hbooked⟩ :=
    F.closeLivePositionsForFlat_run w admin
  unfold AdminDesk.flatPass
  cases hf : F.fault w admin with
  | some e =>
      obtain rfl := hfault e hf
      refine ⟨{ w with rest := s }, .error e, Prog.run_bind_error _ hclose, hlive, hasked, rfl, ?_⟩
      intro i row row' hrow hrow'
      cases hrow.symm.trans hrow'
      simp [Marks, hf]
  | none =>
      obtain ⟨tally, rfl, hbooks⟩ := hbooked hf
      have hread := run_getOpenPositionsForFlat F.backend { w with rest := s } admin.strategy
        admin.symbol admin.refId
      obtain ⟨footer, hfooter⟩ := run_host_ok F.host_answers { w with rest := s } .currentFooter
      obtain ⟨db, hsettle, hrows⟩ :=
        F.settleEach_run tally raw (selected w admin) { w with rest := s }
      refine ⟨{ w with db, rest := s }, .ok (), ?_, hlive, hasked, by simp [hrows], ?_⟩
      · rw [Prog.run_bind_ok _ hclose, AdminDesk.reconcileFlatDb, Prog.run_bind_ok _ hread,
          Prog.run_bind_ok _ hfooter]
        exact hsettle
      · intro i row row' hrow hrow'
        simp only [hrows, List.getElem?_map, hrow, Option.map_some, Option.some.injEq] at hrow'
        subst hrow'
        rw [Row.updateEach_status row F.updates_flatted]
        have hmarks : (F.updates tally (selected w admin)).any
            (fun u => u.refSourceId = some row.refSourceId) = true ↔
              F.Marks w admin row.refSourceId := by
          rw [List.any_eq_true]
          constructor
          · rintro ⟨u, hu, href⟩
            obtain ⟨r, hr, hupdate⟩ := List.mem_filterMap.mp hu
            have hsome := (F.flatUpdate_eq_some hupdate).2
            have hrr : r.refSourceId = row.refSourceId :=
              Option.some.inj (hsome.symm.trans (of_decide_eq_true href))
            exact ⟨hf, r, hr, hrr, (hbooks.flatUpdate_isSome r).mp (by rw [hupdate]; rfl)⟩
          · rintro ⟨-, r, hr, hrr, hsettles⟩
            obtain ⟨u, hu⟩ :=
              Option.isSome_iff_exists.mp ((hbooks.flatUpdate_isSome r).mpr hsettles)
            refine ⟨u, List.mem_filterMap.mpr ⟨r, hr, hu⟩, decide_eq_true ?_⟩
            rw [(F.flatUpdate_eq_some hu).2, hrr]
        rw [← hmarks]
        by_cases hany : (F.updates tally (selected w admin)).any
            (fun u => u.refSourceId = some row.refSourceId) = true
        · simp [hany]
        · simp [hany]

/-- A directive for another worker does nothing. -/
theorem handleAdminFlat_run (w : World β) (admin : AdminFlat) (isPrivate : Bool)
    (raw : String) :
    ∃ w' out, Prog.run F.backend.serve (F.desk.handleAdminFlat admin isPrivate raw) w =
        (out, w') ∧
      (F.desk.flatTargetsThisWorker admin isPrivate = true → F.PassRuns w w' admin) ∧
      (F.desk.flatTargetsThisWorker admin isPrivate = false → w' = w) := by
  unfold AdminDesk.handleAdminFlat
  cases htarget : F.desk.flatTargetsThisWorker admin isPrivate with
  | true =>
      obtain ⟨w', out, hrun, hpass⟩ := F.flatPass_run w admin raw
      refine ⟨w', out, hrun, fun _ => hpass, fun h => ?_⟩
      cases h
  | false =>
      refine ⟨w, .ok (), rfl, fun h => ?_, fun _ => rfl⟩
      cases h

end FlatBroker

end TradeWorker
