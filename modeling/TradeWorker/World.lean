import TradeWorker.Processor

/-!
# Worlds that answer

A `Backend` answers the platform, exchange and host calls from a state of its
own; the store answers the statements itself. Together they are a server the
worker's programs can be run against. The lemmas give each repository method's
run once, for every backend.
-/

namespace TradeWorker

/-- The answers of everything but the store. -/
structure Backend (β : Type) where
  fx : (o : ForexOp) → β → Except Exn o.Ans × β
  cx : (o : CryptoOp) → β → Except Exn o.Ans × β
  host : (o : HostOp) → β → Except Exn o.Ans × β

/-- The store and the backend's state. -/
structure World (β : Type) where
  db : Db
  rest : β

def Backend.serve {β : Type} (B : Backend β) :
    Prog.Server WorkerOp WorkerOp.Ans Exn (World β)
  | .db o, w => ((w.db.serve o).1, { w with db := (w.db.serve o).2 })
  | .fx o, w => ((B.fx o w.rest).1, { w with rest := (B.fx o w.rest).2 })
  | .cx o, w => ((B.cx o w.rest).1, { w with rest := (B.cx o w.rest).2 })
  | .host o, w => ((B.host o w.rest).1, { w with rest := (B.host o w.rest).2 })

section Runs

variable {β : Type} (B : Backend β) (w : World β)

theorem run_sql (o : DbOp) :
    Prog.run B.serve (sql o) w = ((w.db.serve o).1, { w with db := (w.db.serve o).2 }) :=
  Prog.run_perform ..

theorem run_platform (o : ForexOp) :
    Prog.run B.serve (platform o) w =
      ((B.fx o w.rest).1, { w with rest := (B.fx o w.rest).2 }) :=
  Prog.run_perform ..

theorem run_exchange (o : CryptoOp) :
    Prog.run B.serve (exchange o) w =
      ((B.cx o w.rest).1, { w with rest := (B.cx o w.rest).2 }) :=
  Prog.run_perform ..

theorem run_host (o : HostOp) :
    Prog.run B.serve (host o) w =
      ((B.host o w.rest).1, { w with rest := (B.host o w.rest).2 }) :=
  Prog.run_perform ..

/-- A host that always answers. -/
theorem run_host_ok {B : Backend β} (hanswers : ∀ o s, ∃ a, B.host o s = (.ok a, s))
    (w : World β) (o : HostOp) : ∃ a, Prog.run B.serve (host o) w = (.ok a, w) := by
  obtain ⟨a, ha⟩ := hanswers o w.rest
  exact ⟨a, (run_host B w o).trans (by rw [ha])⟩

@[simp] theorem run_getOpenPositionsByStrategy (strategy symbol : String)
    (uxid : Option String) :
    Prog.run B.serve (getOpenPositionsByStrategy strategy symbol uxid) w =
      (.ok (w.db.activeByStrategy strategy symbol uxid), w) := rfl

@[simp] theorem run_getOpenPositionsForFlat (strategy symbol refId : Option String) :
    Prog.run B.serve (getOpenPositionsForFlat strategy symbol refId) w =
      (.ok (w.db.activeForFlat strategy symbol refId), w) := rfl

@[simp] theorem run_logPosition (l : LogRow) :
    Prog.run B.serve (logPosition l) w = (.ok (), { w with db := w.db.insertLog l }) :=
  rfl

def Db.close (db : Db) (u : StatusUpdate) (hu : u.status.isActive = false) : Db :=
  { db with
    rows := updateRows u db.clock db.rows
    oneActive := db.oneActive.updateRows_of_inactive hu _ }

/-- An update to a closed status always goes through. -/
theorem run_updatePositionStatus_inactive {u : StatusUpdate}
    (hu : u.status.isActive = false) :
    Prog.run B.serve (updatePositionStatus u) w =
      (.ok (), { w with db := w.db.close u hu }) := by
  have hserve : Db.serve (.updateStatus u) w.db = (.ok (), w.db.close u hu) := by
    simp only [Db.serve, Db.updateStatus_of_inactive _ hu, Db.close]
  exact (run_sql B w _).trans (by rw [hserve])

/-- A loop of updates to closed statuses goes through, row by row. -/
theorem run_updateEach_inactive {us : List StatusUpdate}
    (hus : ∀ u ∈ us, u.status.isActive = false) :
    ∃ db, Prog.run B.serve (updateEach us) w = (.ok (), { w with db }) ∧
      db.rows = w.db.rows.map (·.updateEach us w.db.clock) ∧
      db.logs = w.db.logs ∧ db.clock = w.db.clock := by
  induction us generalizing w with
  | nil => exact ⟨w.db, rfl, by simp, rfl, rfl⟩
  | cons u us ih =>
      have hu := hus u List.mem_cons_self
      obtain ⟨db, hrun, hrows, hlogs, hclock⟩ :=
        ih { w with db := w.db.close u hu } fun u' hu' => hus u' (List.mem_cons_of_mem _ hu')
      refine ⟨db, ?_, ?_, hlogs, hclock⟩
      · rw [updateEach, Prog.run_bind_ok _ (run_updatePositionStatus_inactive B w hu)]
        exact hrun
      · rw [hrows]
        simp [Db.close, updateRows, Function.comp_def]

end Runs

end TradeWorker
