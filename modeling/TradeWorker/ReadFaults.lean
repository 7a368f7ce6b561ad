import TradeWorker.World

/-!
# Reads that fail

SQLite may fail any read. Which reads fail is scripted by their number, counted over
the whole run; the repository swallows the error and answers as if nothing were
stored. Writes and every other call are served as before.
-/

namespace TradeWorker

/-- A backend's state, with the number of reads made. -/
structure Counted (β : Type) where
  rest : β
  reads : Nat := 0

section Faulty

variable {β : Type} (B : Backend β) (fails : Nat → Bool)

/-- The world once a read was made. -/
def World.count (w : World (Counted β)) : World (Counted β) :=
  { w with rest := { w.rest with reads := w.rest.reads + 1 } }

@[simp] theorem World.count_db (w : World (Counted β)) : w.count.db = w.db := rfl

@[simp] theorem World.count_reads (w : World (Counted β)) :
    w.count.rest.reads = w.rest.reads + 1 := rfl

def World.move (w : World (Counted β)) (rest : β) : World (Counted β) :=
  { w with rest := { w.rest with rest } }

@[simp] theorem World.move_db (w : World (Counted β)) (rest : β) : (w.move rest).db = w.db := rfl

@[simp] theorem World.move_reads (w : World (Counted β)) (rest : β) :
    (w.move rest).rest.reads = w.rest.reads := rfl

/-- The server of a backend whose store fails the scripted reads. -/
def Backend.faulty : Prog.Server WorkerOp WorkerOp.Ans Exn (World (Counted β))
  | .db o, w =>
      if o.isRead then
        (if fails w.rest.reads then .error (.sqlite "disk I/O error") else (w.db.serve o).1,
         w.count)
      else ((w.db.serve o).1, { w with db := (w.db.serve o).2 })
  | .fx o, w => ((B.fx o w.rest.rest).1, w.move (B.fx o w.rest.rest).2)
  | .cx o, w => ((B.cx o w.rest.rest).1, w.move (B.cx o w.rest.rest).2)
  | .host o, w => ((B.host o w.rest.rest).1, w.move (B.host o w.rest.rest).2)

variable (w : World (Counted β))

theorem faulty_host_run (o : HostOp) :
    Prog.run (B.faulty fails) (host o) w =
      ((B.host o w.rest.rest).1, w.move (B.host o w.rest.rest).2) :=
  Prog.run_perform ..

/-- What a read of rows shows. -/
def shown (failed : Bool) (rows : List Row) : List Row := if failed then [] else rows

@[simp] theorem shown_true (rows : List Row) : shown true rows = [] := rfl

@[simp] theorem shown_false (rows : List Row) : shown false rows = rows := rfl

theorem faulty_getOpenPositionsForFlat_run (strategy symbol refId : Option String) :
    Prog.run (B.faulty fails) (getOpenPositionsForFlat strategy symbol refId) w =
      (.ok (shown (fails w.rest.reads) (w.db.activeForFlat strategy symbol refId)), w.count) := by
  have hread : Prog.run (B.faulty fails) (sql (.selectActiveForFlat strategy symbol refId)) w =
      (if fails w.rest.reads then .error (.sqlite "disk I/O error")
        else .ok (w.db.activeForFlat strategy symbol refId), w.count) :=
    Prog.run_perform ..
  unfold getOpenPositionsForFlat
  rw [Prog.run_tryCatch, hread]
  cases fails w.rest.reads <;> rfl

theorem faulty_signalExists_run {id : String} (hid : id ≠ "") :
    Prog.run (B.faulty fails) (signalExists id) w =
      (.ok (fails w.rest.reads || w.db.logged id), w.count) := by
  have hread : Prog.run (B.faulty fails) (sql (.selectLogged id)) w =
      (if fails w.rest.reads then .error (.sqlite "disk I/O error")
        else .ok (w.db.logged id), w.count) :=
    Prog.run_perform ..
  unfold signalExists
  rw [if_neg hid, Prog.run_tryCatch, hread]
  cases fails w.rest.reads <;> rfl

end Faulty

end TradeWorker
