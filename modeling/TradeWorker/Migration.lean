import TradeWorker.Tables

/-!
# Migrations

A script that brings a database up to a schema: it makes what is missing and takes away what the
schema has no more. Where every statement stands after the ones it rests on, a script that is run
on a database of an earlier form can fail at one thing only, a unique index its rows do not
allow; and once it ran through, running it again changes nothing.
-/

namespace Tables

variable {Value : Type} [DecidableEq Value]

open Database (Advances Keeps Schema Want script)

/-- What the statements so far have seen to: the tables they made, and the columns they looked
after. -/
structure Ground where
  tables : List String := []
  columns : List (String × String) := []

/-- What they have seen to is there, and the rest of the database fits the schema. -/
structure Ground.Laid (schema : Schema Value) (g : Ground) (db : Database Value) : Prop where
  fits : ∀ p ∈ schema.wants, db.Fits p.1 p.2
  tables : ∀ name ∈ g.tables, ∀ columns, (name, Want.table columns) ∈ schema.wants →
    db.Has name (.table columns)
  columns : ∀ c ∈ g.columns, c.2 ∈ db.tableInfo c.1

namespace Statement

def after (g : Ground) : Statement Value → Ground
  | .createTable name _ => { g with tables := name :: g.tables }
  | .ensureColumn table column => { g with columns := (table, column) :: g.columns }
  | .createIndex .. => g
  | .dropIndex _ => g

/-- A statement does what the schema wants, and rests on what is seen to. -/
def Placed (schema : Schema Value) (g : Ground) : Statement Value → Prop
  | .createTable name columns =>
      ∃ base, (name, Want.table base) ∈ schema.wants ∧ ∀ c ∈ base, c ∈ columns
  | .createIndex name i =>
      (name, Want.index i) ∈ schema.wants ∧ i.table ∈ g.tables ∧
        ∃ base, (i.table, Want.table base) ∈ schema.wants ∧
          ∀ c ∈ i.columns, c ∈ base ∨ (i.table, c) ∈ g.columns
  | .ensureColumn table _ => table ∈ g.tables ∧ ∃ base, (table, Want.table base) ∈ schema.wants
  | .dropIndex name => ∀ p ∈ schema.wants, p.1 ≠ name

/-- What a statement is for. -/
def Done (schema : Schema Value) (db : Database Value) : Statement Value → Prop
  | .createTable name _ =>
      ∀ base, (name, Want.table base) ∈ schema.wants → db.Has name (.table base)
  | .createIndex name i => db.Has name (.index i)
  | .ensureColumn table column => column ∈ db.tableInfo table
  | .dropIndex name => ∀ i, db.entries name ≠ some (.index i)

variable {schema : Schema Value} {g : Ground} {db db' : Database Value} {st : Statement Value}

theorem Done.advances (h : st.Done schema db) (hplaced : st.Placed schema g)
    (hadvances : Advances schema db db') : st.Done schema db' := by
  cases st with
  | createTable name columns =>
      exact fun base hwant => hadvances.has _ hwant (h base hwant)
  | createIndex name i => exact hadvances.has _ hplaced.1 h
  | ensureColumn table column => exact hadvances.keeps.columns _ _ h
  | dropIndex name => exact fun i hi => h i (hadvances.stranger _ i hplaced hi)

end Statement

theorem Ground.Laid.advances {schema : Schema Value} {g : Ground} {db db' : Database Value}
    (h : g.Laid schema db) (hadvances : Advances schema db db') : g.Laid schema db' where
  fits := hadvances.fits h.fits
  tables name hname columns hwant := hadvances.has _ hwant (h.tables name hname columns hwant)
  columns c hc := hadvances.keeps.columns _ _ (h.columns c hc)

namespace Statement

variable {schema : Schema Value} {g : Ground} {db db' : Database Value} {st : Statement Value}

/-- A statement that is placed can fail only at an index its table's rows do not allow. -/
theorem exec_ok (hplaced : st.Placed schema g) (hlaid : g.Laid schema db)
    (hholds : ∀ name i, st = .createIndex name i → i.Holds (db.rows i.table)) :
    ∃ db', st.exec db = .ok db' := by
  cases st with
  | createTable name columns =>
      obtain ⟨base, hwant, hbase⟩ := hplaced
      obtain ⟨db', hok, -⟩ := Database.createTable_advances hwant (hlaid.fits _ hwant) hbase
      exact ⟨db', hok⟩
  | createIndex name i =>
      obtain ⟨hwant, hmade, base, htable, hcolumns⟩ := hplaced
      obtain ⟨t, ht, hbase⟩ := hlaid.tables _ hmade base htable
      refine Database.createIndex_ok (hlaid.fits _ hwant) ⟨t, ht, fun c hc => ?_⟩
        (hholds name i rfl)
      rcases hcolumns c hc with h | h
      · exact hbase c h
      · rw [← Database.tableInfo_of_table ht]
        exact hlaid.columns _ h
  | ensureColumn table column =>
      obtain ⟨hmade, base, hwant⟩ := hplaced
      obtain ⟨db', hok, -⟩ := Database.ensureColumn_advances column hwant
        (hlaid.tables _ hmade base hwant)
      exact ⟨db', hok⟩
  | dropIndex name =>
      have hdrop : ∃ db', db.dropIndex name = .ok db' ∧ Advances schema db db' ∧
          ∀ i, db'.entries name ≠ some (.index i) := Database.dropIndex_advances hplaced
      exact hdrop.imp fun _ h => h.1

theorem exec_done (hplaced : st.Placed schema g) (hlaid : g.Laid schema db)
    (h : st.exec db = .ok db') :
    Advances schema db db' ∧ st.Done schema db' ∧ (st.after g).Laid schema db' := by
  cases st with
  | createTable name columns =>
      obtain ⟨base, hwant, hbase⟩ := hplaced
      obtain ⟨made, hok, hadvances, hhas⟩ :=
        Database.createTable_advances hwant (hlaid.fits _ hwant) hbase
      obtain rfl : db' = made := Except.ok.inj (h.symm.trans hok)
      have hdone : ∀ base', (name, Want.table base') ∈ schema.wants →
          db'.Has name (.table base') := by
        intro base' hwant'
        rw [Database.want_unique schema hwant' hwant]
        exact hhas
      have hlaid' := hlaid.advances hadvances
      refine ⟨hadvances, hdone, hlaid'.fits, fun n hn => ?_, hlaid'.columns⟩
      rcases List.mem_cons.mp hn with rfl | hn
      · exact hdone
      · exact hlaid'.tables n hn
  | createIndex name i =>
      obtain ⟨hadvances, hhas⟩ := Database.advances_of_createIndex hplaced.1
        (hlaid.fits _ hplaced.1) h
      exact ⟨hadvances, hhas, hlaid.advances hadvances⟩
  | ensureColumn table column =>
      obtain ⟨hmade, base, hwant⟩ := hplaced
      obtain ⟨made, hok, hadvances, hinfo⟩ := Database.ensureColumn_advances column hwant
        (hlaid.tables _ hmade base hwant)
      obtain rfl : db' = made := Except.ok.inj (h.symm.trans hok)
      have hlaid' := hlaid.advances hadvances
      exact ⟨hadvances, hinfo, hlaid'.fits, hlaid'.tables,
        List.forall_mem_cons.mpr ⟨hinfo, hlaid'.columns⟩⟩
  | dropIndex name =>
      obtain ⟨made, hok, hadvances, hgone⟩ : ∃ db', db.dropIndex name = .ok db' ∧
          Advances schema db db' ∧ ∀ i, db'.entries name ≠ some (.index i) :=
        Database.dropIndex_advances hplaced
      obtain rfl : db' = made := Except.ok.inj (h.symm.trans hok)
      exact ⟨hadvances, hgone, hlaid.advances hadvances⟩

theorem exec_of_done (hplaced : st.Placed schema g) (h : st.Done schema db) :
    st.exec db = .ok db := by
  cases st with
  | createTable name columns =>
      obtain ⟨base, hwant, -⟩ := hplaced
      obtain ⟨t, ht, -⟩ := h base hwant
      exact Database.createTable_of_table ht columns
  | createIndex name i => exact Database.createIndex_of_index h
  | ensureColumn table column => exact if_pos h
  | dropIndex name => exact Database.dropIndex_of_not h

end Statement

/-! ## Scripts -/

def Lawful (schema : Schema Value) : Ground → List (Statement Value) → Prop
  | _, [] => True
  | g, st :: rest => st.Placed schema g ∧ Lawful schema (st.after g) rest

variable {schema : Schema Value} {g : Ground} {db : Database Value}

theorem script_ok {sts : List (Statement Value)} (hlawful : Lawful schema g sts)
    (hlaid : g.Laid schema db)
    (hholds : ∀ name i, Statement.createIndex name i ∈ sts → i.Holds (db.rows i.table)) :
    (script sts db).1 = none := by
  induction sts generalizing g db with
  | nil => rfl
  | cons st rest ih =>
      obtain ⟨hplaced, hrest⟩ := hlawful
      obtain ⟨db', hok⟩ := Statement.exec_ok hplaced hlaid
        (fun name i hst => hholds name i (hst ▸ List.mem_cons_self ..))
      obtain ⟨hadvances, -, hlaid'⟩ := Statement.exec_done hplaced hlaid hok
      rw [script, hok]
      refine ih hrest hlaid' fun name i hmem => ?_
      rw [hadvances.keeps.rows]
      exact hholds name i (List.mem_cons_of_mem _ hmem)

theorem script_done {sts : List (Statement Value)} (hlawful : Lawful schema g sts)
    (hlaid : g.Laid schema db) (h : (script sts db).1 = none) :
    Advances schema db (script sts db).2 ∧ ∀ st ∈ sts, st.Done schema (script sts db).2 := by
  induction sts generalizing g db with
  | nil => exact ⟨.refl db, nofun⟩
  | cons st rest ih =>
      obtain ⟨hplaced, hrest⟩ := hlawful
      rw [script] at h ⊢
      cases hexec : st.exec db with
      | error e =>
          rw [hexec] at h
          cases h
      | ok db' =>
          rw [hexec] at h
          obtain ⟨hadvances, hdone, hlaid'⟩ := Statement.exec_done hplaced hlaid hexec
          obtain ⟨hadvances', hdone'⟩ := ih hrest hlaid' h
          exact ⟨hadvances.trans hadvances',
            List.forall_mem_cons.mpr ⟨hdone.advances hplaced hadvances', hdone'⟩⟩

theorem script_of_done {sts : List (Statement Value)} (hlawful : Lawful schema g sts)
    (hdone : ∀ st ∈ sts, st.Done schema db) : script sts db = (none, db) := by
  induction sts generalizing g with
  | nil => rfl
  | cons st rest ih =>
      obtain ⟨hst, hrest⟩ := List.forall_mem_cons.mp hdone
      rw [script, Statement.exec_of_done hlawful.1 hst]
      exact ih hlawful.2 hrest

/-- What a run of a script comes to. The rows stay. It runs through just if the rows allow every
index it makes, and then all it is for is done, and a second run changes nothing. -/
theorem script_migrates {sts : List (Statement Value)} (hlawful : Lawful schema {} sts)
    (hfits : ∀ p ∈ schema.wants, db.Fits p.1 p.2) :
    Keeps db (script sts db).2 ∧
    ((script sts db).1 = none ↔
      ∀ name i, Statement.createIndex name i ∈ sts → i.Holds (db.rows i.table)) ∧
    ((script sts db).1 = none → (∀ st ∈ sts, st.Done schema (script sts db).2) ∧
      script sts (script sts db).2 = (none, (script sts db).2)) := by
  have hlaid : ({} : Ground).Laid schema db := ⟨hfits, nofun, nofun⟩
  have hkeeps := Database.script_keeps sts db
  refine ⟨hkeeps, ⟨fun h name i hmem => ?_, script_ok hlawful hlaid⟩, fun h => ?_⟩
  · have hhas := (script_done hlawful hlaid h).2 _ hmem
    obtain ⟨t, ht, -, hholds⟩ := (script sts db).2.indexed hhas
    rw [← hkeeps.rows, Database.rows_of_table ht]
    exact hholds
  · have hdone := (script_done hlawful hlaid h).2
    exact ⟨hdone, script_of_done hlawful hdone⟩

end Tables
