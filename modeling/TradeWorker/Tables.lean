import Mathlib.Data.List.Nodup
import Mathlib.Data.List.Pairwise
import Mathlib.Logic.Function.Basic

/-!
# Tables and their indexes

A database maps names to tables and indexes. An index looks at the rows of its table, and a
unique one allows no two of them the same key; both are fields of the database, so that one whose
index does not fit its table cannot be built. The statements here are those that change a schema:
each is refused or done whole, and none touches the rows there are.
-/

namespace Tables

variable {Value : Type} [DecidableEq Value]

/-- The value of each column, `none` for NULL. -/
abbrev Row (Value : Type) : Type := String → Option Value

/-- A column, or `COALESCE` of a column and a value. -/
inductive KeyExpr (Value : Type) where
  | column (name : String)
  | coalesce (name : String) (default : Value)

namespace KeyExpr

def name : KeyExpr Value → String
  | .column name => name
  | .coalesce name _ => name

def eval (r : Row Value) : KeyExpr Value → Option Value
  | .column name => r name
  | .coalesce name default => some ((r name).getD default)

end KeyExpr

/-- The rows a partial index looks at. -/
inductive Filter (Value : Type) where
  | all
  | notNull (column : String)
  | oneOf (column : String) (values : List Value)

namespace Filter

def columns : Filter Value → List String
  | .all => []
  | .notNull column => [column]
  | .oneOf column _ => [column]

def admits (r : Row Value) : Filter Value → Bool
  | .all => true
  | .notNull column => (r column).isSome
  | .oneOf column values => (r column).any fun v => decide (v ∈ values)

end Filter

structure Index (Value : Type) where
  table : String
  unique : Bool := false
  keys : List (KeyExpr Value)
  filter : Filter Value := .all

namespace Index

variable (i : Index Value)

def columns : List String := i.keys.map KeyExpr.name ++ i.filter.columns

def key (r : Row Value) : Option (List Value) := i.keys.mapM (KeyExpr.eval r)

/-- Two rows the index looks at have one key. -/
def Clash (r r' : Row Value) : Prop :=
  i.filter.admits r = true ∧ i.filter.admits r' = true ∧ ∃ k, i.key r = some k ∧ i.key r' = some k

instance (r r' : Row Value) : Decidable (i.Clash r r') :=
  decidable_of_iff
    (i.filter.admits r = true ∧ i.filter.admits r' = true ∧
      (i.key r).isSome = true ∧ i.key r = i.key r') (by
    unfold Clash
    constructor
    · rintro ⟨hr, hr', hsome, heq⟩
      obtain ⟨k, hk⟩ := Option.isSome_iff_exists.mp hsome
      exact ⟨hr, hr', k, hk, heq.symm.trans hk⟩
    · rintro ⟨hr, hr', k, hk, hk'⟩
      exact ⟨hr, hr', by rw [hk]; rfl, hk.trans hk'.symm⟩)

/-- A unique index finds no two rows with one key. -/
def Holds (rows : List (Row Value)) : Prop :=
  i.unique = true → rows.Pairwise fun r r' => ¬i.Clash r r'

instance (rows : List (Row Value)) : Decidable (i.Holds rows) :=
  inferInstanceAs (Decidable (i.unique = true → _))

end Index

structure Table (Value : Type) where
  columns : List String
  rows : List (Row Value) := []

inductive Entry (Value : Type) where
  | table (t : Table Value)
  | index (i : Index Value)

/-- An index is of a table that has its columns, and holds there. -/
structure Database (Value : Type) [DecidableEq Value] where
  entries : String → Option (Entry Value)
  indexed : ∀ {name i}, entries name = some (.index i) →
    ∃ t, entries i.table = some (.table t) ∧ (∀ c ∈ i.columns, c ∈ t.columns) ∧ i.Holds t.rows

inductive SchemaError where
  | nameTaken (name : String)
  | noSuchTable (name : String)
  | noSuchColumn (name : String)
  | duplicateColumn (name : String)
  | uniqueFailed (name : String)
  deriving DecidableEq, Repr

namespace Database

variable (db : Database Value)

/-- `PRAGMA table_info`: the columns of a table. -/
def tableInfo (name : String) : List String :=
  match db.entries name with
  | some (.table t) => t.columns
  | _ => []

def rows (name : String) : List (Row Value) :=
  match db.entries name with
  | some (.table t) => t.rows
  | _ => []

variable {db} in
theorem tableInfo_of_table {name : String} {t : Table Value}
    (h : db.entries name = some (.table t)) : db.tableInfo name = t.columns := by
  rw [tableInfo, h]

variable {db} in
theorem rows_of_table {name : String} {t : Table Value}
    (h : db.entries name = some (.table t)) : db.rows name = t.rows := by
  rw [rows, h]

/-! ## Statements -/

theorem indexed_addTable {name : String} (hnew : db.entries name = none) (t : Table Value)
    {n : String} {i : Index Value}
    (h : Function.update db.entries name (some (.table t)) n = some (.index i)) :
    ∃ t', Function.update db.entries name (some (.table t)) i.table = some (.table t') ∧
      (∀ c ∈ i.columns, c ∈ t'.columns) ∧ i.Holds t'.rows := by
  by_cases hn : n = name
  · subst hn
    rw [Function.update_self] at h
    cases h
  · rw [Function.update_of_ne hn] at h
    obtain ⟨t', ht', hfits⟩ := db.indexed h
    have hne : i.table ≠ name := by
      rintro rfl
      rw [hnew] at ht'
      cases ht'
    exact ⟨t', by rw [Function.update_of_ne hne]; exact ht', hfits⟩

def addTable {name : String} (hnew : db.entries name = none) (t : Table Value) :
    Database Value where
  entries := Function.update db.entries name (some (.table t))
  indexed := db.indexed_addTable hnew t

/-- `CREATE TABLE IF NOT EXISTS`. -/
def createTable (name : String) (columns : List String) : Except SchemaError (Database Value) :=
  match hname : db.entries name with
  | some (.table _) => .ok db
  | some (.index _) => .error (.nameTaken name)
  | none => .ok (db.addTable hname { columns })

theorem indexed_addIndex {name : String} (hnew : db.entries name = none) {i : Index Value}
    {t : Table Value} (ht : db.entries i.table = some (.table t))
    (hcolumns : ∀ c ∈ i.columns, c ∈ t.columns) (hholds : i.Holds t.rows) {n : String}
    {j : Index Value} (h : Function.update db.entries name (some (.index i)) n = some (.index j)) :
    ∃ t', Function.update db.entries name (some (.index i)) j.table = some (.table t') ∧
      (∀ c ∈ j.columns, c ∈ t'.columns) ∧ j.Holds t'.rows := by
  have hkept : ∀ {table : String} {t : Table Value}, db.entries table = some (.table t) →
      Function.update db.entries name (some (.index i)) table = some (.table t) := by
    intro table t ht
    have hne : table ≠ name := by
      rintro rfl
      rw [hnew] at ht
      cases ht
    rwa [Function.update_of_ne hne]
  by_cases hn : n = name
  · subst hn
    rw [Function.update_self] at h
    cases h
    exact ⟨t, hkept ht, hcolumns, hholds⟩
  · rw [Function.update_of_ne hn] at h
    obtain ⟨t', ht', hfits⟩ := db.indexed h
    exact ⟨t', hkept ht', hfits⟩

def addIndex {name : String} (hnew : db.entries name = none) {i : Index Value} {t : Table Value}
    (ht : db.entries i.table = some (.table t)) (hcolumns : ∀ c ∈ i.columns, c ∈ t.columns)
    (hholds : i.Holds t.rows) : Database Value where
  entries := Function.update db.entries name (some (.index i))
  indexed := db.indexed_addIndex hnew ht hcolumns hholds

/-- `CREATE INDEX IF NOT EXISTS`, with `UNIQUE` where the index is. -/
def createIndex (name : String) (i : Index Value) : Except SchemaError (Database Value) :=
  match hname : db.entries name with
  | some (.index _) => .ok db
  | some (.table _) => .error (.nameTaken name)
  | none =>
      match ht : db.entries i.table with
      | some (.table t) =>
          if hcolumns : ∀ c ∈ i.columns, c ∈ t.columns then
            if hholds : i.Holds t.rows then .ok (db.addIndex hname ht hcolumns hholds)
            else .error (.uniqueFailed name)
          else .error (.noSuchColumn name)
      | _ => .error (.noSuchTable i.table)

theorem indexed_dropIndex {name : String} {i : Index Value}
    (hname : db.entries name = some (.index i)) {n : String} {j : Index Value}
    (h : Function.update db.entries name none n = some (.index j)) :
    ∃ t', Function.update db.entries name none j.table = some (.table t') ∧
      (∀ c ∈ j.columns, c ∈ t'.columns) ∧ j.Holds t'.rows := by
  by_cases hn : n = name
  · subst hn
    rw [Function.update_self] at h
    cases h
  · rw [Function.update_of_ne hn] at h
    obtain ⟨t', ht', hfits⟩ := db.indexed h
    have hne : j.table ≠ name := by
      rintro rfl
      rw [hname] at ht'
      cases ht'
    exact ⟨t', by rw [Function.update_of_ne hne]; exact ht', hfits⟩

def removeIndex {name : String} {i : Index Value} (hname : db.entries name = some (.index i)) :
    Database Value where
  entries := Function.update db.entries name none
  indexed := db.indexed_dropIndex hname

/-- `DROP INDEX IF EXISTS`. -/
def dropIndex (name : String) : Except SchemaError (Database Value) :=
  match hname : db.entries name with
  | some (.index _) => .ok (db.removeIndex hname)
  | _ => .ok db

theorem indexed_addColumn {name : String} {t : Table Value}
    (hname : db.entries name = some (.table t)) (column : String) {n : String} {i : Index Value}
    (h : Function.update db.entries name
      (some (.table { t with columns := t.columns ++ [column] })) n = some (.index i)) :
    ∃ t', Function.update db.entries name
        (some (.table { t with columns := t.columns ++ [column] })) i.table = some (.table t') ∧
      (∀ c ∈ i.columns, c ∈ t'.columns) ∧ i.Holds t'.rows := by
  by_cases hn : n = name
  · subst hn
    rw [Function.update_self] at h
    cases h
  · rw [Function.update_of_ne hn] at h
    obtain ⟨t', ht', hcolumns, hholds⟩ := db.indexed h
    by_cases htable : i.table = name
    · rw [htable, hname] at ht'
      cases ht'
      exact ⟨{ t with columns := t.columns ++ [column] },
        by rw [htable, Function.update_self],
        fun c hc => List.mem_append_left _ (hcolumns c hc), hholds⟩
    · exact ⟨t', by rw [Function.update_of_ne htable]; exact ht', hcolumns, hholds⟩

def widenTable {name : String} {t : Table Value} (hname : db.entries name = some (.table t))
    (column : String) : Database Value where
  entries := Function.update db.entries name
    (some (.table { t with columns := t.columns ++ [column] }))
  indexed := db.indexed_addColumn hname column

/-- `ALTER TABLE … ADD COLUMN`, without a default. -/
def addColumn (name column : String) : Except SchemaError (Database Value) :=
  match hname : db.entries name with
  | some (.table t) =>
      if column ∈ t.columns then .error (.duplicateColumn column)
      else .ok (db.widenTable hname column)
  | _ => .error (.noSuchTable name)

/-- `PRAGMA table_info`, and `ALTER TABLE` where it does not list the column. -/
def ensureColumn (name column : String) : Except SchemaError (Database Value) :=
  if column ∈ db.tableInfo name then .ok db else db.addColumn name column

/-! ## What a schema wants -/

/-- At a name: a table that has some columns, or an index. -/
inductive Want (Value : Type) where
  | table (columns : List String)
  | index (i : Index Value)

def Has (name : String) : Want Value → Prop
  | .table columns => ∃ t, db.entries name = some (.table t) ∧ ∀ c ∈ columns, c ∈ t.columns
  | .index i => db.entries name = some (.index i)

def Fits (name : String) (want : Want Value) : Prop := db.entries name = none ∨ db.Has name want

/-- What is wanted at each name. -/
structure Schema (Value : Type) where
  wants : List (String × Want Value)
  distinct : (wants.map Prod.fst).Nodup

variable {db}

omit [DecidableEq Value] in
theorem want_unique (schema : Schema Value) {name : String} {w w' : Want Value}
    (h : (name, w) ∈ schema.wants) (h' : (name, w') ∈ schema.wants) : w = w' := by
  have heq := List.inj_on_of_nodup_map schema.distinct h h' rfl
  exact congrArg Prod.snd heq

/-- The tables keep their rows and their columns, and what comes new has none. -/
structure Keeps (db db' : Database Value) : Prop where
  rows : ∀ name, db'.rows name = db.rows name
  columns : ∀ name, ∀ c ∈ db.tableInfo name, c ∈ db'.tableInfo name

/-- A step towards a schema: the tables keep what they have, what is there stays, and nothing
that does not fit comes to be, nor an index that is not wanted. -/
structure Advances (schema : Schema Value) (db db' : Database Value) : Prop where
  keeps : Keeps db db'
  has : ∀ p ∈ schema.wants, db.Has p.1 p.2 → db'.Has p.1 p.2
  fits : (∀ p ∈ schema.wants, db.Fits p.1 p.2) → ∀ p ∈ schema.wants, db'.Fits p.1 p.2
  stranger : ∀ name i, (∀ p ∈ schema.wants, p.1 ≠ name) →
    db'.entries name = some (.index i) → db.entries name = some (.index i)

variable {schema : Schema Value} {db₁ db₂ db₃ : Database Value}

theorem Keeps.refl (db : Database Value) : Keeps db db := ⟨fun _ => rfl, fun _ _ hc => hc⟩

theorem Keeps.trans (h : Keeps db₁ db₂) (h' : Keeps db₂ db₃) : Keeps db₁ db₃ :=
  ⟨fun name => (h'.rows name).trans (h.rows name),
    fun name c hc => h'.columns name c (h.columns name c hc)⟩

theorem Advances.refl (db : Database Value) : Advances schema db db :=
  ⟨Keeps.refl db, fun _ _ h => h, fun h => h, fun _ _ _ h => h⟩

theorem Advances.trans (h : Advances schema db₁ db₂) (h' : Advances schema db₂ db₃) :
    Advances schema db₁ db₃ :=
  ⟨h.keeps.trans h'.keeps, fun p hp hhas => h'.has p hp (h.has p hp hhas),
    fun hfits => h'.fits (h.fits hfits),
    fun name i hunwanted hi => h.stranger name i hunwanted (h'.stranger name i hunwanted hi)⟩

theorem has_congr {name : String} {w : Want Value} (h : db₂.entries name = db₁.entries name) :
    db₂.Has name w ↔ db₁.Has name w := by
  cases w <;> simp only [Has, h]

theorem fits_congr {name : String} {w : Want Value} (h : db₂.entries name = db₁.entries name) :
    db₂.Fits name w ↔ db₁.Fits name w := by
  rw [Fits, Fits, h, has_congr h]

theorem Keeps.of_update {name : String} {e : Option (Entry Value)}
    (hentries : db₂.entries = Function.update db₁.entries name e)
    (hrows : db₂.rows name = db₁.rows name)
    (hcolumns : ∀ c ∈ db₁.tableInfo name, c ∈ db₂.tableInfo name) : Keeps db₁ db₂ := by
  have hother : ∀ n, n ≠ name → db₂.entries n = db₁.entries n := fun n hn => by
    rw [hentries, Function.update_of_ne hn]
  refine ⟨fun n => ?_, fun n c hc => ?_⟩
  · by_cases hn : n = name
    · rw [hn]
      exact hrows
    · simp only [Database.rows, hother n hn]
  · by_cases hn : n = name
    · subst hn
      exact hcolumns c hc
    · rw [tableInfo, hother n hn]
      exact hc

/-- A change at one name, to something that is wanted there. -/
theorem Advances.of_update {name : String} {want : Want Value} {e : Option (Entry Value)}
    (hwant : (name, want) ∈ schema.wants)
    (hentries : db₂.entries = Function.update db₁.entries name e) (hhas : db₂.Has name want)
    (hkeeps : Keeps db₁ db₂) : Advances schema db₁ db₂ := by
  have hother : ∀ n, n ≠ name → db₂.entries n = db₁.entries n := fun n hn => by
    rw [hentries, Function.update_of_ne hn]
  refine ⟨hkeeps, ?_, ?_, fun n i hunwanted hi => ?_⟩
  · rintro ⟨n, w⟩ hp h
    by_cases hn : n = name
    · subst hn
      rw [want_unique schema hp hwant]
      exact hhas
    · exact (has_congr (hother n hn)).mpr h
  · rintro hfits ⟨n, w⟩ hp
    by_cases hn : n = name
    · subst hn
      rw [want_unique schema hp hwant]
      exact Or.inr hhas
    · exact (fits_congr (hother n hn)).mpr (hfits (n, w) hp)
  · rw [← hother n fun heq => hunwanted _ hwant heq.symm]
    exact hi

section Kept

variable {name : String}

theorem addTable_keeps (hnew : db.entries name = none) (columns : List String) :
    Keeps db (db.addTable hnew { columns }) := by
  refine .of_update rfl ?_ fun c hc => ?_
  · rw [rows_of_table (t := { columns }) (Function.update_self ..), rows, hnew]
  · rw [tableInfo, hnew] at hc
    cases hc

theorem addIndex_keeps (hnew : db.entries name = none) {i : Index Value} {t : Table Value}
    (ht : db.entries i.table = some (.table t)) (hcolumns : ∀ c ∈ i.columns, c ∈ t.columns)
    (hholds : i.Holds t.rows) : Keeps db (db.addIndex hnew ht hcolumns hholds) := by
  have hindex : (db.addIndex hnew ht hcolumns hholds).entries name = some (.index i) :=
    Function.update_self ..
  refine .of_update rfl ?_ fun c hc => ?_
  · rw [rows, rows, hindex, hnew]
  · rw [tableInfo, hnew] at hc
    cases hc

theorem removeIndex_keeps {i : Index Value} (hname : db.entries name = some (.index i)) :
    Keeps db (db.removeIndex hname) := by
  have hgone : (db.removeIndex hname).entries name = none := Function.update_self ..
  refine .of_update rfl ?_ fun c hc => ?_
  · rw [rows, rows, hgone, hname]
  · rw [tableInfo, hname] at hc
    cases hc

theorem widenTable_keeps {t : Table Value} (hname : db.entries name = some (.table t))
    (column : String) : Keeps db (db.widenTable hname column) := by
  have hwide : (db.widenTable hname column).entries name =
      some (.table { t with columns := t.columns ++ [column] }) := Function.update_self ..
  refine .of_update rfl ?_ fun c hc => ?_
  · rw [rows_of_table hwide, rows_of_table hname]
  · rw [tableInfo_of_table hname] at hc
    rw [tableInfo_of_table hwide]
    exact List.mem_append_left _ hc

theorem createTable_keeps {columns : List String} (h : db₁.createTable name columns = .ok db₂) :
    Keeps db₁ db₂ := by
  unfold createTable at h
  split at h
  · cases h
    exact .refl _
  · cases h
  · cases h
    exact addTable_keeps _ columns

theorem createIndex_keeps {i : Index Value} (h : db₁.createIndex name i = .ok db₂) :
    Keeps db₁ db₂ := by
  unfold createIndex at h
  split at h
  · cases h
    exact .refl _
  · cases h
  split at h
  · split at h
    · split at h
      · cases h
        exact addIndex_keeps ..
      · cases h
    · cases h
  · cases h

theorem dropIndex_keeps (h : db₁.dropIndex name = .ok db₂) : Keeps db₁ db₂ := by
  unfold dropIndex at h
  split at h
  · cases h
    exact removeIndex_keeps _
  · cases h
    exact .refl _

theorem addColumn_keeps {column : String} (h : db₁.addColumn name column = .ok db₂) :
    Keeps db₁ db₂ := by
  unfold addColumn at h
  split at h
  · split at h
    · cases h
    · cases h
      exact widenTable_keeps _ column
  · cases h

theorem ensureColumn_keeps {column : String} (h : db₁.ensureColumn name column = .ok db₂) :
    Keeps db₁ db₂ := by
  unfold ensureColumn at h
  split at h
  · cases h
    exact .refl _
  · exact addColumn_keeps h

end Kept

section Statements

variable {name : String}

theorem createTable_of_table {t : Table Value} (ht : db.entries name = some (.table t))
    (columns : List String) : db.createTable name columns = .ok db := by
  unfold createTable
  split
  · rfl
  · rename_i h
    cases ht.symm.trans h
  · rename_i h
    cases ht.symm.trans h

theorem createTable_of_none (hnone : db.entries name = none) (columns : List String) :
    db.createTable name columns = .ok (db.addTable hnone { columns }) := by
  unfold createTable
  split
  · rename_i h
    cases hnone.symm.trans h
  · rename_i h
    cases hnone.symm.trans h
  · rfl

/-- A wanted table is made, or is there. -/
theorem createTable_advances {base columns : List String}
    (hwant : (name, .table base) ∈ schema.wants) (hfits : db.Fits name (.table base))
    (hbase : ∀ c ∈ base, c ∈ columns) : ∃ db', db.createTable name columns = .ok db' ∧
      Advances schema db db' ∧ db'.Has name (.table base) := by
  rcases hfits with hnone | ⟨t, ht, hcolumns⟩
  · have hhas : (db.addTable hnone { columns }).Has name (.table base) :=
      ⟨_, Function.update_self .., hbase⟩
    exact ⟨_, createTable_of_none hnone columns,
      .of_update hwant rfl hhas (addTable_keeps hnone columns), hhas⟩
  · exact ⟨db, createTable_of_table ht columns, .refl db, t, ht, hcolumns⟩

theorem createIndex_of_index {i j : Index Value} (h : db.entries name = some (.index j)) :
    db.createIndex name i = .ok db := by
  unfold createIndex
  split
  · rfl
  · rename_i h'
    cases h.symm.trans h'
  · rename_i h'
    cases h.symm.trans h'

/-- A wanted index that is made is there. -/
theorem advances_of_createIndex {i : Index Value} (hwant : (name, .index i) ∈ schema.wants)
    (hfits : db.Fits name (.index i)) {db' : Database Value}
    (h : db.createIndex name i = .ok db') :
    Advances schema db db' ∧ db'.Has name (.index i) := by
  rcases hfits with hnone | hindex
  · unfold createIndex at h
    split at h
    · rename_i h'
      cases hnone.symm.trans h'
    · cases h
    split at h
    · split at h
      · split at h
        · rename_i t ht hcolumns hholds
          cases h
          have hhas : (db.addIndex hnone ht hcolumns hholds).Has name (.index i) :=
            Function.update_self ..
          exact ⟨.of_update hwant rfl hhas (addIndex_keeps hnone ht hcolumns hholds), hhas⟩
        · cases h
      · cases h
    · cases h
  · rw [createIndex_of_index hindex] at h
    cases h
    exact ⟨.refl db, hindex⟩

/-- A wanted index can be made where its table has its columns and its rows allow it. -/
theorem createIndex_ok {i : Index Value} (hfits : db.Fits name (.index i))
    (htable : db.Has i.table (.table i.columns)) (hholds : i.Holds (db.rows i.table)) :
    ∃ db', db.createIndex name i = .ok db' := by
  rcases hfits with hnone | hindex
  · obtain ⟨t, ht, hcolumns⟩ := htable
    rw [rows_of_table ht] at hholds
    unfold createIndex
    split
    · exact ⟨_, rfl⟩
    · rename_i h
      cases hnone.symm.trans h
    split
    · rename_i t' ht'
      obtain rfl : t = t' := by
        cases ht.symm.trans ht'
        rfl
      rw [dif_pos hcolumns, dif_pos hholds]
      exact ⟨_, rfl⟩
    · rename_i hno
      exact absurd ht (hno t)
  · exact ⟨db, createIndex_of_index hindex⟩

theorem dropIndex_of_not (h : ∀ i, db.entries name ≠ some (.index i)) :
    db.dropIndex name = .ok db := by
  unfold dropIndex
  split
  · rename_i i hi
    exact absurd hi (h i)
  · rfl

/-- An index no schema wants goes, and nothing else does. -/
theorem dropIndex_advances (hunwanted : ∀ p ∈ schema.wants, p.1 ≠ name) :
    ∃ db', db.dropIndex name = .ok db' ∧ Advances schema db db' ∧
      ∀ i, db'.entries name ≠ some (.index i) := by
  by_cases hindex : ∃ i, db.entries name = some (.index i)
  · obtain ⟨i, hi⟩ := hindex
    have hgone : (db.removeIndex hi).entries name = none := Function.update_self ..
    have hother : ∀ n, n ≠ name → (db.removeIndex hi).entries n = db.entries n :=
      fun n hn => Function.update_of_ne hn ..
    refine ⟨db.removeIndex hi, ?_, ⟨removeIndex_keeps hi, ?_, ?_, ?_⟩, fun j hj => ?_⟩
    · unfold dropIndex
      split
      · rfl
      · rename_i hno
        exact absurd hi (hno i)
    · exact fun p hp h => (has_congr (hother p.1 (hunwanted p hp))).mpr h
    · exact fun hfits p hp => (fits_congr (hother p.1 (hunwanted p hp))).mpr (hfits p hp)
    · intro n j _ hj
      by_cases hn : n = name
      · subst hn
        cases hgone.symm.trans hj
      · rw [← hother n hn]
        exact hj
    · cases hgone.symm.trans hj
  · have hno : ∀ i, db.entries name ≠ some (.index i) := fun i hi => hindex ⟨i, hi⟩
    exact ⟨db, dropIndex_of_not hno, .refl db, hno⟩

/-- A column is there, or is added to a wanted table. -/
theorem ensureColumn_advances {base : List String} (column : String)
    (hwant : (name, .table base) ∈ schema.wants) (hhas : db.Has name (.table base)) :
    ∃ db', db.ensureColumn name column = .ok db' ∧ Advances schema db db' ∧
      column ∈ db'.tableInfo name := by
  obtain ⟨t, ht, hcolumns⟩ := hhas
  unfold ensureColumn
  split
  · rename_i h
    exact ⟨db, rfl, .refl db, h⟩
  rename_i hnew
  rw [tableInfo_of_table ht] at hnew
  have hwide : (db.widenTable ht column).entries name =
      some (.table { t with columns := t.columns ++ [column] }) := Function.update_self ..
  refine ⟨db.widenTable ht column, ?_, ?_, ?_⟩
  · unfold addColumn
    split
    · rename_i t' ht'
      obtain rfl : t = t' := by
        cases ht.symm.trans ht'
        rfl
      rw [if_neg hnew]
    · rename_i hno
      exact absurd ht (hno t)
  · exact .of_update hwant rfl ⟨_, hwide, fun c hc => List.mem_append_left _ (hcolumns c hc)⟩
      (widenTable_keeps ht column)
  · rw [tableInfo_of_table hwide]
    exact List.mem_append_right _ (List.mem_singleton_self _)

end Statements

end Database

/-! ## Scripts -/

inductive Statement (Value : Type) where
  | createTable (name : String) (columns : List String)
  | createIndex (name : String) (i : Index Value)
  | ensureColumn (table column : String)
  | dropIndex (name : String)

namespace Statement

def exec (db : Database Value) : Statement Value → Except SchemaError (Database Value)
  | .createTable name columns => db.createTable name columns
  | .createIndex name i => db.createIndex name i
  | .ensureColumn table column => db.ensureColumn table column
  | .dropIndex name => db.dropIndex name

theorem exec_keeps {st : Statement Value} {db db' : Database Value} (h : st.exec db = .ok db') :
    Database.Keeps db db' := by
  cases st with
  | createTable name columns => exact Database.createTable_keeps h
  | createIndex name i => exact Database.createIndex_keeps h
  | ensureColumn table column => exact Database.ensureColumn_keeps h
  | dropIndex name => exact Database.dropIndex_keeps h

end Statement

namespace Database

/-- Statements one after the other, each committed by itself: what stops them, and the database
they leave. -/
def script : List (Statement Value) → Database Value → Option SchemaError × Database Value
  | [], db => (none, db)
  | st :: rest, db =>
      match st.exec db with
      | .ok db' => script rest db'
      | .error e => (some e, db)

/-- No rows are lost by a script, even if it stops. -/
theorem script_keeps (sts : List (Statement Value)) (db : Database Value) :
    Keeps db (script sts db).2 := by
  induction sts generalizing db with
  | nil => exact .refl db
  | cons st rest ih =>
      rw [script]
      split
      · rename_i db' hok
        exact (Statement.exec_keeps hok).trans (ih db')
      · exact .refl db

end Database

end Tables
