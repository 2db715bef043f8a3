/-
# Tables, indexes and the statements that change them

A database is a set of named tables with columns and rows, and indexes over them.  The
statements are those of a schema and of its migrations; each succeeds or raises.

What a statement does to the columns depends on the columns alone, so a list of statements can be
followed on the columns (`Shape`), whatever the rows are: a run that goes through is followed
(`run_matches`), and where the rows fit, a run that can be followed goes through (`run_ok`).
-/
import Mathlib.Data.List.Nodup
import Mathlib.Data.Option.Basic
import Mathlib.Logic.Function.Basic
import Mathlib.Tactic.Common

namespace SqlSchema

/-! ## Databases -/

/-- The value of a column. -/
inductive Value where
  | null
  | text (s : String)
  | integer (n : Int)
  deriving DecidableEq, Repr

/-- The values of a row by the names of their columns. -/
abbrev Record := String → Value

/-- A table; a row has no value outside of the columns. -/
structure Table where
  columns : List String
  rows : List Record
  null_outside : ∀ r ∈ rows, ∀ c, c ∉ columns → r c = .null

/-- No two rows have the same values in the columns, where none of these is null. -/
def Table.Distinct (t : Table) (columns : List String) : Prop :=
  t.rows.Pairwise (fun r r' => ¬ ∀ c ∈ columns, r c ≠ .null ∧ r c = r' c)

instance (t : Table) (columns : List String) : Decidable (t.Distinct columns) :=
  inferInstanceAs (Decidable (List.Pairwise _ _))

/-- An index of a table. -/
structure Index where
  name : String
  table : String
  columns : List String
  unique : Bool
  deriving DecidableEq, Repr

/-- A foreign key of one column. -/
structure ForeignKey where
  name : String
  table : String
  column : String
  refTable : String
  refColumn : String
  deriving DecidableEq, Repr

/-- The tables with their rows, the indexes and the foreign keys. -/
structure Database where
  tables : String → Option Table
  indexes : List Index
  foreignKeys : List ForeignKey

namespace Table

/-- A table without rows. -/
def empty (columns : List String) : Table where
  columns := columns
  rows := []
  null_outside _ h := absurd h List.not_mem_nil

/-- The rows have no value in a new column. -/
def addColumn (t : Table) (column : String) : Table where
  columns := t.columns ++ [column]
  rows := t.rows
  null_outside r hr c hc := t.null_outside r hr c (fun h => hc (List.mem_append_left _ h))

/-- A row whose value in a column is empty takes the value of another column. -/
def fillRow (column source : String) (r : Record) : Record :=
  if r column = .null ∨ r column = .text "" then Function.update r column (r source) else r

/-- The empty values of a column are filled. -/
def fill (t : Table) (column source : String) (h : column ∈ t.columns) : Table where
  columns := t.columns
  rows := t.rows.map (fillRow column source)
  null_outside := by
    intro r hr c hc
    obtain ⟨r₀, hr₀, rfl⟩ := List.mem_map.mp hr
    unfold fillRow
    split
    · rw [Function.update_of_ne (fun hcol : c = column => hc (hcol ▸ h))]
      exact t.null_outside r₀ hr₀ c hc
    · exact t.null_outside r₀ hr₀ c hc

/-- The row with the given values. -/
def record (values : List (String × Value)) : Record :=
  fun c => ((values.find? (fun p => p.1 = c)).map Prod.snd).getD .null

/-- A row is added. -/
def insert (t : Table) (values : List (String × Value))
    (h : ∀ c ∈ values.map Prod.fst, c ∈ t.columns) : Table where
  columns := t.columns
  rows := t.rows ++ [record values]
  null_outside := by
    intro r hr c hc
    rcases List.mem_append.mp hr with hr | hr
    · exact t.null_outside r hr c hc
    · rw [List.mem_singleton.mp hr]
      unfold record
      cases hv : values.find? (fun p => p.1 = c) with
      | none => rfl
      | some p =>
        have hname := List.find?_some hv
        have hcol := h p.1 (List.mem_map_of_mem (List.mem_of_find?_eq_some hv))
        rw [of_decide_eq_true hname] at hcol
        exact absurd hcol hc

end Table

/-! ## Statements -/

/-- A statement of a schema or a migration. -/
inductive Statement where
  /-- `CREATE TABLE IF NOT EXISTS` -/
  | createTable (name : String) (columns : List String)
  /-- `CREATE INDEX IF NOT EXISTS` -/
  | createIndex (i : Index)
  /-- `ALTER TABLE … ADD COLUMN`, with `IF NOT EXISTS` or without -/
  | addColumn (table column : String) (ifNotExists : Bool)
  /-- `UPDATE table SET column = source WHERE column IS NULL OR column = ''` -/
  | fillEmpty (table column source : String)
  /-- `ALTER TABLE … ADD CONSTRAINT … FOREIGN KEY`, without effect where the constraint exists -/
  | addForeignKey (k : ForeignKey)
  /-- `INSERT`, without effect where the key is taken -/
  | insertNew (table key : String) (values : List (String × Value))

/-- What a statement raises. -/
inductive SqlError where
  | noSuchTable (table : String)
  | noSuchColumn (table column : String)
  | duplicateColumn (column : String)
  | uniqueViolation (index : String)
  | foreignKeyViolation (name : String)
  deriving DecidableEq, Repr

namespace Database

variable (db : Database)

/-- The table with a name, which must have some columns. -/
def tableWith (name : String) (columns : List String) : Except SqlError Table :=
  match db.tables name with
  | none => .error (.noSuchTable name)
  | some t =>
    match columns.find? (fun c => c ∉ t.columns) with
    | some c => .error (.noSuchColumn name c)
    | none => .ok t

/-- A table is put under its name. -/
def setTable (name : String) (t : Table) : Database :=
  { db with tables := Function.update db.tables name (some t) }

/-- Put new rows into a table, unless a unique index forbids them. -/
def setRows (name : String) (t : Table) : Except SqlError Database :=
  match db.indexes.find? (fun i => i.table = name ∧ i.unique = true ∧ ¬ t.Distinct i.columns) with
  | some i => .error (.uniqueViolation i.name)
  | none => .ok (db.setTable name t)

/-- Execute a statement. -/
def exec : Statement → Except SqlError Database
  | .createTable name columns =>
    match db.tables name with
    | some _ => .ok db
    | none => .ok (db.setTable name (.empty columns))
  | .createIndex i =>
    if i.name ∈ db.indexes.map Index.name then .ok db
    else
      match db.tableWith i.table i.columns with
      | .error e => .error e
      | .ok t =>
        if i.unique = true ∧ ¬ t.Distinct i.columns then .error (.uniqueViolation i.name)
        else .ok { db with indexes := db.indexes ++ [i] }
  | .addColumn table column ifNotExists =>
    match db.tableWith table [] with
    | .error e => .error e
    | .ok t =>
      if column ∈ t.columns then
        if ifNotExists then .ok db else .error (.duplicateColumn column)
      else .ok (db.setTable table (t.addColumn column))
  | .fillEmpty table column source =>
    match db.tableWith table [column, source] with
    | .error e => .error e
    | .ok t =>
      if h : column ∈ t.columns then db.setRows table (t.fill column source h)
      else .error (.noSuchColumn table column)
  | .addForeignKey k =>
    if k.name ∈ db.foreignKeys.map ForeignKey.name then .ok db
    else
      match db.tableWith k.table [k.column], db.tableWith k.refTable [k.refColumn] with
      | .error e, _ => .error e
      | _, .error e => .error e
      | .ok t, .ok ref =>
        if ∀ r ∈ t.rows, r k.column = .null ∨ ∃ r' ∈ ref.rows, r' k.refColumn = r k.column then
          .ok { db with foreignKeys := db.foreignKeys ++ [k] }
        else .error (.foreignKeyViolation k.name)
  | .insertNew table key values =>
    match db.tableWith table (key :: values.map Prod.fst) with
    | .error e => .error e
    | .ok t =>
      if ∃ r ∈ t.rows, r key = Table.record values key then .ok db
      else if h : ∀ c ∈ values.map Prod.fst, c ∈ t.columns then
        db.setRows table (t.insert values h)
      else .error (.noSuchColumn table key)

/-- Execute a statement; a duplicate column may be tolerated. -/
def attempt (tolerant : Bool) (s : Statement) : Except SqlError Database :=
  match db.exec s with
  | .error (.duplicateColumn column) =>
    if tolerant then .ok db else .error (.duplicateColumn column)
  | result => result

/-- Execute the statements of a list in turn. -/
def run (tolerant : Bool) : List Statement → Database → Except SqlError Database
  | [], db => .ok db
  | s :: ss, db =>
    match db.attempt tolerant s with
    | .error e => .error e
    | .ok db' => run tolerant ss db'

end Database

/-! ## What a statement does -/

/-- What a statement that succeeds does to a database. -/
inductive Effect (db : Database) : Statement → Database → Prop
  | tableExists (name : String) (columns : List String) (t : Table) : db.tables name = some t →
      Effect db (.createTable name columns) db
  | newTable (name : String) (columns : List String) : db.tables name = none →
      Effect db (.createTable name columns) (db.setTable name (.empty columns))
  | indexExists (i : Index) : i.name ∈ db.indexes.map Index.name → Effect db (.createIndex i) db
  | newIndex (i : Index) (t : Table) : db.tables i.table = some t →
      (∀ c ∈ i.columns, c ∈ t.columns) → (i.unique = true → t.Distinct i.columns) →
      Effect db (.createIndex i) { db with indexes := db.indexes ++ [i] }
  | columnExists (table column : String) (ifNotExists : Bool) (t : Table) :
      db.tables table = some t → column ∈ t.columns →
      Effect db (.addColumn table column ifNotExists) db
  | newColumn (table column : String) (ifNotExists : Bool) (t : Table) :
      db.tables table = some t → column ∉ t.columns →
      Effect db (.addColumn table column ifNotExists) (db.setTable table (t.addColumn column))
  | filled (table column source : String) (t : Table) (h : column ∈ t.columns) :
      db.tables table = some t → source ∈ t.columns →
      (∀ i ∈ db.indexes, i.table = table → i.unique = true →
        (t.fill column source h).Distinct i.columns) →
      Effect db (.fillEmpty table column source) (db.setTable table (t.fill column source h))
  | keyExists (k : ForeignKey) : k.name ∈ db.foreignKeys.map ForeignKey.name →
      Effect db (.addForeignKey k) db
  | newKey (k : ForeignKey) (t ref : Table) : db.tables k.table = some t → k.column ∈ t.columns →
      db.tables k.refTable = some ref → k.refColumn ∈ ref.columns →
      Effect db (.addForeignKey k) { db with foreignKeys := db.foreignKeys ++ [k] }
  | rowExists (table key : String) (values : List (String × Value)) (t : Table) :
      db.tables table = some t → (∀ c ∈ key :: values.map Prod.fst, c ∈ t.columns) →
      (∃ r ∈ t.rows, r key = Table.record values key) → Effect db (.insertNew table key values) db
  | inserted (table key : String) (values : List (String × Value)) (t : Table)
      (h : ∀ c ∈ values.map Prod.fst, c ∈ t.columns) : db.tables table = some t →
      key ∈ t.columns →
      (∀ i ∈ db.indexes, i.table = table → i.unique = true →
        (t.insert values h).Distinct i.columns) →
      Effect db (.insertNew table key values) (db.setTable table (t.insert values h))

section Effects

variable {db db' : Database} {name : String} {t : Table}

theorem tableWith_ok {columns : List String} (h : db.tableWith name columns = .ok t) :
    db.tables name = some t ∧ ∀ c ∈ columns, c ∈ t.columns := by
  unfold Database.tableWith at h
  split at h
  · cases h
  · rename_i t' ht
    split at h
    · cases h
    · rename_i hnone
      cases h
      refine ⟨ht, fun c hc => ?_⟩
      by_contra hnot
      exact List.find?_eq_none.mp hnone c hc (decide_eq_true hnot)

theorem tableWith_eq_ok {columns : List String} (ht : db.tables name = some t)
    (h : ∀ c ∈ columns, c ∈ t.columns) : db.tableWith name columns = .ok t := by
  unfold Database.tableWith
  rw [ht]
  dsimp only
  have hnone : columns.find? (fun c => c ∉ t.columns) = none :=
    List.find?_eq_none.mpr (fun c hc hnot => of_decide_eq_true hnot (h c hc))
  rw [hnone]

theorem setRows_ok (h : db.setRows name t = .ok db') :
    db' = db.setTable name t ∧
      ∀ i ∈ db.indexes, i.table = name → i.unique = true → t.Distinct i.columns := by
  unfold Database.setRows at h
  split at h
  · cases h
  · rename_i hnone
    cases h
    refine ⟨rfl, fun i hi htable hunique => ?_⟩
    by_contra hnot
    exact List.find?_eq_none.mp hnone i hi (decide_eq_true ⟨htable, hunique, hnot⟩)

/-- **What a statement can do.** -/
theorem effect_of_exec {s : Statement} (h : db.exec s = .ok db') : Effect db s db' := by
  cases s with
  | createTable name columns =>
    simp only [Database.exec] at h
    cases ht : db.tables name with
    | none =>
      rw [ht] at h
      cases h
      exact .newTable name columns ht
    | some t =>
      rw [ht] at h
      cases h
      exact .tableExists name columns t ht
  | createIndex i =>
    simp only [Database.exec] at h
    split at h
    · rename_i hname
      cases h
      exact .indexExists i hname
    · split at h
      · cases h
      · rename_i t ht
        obtain ⟨htable, hcolumns⟩ := tableWith_ok ht
        split at h
        · cases h
        · rename_i hunique
          cases h
          refine .newIndex i t htable hcolumns (fun hu => ?_)
          by_contra hnot
          exact hunique ⟨hu, hnot⟩
  | addColumn table column ifNotExists =>
    simp only [Database.exec] at h
    split at h
    · cases h
    · rename_i t ht
      have htable := (tableWith_ok ht).1
      split at h
      · rename_i hcolumn
        split at h
        · cases h
          exact .columnExists table column _ t htable hcolumn
        · cases h
      · rename_i hcolumn
        cases h
        exact .newColumn table column _ t htable hcolumn
  | fillEmpty table column source =>
    simp only [Database.exec] at h
    split at h
    · cases h
    · rename_i t ht
      obtain ⟨htable, hcolumns⟩ := tableWith_ok ht
      split at h
      · rename_i hcolumn
        obtain ⟨rfl, hunique⟩ := setRows_ok h
        exact .filled table column source t hcolumn htable (hcolumns source (by simp)) hunique
      · cases h
  | addForeignKey k =>
    simp only [Database.exec] at h
    split at h
    · rename_i hname
      cases h
      exact .keyExists k hname
    · split at h
      · cases h
      · cases h
      · rename_i t ref ht href
        obtain ⟨htable, hcolumn⟩ := tableWith_ok ht
        obtain ⟨hreftable, hrefcolumn⟩ := tableWith_ok href
        split at h
        · cases h
          exact .newKey k t ref htable (hcolumn _ List.mem_cons_self) hreftable
            (hrefcolumn _ List.mem_cons_self)
        · cases h
  | insertNew table key values =>
    simp only [Database.exec] at h
    split at h
    · cases h
    · rename_i t ht
      obtain ⟨htable, hcolumns⟩ := tableWith_ok ht
      split at h
      · rename_i hrow
        cases h
        exact .rowExists table key values t htable hcolumns hrow
      · split at h
        · rename_i hvalues
          obtain ⟨rfl, hunique⟩ := setRows_ok h
          exact .inserted table key values t hvalues htable (hcolumns key List.mem_cons_self) hunique
        · cases h

theorem tableWith_ne_duplicate {columns : List String} (column : String) :
    db.tableWith name columns ≠ .error (.duplicateColumn column) := by
  unfold Database.tableWith
  split
  · exact fun h => by cases h
  · split
    · exact fun h => by cases h
    · exact fun h => by cases h

theorem setRows_ne_duplicate (column : String) :
    db.setRows name t ≠ .error (.duplicateColumn column) := by
  unfold Database.setRows
  split
  · exact fun h => by cases h
  · exact fun h => by cases h

/-- Only adding a column finds a duplicate. -/
theorem eq_addColumn_of_duplicate {s : Statement} {column : String}
    (h : db.exec s = .error (.duplicateColumn column)) :
    ∃ table ifNotExists t, s = .addColumn table column ifNotExists ∧ db.tables table = some t ∧
      column ∈ t.columns := by
  cases s with
  | createTable name columns =>
    simp only [Database.exec] at h
    split at h <;> cases h
  | createIndex i =>
    simp only [Database.exec] at h
    split at h
    · cases h
    · split at h
      · rename_i e he
        cases h
        exact absurd he (tableWith_ne_duplicate column)
      · split at h <;> cases h
  | addColumn table column' ifNotExists =>
    simp only [Database.exec] at h
    split at h
    · rename_i e he
      cases h
      exact absurd he (tableWith_ne_duplicate column)
    · rename_i t ht
      split at h
      · rename_i hcolumn
        split at h
        · cases h
        · cases h
          exact ⟨table, ifNotExists, t, rfl, (tableWith_ok ht).1, hcolumn⟩
      · cases h
  | fillEmpty table column' source =>
    simp only [Database.exec] at h
    split at h
    · rename_i e he
      cases h
      exact absurd he (tableWith_ne_duplicate column)
    · split at h
      · exact absurd h (setRows_ne_duplicate column)
      · cases h
  | addForeignKey k =>
    simp only [Database.exec] at h
    split at h
    · cases h
    · split at h
      · rename_i e _ he
        cases h
        exact absurd he (tableWith_ne_duplicate column)
      · rename_i e he _
        cases h
        exact absurd he (tableWith_ne_duplicate column)
      · split at h <;> cases h
  | insertNew table key values =>
    simp only [Database.exec] at h
    split at h
    · rename_i e he
      cases h
      exact absurd he (tableWith_ne_duplicate column)
    · split at h
      · cases h
      · split at h
        · exact absurd h (setRows_ne_duplicate column)
        · cases h

theorem effect_of_attempt {tolerant : Bool} {s : Statement}
    (h : db.attempt tolerant s = .ok db') : Effect db s db' := by
  unfold Database.attempt at h
  split at h
  · rename_i column herror
    split at h
    · cases h
      obtain ⟨table, ifNotExists, t, rfl, ht, hcolumn⟩ := eq_addColumn_of_duplicate herror
      exact .columnExists table column ifNotExists t ht hcolumn
    · cases h
  · exact effect_of_exec h

/-! ### What is kept -/

/-- The table whose rows a statement may change. -/
def Statement.writes : Statement → Option String
  | .fillEmpty table .. => some table
  | .insertNew table .. => some table
  | _ => none

theorem setTable_self (name : String) (t : Table) :
    (db.setTable name t).tables name = some t := Function.update_self ..

theorem setTable_of_ne {name' : String} (t : Table) (h : name' ≠ name) :
    (db.setTable name t).tables name' = db.tables name' := Function.update_of_ne h ..

/-- A table stays, with its columns, and with its rows if the statement does not write it. -/
theorem Effect.keeps {s : Statement} (h : Effect db s db') (ht : db.tables name = some t) :
    ∃ t', db'.tables name = some t' ∧ (∀ c ∈ t.columns, c ∈ t'.columns) ∧
      (s.writes ≠ some name → t'.rows = t.rows) := by
  have hsame : ∃ t', db.tables name = some t' ∧ (∀ c ∈ t.columns, c ∈ t'.columns) ∧
      (s.writes ≠ some name → t'.rows = t.rows) := ⟨t, ht, fun _ hc => hc, fun _ => rfl⟩
  have hset : ∀ (table : String) (old new : Table), db.tables table = some old →
      (∀ c ∈ old.columns, c ∈ new.columns) →
      (s.writes ≠ some table → new.rows = old.rows) →
      ∃ t', (db.setTable table new).tables name = some t' ∧ (∀ c ∈ t.columns, c ∈ t'.columns) ∧
        (s.writes ≠ some name → t'.rows = t.rows) := by
    intro table old new hold hcolumns hrows
    by_cases hname : name = table
    · subst hname
      rw [ht] at hold
      cases hold
      exact ⟨new, setTable_self name new, hcolumns, hrows⟩
    · rw [setTable_of_ne new hname]
      exact hsame
  cases h with
  | tableExists _ _ _ _ => exact hsame
  | newTable table columns hnone =>
    have hne : name ≠ table := by
      rintro rfl
      rw [ht] at hnone
      cases hnone
    rw [setTable_of_ne _ hne]
    exact hsame
  | indexExists _ _ => exact hsame
  | newIndex _ _ _ _ _ => exact hsame
  | columnExists _ _ _ _ _ _ => exact hsame
  | newColumn table column _ old hold _ =>
    exact hset table old _ hold (fun c hc => List.mem_append_left _ hc) (fun _ => rfl)
  | filled table column source old hcolumn hold _ _ =>
    exact hset table old _ hold (fun c hc => hc) (fun hne => absurd rfl hne)
  | keyExists _ _ => exact hsame
  | newKey _ _ _ _ _ _ _ => exact hsame
  | rowExists _ _ _ _ _ _ _ => exact hsame
  | inserted table key values old _ hold _ _ =>
    exact hset table old _ hold (fun c hc => hc) (fun hne => absurd rfl hne)

/-- The indexes stay, and a new one is the index of the statement. -/
theorem Effect.indexes {s : Statement} (h : Effect db s db') :
    (∀ i ∈ db.indexes, i ∈ db'.indexes) ∧
      ∀ i ∈ db'.indexes, i ∈ db.indexes ∨ s = .createIndex i := by
  have hsame : (∀ i ∈ db.indexes, i ∈ db.indexes) ∧
      ∀ i ∈ db.indexes, i ∈ db.indexes ∨ s = .createIndex i :=
    ⟨fun _ hi => hi, fun _ hi => Or.inl hi⟩
  cases h with
  | newIndex i t ht hcolumns hunique =>
    refine ⟨fun j hj => List.mem_append_left _ hj, fun j hj => ?_⟩
    rcases List.mem_append.mp hj with hj | hj
    · exact Or.inl hj
    · rw [List.mem_singleton.mp hj]
      exact Or.inr rfl
  | _ => exact hsame

/-- The table of a row that is new is new, or written. -/
theorem Effect.tables {s : Statement} (h : Effect db s db') {t' : Table}
    (ht' : db'.tables name = some t') : db.tables name = none ∧ t'.rows = [] ∨
      ∃ t, db.tables name = some t ∧ (s.writes ≠ some name → t'.rows = t.rows) := by
  cases hold : db.tables name with
  | some t =>
    obtain ⟨t'', ht'', -, hrows⟩ := h.keeps hold
    rw [ht'] at ht''
    cases ht''
    exact Or.inr ⟨t, rfl, hrows⟩
  | none =>
    refine Or.inl ⟨rfl, ?_⟩
    have hsame : db.tables name = some t' → t'.rows = [] := by
      intro h'
      rw [hold] at h'
      cases h'
    have hset : ∀ (table : String) (old new : Table), db.tables table = some old →
        (db.setTable table new).tables name = some t' → t'.rows = [] := by
      intro table old new htable h'
      have hne : name ≠ table := by
        rintro rfl
        rw [hold] at htable
        cases htable
      rw [setTable_of_ne new hne] at h'
      exact hsame h'
    cases h with
    | newTable table columns hnone =>
      by_cases hname : name = table
      · subst hname
        rw [setTable_self] at ht'
        cases ht'
        rfl
      · rw [setTable_of_ne _ hname] at ht'
        exact hsame ht'
    | newColumn table column _ old htable _ => exact hset table old _ htable ht'
    | filled table column source old _ htable _ _ => exact hset table old _ htable ht'
    | inserted table key values old _ htable _ _ => exact hset table old _ htable ht'
    | _ => exact hsame ht'

/-! ### Indexes -/

theorem Table.distinct_of_rows {t t' : Table} {columns : List String} (h : t'.rows = t.rows)
    (ht : t.Distinct columns) : t'.Distinct columns := by
  unfold Table.Distinct at ht ⊢
  rw [h]
  exact ht

theorem Table.distinct_of_empty {t : Table} (h : t.rows = []) (columns : List String) :
    t.Distinct columns := by
  unfold Table.Distinct
  rw [h]
  exact .nil

/-- Every index is over columns of a table, and the rows respect the unique ones. -/
def Database.Valid (db : Database) : Prop :=
  ∀ i ∈ db.indexes, ∃ t, db.tables i.table = some t ∧ (∀ c ∈ i.columns, c ∈ t.columns) ∧
    (i.unique = true → t.Distinct i.columns)

/-- **A statement leaves a database valid.** -/
theorem Effect.valid {s : Statement} (h : Effect db s db') (hvalid : db.Valid) : db'.Valid := by
  have hset : ∀ (table : String) (old new : Table), db.tables table = some old →
      (∀ c ∈ old.columns, c ∈ new.columns) →
      (∀ i ∈ db.indexes, i.table = table → i.unique = true → new.Distinct i.columns) →
      (db.setTable table new).Valid := by
    intro table old new hold hcolumns hunique i hi
    obtain ⟨t, ht, hin, hdistinct⟩ := hvalid i hi
    by_cases hname : i.table = table
    · rw [hname, hold] at ht
      cases ht
      refine ⟨new, ?_, fun c hc => hcolumns c (hin c hc), hunique i hi hname⟩
      rw [hname]
      exact setTable_self table new
    · exact ⟨t, (setTable_of_ne new hname).trans ht, hin, hdistinct⟩
  cases h with
  | newTable table columns hnone =>
    intro i hi
    obtain ⟨t, ht, hrest⟩ := hvalid i hi
    have hname : i.table ≠ table := by
      intro hname
      rw [hname, hnone] at ht
      cases ht
    exact ⟨t, (setTable_of_ne _ hname).trans ht, hrest⟩
  | newIndex i t ht hcolumns hunique =>
    intro j hj
    rcases List.mem_append.mp hj with hj | hj
    · exact hvalid j hj
    · rw [List.mem_singleton.mp hj]
      exact ⟨t, ht, hcolumns, hunique⟩
  | newColumn table column _ old hold _ =>
    refine hset table old _ hold (fun c hc => List.mem_append_left _ hc) ?_
    intro i hi hname hu
    obtain ⟨t, ht, -, hdistinct⟩ := hvalid i hi
    rw [hname, hold] at ht
    cases ht
    exact Table.distinct_of_rows rfl (hdistinct hu)
  | filled table column source old hcolumn hold _ hunique =>
    exact hset table old _ hold (fun c hc => hc) hunique
  | inserted table key values old hvalues hold _ hunique =>
    exact hset table old _ hold (fun c hc => hc) hunique
  | _ => exact hvalid

end Effects

/-! ## Following a run on the columns -/

/-- Tables with their columns. -/
abbrev Shape := List (String × List String)

namespace Shape

/-- There is a table with some columns. -/
def has (σ : Shape) (table : String) (columns : List String) : Bool :=
  (σ.lookup table).any (fun cols => columns.all (fun c => c ∈ cols))

/-- What a statement that succeeds makes of the columns. -/
def exec (σ : Shape) : Statement → Option Shape
  | .createTable name columns =>
    some (if (σ.lookup name).isSome then σ else (name, columns) :: σ)
  | .createIndex i => if σ.has i.table i.columns then some σ else none
  | .addColumn table column _ =>
    (σ.lookup table).map (fun cols =>
      if column ∈ cols then σ else (table, column :: cols) :: σ)
  | .fillEmpty table column source => if σ.has table [column, source] then some σ else none
  | .addForeignKey _ => some σ
  | .insertNew table key values =>
    if σ.has table (key :: values.map Prod.fst) then some σ else none

/-- The statements are run in their order. -/
def run : List Statement → Shape → Option Shape
  | [], σ => some σ
  | s :: ss, σ => (σ.exec s).bind (run ss)

end Shape

/-- The tables have the columns of the shape, and no others. -/
def Matches (db : Database) (σ : Shape) : Prop :=
  ∀ name, Option.Rel (fun t cols => ∀ c, c ∈ t.columns ↔ c ∈ cols) (db.tables name)
    (σ.lookup name)

/-- The database is valid, its indexes are in a catalogue, and it has the columns of a shape. -/
structure Follows (catalogue : List Index) (db : Database) (σ : Shape) : Prop where
  valid : db.Valid
  known : ∀ i ∈ db.indexes, i ∈ catalogue
  matched : Matches db σ

section Shapes

variable {catalogue : List Index} {db db' : Database} {σ σ' : Shape} {s : Statement}

theorem Matches.lookup_some {name : String} {t : Table} (h : Matches db σ)
    (ht : db.tables name = some t) :
    ∃ cols, σ.lookup name = some cols ∧ ∀ c, c ∈ t.columns ↔ c ∈ cols := by
  have hname := h name
  rw [ht] at hname
  cases hlookup : σ.lookup name with
  | none =>
    rw [hlookup] at hname
    cases hname
  | some cols =>
    rw [hlookup] at hname
    cases hname with
    | some hcols => exact ⟨cols, rfl, hcols⟩

theorem Matches.lookup_none {name : String} (h : Matches db σ) (ht : db.tables name = none) :
    σ.lookup name = none := by
  have hname := h name
  rw [ht] at hname
  cases hlookup : σ.lookup name with
  | none => rfl
  | some cols =>
    rw [hlookup] at hname
    cases hname

theorem Matches.has {name : String} {t : Table} {columns : List String} (h : Matches db σ)
    (ht : db.tables name = some t) (hcolumns : ∀ c ∈ columns, c ∈ t.columns) :
    σ.has name columns = true := by
  obtain ⟨cols, hlookup, hcols⟩ := h.lookup_some ht
  unfold Shape.has
  rw [hlookup, Option.any_some, List.all_eq_true]
  exact fun c hc => decide_eq_true ((hcols c).mp (hcolumns c hc))

theorem Matches.setTable {name : String} {t : Table} {cols : List String} (h : Matches db σ)
    (hcols : ∀ c, c ∈ t.columns ↔ c ∈ cols) :
    Matches (db.setTable name t) ((name, cols) :: σ) := by
  intro name'
  by_cases hname : name' = name
  · subst hname
    rw [setTable_self, List.lookup_cons_self]
    exact .some hcols
  · rw [setTable_of_ne t hname, List.lookup_cons]
    have hbeq : (name' == name) = false := beq_eq_false_iff_ne.mpr hname
    rw [hbeq]
    exact h name'

/-- A table that keeps its columns. -/
theorem Matches.setRows {name : String} {t t' : Table} (h : Matches db σ)
    (ht : db.tables name = some t) (hcolumns : t'.columns = t.columns) :
    Matches (db.setTable name t') σ := by
  intro name'
  by_cases hname : name' = name
  · subst hname
    have hold := h name'
    rw [ht] at hold
    rw [setTable_self]
    cases hlookup : σ.lookup name' with
    | none =>
      rw [hlookup] at hold
      cases hold
    | some cols =>
      rw [hlookup] at hold
      cases hold with
      | some hcols =>
        refine .some (fun c => ?_)
        rw [hcolumns]
        exact hcols c
  · rw [setTable_of_ne t' hname]
    exact h name'

/-- **A statement that succeeds is followed.** -/
theorem Effect.follows (h : Effect db s db') (hnames : (catalogue.map Index.name).Nodup)
    (hs : ∀ i, s = .createIndex i → i ∈ catalogue) (hf : Follows catalogue db σ) :
    ∃ σ', σ.exec s = some σ' ∧ Follows catalogue db' σ' := by
  have hvalid := h.valid hf.valid
  have hknown : ∀ i ∈ db'.indexes, i ∈ catalogue := by
    intro i hi
    rcases h.indexes.2 i hi with hold | hnew
    · exact hf.known i hold
    · exact hs i hnew
  have hm := hf.matched
  cases h with
  | tableExists name columns t ht =>
    obtain ⟨cols, hlookup, -⟩ := hm.lookup_some ht
    refine ⟨σ, ?_, hvalid, hknown, hm⟩
    simp only [Shape.exec, hlookup, Option.isSome_some, if_true]
  | newTable name columns hnone =>
    refine ⟨(name, columns) :: σ, ?_, hvalid, hknown, hm.setTable (fun _ => Iff.rfl)⟩
    simp only [Shape.exec, hm.lookup_none hnone, Option.isSome_none, Bool.false_eq_true, if_false]
  | indexExists i hname =>
    -- the index of that name is the one of the statement
    obtain ⟨j, hj, hji⟩ := List.mem_map.mp hname
    obtain rfl := List.inj_on_of_nodup_map hnames (hf.known j hj) (hs i rfl) hji
    obtain ⟨t, ht, hcolumns, -⟩ := hf.valid j hj
    refine ⟨σ, ?_, hvalid, hknown, hm⟩
    rw [Shape.exec, if_pos (hm.has ht hcolumns)]
  | newIndex i t ht hcolumns hunique =>
    refine ⟨σ, ?_, hvalid, hknown, hm⟩
    rw [Shape.exec, if_pos (hm.has ht hcolumns)]
  | columnExists table column ifNotExists t ht hcolumn =>
    obtain ⟨cols, hlookup, hcols⟩ := hm.lookup_some ht
    refine ⟨σ, ?_, hvalid, hknown, hm⟩
    simp only [Shape.exec, hlookup, Option.map_some, (hcols column).mp hcolumn, if_true]
  | newColumn table column ifNotExists t ht hcolumn =>
    obtain ⟨cols, hlookup, hcols⟩ := hm.lookup_some ht
    have hnot : column ∉ cols := fun hc => hcolumn ((hcols column).mpr hc)
    refine ⟨(table, column :: cols) :: σ, ?_, hvalid, hknown, hm.setTable (fun c => ?_)⟩
    · simp only [Shape.exec, hlookup, Option.map_some, hnot, if_false]
    · show c ∈ t.columns ++ [column] ↔ c ∈ column :: cols
      rw [List.mem_append, List.mem_singleton, List.mem_cons, hcols c, or_comm]
  | filled table column source t hcolumn ht hsource hunique =>
    refine ⟨σ, ?_, hvalid, hknown, hm.setRows ht rfl⟩
    have hhas : σ.has table [column, source] = true := by
      refine hm.has ht (fun c hc => ?_)
      rcases List.mem_cons.mp hc with rfl | hc
      · exact hcolumn
      · rw [List.mem_singleton.mp hc]
        exact hsource
    rw [Shape.exec, if_pos hhas]
  | keyExists k hname => exact ⟨σ, rfl, hvalid, hknown, hm⟩
  | newKey k t ref _ _ _ _ => exact ⟨σ, rfl, hvalid, hknown, hm⟩
  | rowExists table key values t ht hcolumns hrow =>
    refine ⟨σ, ?_, hvalid, hknown, hm⟩
    rw [Shape.exec, if_pos (hm.has ht hcolumns)]
  | inserted table key values t hvalues ht hkey hunique =>
    refine ⟨σ, ?_, hvalid, hknown, hm.setRows ht rfl⟩
    have hhas : σ.has table (key :: values.map Prod.fst) = true := by
      refine hm.has ht (fun c hc => ?_)
      rcases List.mem_cons.mp hc with rfl | hc
      · exact hkey
      · exact hvalues c hc
    rw [Shape.exec, if_pos hhas]

/-! ### Runs -/

/-- What the rows must fulfil for a statement to succeed. -/
def Fits (tolerant : Bool) (db : Database) : Statement → Prop
  | .createTable .. => True
  | .createIndex i => i.unique = true → ∀ t, db.tables i.table = some t → t.Distinct i.columns
  | .addColumn _ _ ifNotExists => ifNotExists = true ∨ tolerant = true
  | .fillEmpty table column source => ∀ t (h : column ∈ t.columns), db.tables table = some t →
      ∀ i ∈ db.indexes, i.table = table → i.unique = true →
        (t.fill column source h).Distinct i.columns
  | .addForeignKey k => k.name ∈ db.foreignKeys.map ForeignKey.name ∨
      ∃ t ref, db.tableWith k.table [k.column] = .ok t ∧
        db.tableWith k.refTable [k.refColumn] = .ok ref ∧
        ∀ r ∈ t.rows, r k.column = .null ∨ ∃ r' ∈ ref.rows, r' k.refColumn = r k.column
  | .insertNew table _ _ => ∀ i ∈ db.indexes, i.table = table → i.unique = false

theorem Matches.of_has {name : String} {columns : List String} (h : Matches db σ)
    (hhas : σ.has name columns = true) :
    ∃ t, db.tables name = some t ∧ ∀ c ∈ columns, c ∈ t.columns := by
  unfold Shape.has at hhas
  obtain ⟨cols, hlookup, hall⟩ := (Option.any_eq_true _ _).mp hhas
  cases ht : db.tables name with
  | none =>
    rw [h.lookup_none ht] at hlookup
    cases hlookup
  | some t =>
    obtain ⟨cols', hlookup', hcols⟩ := h.lookup_some ht
    rw [hlookup] at hlookup'
    cases hlookup'
    refine ⟨t, rfl, fun c hc => (hcols c).mpr ?_⟩
    exact of_decide_eq_true (List.all_eq_true.mp hall c hc)

theorem setRows_eq_ok {name : String} {t : Table}
    (h : ∀ i ∈ db.indexes, i.table = name → i.unique = true → t.Distinct i.columns) :
    db.setRows name t = .ok (db.setTable name t) := by
  have hnone : db.indexes.find? (fun i => i.table = name ∧ i.unique = true ∧
      ¬ t.Distinct i.columns) = none := by
    refine List.find?_eq_none.mpr (fun i hi hbad => ?_)
    obtain ⟨htable, hunique, hnot⟩ := of_decide_eq_true hbad
    exact hnot (h i hi htable hunique)
  unfold Database.setRows
  rw [hnone]

/-- **A statement that can be followed succeeds**, where the rows fit. -/
theorem attempt_ok {tolerant : Bool} (hm : Matches db σ) (hs : σ.exec s = some σ')
    (hfits : Fits tolerant db s) : ∃ db', db.attempt tolerant s = .ok db' := by
  have hattempt : (∃ db', db.exec s = .ok db') → ∃ db', db.attempt tolerant s = .ok db' := by
    rintro ⟨db', h⟩
    refine ⟨db', ?_⟩
    unfold Database.attempt
    rw [h]
  have hhas : ∀ {table : String} {columns : List String},
      (if σ.has table columns = true then some σ else none) = some σ' →
        ∃ t, db.tables table = some t ∧ ∀ c ∈ columns, c ∈ t.columns := by
    intro table columns h
    by_cases hhas : σ.has table columns = true
    · exact hm.of_has hhas
    · rw [if_neg hhas] at h
      cases h
  cases s with
  | createTable name columns =>
    refine hattempt ?_
    cases ht : db.tables name with
    | none =>
      rw [Database.exec, ht]
      exact ⟨_, rfl⟩
    | some t =>
      rw [Database.exec, ht]
      exact ⟨_, rfl⟩
  | createIndex i =>
    obtain ⟨t, ht, hcolumns⟩ := hhas hs
    refine hattempt ?_
    rw [Database.exec]
    by_cases hname : i.name ∈ db.indexes.map Index.name
    · exact ⟨db, if_pos hname⟩
    · rw [if_neg hname, tableWith_eq_ok ht hcolumns]
      exact ⟨_, if_neg (fun hbad => hbad.2 (hfits hbad.1 t ht))⟩
  | addColumn table column ifNotExists =>
    cases ht : db.tables table with
    | none =>
      rw [Shape.exec, hm.lookup_none ht] at hs
      cases hs
    | some t =>
      have hexec : db.exec (.addColumn table column ifNotExists)
          = if column ∈ t.columns then
              if ifNotExists then .ok db else .error (.duplicateColumn column)
            else .ok (db.setTable table (t.addColumn column)) := by
        rw [Database.exec, tableWith_eq_ok ht (fun c hc => absurd hc List.not_mem_nil)]
      by_cases hcolumn : column ∈ t.columns
      · rw [if_pos hcolumn] at hexec
        by_cases hifnot : ifNotExists = true
        · rw [if_pos hifnot] at hexec
          exact hattempt ⟨db, hexec⟩
        · rw [if_neg hifnot] at hexec
          refine ⟨db, ?_⟩
          unfold Database.attempt
          rw [hexec]
          exact if_pos (hfits.resolve_left hifnot)
      · rw [if_neg hcolumn] at hexec
        exact hattempt ⟨_, hexec⟩
  | fillEmpty table column source =>
    obtain ⟨t, ht, hcolumns⟩ := hhas hs
    have hcolumn : column ∈ t.columns := hcolumns column List.mem_cons_self
    refine hattempt ?_
    rw [Database.exec, tableWith_eq_ok ht hcolumns]
    dsimp only
    rw [dif_pos hcolumn]
    exact ⟨_, setRows_eq_ok (hfits t hcolumn ht)⟩
  | addForeignKey k =>
    refine hattempt ?_
    rw [Database.exec]
    by_cases hname : k.name ∈ db.foreignKeys.map ForeignKey.name
    · exact ⟨db, if_pos hname⟩
    · obtain ⟨t, ref, ht, href, hrows⟩ := hfits.resolve_left hname
      rw [if_neg hname, ht, href]
      exact ⟨_, if_pos hrows⟩
  | insertNew table key values =>
    obtain ⟨t, ht, hcolumns⟩ := hhas hs
    refine hattempt ?_
    rw [Database.exec, tableWith_eq_ok ht hcolumns]
    dsimp only
    by_cases hrow : ∃ r ∈ t.rows, r key = Table.record values key
    · exact ⟨db, if_pos hrow⟩
    · have hvalues : ∀ c ∈ values.map Prod.fst, c ∈ t.columns :=
        fun c hc => hcolumns c (List.mem_cons_of_mem _ hc)
      rw [if_neg hrow, dif_pos hvalues]
      refine ⟨_, setRows_eq_ok (fun i hi htable hunique => ?_)⟩
      rw [hfits i hi htable] at hunique
      cases hunique

variable {tolerant : Bool} {ss : List Statement}

theorem attempt_insertNew (table key : String) (values : List (String × Value)) :
    db.attempt tolerant (.insertNew table key values) = db.exec (.insertNew table key values) := by
  unfold Database.attempt
  split
  · rename_i column herror
    obtain ⟨_, _, _, hs, -, -⟩ := eq_addColumn_of_duplicate herror
    cases hs
  · rfl

theorem Database.run_append (ss ss' : List Statement) (db : Database) :
    db.run tolerant (ss ++ ss') = match db.run tolerant ss with
      | .ok db' => db'.run tolerant ss'
      | .error e => .error e := by
  induction ss generalizing db with
  | nil => rfl
  | cons s ss ih =>
    rw [List.cons_append, Database.run, Database.run]
    cases db.attempt tolerant s with
    | error e => rfl
    | ok db₁ => exact ih db₁

theorem Shape.run_append (ss ss' : List Statement) (σ : Shape) :
    σ.run (ss ++ ss') = (σ.run ss).bind (Shape.run ss') := by
  induction ss generalizing σ with
  | nil => rfl
  | cons s ss ih =>
    rw [List.cons_append, Shape.run, Shape.run, Option.bind_assoc]
    exact Option.bind_congr (fun σ' _ => ih σ')

/-- **Invariant rule**: what every statement of a list keeps, a run keeps. -/
theorem run_keeps {I : Database → Prop}
    (hs : ∀ s ∈ ss, ∀ db db', I db → Effect db s db' → I db') (h : db.run tolerant ss = .ok db')
    (hI : I db) : I db' := by
  induction ss generalizing db with
  | nil =>
    cases h
    exact hI
  | cons s ss ih =>
    unfold Database.run at h
    cases hattempt : db.attempt tolerant s with
    | error e =>
      rw [hattempt] at h
      cases h
    | ok db₁ =>
      rw [hattempt] at h
      exact ih (fun s' hs' => hs s' (List.mem_cons_of_mem _ hs')) h
        (hs s List.mem_cons_self db db₁ hI (effect_of_attempt hattempt))

/-- **A run that goes through is followed.** -/
theorem run_follows (hnames : (catalogue.map Index.name).Nodup)
    (hs : ∀ i, .createIndex i ∈ ss → i ∈ catalogue) (h : db.run tolerant ss = .ok db')
    (hf : Follows catalogue db σ) : ∃ σ', σ.run ss = some σ' ∧ Follows catalogue db' σ' := by
  induction ss generalizing db σ with
  | nil =>
    cases h
    exact ⟨σ, rfl, hf⟩
  | cons s ss ih =>
    unfold Database.run at h
    cases hattempt : db.attempt tolerant s with
    | error e =>
      rw [hattempt] at h
      cases h
    | ok db₁ =>
      rw [hattempt] at h
      obtain ⟨σ₁, hσ₁, hf₁⟩ := (effect_of_attempt hattempt).follows hnames
        (fun i hi => hs i (hi ▸ List.mem_cons_self)) hf
      obtain ⟨σ₂, hσ₂, hf₂⟩ := ih (fun i hi => hs i (List.mem_cons_of_mem _ hi)) h hf₁
      exact ⟨σ₂, by rw [Shape.run, hσ₁]; exact hσ₂, hf₂⟩

/-- **A run that can be followed goes through**, where an invariant makes the rows fit. -/
theorem run_ok {I : Database → Prop} (hnames : (catalogue.map Index.name).Nodup)
    (hs : ∀ i, .createIndex i ∈ ss → i ∈ catalogue)
    (hfits : ∀ s ∈ ss, ∀ db, (∀ i ∈ db.indexes, i ∈ catalogue) → I db → Fits tolerant db s)
    (hkeeps : ∀ s ∈ ss, ∀ db db', I db → Effect db s db' → I db')
    (hf : Follows catalogue db σ) (hσ : σ.run ss = some σ') (hI : I db) :
    ∃ db', db.run tolerant ss = .ok db' ∧ Follows catalogue db' σ' ∧ I db' := by
  induction ss generalizing db σ with
  | nil =>
    cases hσ
    exact ⟨db, rfl, hf, hI⟩
  | cons s ss ih =>
    rw [Shape.run, Option.bind_eq_some_iff] at hσ
    obtain ⟨σ₁, hσ₁, hσ₂⟩ := hσ
    obtain ⟨db₁, hattempt⟩ := attempt_ok hf.matched hσ₁ (hfits s List.mem_cons_self db hf.known hI)
    have heffect := effect_of_attempt hattempt
    obtain ⟨σ₁', hσ₁', hf₁⟩ := heffect.follows hnames (fun i hi => hs i (hi ▸ List.mem_cons_self)) hf
    rw [hσ₁] at hσ₁'
    cases hσ₁'
    obtain ⟨db₂, hrun, hf₂, hI₂⟩ := ih (fun i hi => hs i (List.mem_cons_of_mem _ hi))
      (fun s' hs' => hfits s' (List.mem_cons_of_mem _ hs'))
      (fun s' hs' => hkeeps s' (List.mem_cons_of_mem _ hs')) hf₁ hσ₂
      (hkeeps s List.mem_cons_self db db₁ hI heffect)
    refine ⟨db₂, ?_, hf₂, hI₂⟩
    unfold Database.run
    rw [hattempt]
    exact hrun

/-- Every index of a list has a name that is taken after a run. -/
theorem name_mem_of_run (h : db.run tolerant ss = .ok db') {i : Index}
    (hi : .createIndex i ∈ ss) : i.name ∈ db'.indexes.map Index.name := by
  have hlater : ∀ {ss : List Statement} {db db' : Database}, db.run tolerant ss = .ok db' →
      i.name ∈ db.indexes.map Index.name → i.name ∈ db'.indexes.map Index.name := by
    intro ss db db' hrun hname
    refine run_keeps (I := fun db => i.name ∈ db.indexes.map Index.name) ?_ hrun hname
    intro s _ db db' hname heffect
    obtain ⟨j, hj, hji⟩ := List.mem_map.mp hname
    exact List.mem_map.mpr ⟨j, heffect.indexes.1 j hj, hji⟩
  induction ss generalizing db with
  | nil => exact absurd hi List.not_mem_nil
  | cons s ss ih =>
    unfold Database.run at h
    cases hattempt : db.attempt tolerant s with
    | error e =>
      rw [hattempt] at h
      cases h
    | ok db₁ =>
      rw [hattempt] at h
      rcases List.mem_cons.mp hi with rfl | hi
      · refine hlater h ?_
        have heffect := effect_of_attempt hattempt
        cases heffect with
        | indexExists _ hname => exact hname
        | newIndex _ _ _ _ _ =>
          exact List.mem_map.mpr ⟨i, List.mem_append_right _ (List.mem_singleton_self i), rfl⟩
      · exact ih h hi

/-- A statement that has nothing left to do. -/
def Done (db : Database) : Statement → Prop
  | .createTable name _ => db.tables name ≠ none
  | .createIndex i => i.name ∈ db.indexes.map Index.name
  | _ => False

/-- **Statements that have nothing left to do change nothing.** -/
theorem run_done (h : ∀ s ∈ ss, Done db s) : db.run tolerant ss = .ok db := by
  induction ss with
  | nil => rfl
  | cons s ss ih =>
    have hexec : db.exec s = .ok db := by
      have hs := h s List.mem_cons_self
      cases s with
      | createTable name columns =>
        obtain ⟨t, ht⟩ := Option.ne_none_iff_exists'.mp hs
        rw [Database.exec, ht]
      | createIndex i =>
        have hname : i.name ∈ db.indexes.map Index.name := hs
        rw [Database.exec, if_pos hname]
      | _ => exact hs.elim
    unfold Database.run Database.attempt
    rw [hexec]
    exact ih (fun s' hs' => h s' (List.mem_cons_of_mem _ hs'))

end Shapes

end SqlSchema
