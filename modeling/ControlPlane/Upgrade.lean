/-
# Upgrades from earlier releases

A database of an earlier release has the columns and the ledger that the first migrations have
led to, and arbitrary rows.  The current schema comes before the pending migrations and has an
index over a column of the fifth one, so nothing older opens; what is younger opens, and the
migration that fills the tenants is not repeated.
-/
import ControlPlane.Migrations

namespace ControlPlane.Upgrade

open SqlSchema Migrations

/-! ## The databases of earlier releases -/

/-- The tables that a list of statements creates. -/
def createdTables (statements : List Statement) : Shape :=
  statements.filterMap (fun
    | .createTable name columns => some (name, columns)
    | _ => none)

/-- The columns that a list of statements adds to a table. -/
def addedColumns (table : String) (statements : List Statement) : List String :=
  statements.filterMap (fun
    | .addColumn table' column _ => if table' = table then some column else none
    | _ => none)

/-- The statements of some migrations; the columns and tables are the same for both backends. -/
def statementsOf (ms : List Migration) : List Statement := ms.flatMap Migration.sqlite

/-- The columns of the current schema. -/
def currentShape : Shape := createdTables schemaSql

/-- The indexes of the current schema. -/
def catalogue : List Index :=
  schemaSql.filterMap (fun
    | .createIndex i => some i
    | _ => none)

/-- The columns of a table before any migration. -/
def originalColumns (table : String) : List String :=
  ((currentShape.lookup table).getD []).filter
    (fun c => c ∉ addedColumns table (statementsOf migrations))

/-- The original tables, with what the first `k` migrations add; the ledger comes with the first
migration. -/
def releasedShape (k : ℕ) : Shape :=
  ["decisions", "approvals", "audit_meta"].map (fun table =>
      (table, originalColumns table ++ addedColumns table (statementsOf (migrations.take k))))
    ++ createdTables (statementsOf (migrations.take k))
    ++ (if k = 0 then [] else [("schema_migrations", ["version", "applied_at"])])

/-- A database of the release with the first `k` migrations: its columns and its ledger are those
of the release, its rows are arbitrary, and it has some of the indexes. -/
structure Released (k : ℕ) (db : Database) : Prop where
  follows : Follows catalogue db (releasedShape k)
  ledger : ∀ versions, ledger db = .ok versions →
    ∀ v, v ∈ versions ↔ ∃ m ∈ migrations.take k, v = .text m.version

/-- An empty tenant is filled from the team. -/
def fillTenant : Record → Record := Table.fillRow "tenant_id" "team"

/-- The rows of a table after an upgrade. -/
def upgradedRows (table : String) (rows : List Record) : List Record :=
  if table = "decisions" then rows.map fillTenant else rows

/-- What an upgrade is to do. -/
structure Upgraded (postgres : Bool) (db db' : Database) : Prop where
  ledger : ∃ versions, ledger db' = .ok versions ∧
    ∀ v, v ∈ versions ↔ ∃ m ∈ migrations, v = .text m.version
  columns : ∀ name columns, (name, columns) ∈ currentShape →
    ∃ t, db'.tables name = some t ∧ ∀ c ∈ columns, c ∈ t.columns
  indexes : ∀ i ∈ catalogue, i ∈ db'.indexes
  rows : ∀ name t, db.tables name = some t → name ≠ "schema_migrations" →
    ∃ t', db'.tables name = some t' ∧ t'.rows = upgradedRows name t.rows
  versions : ∀ t, db.tables "schema_migrations" = some t →
    ∃ t', db'.tables "schema_migrations" = some t' ∧ ∀ r ∈ t.rows, r ∈ t'.rows
  again : ∀ now, openStore postgres now db' = .ok db'

/-! ## The ledger -/

section Ledger

variable {db db' : Database} {versions : List Value} {postgres : Bool} {now version : String}

/-- The ledger lists some versions, and has its columns. -/
def Lists (db : Database) (versions : List Value) : Prop :=
  ∃ t, db.tables "schema_migrations" = some t ∧
    (∀ c ∈ ["version", "applied_at"], c ∈ t.columns) ∧
    t.rows.map (fun r => r "version") = versions

theorem Lists.ledger (h : Lists db versions) : ledger db = .ok versions := by
  obtain ⟨t, ht, hcolumns, hrows⟩ := h
  unfold Migrations.ledger
  rw [tableWith_eq_ok ht (fun c hc => hcolumns c (by rw [List.mem_singleton.mp hc]; decide))]
  exact congrArg Except.ok hrows

theorem Lists.applied (h : Lists db versions) (version : String) :
    migrationApplied db version = .ok (decide (Value.text version ∈ versions)) := by
  unfold migrationApplied
  rw [h.ledger]
  rfl

/-- The ledger stays what it is while nothing is written to it. -/
theorem Lists.keeps {s : Statement} (h : Lists db versions) (heffect : Effect db s db')
    (hs : s.writes ≠ some "schema_migrations") : Lists db' versions := by
  obtain ⟨t, ht, hcolumns, hrows⟩ := h
  obtain ⟨t', ht', hkept, hsame⟩ := heffect.keeps ht
  exact ⟨t', ht', fun c hc => hkept c (hcolumns c hc), by rw [hsame hs]; exact hrows⟩

/-- A version that is recorded is listed. -/
theorem Lists.record (h : Lists db versions) (hnew : Value.text version ∉ versions)
    (heffect : Effect db (recordVersion version now) db') :
    Lists db' (versions ++ [.text version]) := by
  obtain ⟨t, ht, hcolumns, hrows⟩ := h
  unfold recordVersion at heffect
  cases heffect with
  | rowExists _ _ _ t' ht' _ hrow =>
    rw [ht] at ht'
    cases ht'
    obtain ⟨r, hr, hversion⟩ := hrow
    exact absurd (hrows ▸ List.mem_map.mpr ⟨r, hr, hversion⟩) hnew
  | inserted _ _ _ t' hvalues ht' _ _ =>
    rw [ht] at ht'
    cases ht'
    refine ⟨_, setTable_self _ _, hcolumns, ?_⟩
    show (t.rows ++ [_]).map _ = _
    rw [List.map_append, hrows]
    rfl

/-- The statements of some migrations, each followed by the record of its version. -/
def pendingStatements (postgres : Bool) (now : String) (ms : List Migration) : List Statement :=
  ms.flatMap (fun m => m.statements postgres ++ [recordVersion m.version now])

variable (postgres now) in
/-- What is listed is skipped. -/
theorem applyPending_skip (h : Lists db versions) {ms : List Migration}
    (hms : ∀ m ∈ ms, Value.text m.version ∈ versions) (rest : List Migration) :
    applyPendingMigrations postgres now (ms ++ rest) db
      = applyPendingMigrations postgres now rest db := by
  induction ms with
  | nil => rfl
  | cons m ms ih =>
    rw [List.cons_append, applyPendingMigrations, h.applied,
      decide_eq_true (hms m List.mem_cons_self)]
    exact ih (fun m' hm' => hms m' (List.mem_cons_of_mem _ hm'))

variable (postgres now) in
/-- **What is not listed is executed in turn**, and then listed. -/
theorem applyPending_eq {ms : List Migration} (h : Lists db versions)
    (hnew : ∀ m ∈ ms, Value.text m.version ∉ versions)
    (hdistinct : (ms.map Migration.version).Nodup)
    (hwrites : ∀ m ∈ ms, ∀ s ∈ m.statements postgres, s.writes ≠ some "schema_migrations") :
    applyPendingMigrations postgres now ms db
        = sql (db.run (!postgres) (pendingStatements postgres now ms)) ∧
      ∀ db', db.run (!postgres) (pendingStatements postgres now ms) = .ok db' →
        Lists db' (versions ++ ms.map (fun m => .text m.version)) := by
  induction ms generalizing db versions with
  | nil =>
    refine ⟨rfl, fun db' hrun => ?_⟩
    cases hrun
    rw [List.map_nil, List.append_nil]
    exact h
  | cons m ms ih =>
    have happlied := h.applied m.version
    rw [decide_eq_false (hnew m List.mem_cons_self)] at happlied
    have hsplit : db.run (!postgres) (pendingStatements postgres now (m :: ms))
        = (db.run (!postgres) (m.statements postgres)).bind (fun db₁ =>
          (db₁.exec (recordVersion m.version now)).bind (fun db₂ =>
            db₂.run (!postgres) (pendingStatements postgres now ms))) := by
      unfold pendingStatements
      rw [List.flatMap_cons, List.append_assoc, Database.run_append]
      cases db.run (!postgres) (m.statements postgres) with
      | error e => rfl
      | ok db₁ =>
        dsimp only [Except.bind]
        rw [List.singleton_append, Database.run]
        cases hrecord : db₁.exec (recordVersion m.version now) <;>
          simp only [recordVersion, attempt_insertNew] at hrecord ⊢ <;> simp only [hrecord]
    rw [applyPendingMigrations, happlied, hsplit]
    unfold executeMigrationStatements
    cases hrun : db.run (!postgres) (m.statements postgres) with
    | error e =>
      refine ⟨rfl, fun db' h => ?_⟩
      cases h
    | ok db₁ =>
      have h₁ : Lists db₁ versions :=
        run_keeps (I := fun db => Lists db versions) (fun s hs _ _ hlists heffect =>
          hlists.keeps heffect (hwrites m List.mem_cons_self s hs)) hrun h
      dsimp only [Except.bind]
      cases hexec : db₁.exec (recordVersion m.version now) with
      | error e =>
        refine ⟨?_, fun db' h => by cases h⟩
        show (sql (db₁.exec (recordVersion m.version now)) >>= fun db => _) = _
        rw [hexec]
        rfl
      | ok db₂ =>
        have h₂ := h₁.record (hnew m List.mem_cons_self) (effect_of_exec hexec)
        have hrecorded := h₂.applied m.version
        rw [decide_eq_true (List.mem_append_right _ (List.mem_singleton_self _))] at hrecorded
        rw [List.map_cons, List.nodup_cons] at hdistinct
        have hnew' : ∀ m' ∈ ms, Value.text m'.version ∉ versions ++ [Value.text m.version] := by
          intro m' hm' hlisted
          rcases List.mem_append.mp hlisted with hold | hsame
          · exact hnew m' (List.mem_cons_of_mem _ hm') hold
          · rw [List.mem_singleton, Value.text.injEq] at hsame
            exact hdistinct.1 (hsame ▸ List.mem_map_of_mem hm')
        obtain ⟨heq, hlists⟩ := ih h₂ hnew' hdistinct.2
          (fun m' hm' => hwrites m' (List.mem_cons_of_mem _ hm'))
        refine ⟨?_, fun db' h => ?_⟩
        · show (sql (db₁.exec (recordVersion m.version now)) >>= fun db => _) = _
          rw [hexec]
          show (migrationApplied db₂ m.version >>= fun applied => _) = _
          rw [hrecorded]
          exact heq
        · rw [List.map_cons, ← List.singleton_append, ← List.append_assoc]
          exact hlists db' h

end Ledger

/-! ## Following an upgrade -/

/-- The schema cannot be executed over an earlier release than the fifth. -/
theorem run_schema_early : ∀ k < 5, (releasedShape k).run schemaSql = none := by decide +kernel

/-- All of the schema is reached from the columns of a later release. -/
def reaches (postgres : Bool) (k : ℕ) : Bool :=
  (((releasedShape k).run schemaSql).bind (fun σ =>
    σ.run (pendingStatements postgres "" (migrations.drop k)))).any
      (fun σ => currentShape.all (fun p => σ.has p.1 p.2))

theorem reaches_late : ∀ postgres, ∀ k < 10, 5 ≤ k → reaches postgres k = true := by
  decide +kernel

/-- After the last migration there is no later release. -/
theorem releasedShape_of_le {k : ℕ} (h : 9 ≤ k) : releasedShape k = releasedShape 9 := by
  have hlength : migrations.length = 9 := rfl
  unfold releasedShape
  rw [List.take_of_length_le (hlength ▸ h), List.take_of_length_le (Nat.le_of_eq hlength),
    if_neg (by omega), if_neg (by decide)]

theorem run_pendingStatements (postgres : Bool) (now : String) (ms : List Migration) (σ : Shape) :
    σ.run (pendingStatements postgres now ms) = σ.run (pendingStatements postgres "" ms) := by
  induction ms generalizing σ with
  | nil => rfl
  | cons m ms ih =>
    unfold pendingStatements at ih ⊢
    simp only [List.flatMap_cons, Shape.run_append]
    exact Option.bind_congr (fun σ' _ => ih σ')

/-- **A later release is followed to the columns of the schema.** -/
theorem shape_late (postgres : Bool) (now : String) {k : ℕ} (h : 5 ≤ k) :
    ∃ σ σ', (releasedShape k).run schemaSql = some σ ∧
      σ.run (pendingStatements postgres now (migrations.drop k)) = some σ' ∧
        ∀ p ∈ currentShape, σ'.has p.1 p.2 = true := by
  have hreaches : reaches postgres k = true := by
    by_cases hk : k < 10
    · exact reaches_late postgres k hk h
    · have hlast := reaches_late postgres 9 (by decide) (by decide)
      have hlength : migrations.length = 9 := rfl
      unfold reaches at hlast ⊢
      rw [releasedShape_of_le (by omega), List.drop_of_length_le (by omega)]
      rw [List.drop_of_length_le (by omega)] at hlast
      exact hlast
  unfold reaches at hreaches
  obtain ⟨σ', hσ', hall⟩ := (Option.any_eq_true _ _).mp hreaches
  obtain ⟨σ, hσ, hrun⟩ := Option.bind_eq_some_iff.mp hσ'
  refine ⟨σ, σ', hσ, ?_, List.all_eq_true.mp hall⟩
  rw [run_pendingStatements]
  exact hrun

/-! ## What a start keeps -/

/-- A statement that only adds tables, columns and indexes, and finds no column there. -/
def Additive (tolerant : Bool) : Statement → Bool
  | .createTable .. => true
  | .createIndex i => i ∈ catalogue
  | .addColumn _ _ ifNotExists => ifNotExists || tolerant
  | _ => false

/-- A statement of a start: an additive one, or the record of a version. -/
def Starts (tolerant : Bool) (s : Statement) : Prop :=
  Additive tolerant s = true ∨ ∃ version now, s = recordVersion version now

theorem creates_schema : ∀ s ∈ schemaSql, (match s with
    | .createTable .. => true
    | .createIndex _ => true
    | _ => false) = true := by decide +kernel

theorem additive_schema : ∀ s ∈ schemaSql, Additive false s = true := by decide +kernel

theorem additive_late : ∀ postgres, ∀ m ∈ migrations.drop 5, ∀ s ∈ m.statements postgres,
    Additive (!postgres) s = true := by decide +kernel

theorem mem_drop_five {k : ℕ} (hk : 5 ≤ k) {m : Migration} (hm : m ∈ migrations.drop k) :
    m ∈ migrations.drop 5 := by
  have hsplit : migrations.drop k = (migrations.drop 5).drop (k - 5) := by
    rw [List.drop_drop]
    congr 1
    omega
  rw [hsplit] at hm
  exact List.mem_of_mem_drop hm

theorem starts_schema : ∀ s ∈ schemaSql, Starts false s :=
  fun s hs => Or.inl (additive_schema s hs)

theorem starts_pending (postgres : Bool) (now : String) {k : ℕ} (hk : 5 ≤ k) :
    ∀ s ∈ pendingStatements postgres now (migrations.drop k), Starts (!postgres) s := by
  intro s hs
  obtain ⟨m, hm, hs⟩ := List.mem_flatMap.mp hs
  rcases List.mem_append.mp hs with hs | hs
  · exact Or.inl (additive_late postgres m (mem_drop_five hk hm) s hs)
  · exact Or.inr ⟨m.version, now, List.mem_singleton.mp hs⟩

section Starts

variable {tolerant : Bool} {s : Statement} {db db' db₀ : Database}

theorem writes_of_additive (h : Additive tolerant s = true) : s.writes = none := by
  cases s with
  | fillEmpty => cases h
  | insertNew => cases h
  | _ => rfl

theorem Starts.writes (h : Starts tolerant s) {name : String} (hname : name ≠ "schema_migrations") :
    s.writes ≠ some name := by
  rcases h with h | ⟨version, now, rfl⟩
  · rw [writes_of_additive h]
    exact fun hnone => by cases hnone
  · exact fun hsome => hname (Option.some.inj hsome).symm

theorem Starts.known (h : Starts tolerant s) : ∀ i, s = .createIndex i → i ∈ catalogue := by
  rintro i rfl
  rcases h with h | ⟨version, now, hs⟩
  · exact of_decide_eq_true h
  · cases hs

/-- The tables of the unique indexes of the schema have rows that respect them. -/
def FitsCatalogue (db : Database) : Prop :=
  ∀ i ∈ catalogue, i.unique = true → ∀ t, db.tables i.table = some t → t.Distinct i.columns

theorem catalogue_ledger : ∀ i ∈ catalogue, i.table ≠ "schema_migrations" := by decide +kernel

theorem FitsCatalogue.keeps (h : FitsCatalogue db) (hs : Starts tolerant s)
    (heffect : Effect db s db') : FitsCatalogue db' := by
  intro i hi hunique t' ht'
  rcases heffect.tables ht' with ⟨-, hempty⟩ | ⟨t, ht, hrows⟩
  · exact Table.distinct_of_empty hempty _
  · exact Table.distinct_of_rows (hrows (hs.writes (catalogue_ledger i hi))) (h i hi hunique t ht)

theorem FitsCatalogue.fits (h : FitsCatalogue db) (hs : Starts tolerant s)
    (hknown : ∀ i ∈ db.indexes, i ∈ catalogue) : Fits tolerant db s := by
  rcases hs with hs | ⟨version, now, rfl⟩
  · cases s with
    | createTable => trivial
    | createIndex i => exact fun hunique => h i (of_decide_eq_true hs) hunique
    | addColumn table column ifNotExists => exact Bool.or_eq_true _ _ |>.mp hs
    | _ => cases hs
  · exact fun i hi htable => absurd htable (catalogue_ledger i (hknown i hi))

/-- Every row is kept, and outside of the ledger none is added to a table that was there. -/
structure Kept (db₀ db : Database) : Prop where
  rows : ∀ name t, db₀.tables name = some t → name ≠ "schema_migrations" →
    ∃ t', db.tables name = some t' ∧ t'.rows = t.rows
  ledger : ∀ t, db₀.tables "schema_migrations" = some t →
    ∃ t', db.tables "schema_migrations" = some t' ∧ ∀ r ∈ t.rows, r ∈ t'.rows

theorem Kept.refl : Kept db db :=
  ⟨fun _ t ht _ => ⟨t, ht, rfl⟩, fun t ht => ⟨t, ht, fun _ hr => hr⟩⟩

theorem Kept.keeps (h : Kept db₀ db) (hs : Starts tolerant s) (heffect : Effect db s db') :
    Kept db₀ db' := by
  refine ⟨fun name t ht hname => ?_, fun t ht => ?_⟩
  · obtain ⟨t₁, ht₁, hrows⟩ := h.rows name t ht hname
    obtain ⟨t₂, ht₂, -, hsame⟩ := heffect.keeps ht₁
    exact ⟨t₂, ht₂, (hsame (hs.writes hname)).trans hrows⟩
  · obtain ⟨t₁, ht₁, hrows⟩ := h.ledger t ht
    rcases hs with hs | ⟨version, now, rfl⟩
    · obtain ⟨t₂, ht₂, -, hsame⟩ := heffect.keeps ht₁
      have hwrites : s.writes ≠ some "schema_migrations" := by
        rw [writes_of_additive hs]
        exact fun hnone => by cases hnone
      exact ⟨t₂, ht₂, fun r hr => hsame hwrites ▸ hrows r hr⟩
    · unfold recordVersion at heffect
      cases heffect with
      | rowExists => exact ⟨t₁, ht₁, hrows⟩
      | inserted _ _ _ t₁' hvalues ht₁' _ _ =>
        rw [ht₁] at ht₁'
        cases ht₁'
        exact ⟨_, setTable_self _ _, fun r hr => List.mem_append_left _ (hrows r hr)⟩

end Starts

/-! ## Opening a later release -/

section Opening

variable {postgres : Bool} {now : String} {k : ℕ} {db db₁ db' : Database}

theorem catalogue_nodup : (catalogue.map Index.name).Nodup := by decide +kernel

theorem versions_nodup : (migrations.map Migration.version).Nodup := by decide +kernel

/-- Where the ledger lists every version, it is current. -/
theorem assertMigrationsCurrent_ok {versions : List Value} (h : Lists db versions)
    (hall : ∀ m ∈ migrations, Value.text m.version ∈ versions) :
    assertMigrationsCurrent db = .ok () := by
  have hne : ∀ m ∈ migrations, m.version ≠ "" := by decide +kernel
  unfold assertMigrationsCurrent listSchemaMigrations
  rw [h.ledger]
  refine if_pos ?_
  rw [List.filter_eq_nil_iff]
  intro v hv hnot
  obtain ⟨m, hm, rfl⟩ := List.mem_map.mp hv
  refine of_decide_eq_true hnot (List.mem_filterMap.mpr ⟨_, hall m hm, ?_⟩)
  exact if_neg (hne m hm)

/-- The ledger of a later release. -/
theorem Released.lists (h : Released k db) (hk : 0 < k) : ∃ versions, Lists db versions ∧
    ∀ v, v ∈ versions ↔ ∃ m ∈ migrations.take k, v = .text m.version := by
  have hhas : (releasedShape k).has "schema_migrations" ["version", "applied_at"] = true := by
    have hsmall : ∀ k < 10, 0 < k →
        (releasedShape k).has "schema_migrations" ["version", "applied_at"] = true := by
      decide +kernel
    by_cases hlast : k < 10
    · exact hsmall k hlast hk
    · rw [releasedShape_of_le (by omega)]
      exact hsmall 9 (by decide) (by decide)
  obtain ⟨t, ht, hcolumns⟩ := h.follows.matched.of_has hhas
  have hlists : Lists db (t.rows.map (fun r => r "version")) := ⟨t, ht, hcolumns, rfl⟩
  exact ⟨_, hlists, h.ledger _ hlists.ledger⟩

variable (postgres now) in
/-- After the schema the pending migrations are executed, and then all are listed. -/
theorem applyPending_late (h : Released k db) (hk : 5 ≤ k)
    (hschema : db.run false schemaSql = .ok db₁) :
    applyPendingMigrations postgres now migrations db₁
        = sql (db₁.run (!postgres) (pendingStatements postgres now (migrations.drop k))) ∧
      ∀ db', db₁.run (!postgres) (pendingStatements postgres now (migrations.drop k)) = .ok db' →
        ∃ versions, Lists db' versions ∧
          ∀ v, v ∈ versions ↔ ∃ m ∈ migrations, v = .text m.version := by
  obtain ⟨versions, hlists, hversions⟩ := h.lists (by omega)
  have hwrites : ∀ {tolerant : Bool} {s : Statement}, Additive tolerant s = true →
      s.writes ≠ some "schema_migrations" := by
    intro tolerant s hs
    rw [writes_of_additive hs]
    exact fun h => by cases h
  have hlists₁ : Lists db₁ versions :=
    run_keeps (I := fun db => Lists db versions) (fun s hs _ _ hl heffect =>
      hl.keeps heffect (hwrites (additive_schema s hs))) hschema hlists
  have hsplit := versions_nodup
  rw [← List.take_append_drop k migrations, List.map_append, List.nodup_append] at hsplit
  have hnew : ∀ m ∈ migrations.drop k, Value.text m.version ∉ versions := by
    intro m hm hlisted
    obtain ⟨m', hm', heq⟩ := (hversions _).mp hlisted
    exact hsplit.2.2 _ (List.mem_map_of_mem hm') _ (List.mem_map_of_mem hm)
      (Value.text.inj heq).symm
  obtain ⟨hpending, hafter⟩ := applyPending_eq postgres now hlists₁ hnew
    hsplit.2.1 (fun m hm s hs => hwrites (additive_late postgres m (mem_drop_five hk hm) s hs))
  refine ⟨?_, fun db' hrun => ⟨_, hafter db' hrun, fun v => ?_⟩⟩
  · rw [← hpending]
    nth_rewrite 1 [← List.take_append_drop k migrations]
    exact applyPending_skip postgres now hlists₁ (fun m hm => (hversions _).mpr ⟨m, hm, rfl⟩) _
  · rw [List.mem_append, hversions, List.mem_map]
    constructor
    · rintro (⟨m, hm, rfl⟩ | ⟨m, hm, rfl⟩)
      · exact ⟨m, List.mem_of_mem_take hm, rfl⟩
      · exact ⟨m, List.mem_of_mem_drop hm, rfl⟩
    · rintro ⟨m, hm, rfl⟩
      rw [← List.take_append_drop k migrations] at hm
      rcases List.mem_append.mp hm with hm | hm
      · exact Or.inl ⟨m, hm, rfl⟩
      · exact Or.inr ⟨m, hm, rfl⟩

/-- **Opening a later release** executes the schema and the statements that are pending. -/
theorem openStore_iff (h : Released k db) (hk : 5 ≤ k) :
    openStore postgres now db = .ok db' ↔ ∃ db₁, db.run false schemaSql = .ok db₁ ∧
      db₁.run (!postgres) (pendingStatements postgres now (migrations.drop k)) = .ok db' := by
  unfold openStore
  cases hschema : db.run false schemaSql with
  | error e =>
    refine iff_of_false (fun hopen => ?_) ?_
    · cases hopen
    · rintro ⟨db₁, hdb₁, -⟩
      cases hdb₁
  | ok db₁ =>
    obtain ⟨hpending, hafter⟩ := applyPending_late postgres now h hk hschema
    show (applyPendingMigrations postgres now migrations db₁ >>= fun db => _) = _ ↔ _
    rw [hpending]
    cases hrun : db₁.run (!postgres) (pendingStatements postgres now (migrations.drop k)) with
    | error e =>
      refine iff_of_false (fun hopen => ?_) ?_
      · cases hopen
      · rintro ⟨db₁', hdb₁', hrun'⟩
        cases hdb₁'
        rw [hrun] at hrun'
        cases hrun'
    | ok db₂ =>
      obtain ⟨versions, hlists, hversions⟩ := hafter db₂ hrun
      show (assertMigrationsCurrent db₂ >>= fun _ => _) = _ ↔ _
      rw [assertMigrationsCurrent_ok hlists (fun m hm => (hversions _).mpr ⟨m, hm, rfl⟩)]
      constructor
      · intro hopen
        cases hopen
        exact ⟨db₁, rfl, hrun⟩
      · rintro ⟨db₁', hdb₁', hrun'⟩
        cases hdb₁'
        rw [hrun] at hrun'
        cases hrun'
        rfl

/-- A start that goes through keeps what every statement of it keeps. -/
theorem runs_keep {I : Database → Prop} (hk : 5 ≤ k)
    (hs : ∀ tolerant s, Starts tolerant s → ∀ db db', I db → Effect db s db' → I db')
    (hschema : db.run false schemaSql = .ok db₁)
    (hrun : db₁.run (!postgres) (pendingStatements postgres now (migrations.drop k)) = .ok db')
    (hI : I db) : I db' :=
  run_keeps (fun s hmem => hs _ s (starts_pending postgres now hk s hmem)) hrun
    (run_keeps (fun s hmem => hs _ s (starts_schema s hmem)) hschema hI)

variable (postgres now) in
/-- **A later release opens** where its rows respect the unique indexes. -/
theorem opens_late (h : Released k db) (hk : 5 ≤ k) (hfits : FitsCatalogue db) :
    ∃ db', openStore postgres now db = .ok db' := by
  obtain ⟨σ, σ', hσ, hσ', -⟩ := shape_late postgres now hk
  obtain ⟨db₁, hschema, hf₁, hfits₁⟩ := run_ok (I := FitsCatalogue) catalogue_nodup
    (fun i hi => (starts_schema _ hi).known i rfl)
    (fun s hs db hknown hI => hI.fits (starts_schema s hs) hknown)
    (fun s hs db db' hI heffect => hI.keeps (starts_schema s hs) heffect) h.follows hσ hfits
  have hpending := starts_pending postgres now hk
  obtain ⟨db', hrun, -, -⟩ := run_ok (I := FitsCatalogue) catalogue_nodup
    (fun i hi => (hpending _ hi).known i rfl)
    (fun s hs db hknown hI => hI.fits (hpending s hs) hknown)
    (fun s hs db db' hI heffect => hI.keeps (hpending s hs) heffect) hf₁ hσ' hfits₁
  exact ⟨db', (openStore_iff h hk).mpr ⟨db₁, hschema, hrun⟩⟩

/-- **No earlier release opens.** -/
theorem not_opens_early (h : Released k db) (hk : k < 5) :
    openStore postgres now db ≠ .ok db' := by
  intro hopen
  unfold openStore at hopen
  cases hschema : db.run false schemaSql with
  | error e =>
    rw [hschema] at hopen
    cases hopen
  | ok db₁ =>
    obtain ⟨σ, hσ, -⟩ := run_follows catalogue_nodup
      (fun i hi => (starts_schema _ hi).known i rfl) hschema h.follows
    rw [run_schema_early k hk] at hσ
    cases hσ

/-! ## What an upgrade leaves -/

/-- A second start finds nothing to do. -/
theorem openStore_again {versions : List Value} (hlists : Lists db versions)
    (hall : ∀ m ∈ migrations, Value.text m.version ∈ versions)
    (htables : ∀ p ∈ currentShape, db.tables p.1 ≠ none)
    (hindexes : ∀ i ∈ catalogue, i ∈ db.indexes) : openStore postgres now db = .ok db := by
  have hschema : db.run false schemaSql = .ok db := by
    refine run_done (fun s hs => ?_)
    cases s with
    | createTable name columns =>
      exact htables (name, columns) (List.mem_filterMap.mpr ⟨_, hs, rfl⟩)
    | createIndex i =>
      exact List.mem_map_of_mem (hindexes i (List.mem_filterMap.mpr ⟨_, hs, rfl⟩))
    | _ => cases creates_schema _ hs
  have hpending : applyPendingMigrations postgres now migrations db = .ok db := by
    have hskip := applyPending_skip postgres now hlists hall []
    rw [List.append_nil] at hskip
    exact hskip
  unfold openStore
  rw [hschema]
  show (applyPendingMigrations postgres now migrations db >>= fun db => _) = _
  rw [hpending]
  show (assertMigrationsCurrent db >>= fun _ => _) = _
  rw [assertMigrationsCurrent_ok hlists hall]
  rfl

/-- A start that goes through keeps the rows, and leaves the database valid. -/
theorem kept_late (h : Released k db) (hk : 5 ≤ k) (hopen : openStore postgres now db = .ok db') :
    Kept db db' ∧ db'.Valid := by
  obtain ⟨db₁, hschema, hrun⟩ := (openStore_iff h hk).mp hopen
  exact ⟨runs_keep hk (fun _ _ hs _ _ hI heffect => hI.keeps hs heffect) hschema hrun Kept.refl,
    runs_keep hk (fun _ _ _ _ _ hI heffect => heffect.valid hI) hschema hrun h.follows.valid⟩

/-- **An upgrade from a later release** does all it is to do but for the tenants, which it leaves
as they are. -/
theorem upgraded_late (h : Released k db) (hk : 5 ≤ k)
    (hopen : openStore postgres now db = .ok db')
    (hfilled : ∀ t, db.tables "decisions" = some t → t.rows.map fillTenant = t.rows) :
    Upgraded postgres db db' := by
  obtain ⟨hkept, -⟩ := kept_late h hk hopen
  obtain ⟨db₁, hschema, hrun⟩ := (openStore_iff h hk).mp hopen
  obtain ⟨-, hafter⟩ := applyPending_late postgres now h hk hschema
  obtain ⟨versions, hlists, hversions⟩ := hafter db' hrun
  -- the columns are those that the statements lead to
  obtain ⟨σ, σ', hσ, hσ', hcurrent⟩ := shape_late postgres now hk
  obtain ⟨σ₁, hσ₁, hf₁⟩ := run_follows catalogue_nodup
    (fun i hi => (starts_schema _ hi).known i rfl) hschema h.follows
  rw [hσ] at hσ₁
  cases hσ₁
  obtain ⟨σ₂, hσ₂, hf₂⟩ := run_follows catalogue_nodup
    (fun i hi => (starts_pending postgres now hk _ hi).known i rfl) hrun hf₁
  rw [hσ'] at hσ₂
  cases hσ₂
  have hcolumns : ∀ name columns, (name, columns) ∈ currentShape →
      ∃ t, db'.tables name = some t ∧ ∀ c ∈ columns, c ∈ t.columns :=
    fun name columns hp => hf₂.matched.of_has (hcurrent (name, columns) hp)
  have hindexes : ∀ i ∈ catalogue, i ∈ db'.indexes := by
    intro i hi
    obtain ⟨s, hs, hsi⟩ := List.mem_filterMap.mp hi
    have hcreate : Statement.createIndex i ∈ schemaSql := by
      cases s with
      | createIndex j =>
        cases hsi
        exact hs
      | _ => cases hsi
    obtain ⟨j, hj, hji⟩ := List.mem_map.mp (name_mem_of_run hschema hcreate)
    have hj' : j ∈ db'.indexes :=
      run_keeps (I := fun db => j ∈ db.indexes)
        (fun _ _ _ _ hI heffect => heffect.indexes.1 j hI) hrun hj
    rw [← List.inj_on_of_nodup_map catalogue_nodup (hf₂.known j hj') hi hji]
    exact hj'
  refine ⟨⟨versions, hlists.ledger, hversions⟩, hcolumns, hindexes, ?_, hkept.ledger, ?_⟩
  · intro name t ht hname
    obtain ⟨t', ht', hrows⟩ := hkept.rows name t ht hname
    refine ⟨t', ht', ?_⟩
    unfold upgradedRows
    split
    · rename_i hdecisions
      rw [hrows, hfilled t (hdecisions ▸ ht)]
    · exact hrows
  · intro now'
    refine openStore_again hlists (fun m hm => (hversions _).mpr ⟨m, hm, rfl⟩) ?_ hindexes
    intro p hp
    obtain ⟨t, ht, -⟩ := hcolumns p.1 p.2 hp
    rw [ht]
    exact fun hnone => by cases hnone

/-- A decision that the upgrade is to leave as it is: it has a tenant, or its team is no other. -/
def TenantFilled (r : Record) : Prop :=
  r "tenant_id" = .null ∨ r "tenant_id" = .text "" → r "team" = r "tenant_id"

theorem fillTenant_eq_iff (r : Record) : fillTenant r = r ↔ TenantFilled r := by
  unfold fillTenant Table.fillRow TenantFilled
  by_cases hempty : r "tenant_id" = .null ∨ r "tenant_id" = .text ""
  · rw [if_pos hempty]
    constructor
    · intro hsame _
      have hvalue := congrFun hsame "tenant_id"
      rw [Function.update_self] at hvalue
      exact hvalue
    · intro hteam
      rw [hteam hempty]
      exact Function.update_eq_self _ _
  · rw [if_neg hempty]
    exact iff_of_true rfl (fun h => absurd h hempty)

theorem map_fillTenant_iff (rows : List Record) :
    rows.map fillTenant = rows ↔ ∀ r ∈ rows, TenantFilled r := by
  constructor
  · intro hsame r hr
    refine (fillTenant_eq_iff r).mp (List.map_inj_left.mp ?_ r hr : fillTenant r = id r)
    rw [List.map_id]
    exact hsame
  · intro hfilled
    rw [List.map_congr_left (fun r hr => (fillTenant_eq_iff r).mpr (hfilled r hr)), List.map_id']

/-- **When an upgrade from an earlier release does what it is to do**: the release has the fifth
migration, every decision has its tenant already, and the rows respect the unique indexes. -/
theorem upgrades_iff (postgres : Bool) (now : String) (k : ℕ) (db : Database)
    (h : Released k db) :
    (∃ db', openStore postgres now db = .ok db' ∧ Upgraded postgres db db') ↔
      5 ≤ k ∧ (∀ t, db.tables "decisions" = some t → ∀ r ∈ t.rows, TenantFilled r) ∧
        ∀ i ∈ catalogue, i.unique = true → ∀ t, db.tables i.table = some t →
          t.Distinct i.columns := by
  constructor
  · rintro ⟨db', hopen, hupgraded⟩
    have hk : 5 ≤ k := by
      by_contra hk
      exact not_opens_early h (by omega) hopen
    obtain ⟨hkept, hvalid⟩ := kept_late h hk hopen
    refine ⟨hk, fun t ht r hr => ?_, fun i hi hunique t ht => ?_⟩
    · obtain ⟨t₁, ht₁, hsame⟩ := hkept.rows "decisions" t ht (by decide)
      obtain ⟨t₂, ht₂, hfilled⟩ := hupgraded.rows "decisions" t ht (by decide)
      rw [ht₁] at ht₂
      cases ht₂
      unfold upgradedRows at hfilled
      rw [if_pos rfl, hsame] at hfilled
      exact (map_fillTenant_iff t.rows).mp hfilled.symm r hr
    · obtain ⟨t₁, ht₁, -, hdistinct⟩ := hvalid i (hupgraded.indexes i hi)
      obtain ⟨t₂, ht₂, hsame⟩ := hkept.rows i.table t ht (catalogue_ledger i hi)
      rw [ht₁] at ht₂
      cases ht₂
      exact Table.distinct_of_rows hsame.symm (hdistinct hunique)
  · rintro ⟨hk, htenants, hfits⟩
    obtain ⟨db', hopen⟩ := opens_late postgres now h hk hfits
    refine ⟨db', hopen, upgraded_late h hk hopen (fun t ht => ?_)⟩
    exact (map_fillTenant_iff t.rows).mpr (htenants t ht)

end Opening

/-! ## Two releases -/

/-- The empty tables of a release. -/
def emptyRelease (k : ℕ) : Database where
  tables name := ((releasedShape k).lookup name).map Table.empty
  indexes := []
  foreignKeys := []

/-- The statements that fill a release. -/
def fillRelease (k : ℕ) (decision : List (String × Value)) : List Statement :=
  .insertNew "decisions" "decision_id" decision
    :: (migrations.take k).map (fun m => recordVersion m.version "")

/-- A release with a decision and its ledger. -/
def releaseWith (k : ℕ) (decision : List (String × Value)) : Database :=
  match (emptyRelease k).run false (fillRelease k decision) with
  | .ok db => db
  | .error _ => emptyRelease k

theorem follows_emptyRelease (k : ℕ) : Follows catalogue (emptyRelease k) (releasedShape k) := by
  refine ⟨fun i hi => absurd hi List.not_mem_nil, fun i hi => absurd hi List.not_mem_nil,
    fun name => ?_⟩
  show Option.Rel _ (((releasedShape k).lookup name).map Table.empty) _
  cases (releasedShape k).lookup name with
  | none => exact .none
  | some columns => exact .some (fun c => Iff.rfl)

theorem released_releaseWith {k : ℕ} {decision : List (String × Value)}
    (hrun : (emptyRelease k).run false (fillRelease k decision) = .ok (releaseWith k decision))
    (hshape : (releasedShape k).run (fillRelease k decision) = some (releasedShape k))
    (hledger : ∀ versions, ledger (releaseWith k decision) = .ok versions →
      versions = (migrations.take k).map (fun m => .text m.version)) :
    Released k (releaseWith k decision) := by
  have hcreates : ∀ i, .createIndex i ∈ fillRelease k decision → i ∈ catalogue := by
    intro i hi
    rcases List.mem_cons.mp hi with hi | hi
    · cases hi
    · obtain ⟨m, -, hm⟩ := List.mem_map.mp hi
      cases hm
  obtain ⟨σ, hσ, hfollows⟩ := run_follows catalogue_nodup hcreates hrun (follows_emptyRelease k)
  rw [hshape] at hσ
  cases hσ
  refine ⟨hfollows, fun versions hversions v => ?_⟩
  rw [hledger versions hversions, List.mem_map]
  exact exists_congr (fun m => and_congr_right' eq_comm)

/-- A decision of a team, from before there were tenants. -/
def oldDecision : List (String × Value) :=
  [("decision_id", .text "d"), ("team", .text "platform")]

/-- A decision of a tenant. -/
def tenantDecision : List (String × Value) := oldDecision ++ [("tenant_id", .text "acme")]

theorem released_original : Released 0 (releaseWith 0 oldDecision) :=
  released_releaseWith rfl (by decide +kernel) (fun versions h => by cases h)

/-- **The original tables cannot be opened**, with PostgreSQL or with SQLite. -/
theorem not_upgrades_original : ¬ ∀ (postgres : Bool) (now : String) (k : ℕ) (db : Database),
    Released k db → ∃ db', openStore postgres now db = .ok db' ∧ Upgraded postgres db db' := by
  intro hall
  obtain ⟨db', hopen, -⟩ := hall false "" 0 (releaseWith 0 oldDecision) released_original
  exact not_opens_early released_original (by decide) hopen

theorem released_fifth : Released 5 (releaseWith 5 tenantDecision) :=
  released_releaseWith rfl (by decide +kernel) (fun versions h => by cases h; rfl)

/-- The release with the fifth migration is upgraded. -/
theorem upgrades_fifth :
    ∃ db', openStore false "2026-01-01T00:00:00+00:00" (releaseWith 5 tenantDecision) = .ok db' ∧
      Upgraded false (releaseWith 5 tenantDecision) db' := by
  refine (upgrades_iff false _ 5 (releaseWith 5 tenantDecision) released_fifth).mpr
    ⟨by decide, fun t ht r hr => ?_, fun i hi hunique t ht => ?_⟩
  · have hrows : ((releaseWith 5 tenantDecision).tables "decisions").map Table.rows
        = some [Table.record tenantDecision] := rfl
    rw [ht, Option.map_some, Option.some.injEq] at hrows
    rw [hrows, List.mem_singleton] at hr
    have htenant : r "tenant_id" = .text "acme" := hr ▸ rfl
    intro hempty
    rw [htenant] at hempty
    exact absurd hempty (by decide)
  · have hnone : ∀ i ∈ catalogue, i.unique = true →
        ((releaseWith 5 tenantDecision).tables i.table).isNone = true := by decide +kernel
    have habsent := hnone i hi hunique
    rw [ht] at habsent
    cases habsent

end ControlPlane.Upgrade
