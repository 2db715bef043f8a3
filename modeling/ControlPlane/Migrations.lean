/-
# The schema and its migrations (`app/db_schema.py`, `app/decision_store.py`)

What `DecisionStore` does to a database when it opens it: it executes the current schema, then
the migrations that the ledger does not list, and checks the ledger.  The primary keys and the
types of the columns are left out: no statement here depends on them.
-/
import ControlPlane.Python
import ControlPlane.SqlSchema

namespace ControlPlane.Migrations

open SqlSchema

/-! ## The schema -/

/-- `CREATE INDEX IF NOT EXISTS name ON table (columns)`. -/
def index (name table : String) (columns : List String) : Statement :=
  .createIndex { name := name, table := table, columns := columns, unique := false }

/-- `CREATE UNIQUE INDEX IF NOT EXISTS name ON table (columns)`. -/
def uniqueIndex (name table : String) (columns : List String) : Statement :=
  .createIndex { name := name, table := table, columns := columns, unique := true }

/-- The table of the remediation proposals. -/
def remediationProposals : List Statement :=
  [.createTable "remediation_proposals"
      ["proposal_id", "tenant_id", "status", "source", "remediation_kind", "drift_snapshot_json",
        "selected_action_json", "decision_id", "approval_id", "policy_verdict", "pr_title",
        "pr_body", "pr_url", "applied_at", "verification_snapshot_json", "failure_reason",
        "created_at", "updated_at"]]

/-- Its indexes. -/
def remediationIndexes : List Statement :=
  [index "idx_remediation_proposals_status_created" "remediation_proposals"
      ["status", "created_at"],
    index "idx_remediation_proposals_tenant_created" "remediation_proposals"
      ["tenant_id", "created_at"]]

/-- The table of the capability contracts. -/
def capabilityContracts : List Statement :=
  [.createTable "capability_contracts"
      ["contract_id", "kind", "name", "tenant_id", "status", "version", "content_digest",
        "capabilities_json", "source", "created_at", "updated_at", "activated_at"]]

/-- Its indexes. -/
def capabilityIndexes : List Statement :=
  [index "idx_capability_contracts_kind_name_status" "capability_contracts"
      ["kind", "name", "status"],
    index "idx_capability_contracts_tenant_created" "capability_contracts"
      ["tenant_id", "created_at"],
    uniqueIndex "idx_capability_contracts_digest" "capability_contracts"
      ["kind", "name", "tenant_id", "content_digest"]]

/-- The tables of policy bundles and of their impacts, with the indexes. -/
def policyBundles : List Statement :=
  [.createTable "policy_bundles"
      ["record_id", "bundle_id", "content_digest", "git_revision", "status", "generation",
        "source_type", "source_json", "validation_status", "error", "loaded_at", "created_at",
        "updated_at", "activated_at"],
    .createTable "policy_bundle_impacts"
      ["impact_id", "bundle_id", "content_digest", "evaluated_decisions", "unchanged",
        "allow_to_block", "allow_to_approval", "block_to_allow", "approval_to_allow",
        "approval_to_block", "other_changes", "sample_changes_json", "simulate_limit",
        "created_at"],
    index "idx_policy_bundles_status_updated" "policy_bundles" ["status", "updated_at"],
    uniqueIndex "idx_policy_bundles_digest" "policy_bundles" ["bundle_id", "content_digest"],
    index "idx_policy_bundle_impacts_bundle" "policy_bundle_impacts" ["bundle_id", "created_at"]]

/-- `_INDEX_STATEMENTS`; the schema has the same. -/
def indexStatements : List Statement :=
  [index "idx_approvals_status_created" "approvals" ["status", "created_at"],
    index "idx_approvals_decision_id" "approvals" ["decision_id"],
    index "idx_decisions_request_id" "decisions" ["request_id"],
    index "idx_decisions_team_created" "decisions" ["team", "created_at"],
    index "idx_decisions_tenant_created" "decisions" ["tenant_id", "created_at"],
    index "idx_audit_meta_decision_id" "audit_meta" ["decision_id"],
    index "idx_audit_meta_created_at" "audit_meta" ["created_at"]]

/-- `SCHEMA_SQL`. -/
def schemaSql : List Statement :=
  [.createTable "decisions"
      ["decision_id", "request_id", "final_verdict", "policy_bundle_id", "policy_digest", "team",
        "tenant_id", "environment", "model", "subject", "reasons_json", "stages_json",
        "request_json", "request_digest", "agent_capability_digest", "tools_capability_digest",
        "created_at"],
    .createTable "approvals"
      ["approval_id", "decision_id", "status", "reviewer", "review_comment", "created_at",
        "expires_at", "resolved_at", "used_at"],
    .createTable "audit_meta"
      ["event_id", "decision_id", "event_type", "actor", "payload_json", "created_at"]]
    ++ remediationProposals ++ capabilityContracts
    ++ [.createTable "schema_migrations" ["version", "applied_at"]]
    ++ indexStatements ++ remediationIndexes ++ capabilityIndexes ++ policyBundles

/-! ## The migrations -/

/-- A migration with its statements for each backend. -/
structure Migration where
  version : String
  postgres : List Statement
  sqlite : List Statement

/-- The statements for a backend. -/
def Migration.statements (m : Migration) (postgres : Bool) : List Statement :=
  if postgres then m.postgres else m.sqlite

/-- `ALTER TABLE child ADD CONSTRAINT … FOREIGN KEY (decision_id) REFERENCES decisions`. -/
def decisionForeignKey (name child : String) : Statement :=
  .addForeignKey {
    name := name, table := child, column := "decision_id"
    refTable := "decisions", refColumn := "decision_id" }

/-- `006_decision_tenant_id` after its first statement. -/
def fillTenants : List Statement :=
  [.fillEmpty "decisions" "tenant_id" "team",
    index "idx_decisions_tenant_created" "decisions" ["tenant_id", "created_at"]]

/-- `MIGRATIONS`. -/
def migrations : List Migration :=
  [{ version := "002_request_digest"
     postgres := [.addColumn "decisions" "request_digest" true]
     sqlite := [.addColumn "decisions" "request_digest" false] },
    { version := "003_approval_used_at"
      postgres := [.addColumn "approvals" "used_at" true]
      sqlite := [.addColumn "approvals" "used_at" false] },
    { version := "004_query_indexes"
      postgres := indexStatements
      sqlite := indexStatements },
    { version := "005_decision_foreign_keys"
      postgres := [decisionForeignKey "approvals_decision_id_fkey" "approvals",
        decisionForeignKey "audit_meta_decision_id_fkey" "audit_meta"]
      sqlite := [] },
    { version := "006_decision_tenant_id"
      postgres := .addColumn "decisions" "tenant_id" true :: fillTenants
      sqlite := .addColumn "decisions" "tenant_id" false :: fillTenants },
    { version := "007_remediation_proposals"
      postgres := remediationProposals ++ remediationIndexes
      sqlite := remediationProposals ++ remediationIndexes },
    { version := "008_capability_contracts"
      postgres := capabilityContracts ++ capabilityIndexes
      sqlite := capabilityContracts ++ capabilityIndexes },
    { version := "009_policy_bundles"
      postgres := policyBundles
      sqlite := policyBundles },
    { version := "010_capability_execution_digests"
      postgres := [.addColumn "decisions" "agent_capability_digest" true,
        .addColumn "decisions" "tools_capability_digest" true]
      sqlite := [.addColumn "decisions" "agent_capability_digest" false,
        .addColumn "decisions" "tools_capability_digest" false] }]

/-! ## Opening a database -/

/-- What opening a database raises. -/
inductive StartError where
  | sql (e : SqlError)
  | runtimeError (text : String)
  deriving DecidableEq, Repr

/-- The exception of a statement is one of the start. -/
def sql {α : Type} : Except SqlError α → Except StartError α
  | .ok a => .ok a
  | .error e => .error (.sql e)

/-- The versions that `schema_migrations` lists. -/
def ledger (db : Database) : Except SqlError (List Value) :=
  match db.tableWith "schema_migrations" ["version"] with
  | .ok t => .ok (t.rows.map (fun r => r "version"))
  | .error e => .error e

/-- `_migration_applied`. -/
def migrationApplied (db : Database) (version : String) : Except StartError Bool := do
  let versions ← sql (ledger db)
  return Value.text version ∈ versions

/-- The insertion of a version into `schema_migrations`. -/
def recordVersion (version now : String) : Statement :=
  .insertNew "schema_migrations" "version" [("version", .text version), ("applied_at", .text now)]

/-- `_execute_migration_statement`, for each of a list: SQLite tolerates a duplicate column. -/
def executeMigrationStatements (postgres : Bool) (statements : List Statement) (db : Database) :
    Except StartError Database := sql (db.run (!postgres) statements)

/-- `_apply_pending_migrations`. -/
def applyPendingMigrations (postgres : Bool) (now : String) :
    List Migration → Database → Except StartError Database
  | [], db => return db
  | m :: ms, db => do
    if ← migrationApplied db m.version then applyPendingMigrations postgres now ms db
    else
      let db ← executeMigrationStatements postgres (m.statements postgres) db
      let db ← sql (db.exec (recordVersion m.version now))
      if ← migrationApplied db m.version then applyPendingMigrations postgres now ms db
      else throw (.runtimeError s!"failed to record schema migration {m.version}")

/-- `list_schema_migrations`. -/
def listSchemaMigrations (db : Database) : Except StartError (List String) := do
  let versions ← sql (ledger db)
  return versions.filterMap (fun
    | .text v => if v = "" then none else some v
    | _ => none)

/-- `assert_migrations_current`. -/
def assertMigrationsCurrent (db : Database) : Except StartError Unit := do
  let applied ← listSchemaMigrations db
  let missing := (migrations.map Migration.version).filter (fun v => v ∉ applied)
  if missing = [] then return ()
  else
    throw (.runtimeError ("schema_migrations incomplete: missing "
      ++ ", ".intercalate (missing.mergeSort (fun a b => a ≤ b))))

/-- What `DecisionStore` does to the database that it opens. -/
def openStore (postgres : Bool) (now : String) (db : Database) : Except StartError Database := do
  let db ← sql (db.run false schemaSql)
  let db ← applyPendingMigrations postgres now migrations db
  assertMigrationsCurrent db
  return db

end ControlPlane.Migrations
