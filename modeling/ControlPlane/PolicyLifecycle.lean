/-
# The policy bundle of a process (`app/policy_lifecycle.py`, `app/policy_bundle.py`)

Every API process evaluates with a policy bundle of its own.  The durable selection is in
the store, with a generation that grows at each activation; a process catches up with it
when it synchronises.  The operations are threads: each call of the store and each section
under the lock of the process is atomic, and files are read in between.
-/
import ControlPlane.Request
import ControlPlane.Store.Policies
import ControlPlane.Threads

namespace ControlPlane

open Transaction Threads

/-- `str(exc)`. -/
def PyError.str : PyError → String
  | keyError key => s!"'{key}'"
  | valueError text => text
  | typeError text => text
  | runtimeError text => text
  | permissionError text => text
  | authenticationError text => text
  | authorizationError text => text
  | httpException status detail => s!"{status}: {detail}"
  | storeUnavailable text => text
  | overflowError text => text

/-! ## Sources and bundles -/

/-- A source as it is recorded in the store. -/
abbrev SourceJson := List (String × Json.Value)

/-- `PolicySource`. -/
structure PolicySource where
  sourceType : String
  path : String
  reference : String
  digest : String
  verifySignature : Bool

/-- `_source_to_json`. -/
def PolicySource.toJson (source : PolicySource) : SourceJson :=
  [("type", .str source.sourceType), ("path", .str source.path),
    ("reference", .str source.reference), ("digest", .str source.digest),
    ("verify_signature", .bool source.verifySignature)]

/-- `validation_status == "ok"`. -/
def PolicyBundle.isValid (bundle : PolicyBundle) : Bool := bundle.config.isOk

/-- `loaded.error or message`. -/
def PolicyBundle.errorOr (bundle : PolicyBundle) (message : String) : String :=
  match bundle.config with
  | .ok _ => message
  | .error text => orElse text message

/-- What the store is told about a bundle. -/
def PolicyBundle.registration (py : PyRuntime) (bundle : PolicyBundle)
    (source : SourceJson) : NewPolicyBundle where
  bundleId := bundle.bundleId
  contentDigest := bundle.contentDigest
  gitRevision := bundle.gitRevision
  sourceType :=
    match source.lookup "type" with
    | none => "filesystem"
    | some value => if jsonTruthy value then py.strJson value else "filesystem"
  sourceJson := source
  validationStatus := if bundle.isValid then "ok" else "error"
  error := match bundle.config with
    | .ok _ => none
    | .error text => some text
  loadedAt := bundle.loadedAt

/-! ## The state of a process -/

/-- The policy state of a process. -/
structure PolicyProcess where
  /-- `get_policy_bundle()` -/
  bundle : PolicyBundle
  previous : Option PolicyBundle := none
  candidates : List (String × PolicyBundle) := []
  candidateSources : List (String × SourceJson) := []
  observedGeneration : ℤ := 0
  bootstrapError : Option String := none
  fallbackActive : Bool := false

namespace PolicyProcess

variable (process : PolicyProcess)

/-- The process has already caught up with the active record. -/
def upToDate (active : PolicyBundleRow) : Bool :=
  let generation := active.generation.getD 0
  0 < generation ∧ generation = process.observedGeneration ∧
    process.bundle.contentDigest = active.contentDigest

/-- The process switches to a loaded bundle, and remembers a valid one that it leaves. -/
def switch (current loaded : PolicyBundle) (generation : ℤ) : PolicyProcess :=
  { process with
    bundle := loaded
    previous := if current.isValid ∧ current.contentDigest ≠ loaded.contentDigest
      then some current else process.previous
    observedGeneration := generation
    bootstrapError := none
    fallbackActive := false }

/-- The process switches to a bundle and remembers the valid one that it leaves. -/
def adopt (bundle : PolicyBundle) (generation : ℤ) : PolicyProcess :=
  { process with
    bundle := bundle
    previous := if process.bundle.isValid then some process.bundle else process.previous
    observedGeneration := generation }

/-- A candidate with its source. -/
def remember (bundle : PolicyBundle) (source : SourceJson) : PolicyProcess :=
  { process with
    candidates := (bundle.bundleId, bundle) :: process.candidates
    candidateSources := (bundle.bundleId, source) :: process.candidateSources }

/-- The bundle with an id that the process holds. -/
def cached (bundleId : String) : Option PolicyBundle :=
  match process.candidates.lookup bundleId with
  | some bundle => some bundle
  | none =>
    if process.bundle.bundleId = bundleId then some process.bundle
    else process.previous.filter (fun bundle => bundle.bundleId = bundleId)

end PolicyProcess

/-- A bundle that was loaded for a record has to be valid and to have its digest. -/
def checkLoaded (record : PolicyBundleRow) (loaded : PolicyBundle) : Except PyError PolicyBundle :=
  if ¬ loaded.isValid then
    .error (.runtimeError (loaded.errorOr "active policy bundle invalid"))
  else if loaded.contentDigest ≠ record.contentDigest then
    .error (.runtimeError ("active policy digest mismatch after rematerialize: "
      ++ loaded.contentDigest ++ " != " ++ record.contentDigest))
  else .ok loaded

/-! ## Synchronising -/

/-- A process and the bundle it has synchronised with, if it has. -/
abbrev Synced := PolicyProcess × Option PolicyBundle

section Sync

variable (load : SourceJson → Except PyError PolicyBundle)

/-- What `sync_active_from_store` makes of the active record when nothing else runs. -/
def PolicyProcess.catchUp (process : PolicyProcess) (force : Bool)
    (active : Option PolicyBundleRow) : Synced :=
  match active with
  | none => (process, none)
  | some record =>
    if ¬ force ∧ process.upToDate record then (process, some process.bundle)
    else
      match load record.sourceJson >>= checkLoaded record with
      | .error e => ({ process with bootstrapError := some e.str }, none)
      | .ok loaded =>
        (process.switch process.bundle loaded (record.generation.getD 0), some loaded)

/-- `sync_active_from_store` in a request: a store that cannot be read changes nothing. -/
def syncActiveFromStore (process : PolicyProcess) (force : Bool) : StoreM Synced := do
  let active ← tryCatch getActivePolicyBundle (fun _ => pure none)
  return process.catchUp load force active

end Sync

/-! ## The operations -/

/-- The durable rows, and the process whose threads share it. -/
structure PolicyWorld where
  rows : List Row
  process : PolicyProcess

/-- Where an operation takes the generation of a bundle from. -/
inductive Slot where
  /-- its own call that selects a record -/
  | own
  /-- the record that a synchronisation reads -/
  | sync
  deriving DecidableEq, Repr

/-- What a section of an operation does about generations. -/
inductive PolicyMark where
  | learn (slot : Slot)
  | install (slot : Slot)
  deriving DecidableEq, Repr

/-- A program of the lifecycle. -/
abbrev LifecycleM := Thread PolicyWorld PolicyMark PyError

/-- A call of the store. -/
def storeCall {α : Type} (mark : Option PolicyMark) (p : StoreM α) (fails : ℕ → Option PyError) :
    LifecycleM α :=
  Thread.atomic mark (fun w =>
    ((outcome p fails w.rows).1, { w with rows := (outcome p fails w.rows).2 }))

/-- `with self._lock`. -/
def locked {α : Type} (mark : Option PolicyMark) (f : PolicyProcess → α × PolicyProcess) :
    LifecycleM α :=
  Thread.atomic mark (fun w => (.ok (f w.process).1, { w with process := (f w.process).2 }))

/-- What one call of the lifecycle finds outside of the process: which statements of its
store calls fail, what it reads from files, the time, new ids and the configuration. -/
structure Surroundings where
  py : PyRuntime
  fails : ℕ → ℕ → Option PyError
  /-- `_load_from_record`, by the number of the read -/
  load : ℕ → SourceJson → Except PyError PolicyBundle
  clock : ℕ → Instant
  recordId : String
  /-- `get_governance_root()` -/
  governanceRoot : String
  /-- `policy_source_from_env()` -/
  source : PolicySource
  /-- `materialize_policy_root` -/
  materialize : PolicySource → Except PyError String
  /-- `PolicyBundle.load`, by the number of the read -/
  loadRoot : ℕ → String → PolicyBundle
  /-- `get_policy_failure_mode() == "last_known_good"` -/
  lastKnownGood : Bool

namespace Surroundings

variable (io : Surroundings)

/-- `sync_active_from_store`, whose store call and read have the given numbers. -/
def sync (call read : ℕ) (force : Bool) : LifecycleM (Option PolicyBundle) := do
  let active ← tryCatch
    (storeCall (some (.learn .sync)) getActivePolicyBundle (io.fails call)) (fun _ => pure none)
  match active with
  | none => return none
  | some record =>
    let current ← locked none (fun process => (process, process))
    if ¬ force ∧ current.upToDate record then return some current.bundle
    else
      match io.load read record.sourceJson >>= checkLoaded record with
      | .error e =>
        locked none (fun process => ((), { process with bootstrapError := some e.str }))
        return none
      | .ok loaded =>
        -- `get_policy_bundle()` is read before the lock is taken
        let leaving ← locked none (fun process => (process.bundle, process))
        locked (some (.install .sync)) (fun process =>
          ((), process.switch leaving loaded (record.generation.getD 0)))
        return some loaded

/-- `get_candidate`. -/
def getCandidate (bundleId : String) : LifecycleM (Option PolicyBundle) := do
  let cached ← locked none (fun process => (process.cached bundleId, process))
  match cached with
  | some bundle => return some bundle
  | none =>
    let record ← storeCall none (getPolicyBundleRecord bundleId) (io.fails 0)
    match record with
    | none => return none
    | some record =>
      match io.load 0 record.sourceJson with
      | .error _ => return none
      | .ok bundle =>
        if bundle.isValid then
          locked none (fun process => ((), process.remember bundle record.sourceJson))
        return some bundle

/-- The candidate that the process remembers, if it is valid, else the one that is looked up. -/
def rememberedOr (bundleId : String) (remembered : Option PolicyBundle) :
    LifecycleM (Option PolicyBundle) :=
  match remembered.filter PolicyBundle.isValid with
  | some bundle => return some bundle
  | none => io.getCandidate bundleId

/-- The candidate that is activated. -/
def findCandidate (bundleId : String) (remembered : Option PolicyBundle) :
    LifecycleM PolicyBundle := do
  let candidate ← io.rememberedOr bundleId remembered
  match candidate.filter PolicyBundle.isValid with
  | none => throw (.keyError ("validated policy bundle not found: " ++ bundleId))
  | some bundle => return bundle

/-- The source that the process remembers, else the one of the record. -/
def rememberedSource (candidate : PolicyBundle) (remembered : SourceJson) :
    LifecycleM SourceJson :=
  if remembered.isEmpty then do
    let record ← storeCall none
      (getPolicyBundleByDigest candidate.bundleId candidate.contentDigest) (io.fails 1)
    return record.elim [] PolicyBundleRow.sourceJson
  else return remembered

/-- The source that is recorded for a candidate. -/
def sourceOf (candidate : PolicyBundle) (remembered : SourceJson) : LifecycleM SourceJson := do
  let source ← io.rememberedSource candidate remembered
  if source.isEmpty then
    return PolicySource.toJson {
      sourceType := "filesystem", path := io.governanceRoot, reference := "", digest := ""
      verifySignature := false }
  else return source

/-- `activate`. -/
def activate (bundleId : String) : LifecycleM PolicyBundle := do
  let process ← locked none (fun process => (process, process))
  let candidate ← io.findCandidate bundleId (process.candidates.lookup bundleId)
  let source ← io.sourceOf candidate ((process.candidateSources.lookup bundleId).getD [])
  let _ ← storeCall none
    (upsertPolicyBundleCandidate (candidate.registration io.py source) io.recordId (io.clock 0))
    (io.fails 2)
  let activated ← storeCall (some (.learn .own))
    (activatePolicyBundle candidate.bundleId candidate.contentDigest (io.clock 1)) (io.fails 3)
  locked (some (.install .own)) (fun process =>
    ((), { process.adopt candidate (activated.generation.getD 0) with
      bootstrapError := none, fallbackActive := false }))
  return candidate

/-- After the store has rolled back the process synchronises, or loads the record. -/
def adoptRollback (activated : PolicyBundleRow) : LifecycleM PolicyBundle := do
  let synced ← io.sync 6 1 true
  match synced with
  | some bundle => return bundle
  | none =>
    let loaded ← Thread.done (io.load 2 activated.sourceJson)
    if ¬ loaded.isValid then throw (.runtimeError (loaded.errorOr "rollback bundle invalid"))
    else
      locked (some (.install .own)) (fun process =>
        ((), process.adopt loaded (activated.generation.getD 0)))
      return loaded

/-- `rollback`: to the previous record of the store, else to the bundle that the process
remembers. -/
def rollback : LifecycleM PolicyBundle := do
  let remembered ← locked none (fun process => (process.previous, process))
  let previous ← storeCall none getPreviousPolicyBundle (io.fails 4)
  match previous with
  | some _ =>
    let activated ← storeCall (some (.learn .own)) (rollbackPolicyBundle (io.clock 2)) (io.fails 5)
    io.adoptRollback activated
  | none =>
    match remembered.filter PolicyBundle.isValid with
    | none => throw (.runtimeError "no last-known-good policy bundle to rollback to")
    | some bundle => io.activate bundle.bundleId

/-- The source that is recorded for a bundle that was loaded from a directory. -/
def recordedSource (source : PolicySource) (root : String) : SourceJson :=
  if (source.sourceType = "" ∨ source.sourceType = "filesystem") ∧ source.path = "" then
    { source with path := root }.toJson
  else source.toJson

/-- `validate_from_path`. -/
def validateFromPath (root : String) (source : Option PolicySource) :
    LifecycleM PolicyBundle := do
  let bundle := io.loadRoot 0 root
  if ¬ bundle.isValid then return bundle
  else
    let json := recordedSource (source.getD {
      sourceType := "filesystem", path := root, reference := "", digest := ""
      verifySignature := false }) root
    locked none (fun process => ((), process.remember bundle json))
    let _ ← storeCall none
      (upsertPolicyBundleCandidate (bundle.registration io.py json) io.recordId (io.clock 0))
      (io.fails 2)
    return bundle

/-- The bundle of the environment is loaded, registered and activated, and loaded again. -/
def seed (current : PolicyBundle) : LifecycleM PolicyBundle := do
  let root ← Thread.done (io.materialize io.source)
  let loaded := io.loadRoot 0 root
  if ¬ loaded.isValid then throw (.runtimeError (loaded.errorOr "policy bundle invalid"))
  else
    let _ ← storeCall none (upsertPolicyBundleCandidate
      (loaded.registration io.py (recordedSource io.source root)) io.recordId (io.clock 0)) (io.fails 2)
    let activated ← storeCall (some (.learn .own))
      (activatePolicyBundle loaded.bundleId loaded.contentDigest (io.clock 1)) (io.fails 3)
    let active := io.loadRoot 1 root
    locked (some (.install .own)) (fun process => ((), { process with
      bundle := active
      previous := if current.isValid ∧ current.contentDigest ≠ loaded.contentDigest
        then some current else process.previous
      observedGeneration := activated.generation.getD 0
      bootstrapError := none, fallbackActive := false }))
    return active

/-- The active record is synchronised, or the environment seeds the store. -/
def syncOrSeed (current : PolicyBundle) : LifecycleM PolicyBundle := do
  let durable ← storeCall none getActivePolicyBundle (io.fails 4)
  match durable with
  | none => io.seed current
  | some _ =>
    let synced ← io.sync 6 1 true
    match synced with
    | some bundle => return bundle
    | none =>
      let process ← locked none (fun process => (process, process))
      throw (.runtimeError (process.bootstrapError.elim
        "failed to sync durable active policy bundle"
        (fun text => orElse text "failed to sync durable active policy bundle")))

/-- `ensure_bootstrapped`. -/
def ensureBootstrapped : LifecycleM PolicyBundle := do
  let current ← locked none (fun process => (process.bundle, process))
  tryCatch (io.syncOrSeed current) (fun e => do
    locked none (fun process => ((), { process with bootstrapError := some e.str }))
    if io.lastKnownGood ∧ current.isValid then
      locked none (fun process => ((), { process with fallbackActive := true }))
      return current
    else
      locked none (fun process => ((), { process with fallbackActive := false }))
      throw e)

end Surroundings

end ControlPlane
