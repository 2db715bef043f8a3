/-
# Policy bundles in the store (`app/decision_store.py`)

The methods that register a policy bundle as a candidate, activate one, and go back to
the previous one.  New record ids and the readings of the clock are arguments.
-/
import ControlPlane.Store.Schema
import Mathlib.Data.List.Sort

namespace ControlPlane

open Transaction

/-! ## Queries -/

/-- `WHERE bundle_id = ? AND content_digest = ?`. -/
def findPolicyBundle (rows : List Row) (bundleId contentDigest : String) :
    Option PolicyBundleRow :=
  (policyBundles rows).find? (fun r => r.bundleId = bundleId ∧ r.contentDigest = contentDigest)

/-- `WHERE record_id = ?`. -/
def findPolicyRecord (rows : List Row) (recordId : String) : Option PolicyBundleRow :=
  (policyBundles rows).find? (fun r => r.recordId = recordId)

/-- The place of a status in `ORDER BY CASE status … END`. -/
def PolicyStatus.place : PolicyStatus → ℕ
  | active => 0
  | candidate => 1
  | previous => 2

/-- `get_policy_bundle_record`: the active record of a bundle id, else its newest one. -/
def selectPolicyRecord (rows : List Row) (bundleId : String) : Option PolicyBundleRow :=
  (((policyBundles rows).filter (fun r => r.bundleId = bundleId)).insertionSort
    (fun a b => a.status.place < b.status.place ∨
      (a.status = b.status ∧ b.updatedAt ≤ a.updatedAt))).head?

/-- `ORDER BY generation DESC NULLS LAST, updated_at DESC`. -/
def PolicyBundleRow.newerFirst (a b : PolicyBundleRow) : Bool :=
  match a.generation, b.generation with
  | some x, some y => y < x ∨ (x = y ∧ b.updatedAt ≤ a.updatedAt)
  | some _, none => true
  | none, some _ => false
  | none, none => b.updatedAt ≤ a.updatedAt

/-- The newest bundle with a status. -/
def selectPolicyBundle (rows : List Row) (status : PolicyStatus) : Option PolicyBundleRow :=
  (((policyBundles rows).filter (fun r => r.status = status)).insertionSort
    (fun a b => a.newerFirst b)).head?

/-- `SELECT COALESCE(MAX(generation), 0) FROM policy_bundles`. -/
def maxGeneration (rows : List Row) : ℤ :=
  ((policyBundles rows).filterMap PolicyBundleRow.generation).max?.getD 0

/-- `get_active_policy_bundle`. -/
def getActivePolicyBundle : StoreM (Option PolicyBundleRow) := do
  let rows ← session fetchAll
  return selectPolicyBundle rows .active

/-- `get_previous_policy_bundle`. -/
def getPreviousPolicyBundle : StoreM (Option PolicyBundleRow) := do
  let rows ← session fetchAll
  return selectPolicyBundle rows .previous

/-- `get_policy_bundle_by_digest`. -/
def getPolicyBundleByDigest (bundleId contentDigest : String) :
    StoreM (Option PolicyBundleRow) := do
  let rows ← session fetchAll
  return findPolicyBundle rows bundleId contentDigest

/-- `get_policy_bundle_record`. -/
def getPolicyBundleRecord (bundleId : String) : StoreM (Option PolicyBundleRow) := do
  let rows ← session fetchAll
  return selectPolicyRecord rows bundleId

/-! ## Candidates -/

/-- What `upsert_policy_bundle_candidate` is given about a bundle. -/
structure NewPolicyBundle where
  bundleId : String
  contentDigest : String
  gitRevision : String
  sourceType : String
  sourceJson : List (String × Json.Value)
  validationStatus : String
  error : Option String
  loadedAt : String

/-- Refresh a registered bundle; an active or a previous one keeps its status. -/
def refreshPolicyBundle (new : NewPolicyBundle) (recordId now : String) : Change Row where
  guard
    | .policyBundle r => r.recordId = recordId
    | _ => false
  set
    | .policyBundle r => some (.policyBundle { r with
        gitRevision := new.gitRevision, sourceType := new.sourceType
        sourceJson := new.sourceJson, validationStatus := new.validationStatus
        error := new.error, loadedAt := new.loadedAt, updatedAt := now })
    | row => some row

/-- The row of a bundle that is registered for the first time. -/
def NewPolicyBundle.row (new : NewPolicyBundle) (recordId now : String) : PolicyBundleRow where
  recordId := recordId
  bundleId := new.bundleId
  contentDigest := new.contentDigest
  gitRevision := new.gitRevision
  status := .candidate
  generation := none
  sourceType := new.sourceType
  sourceJson := new.sourceJson
  validationStatus := new.validationStatus
  error := new.error
  loadedAt := new.loadedAt
  createdAt := now
  updatedAt := now
  activatedAt := none

/-- The row that a statement before has written. -/
def readBack (recordId : String) : StoreM PolicyBundleRow := do
  let rows ← fetchAll
  match findPolicyRecord rows recordId with
  | some r => return r
  | none => throw (.runtimeError "assertion failed")

/-- `upsert_policy_bundle_candidate` on the caller's connection, after the lookup. -/
def upsertInSession (existing : Option PolicyBundleRow) (new : NewPolicyBundle)
    (recordId now : String) : StoreM PolicyBundleRow :=
  match existing with
  | some existing => do
    let _ ← execute (refreshPolicyBundle new existing.recordId now)
    readBack existing.recordId
  | none => do
    insert (.policyBundle (new.row recordId now))
    readBack recordId

/-- `upsert_policy_bundle_candidate`: a bundle that is known by its digest is refreshed. -/
def upsertPolicyBundleCandidate (new : NewPolicyBundle) (recordId : String) (now : Instant) :
    StoreM PolicyBundleRow := do
  let rows ← session fetchAll
  session do
    let r ← upsertInSession (findPolicyBundle rows new.bundleId new.contentDigest) new recordId
      (Timestamp.isoformat now)
    commit
    return r

/-! ## Activation -/

/-- Every other active bundle becomes a previous one. -/
def retireActive (recordId now : String) : Change Row where
  guard
    | .policyBundle r => r.status = .active ∧ r.recordId ≠ recordId
    | _ => false
  set
    | .policyBundle r => some (.policyBundle { r with status := .previous, updatedAt := now })
    | row => some row

/-- One bundle becomes active, with a generation of its own. -/
def makeActive (recordId : String) (generation : ℤ) (now : String) : Change Row where
  guard
    | .policyBundle r => r.recordId = recordId
    | _ => false
  set
    | .policyBundle r => some (.policyBundle { r with
        status := .active, generation := some generation, updatedAt := now
        activatedAt := some now })
    | row => some row

/-- The record that an activation is for; without a digest any record of the bundle id. -/
def activationTarget (rows : List Row) (bundleId contentDigest : String) :
    Option PolicyBundleRow :=
  if contentDigest ≠ "" then findPolicyBundle rows bundleId contentDigest
  else selectPolicyRecord rows bundleId

/-- `activate_policy_bundle` on the caller's connection. -/
def activateInSession (bundleId contentDigest now : String) : StoreM PolicyBundleRow := do
  let rows ← fetchAll
  match activationTarget rows bundleId contentDigest with
  | none => throw (.keyError s!"policy bundle not found: {bundleId}")
  | some target =>
    if target.validationStatus ≠ "ok" then
      throw (.valueError s!"cannot activate invalid policy bundle: {bundleId}")
    else do
      let rows ← fetchAll
      let _ ← execute (retireActive target.recordId now)
      let _ ← execute (makeActive target.recordId (maxGeneration rows + 1) now)
      readBack target.recordId

/-- `activate_policy_bundle`: the target becomes the active bundle, under a new generation. -/
def activatePolicyBundle (bundleId contentDigest : String) (now : Instant) :
    StoreM PolicyBundleRow :=
  session do
    let r ← activateInSession bundleId contentDigest (Timestamp.isoformat now)
    commit
    return r

/-- `rollback_policy_bundle` on the caller's connection. -/
def rollbackInSession (now : String) : StoreM PolicyBundleRow := do
  let rows ← fetchAll
  match selectPolicyBundle rows .previous with
  | none => throw (.runtimeError "no last-known-good policy bundle to rollback to")
  | some previous => activateInSession previous.bundleId previous.contentDigest now

/-- `rollback_policy_bundle`: the newest previous bundle is activated again. -/
def rollbackPolicyBundle (now : Instant) : StoreM PolicyBundleRow :=
  session do
    let r ← rollbackInSession (Timestamp.isoformat now)
    commit
    return r

end ControlPlane
