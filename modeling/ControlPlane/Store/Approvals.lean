/-
# Approvals (`app/decision_store.py`)

The methods that create, read, expire, resolve, consume and purge approvals.  Each reads
rows and then issues conditional updates.  `clock i` is the `i`-th reading of `_utcnow()`
in a method.
-/
import ControlPlane.Store.Records

namespace ControlPlane

open Transaction

/-! ## The statements -/

/-- An `UPDATE` of `approvals`. -/
def updateApprovals (guard : ApprovalRow → Bool) (set : ApprovalRow → ApprovalRow) :
    Change Row where
  guard
    | .approval r => guard r
    | _ => false
  set
    | .approval r => some (.approval (set r))
    | row => some row

/-- The pending approvals whose `expires_at` is not after `now` expire. -/
def expireStaleChange (now : String) : Change Row :=
  updateApprovals (fun r => r.status = .pending ∧ r.expiresAt ≤ now)
    (fun r => { r with status := .expired, resolvedAt := some now })

/-- One approval expires if it is pending. -/
def expireChange (approvalId now : String) : Change Row :=
  updateApprovals (fun r => r.approvalId = approvalId ∧ r.status = .pending)
    (fun r => { r with status := .expired, resolvedAt := some now })

/-- One approval is resolved if it is pending. -/
def resolveChange (approvalId : String) (status : ApprovalStatus) (reviewer comment now : String) :
    Change Row :=
  updateApprovals (fun r => r.approvalId = approvalId ∧ r.status = .pending)
    (fun r => { r with
      status := status, reviewer := some reviewer, reviewComment := some comment
      resolvedAt := some now })

/-- One approval is consumed if it is approved and unused. -/
def consumeChange (approvalId now : String) : Change Row :=
  updateApprovals
    (fun r => r.approvalId = approvalId ∧ r.status = .approved ∧
      (r.usedAt = none ∨ r.usedAt = some ""))
    (fun r => { r with status := .consumed, usedAt := some now })

/-- `DELETE FROM audit_meta WHERE decision_id IN (…)`. -/
def deleteAuditMeta (ids : List String) : Change Row where
  guard
    | .auditMeta r => r.decisionId ∈ ids
    | _ => false
  set _ := none

/-- `DELETE FROM approvals WHERE decision_id IN (…)`. -/
def deleteApprovals (ids : List String) : Change Row where
  guard
    | .approval r => r.decisionId ∈ ids
    | _ => false
  set _ := none

/-- `DELETE FROM decisions WHERE decision_id IN (…)`: deleting cascades to the rows that
refer to a deleted decision. -/
def deleteDecisions (ids : List String) : Change Row where
  guard
    | .decision r => r.decisionId ∈ ids
    | row => row.decisionRef.any (fun id => id ∈ ids)
  set _ := none

/-! ## Creating and reading -/

/-- The row that `create_approval` inserts. -/
def newApproval (decisionId : String) (ttlSeconds : ℤ) (approvalId : String) (now : Instant) :
    ApprovalRow where
  approvalId := approvalId
  decisionId := decisionId
  status := .pending
  reviewer := none
  reviewComment := none
  createdAt := Timestamp.isoformat now
  expiresAt := Timestamp.isoformat (now + Timestamp.seconds (max ttlSeconds 0))
  resolvedAt := none
  usedAt := none

/-- `create_approval`, on the connection of a caller or in a session of its own. -/
def createApproval (decisionId : String) (ttlSeconds : ℤ) (approvalId : String) (now : Instant)
    (conn : Bool) : StoreM String := do
  onConnection conn (insert (.approval (newApproval decisionId ttlSeconds approvalId now)))
  return approvalId

/-- The approval with a given id. -/
def findApproval (rows : List Row) (approvalId : String) : Option ApprovalRow :=
  (approvals rows).find? (fun a => a.approvalId = approvalId)

/-- `_parse_iso(expires_at) <= _utcnow()`. -/
def isExpired (expiresAt : String) (now : Instant) : Except PyError Bool :=
  match Timestamp.parseIso expiresAt with
  | none => .error (.valueError s!"Invalid isoformat string: {expiresAt}")
  | some t => .ok (t ≤ now)

/-- `_expire_if_needed`. -/
def expireIfNeeded (approvalId : String) (clock : ℕ → Instant) : StoreM Unit := do
  let rows ← fetchAll
  match findApproval rows approvalId with
  | none => return ()
  | some row =>
    if row.status ≠ .pending ∨ row.expiresAt = "" then return ()
    else
      let expired ← Prog.done (isExpired row.expiresAt (clock 0))
      if expired then
        let _ ← execute (expireChange approvalId (Timestamp.isoformat (clock 1)))
        commit

/-- `_expire_stale`. -/
def expireStale (now : Instant) (doCommit : Bool) : StoreM ℕ := do
  let count ← execute (expireStaleChange (Timestamp.isoformat now))
  if doCommit then commit
  return count

/-- `get_approval`: an overdue approval is expired before it is read. -/
def getApproval (approvalId : String) (tenantId : Option String) (clock : ℕ → Instant) :
    StoreM (Option ApprovalRow) :=
  session do
    expireIfNeeded approvalId clock
    let rows ← fetchAll
    match findApproval rows approvalId with
    | none => return none
    | some approval =>
      match tenantId with
      | none => return some approval
      | some tenant =>
        let rows ← fetchAll
        match (decisions rows).find? (fun d => d.decisionId = approval.decisionId) with
        | none => return none
        | some d =>
          if orElse d.tenantId d.team ≠ tenant then return none else return some approval

/-- A page of `list_approvals`. -/
structure ApprovalPage where
  items : List ApprovalRow
  total : ℕ
  limit : ℕ
  offset : ℕ

/-- The approvals with a status, of the decisions of a tenant when one is given. -/
def approvalsWith (status : String) (tenantId : Option String) (rows : List Row) :
    List ApprovalRow :=
  (approvals rows).filter (fun a => a.status.name = status &&
    tenantId.all (fun t => (decisions rows).any
      (fun d => d.decisionId = a.decisionId ∧ d.tenantId = t)))

/-- `list_approvals`: the overdue approvals are expired first; a tenant sees its own only. -/
def listApprovals (status : String) (limit offset : ℤ) (tenantId : Option String)
    (now : Instant) : StoreM ApprovalPage := do
  let limit := (max 1 (min limit 500)).toNat
  let offset := (max 0 offset).toNat
  session do
    let _ ← expireStale now true
    let counted ← fetchAll
    let rows ← fetchAll
    return {
      items := (((approvalsWith status tenantId rows).insertionSort
        (fun a b => a.createdAt ≤ b.createdAt)).drop offset).take limit
      total := (approvalsWith status tenantId counted).length
      limit := limit
      offset := offset }

/-- `count_approvals`, after the overdue approvals have been expired. -/
def countApprovals (status : String) (now : Instant) : StoreM ℕ :=
  session do
    let _ ← expireStale now true
    let rows ← fetchAll
    return (approvalsWith status none rows).length

/-- `expire_stale_approvals`: the number of approvals that it has expired. -/
def expireStaleApprovals (now : Instant) : StoreM ℕ := session (expireStale now true)

/-! ## Resolving -/

/-- An approval with the decision it belongs to, as the joins of `resolve_approval` give it:
with a tenant the decision must exist. -/
def joinDecision (rows : List Row) (approvalId : String) (tenantId : Option String) :
    Option (ApprovalRow × Option DecisionRow) :=
  (findApproval rows approvalId).bind (fun a =>
    let d := (decisions rows).find? (fun d => d.decisionId = a.decisionId)
    if tenantId.isSome ∧ d = none then none else some (a, d))

/-- The requester of an approval: the subject of its decision, else of the stored request. -/
def requesterOf (decision : Option DecisionRow) : String :=
  match decision with
  | none => ""
  | some d => orElse (strip d.subject) (strip (orElse d.request.subject d.request.owner))

/-- The checks of `resolve_approval` before its update. -/
def checkResolvable (py : PyRuntime) (approvalId reviewer : String) (tenantId : Option String)
    (forbidSelfApproval : Bool) (approval : ApprovalRow) (decision : Option DecisionRow) :
    Except PyError Unit :=
  let ownerTenant := decision.elim "" (fun d => orElse d.tenantId d.team)
  if tenantId.any (fun t => ownerTenant ≠ t) then
    .error (.keyError s!"approval not found: {approvalId}")
  else if approval.status = .expired then .error (.valueError "approval expired")
  else if approval.status ≠ .pending then
    .error (.valueError s!"approval is not pending (status={approval.status.name})")
  else if forbidSelfApproval ∧ requesterOf decision ≠ "" ∧
      py.lower (strip reviewer) = py.lower (requesterOf decision) then
    .error (.permissionError "self-approval is forbidden; approver must differ from requester")
  else .ok ()

/-- The session of `resolve_approval`. -/
def resolveInSession (py : PyRuntime) (approvalId : String) (status : ApprovalStatus)
    (reviewer comment : String) (tenantId : Option String) (forbidSelfApproval : Bool)
    (clock : ℕ → Instant) : StoreM (Option ApprovalRow) := do
  expireIfNeeded approvalId clock
  let rows ← fetchAll
  match joinDecision rows approvalId tenantId with
  | none => throw (.keyError s!"approval not found: {approvalId}")
  | some (approval, decision) =>
    Prog.done (checkResolvable py approvalId reviewer tenantId forbidSelfApproval approval
      decision)
    let count ← execute
      (resolveChange approvalId status reviewer comment (Timestamp.isoformat (clock 2)))
    if count ≠ 1 then
      throw (.valueError ("approval is not pending (concurrent resolve or status="
        ++ approval.status.name ++ ")"))
    else
      commit
      let rows ← fetchAll
      return findApproval rows approvalId

/-- `resolve_approval`: a pending approval is approved or rejected. -/
def resolveApproval (py : PyRuntime) (approvalId : String) (status : ApprovalStatus)
    (reviewer comment : String) (tenantId : Option String) (forbidSelfApproval : Bool)
    (clock : ℕ → Instant) : StoreM ApprovalRow :=
  if status ≠ .approved ∧ status ≠ .rejected then
    throw (.valueError "status must be 'approved' or 'rejected'")
  else do
    let updated ← session
      (resolveInSession py approvalId status reviewer comment tenantId forbidSelfApproval clock)
    match updated with
    | none => throw (.runtimeError s!"approval missing after resolve: {approvalId}")
    | some row => return row

/-! ## Consuming and purging -/

/-- `consume_approval`: whether an approved approval was there to be used up. -/
def consumeApproval (approvalId : String) (now : Instant) (conn : Bool) : StoreM Bool := do
  let count ← onConnection conn (execute (consumeChange approvalId (Timestamp.isoformat now)))
  return count = 1

/-- What `approval_grants_allow` does on the connection of its transaction: the approval is
consumed, and the consumption is recorded. -/
def consumeInSession (approvalId decisionId actor requestDigest eventId : String)
    (clock : ℕ → Instant) : StoreM Bool := do
  let consumed ← consumeApproval approvalId (clock 0) true
  if ¬ consumed then return false
  else
    let _ ← appendAuditMeta decisionId "approval_consumed" actor
      [("approval_id", .str approvalId), ("request_digest", .str requestDigest)]
      eventId (clock 1) true
    return true

/-- The transaction in which `approval_grants_allow` consumes an approval and records it. -/
def consumeAndAudit (approvalId decisionId actor requestDigest eventId : String)
    (clock : ℕ → Instant) : StoreM Bool :=
  transaction (consumeInSession approvalId decisionId actor requestDigest eventId clock)

/-- What a purge reports. -/
structure RetentionPurgeResult where
  retentionDays : ℤ
  cutoff : String
  dryRun : Bool
  expiredApprovals : ℕ
  deletedAuditMeta : ℕ := 0
  deletedApprovals : ℕ := 0
  deletedDecisions : ℕ := 0

/-- The oldest decisions created before the cutoff. -/
def purgeable (cutoff : String) (limit : ℕ) (rows : List Row) : List String :=
  ((((decisions rows).filter (fun d => d.createdAt < cutoff)).insertionSort
    (fun a b => a.createdAt ≤ b.createdAt)).take limit).map DecisionRow.decisionId

/-- Delete the decisions with the given ids and what refers to them, unless in a dry run. -/
def deleteRetained (dryRun : Bool) (ids : List String) : StoreM Unit :=
  if dryRun then return ()
  else do
    let _ ← execute (deleteAuditMeta ids)
    let _ ← execute (deleteApprovals ids)
    let _ ← execute (deleteDecisions ids)
    return ()

/-- The transaction of `purge_retained`. -/
def purgeInTransaction (retentionDays : ℤ) (dryRun : Bool) (limit : ℤ) (cutoff : String)
    (now : Instant) : StoreM RetentionPurgeResult := do
  let expired ← expireStale now false
  let nothing : RetentionPurgeResult :=
    { retentionDays := retentionDays, cutoff := cutoff, dryRun := dryRun
      expiredApprovals := expired }
  if retentionDays ≤ 0 then return nothing
  else
    let rows ← fetchAll
    let ids := purgeable cutoff limit.toNat rows
    if ids = [] then return nothing
    else
      let audits ← fetchAll
      let approved ← fetchAll
      deleteRetained dryRun ids
      return { nothing with
        deletedAuditMeta := (auditMetas audits).countP (fun r => r.decisionId ∈ ids)
        deletedApprovals := (approvals approved).countP (fun r => r.decisionId ∈ ids)
        deletedDecisions := ids.length }

/-- `purge_retained`: the oldest decisions before the cutoff go, with what refers to them. -/
def purgeRetained (retentionDays : ℤ) (dryRun : Bool) (limit : ℤ) (clock : ℕ → Instant) :
    StoreM RetentionPurgeResult :=
  if limit < 1 ∨ 50000 < limit then
    throw (.valueError "limit must be between 1 and 50000")
  else if ¬ Timestamp.IsDatetime (clock 0 - Timestamp.days (max retentionDays 0)) then
    throw (.overflowError "date value out of range")
  else
    transaction (purgeInTransaction retentionDays dryRun limit
      (Timestamp.isoformat (clock 0 - Timestamp.days (max retentionDays 0))) (clock 1))

end ControlPlane
