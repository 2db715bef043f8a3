/-
# Resolving approvals (`app/routers/approvals.py`)

`POST /approvals/{id}/approve` and `POST /approvals/{id}/reject`: the scope and the reviewer come
from the request, the approval is resolved in the store, and the resolution is recorded.
-/
import ControlPlane.Tenancy

namespace ControlPlane

open Transaction

/-- The body of a resolution; `reviewer` counts only when tokens are not verified. -/
structure ResolveApprovalRequest where
  reviewer : String := ""
  comment : String := ""

section Endpoints

variable (py : PyRuntime) (auth : AuthEnv)

/-- `_resolve_reviewer`. -/
def resolveReviewer (headers : Headers) (payload : ResolveApprovalRequest) :
    Except PyError String :=
  match resolveApproverIdentity py auth headers payload.reviewer with
  | .error (.authenticationError text) => .error (.httpException 401 text)
  | .error (.authorizationError text) => .error (.httpException 403 text)
  | reviewer => reviewer

/-- `repr(s)` of a string: the text of a list with this item, without the brackets. -/
def reprStr (s : String) : String := String.ofList (py.reprList [s]).toList.tail.dropLast

/-- The answers to the exceptions of a resolution; `str` of a `KeyError` is the `repr` of its
key. -/
def resolutionException : PyError → PyError
  | .storeUnavailable _ => .httpException 503 "authoritative store unavailable"
  | .permissionError text => .httpException 403 text
  | .keyError key => .httpException 404 (reprStr py key)
  | .valueError text => .httpException 409 text
  | e => e

/-- The calls to the store: the approval is resolved, then the resolution is recorded. -/
def resolveAndAudit (approvalId : String) (status : ApprovalStatus) (eventType : String)
    (reviewer comment : String) (tenantId : Option String) (eventId : String)
    (clock : ℕ → Instant) : StoreM ApprovalRow := do
  let record ← resolveApproval py approvalId status reviewer comment tenantId true clock
  let _ ← appendAuditMeta record.decisionId eventType reviewer
    [("approval_id", .str approvalId), ("comment", .str comment),
      ("tenant_id", tenantId.elim .null .str)] eventId (clock 3) false
  return record

/-- The endpoint for one resolution. -/
def resolveRequest (status : ApprovalStatus) (eventType : String) (headers : Headers)
    (approvalId : String) (payload : ResolveApprovalRequest) (eventId : String)
    (clock : ℕ → Instant) : StoreM ApprovalRow := do
  let tenantId ← Prog.done (Tenancy.tenantScope py auth headers)
  let reviewer ← Prog.done (resolveReviewer py auth headers payload)
  Prog.handle
    (resolveAndAudit py approvalId status eventType reviewer payload.comment tenantId eventId clock)
    (fun e => throw (resolutionException py e))

/-- `approve_request`. -/
def approveRequest : Headers → String → ResolveApprovalRequest → String → (ℕ → Instant) →
    StoreM ApprovalRow :=
  resolveRequest py auth .approved "approval_approved"

/-- `reject_request`. -/
def rejectRequest : Headers → String → ResolveApprovalRequest → String → (ℕ → Instant) →
    StoreM ApprovalRow :=
  resolveRequest py auth .rejected "approval_rejected"

end Endpoints

/-- The statements of a resolution request. -/
theorem issues_resolveRequest {P : Stmt Row → Prop} [Prog.Quiet P] {py : PyRuntime}
    {auth : AuthEnv} {status : ApprovalStatus} {eventType : String} {headers : Headers}
    {approvalId : String} {payload : ResolveApprovalRequest} {eventId : String}
    {clock : ℕ → Instant} (hexpire : ∀ now, P (.change (expireChange approvalId now)))
    (hresolve : status = .approved ∨ status = .rejected → ∀ reviewer now,
      resolveReviewer py auth headers payload = .ok reviewer →
      P (.change (resolveChange approvalId status reviewer payload.comment now)))
    (haudit : ∀ m : AuditMetaRow, m.eventType = eventType → P (.insert (.auditMeta m))) :
    (resolveRequest py auth status eventType headers approvalId payload eventId clock).Issues P := by
  unfold resolveRequest
  refine Prog.issues_bind (issues_done _) (fun tenantId => ?_)
  cases hreviewer : resolveReviewer py auth headers payload with
  | error e => exact issues_done _
  | ok reviewer =>
    refine Prog.issues_handle ?_ (fun e => trivial)
    refine Prog.issues_bind (issues_resolveApproval hexpire
      (fun h now => hresolve h reviewer now hreviewer)) (fun record => ?_)
    exact Prog.issues_bind (issues_appendAuditMeta (haudit _ rfl)) (fun _ => trivial)

end ControlPlane
