/-
# Approvals after their time

Pending approvals expire, lazily when they are read and in bulk; approved ones do not.  A
redemption looks at the status and the use of an approval and never at its `expires_at`, so an
approval that was granted in time can be spent at any time after.
-/
import ControlPlane.CapabilityPinning
import ControlPlane.Persistence

namespace ControlPlane.Expiry

open Transaction Persistence
open CapabilityPinning (Consumed consumed_of_untouched)

/-! ## Late redemptions -/

/-- The time of an approval is over at an instant. -/
def Overdue (a : ApprovalRow) (now : Instant) : Prop :=
  ∃ t, Timestamp.parseIso a.expiresAt = some t ∧ t < now

instance (a : ApprovalRow) (now : Instant) : Decidable (Overdue a now) :=
  decidable_of_iff ((Timestamp.parseIso a.expiresAt).any (fun t => t < now) = true) (by
    rw [Option.any_eq_true]
    exact exists_congr (fun t => and_congr_right' decide_eq_true_iff))

section Late

variable (py : PyRuntime) (sha256 : String → String)

/-- The call is a redemption that spends an approval after its time: it reports a grant, or it
leaves the approval consumed.  `clock 2` is the time of the consumption. -/
def SpendsLate (fails : ℕ → Option PyError) (rows : List Row) : RecordCall → Prop
  | .approvalGrantsAllow approvalId request policyDigest consumedEvent clock =>
    ∃ a, findApproval rows approvalId = some a ∧ Overdue a (clock 2) ∧
      let redeemed := outcome (approvalGrantsAllow py sha256 approvalId request policyDigest
        consumedEvent clock) fails rows
      (redeemed.1 = .ok true ∨ ¬ Consumed approvalId rows ∧ Consumed approvalId redeemed.2)
  | _ => False

/-- The call is a redemption that cites an approval after its time, one that still fits: it is
approved and unused, and bound to the request, the policy and the capabilities. -/
def CitesLate (rows : List Row) : RecordCall → Prop
  | .approvalGrantsAllow approvalId request policyDigest _ clock =>
    ∃ a d, Redeemable py sha256 rows approvalId request policyDigest a d ∧ Overdue a (clock 2)
  | _ => False

/-- A property of every step of a run: of the call, its failures and the rows it starts from. -/
def EveryStep (P : RecordCall → (ℕ → Option PyError) → List Row → Prop)
    (calls : List (RecordCall × (ℕ → Option PyError))) (rows : List Row) : Prop :=
  ∀ before call after, calls = before ++ call :: after →
    P call.1 call.2 (afterCalls py sha256 before rows)

/-- No redemption of the run spends an approval after its time. -/
def NeverLate (calls : List (RecordCall × (ℕ → Option PyError))) (rows : List Row) : Prop :=
  EveryStep py sha256 (fun call fails rows => ¬ SpendsLate py sha256 fails rows call) calls rows

end Late

section Steps

variable {py : PyRuntime} {sha256 : String → String} {rows : List Row} {approvalId : String}
  {request : GovernanceEvaluateRequest} {policyDigest consumedEvent : String}
  {clock : ℕ → Instant} {fails : ℕ → Option PyError}

/-- What a redemption spends was redeemable. -/
theorem redeemable_of_spent
    (h : (outcome (approvalGrantsAllow py sha256 approvalId request policyDigest consumedEvent
        clock) fails rows).1 = .ok true ∨
      ¬ Consumed approvalId rows ∧ Consumed approvalId (outcome (approvalGrantsAllow py sha256
        approvalId request policyDigest consumedEvent clock) fails rows).2) :
    ∃ a d, Redeemable py sha256 rows approvalId request policyDigest a d := by
  by_contra hnone
  have hkeeps : (approvalGrantsAllow py sha256 approvalId request policyDigest consumedEvent
      clock).Keeps schema (Untouched rows approvalId) (fun r => r ≠ .ok true) :=
    keeps_approvalGrantsAllow clock (fun a d h => hnone ⟨a, d, h⟩)
  obtain ⟨hresult, hleft, -⟩ := hkeeps.run fails (σ := .ofRows rows) .refl .refl
  rcases h with hok | ⟨hbefore, hafter⟩
  · exact hresult hok
  · exact hbefore (consumed_of_untouched hleft hafter)

/-- **One step**: an approval that is spent late was cited late. -/
theorem citesLate_of_spendsLate {call : RecordCall} (h : SpendsLate py sha256 fails rows call) :
    CitesLate py sha256 rows call := by
  cases call with
  | approvalGrantsAllow approvalId request policyDigest consumedEvent clock =>
    obtain ⟨a, hfind, hover, hspent⟩ := h
    obtain ⟨b, d, hredeemable⟩ := redeemable_of_spent hspent
    have hsame : b = a := Option.some.inj (hredeemable.approval.symm.trans hfind)
    exact ⟨b, d, hredeemable, hsame ▸ hover⟩
  | _ => exact h

/-- A redemption leaves the approval consumed. -/
theorem consumed_redeemedRows {a : ApprovalRow} {d : DecisionRow}
    (h : Redeemable py sha256 rows approvalId request policyDigest a d) (decisionId : String) :
    Consumed approvalId
      (redeemedRows py sha256 rows approvalId decisionId request consumedEvent clock) := by
  have hid : ∀ (now : String) (a : ApprovalRow), ({ a with
      status := .consumed, usedAt := some now } : ApprovalRow).approvalId = a.approvalId :=
    fun _ _ => rfl
  refine ⟨{ a with status := .consumed, usedAt := some (Timestamp.isoformat (clock 2)) }, ?_, rfl⟩
  unfold redeemedRows
  have hfind : findApproval ((consumeChange approvalId (Timestamp.isoformat (clock 2))).apply rows)
      approvalId = some { a with
        status := .consumed, usedAt := some (Timestamp.isoformat (clock 2)) } := by
    refine (findApproval_update (hid _) approvalId).trans ?_
    rw [h.approval]
    show some (updatedApproval _ _ a) = _
    unfold updatedApproval
    rw [if_pos]
    exact decide_eq_true ⟨(findApproval_some h.approval).1, ApprovalRow.isOpen_iff.mp h.isOpen⟩
  unfold findApproval at hfind ⊢
  rw [approvals_append, List.find?_append, hfind]
  rfl

/-- **When an approval is spent late**: with ids that are new, exactly when it is cited late and
the statements succeed through the commit. -/
theorem spendsLate_iff (hkeys : (rows.map Row.key).Nodup)
    (hfresh : .auditMeta consumedEvent ∉ rows.map Row.key) :
    SpendsLate py sha256 fails rows
        (.approvalGrantsAllow approvalId request policyDigest consumedEvent clock) ↔
      CitesLate py sha256 rows
          (.approvalGrantsAllow approvalId request policyDigest consumedEvent clock) ∧
        Prog.Succeeds fails (9 + digestStatements request + 1) := by
  constructor
  · intro h
    obtain ⟨b, d, hredeemable, hover⟩ := citesLate_of_spendsLate h
    obtain ⟨a, -, -, hspent⟩ := h
    refine ⟨⟨b, d, hredeemable, hover⟩, ?_⟩
    by_contra hfails
    rcases (executes_approvalGrantsAllow clock hkeys hfresh hredeemable).run_cases
      (by omega) fails with ⟨-, -, hall⟩ | ⟨⟨e, herror⟩, -, ⟨hsame, -⟩ | ⟨-, hcommit⟩⟩
    · exact hfails (hall.mono (by omega))
    · unfold outcome at hspent
      rw [herror, hsame] at hspent
      rcases hspent with hok | ⟨hbefore, hafter⟩
      · cases hok
      · exact hbefore hafter
    · exact hfails hcommit
  · rintro ⟨⟨a, d, hredeemable, hover⟩, hcommit⟩
    refine ⟨a, hredeemable.approval, hover, Or.inr ⟨?_, ?_⟩⟩
    · rintro ⟨b, hb, hs⟩
      rw [hredeemable.approval, Option.some.injEq] at hb
      rw [← hb, (ApprovalRow.isOpen_iff.mp hredeemable.isOpen).1] at hs
      cases hs
    · unfold outcome
      rcases (executes_approvalGrantsAllow clock hkeys hfresh hredeemable).run_cases
        (by omega) fails with ⟨-, hrows, -⟩ | ⟨-, -, ⟨-, hnot⟩ | ⟨hrows, -⟩⟩
      · rw [hrows]
        exact consumed_redeemedRows hredeemable _
      · exact absurd hcommit hnot
      · rw [hrows]
        exact consumed_redeemedRows hredeemable _

end Steps

/-- **No late spending without late citing.**  In every run of recordings, resolutions,
expiries, redemptions and purges, whichever statements fail: if no redemption cites an approval
that still fits after its time, none spends an approval after its time. -/
theorem neverLate_of_not_citesLate (py : PyRuntime) (sha256 : String → String)
    (calls : List (RecordCall × (ℕ → Option PyError))) (rows : List Row)
    (h : EveryStep py sha256 (fun call _ rows => ¬ CitesLate py sha256 rows call) calls rows) :
    NeverLate py sha256 calls rows :=
  fun before call after hcalls hlate =>
    h before call after hcalls (citesLate_of_spendsLate hlate)

/-! ## Two runs -/

/-- An approval is recorded, granted a second later and redeemed at some time; it lasts an
hour. -/
def runUntil (now : Instant) : List (RecordCall × (ℕ → Option PyError)) :=
  [(.persistEvaluation askingResponse {} (drawsOf "d1" "a1" "e1" "e2") 3600 (fun _ => 0),
      fun _ => none),
    (.resolveApproval "a1" .approved "bob" "" none true (fun _ => Timestamp.seconds 1),
      fun _ => none),
    (.approvalGrantsAllow "a1" {} "" "e" (fun _ => now), fun _ => none)]

/-- The approval before it is redeemed. -/
def grantedRows : List Row := afterCalls .ascii (fun _ => "sha256:r") ((runUntil 0).take 2) []

/-- The approval is redeemed within its hour. -/
theorem neverLate_timely :
    NeverLate .ascii (fun _ => "sha256:r") (runUntil (Timestamp.seconds 60)) [] := by
  refine neverLate_of_not_citesLate _ _ _ _ ?_
  intro before call after hcalls
  rcases before with _ | ⟨_, _ | ⟨_, _ | ⟨_, rest⟩⟩⟩
  · cases hcalls
    exact id
  · cases hcalls
    exact id
  · cases hcalls
    rintro ⟨a, d, hredeemable, hover⟩
    have htimely : (findApproval grantedRows "a1").all
        (fun a => ¬ Overdue a (Timestamp.seconds 60)) = true := by decide +kernel
    have hfind : findApproval grantedRows "a1" = some a := hredeemable.approval
    rw [hfind] at htimely
    exact of_decide_eq_true htimely hover
  · have hlength := congrArg List.length hcalls
    simp [runUntil] at hlength

/-- **An approval is spent an hour after its time.**  The clock never goes back, and the
approval was granted in time. -/
theorem granted_then_spent_late :
    ¬ NeverLate .ascii (fun _ => "sha256:r") (runUntil (Timestamp.seconds 7200)) [] := by
  intro h
  refine h ((runUntil 0).take 2) _ [] rfl ?_
  have hover : (findApproval grantedRows "a1").any
      (fun a => Overdue a (Timestamp.seconds 7200)) = true := by decide +kernel
  obtain ⟨a, hfind, hlate⟩ := (Option.any_eq_true _ _).mp hover
  refine ⟨a, hfind, of_decide_eq_true hlate, Or.inl ?_⟩
  have hgranted : (outcome (approvalGrantsAllow .ascii (fun _ => "sha256:r") "a1" {} "" "e"
      (fun _ => Timestamp.seconds 7200)) (fun _ => none) grantedRows).1.toOption = some true := by
    decide +kernel
  cases hresult : (outcome (approvalGrantsAllow .ascii (fun _ => "sha256:r") "a1" {} "" "e"
      (fun _ => Timestamp.seconds 7200)) (fun _ => none) grantedRows).1 with
  | error e =>
    rw [hresult] at hgranted
    cases hgranted
  | ok granted =>
    rw [hresult] at hgranted
    cases hgranted
    exact hresult

end ControlPlane.Expiry
