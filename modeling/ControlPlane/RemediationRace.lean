/-
# Racing remediation operations

Any number of remediation operations run against one store at READ COMMITTED.  Each reads its
proposal, checks the transition, works for a while, and updates the proposal by its id alone.
-/
import ControlPlane.Lifecycle
import ControlPlane.RemediationStatements
import ControlPlane.Store.Frames
import ControlPlane.Store.MoveRules

namespace ControlPlane.RemediationRace

open Transaction Remediation

attribute [local irreducible] strip headerText runBundle enrichGovernanceRequest
  PolicyProcess.catchUp

/-! ## The lifecycle of the proposals -/

/-- The statuses that one operation leads to: evaluating a proposal may take two transitions. -/
def leadsTo : RemediationStatus → List RemediationStatus
  | .proposed => [.policyEvaluated, .approved, .rejected]
  | status => allowed status

/-- What one operation does is a path of transitions. -/
theorem path_of_leadsTo {s t : RemediationStatus} (h : t ∈ leadsTo s) :
    Relation.ReflTransGen (fun s t => t ∈ allowed s) s t := by
  have htwo : ∀ {mid}, mid ∈ allowed .proposed → t ∈ allowed mid →
      Relation.ReflTransGen (fun s t => t ∈ allowed s) .proposed t :=
    fun hmid ht => (Relation.ReflTransGen.single hmid).tail ht
  by_cases hs : s = .proposed
  · subst hs
    cases t with
    | policyEvaluated => exact .single (by decide)
    | approved => exact htwo (show .policyEvaluated ∈ allowed .proposed by decide) (by decide)
    | rejected => exact htwo (show .policyEvaluated ∈ allowed .proposed by decide) (by decide)
    | _ => exact absurd h (by decide)
  · refine .single ?_
    cases s <;> first | exact absurd rfl hs | exact h

/-- A proposal with an id and a status. -/
def proposalWith (proposalId : String) (status : RemediationStatus) : RemediationProposalRow :=
  NewProposal.row {
    tenantId := "platform", status := status, source := "inventory_drift"
    remediationKind := "reprobe"
    driftSnapshot := { updatedAt := "", inSync := false, summary := "", backends := [] }
    selectedAction := { kind := .reprobe, title := "", description := "" } } proposalId 0

/-- The proposals and their statuses. -/
def lifecycle : Lifecycle RowKey Row String RemediationStatus where
  subject
    | .proposal p => some (p.proposalId, p.status)
    | _ => none
  key := .proposal
  probe proposalId status := .proposal (proposalWith proposalId status)
  subject_probe _ _ := rfl
  steps s t := t ∈ leadsTo s

theorem keyed : lifecycle.Keyed schema := by
  intro row proposalId
  cases row with
  | proposal p =>
    constructor
    · intro h
      have hid : p.proposalId = proposalId := RowKey.proposal.inj h
      exact ⟨p.status, by rw [← hid]; rfl⟩
    · rintro ⟨s, hs⟩
      have hid : p.proposalId = proposalId := congrArg Prod.fst (Option.some.inj hs)
      rw [← hid]
      rfl
  | _ =>
    constructor
    · intro h
      cases h
    · rintro ⟨s, hs⟩
      cases hs

/-- The status that a call reads is that of the proposal that it finds. -/
theorem stageIn_of_find {rows : List Row} {proposalId : String} {record : RemediationProposalRow}
    (h : findProposal rows proposalId = some record) :
    lifecycle.stageIn proposalId rows = some record.status := by
  induction rows with
  | nil => cases h
  | cons row rows ih =>
    unfold Lifecycle.stageIn at ih ⊢
    rw [List.findSome?_cons]
    cases row with
    | proposal p =>
      have hstage : ((lifecycle.subject (.proposal p)).bind
          (fun subject => if subject.1 = proposalId then some subject.2 else none))
          = if p.proposalId = proposalId then some p.status else none := rfl
      rw [hstage]
      have hfind : (if p.proposalId = proposalId then some p else findProposal rows proposalId)
          = some record := by
        rw [← h]
        show _ = List.find? _ (p :: proposals rows)
        rw [List.find?_cons]
        split <;> simp_all [findProposal]
      split at hfind
      · rename_i hid
        rw [if_pos hid]
        cases hfind
        rfl
      · rename_i hid
        rw [if_neg hid]
        exact ih hfind
    | _ => exact ih h

/-- An update of a proposal with a status. -/
theorem moves_update {proposalId now : String} {u : ProposalUpdate} {status : RemediationStatus}
    (hu : u.status = some status) :
    lifecycle.Moves (updateProposalChange proposalId u now) proposalId status where
  guard row := by
    cases row with
    | proposal p =>
      show decide (p.proposalId = proposalId) = true ↔ _
      rw [decide_eq_true_iff]
      constructor
      · rintro rfl
        exact ⟨p.status, rfl⟩
      · rintro ⟨s, hs⟩
        exact congrArg Prod.fst (Option.some.inj hs)
    | _ =>
      constructor
      · intro h
        cases h
      · rintro ⟨s, hs⟩
        cases hs
  set row s hs := by
    cases row with
    | proposal p =>
      refine ⟨.proposal (u.set now p), rfl, ?_⟩
      have hid : p.proposalId = proposalId := congrArg Prod.fst (Option.some.inj hs)
      show some (p.proposalId, u.status.getD p.status) = _
      rw [hid, hu]
      rfl
    | _ => cases hs

/-! ## Statements that leave the proposals alone -/

/-- The statement moves and inserts no proposal. -/
def Aside : Stmt Row → Prop
  | .change c => lifecycle.Mild schema c
  | .insert row => lifecycle.subject row = none
  | _ => True

instance : Prog.Quiet Aside := ⟨trivial, trivial, trivial, trivial⟩

/-- The approvals are none of the proposals. -/
theorem mild_updateApprovals {guard : ApprovalRow → Bool} {set : ApprovalRow → ApprovalRow}
    (hid : ∀ a, (set a).approvalId = a.approvalId) :
    lifecycle.Mild schema (updateApprovals guard set) := by
  intro row hguard
  cases row with
  | approval a =>
    refine ⟨rfl, ?_⟩
    rintro _ ⟨⟩
    exact ⟨rfl, congrArg RowKey.approval (hid a)⟩
  | _ => cases hguard

/-! ## What the operations keep to -/

section Operations

variable {proposalId : String} {tenantId : Option String} {clock : ℕ → Instant} {α : Type}

/-- No write is under way. -/
def Settled : Belief RemediationStatus → Prop
  | .moves .. => False
  | _ => True

/-- A session whose body leaves no write under way. -/
theorem obeys_lifecycle_session {body : StoreM α} {g : Belief RemediationStatus}
    {Q : Belief RemediationStatus → α → Prop}
    (h : body.Obeys (lifecycle.monitor schema proposalId)
      (fun g r => ∀ a, r = .ok a → Q g a ∧ Settled g) g) :
    (session body).Obeys (lifecycle.monitor schema proposalId)
      (fun g r => ∀ a, r = .ok a → Q g a ∧ Settled g) g := by
  have hnext : ∀ (g : Belief RemediationStatus) (s : Stmt Row) rows, s = .commit ∨ s = .step →
      Settled g → (lifecycle.monitor schema proposalId).allows g s ∧
        (lifecycle.monitor schema proposalId).next g s rows = g := by
    intro g s rows hs hsettled
    rcases hs with rfl | rfl
    · cases g with
      | moves => exact hsettled.elim
      | _ => exact ⟨trivial, rfl⟩
    · cases g with
      | moves => exact hsettled.elim
      | _ => exact ⟨trivial, rfl⟩
  refine obeys_session (Q := fun g a => Q g a ∧ Settled g) (E := fun _ => True)
    (S := fun g a => Q g a ∧ Settled g)
    (Prog.obeys_mono h (fun g r hr => ⟨hr, fun _ _ => trivial⟩)) ?_ ?_ ?_
  · intro g a hg
    refine ⟨(hnext g .commit [] (Or.inl rfl) hg.2).1, fun rows => ?_, fun _ _ => trivial⟩
    rw [(hnext g .commit rows (Or.inl rfl) hg.2).2]
    exact hg
  · intro g e _
    refine ⟨?_, fun rows a ha => (by cases ha), fun e' g' _ a ha => (by cases ha)⟩
    cases g <;> trivial
  · intro g a hg
    refine ⟨(hnext g .step [] (Or.inr rfl) hg.2).1, fun rows => ?_,
      fun e g' _ a' ha => (by cases ha)⟩
    rw [(hnext g .step rows (Or.inr rfl) hg.2).2]
    rintro a' ⟨⟩
    exact hg

/-- An operation knows the status of the proposal that it has loaded. -/
theorem obeys_load :
    (load proposalId tenantId).Obeys (lifecycle.monitor schema proposalId)
      (fun g r => ∀ record, r = .ok record → record.proposalId = proposalId ∧
        g = .knows record.status record.status) .unread := by
  have hread : (session fetchAll).Obeys (lifecycle.monitor schema proposalId)
      (fun g r => ∀ rows, r = .ok rows → g = (lifecycle.stageIn proposalId rows).elim .unread
        (fun s => .knows s s) ∧ Settled g) .unread := by
    refine obeys_lifecycle_session (obeys_fetchAll trivial (fun rows => ?_)
      (fun _ _ _ _ h => by cases h))
    rintro _ ⟨⟩
    refine ⟨rfl, ?_⟩
    show Settled ((lifecycle.stageIn proposalId rows).elim .unread (fun s => .knows s s))
    cases lifecycle.stageIn proposalId rows <;> trivial
  have hget : (getRemediationProposal proposalId tenantId).Obeys
      (lifecycle.monitor schema proposalId) (fun g r => ∀ record, r = .ok (some record) →
        record.proposalId = proposalId ∧ g = .knows record.status record.status) .unread := by
    refine Prog.obeys_bind hread (fun g rows hg => ?_) (fun _ _ _ _ h => by cases h)
    obtain ⟨hknown, -⟩ := hg rows rfl
    cases hfind : findProposal rows proposalId with
    | none =>
      intro record hrecord
      cases hrecord
    | some record =>
      dsimp only
      split
      · intro record' hrecord
        cases hrecord
      · rintro record' ⟨⟩
        rw [stageIn_of_find hfind] at hknown
        exact ⟨(findProposal_some hfind).1, hknown⟩
  refine Prog.obeys_bind hget (fun g found hg => ?_) (fun _ _ _ _ h => by cases h)
  cases found with
  | none =>
    intro record h
    cases h
  | some record =>
    rintro _ ⟨⟩
    exact hg record rfl

/-- The update of an operation that knows where the proposal is. -/
theorem obeys_update {u : ProposalUpdate} {now : Instant} {read last status : RemediationStatus}
    (hu : u.status = some status) (hread : status ∈ leadsTo read)
    (hlast : status ∈ leadsTo last) :
    (updateRemediationProposal proposalId u now).Obeys (lifecycle.monitor schema proposalId)
      (fun g r => ∀ a, r = .ok a → g = .knows read status) (.knows read last) := by
  have hmoves : lifecycle.Moves (updateProposalChange proposalId u (Timestamp.isoformat now))
      proposalId status := moves_update hu
  have hexecute : (execute (updateProposalChange proposalId u (Timestamp.isoformat now))).Obeys
      (lifecycle.monitor schema proposalId)
      (fun g r => ∀ count, r = .ok count → g = .moves read last status) (.knows read last) := by
    refine obeys_execute (Or.inr ⟨status, hmoves, hread, hlast⟩) (fun rows count _ _ => ?_)
      (fun _ _ _ _ h => by cases h)
    show (lifecycle.target _ proposalId last).elim _ _ = _
    rw [Lifecycle.target_of_moves hmoves]
    rfl
  have hfetch : fetchAll.Obeys (lifecycle.monitor schema proposalId)
      (fun g r => ∀ rows, r = .ok rows → g = .knows read status) (.moves read last status) :=
    obeys_fetchAll trivial (fun rows _ _ => rfl) (fun _ _ _ _ h => by cases h)
  have hbody : (updateProposalInSession proposalId u (Timestamp.isoformat now)).Obeys
      (lifecycle.monitor schema proposalId)
      (fun g r => ∀ a, r = .ok a → g = .knows read status ∧ Settled g) (.knows read last) := by
    refine Prog.obeys_bind hexecute (fun g count hg => ?_) (fun _ _ _ _ h => by cases h)
    obtain rfl := hg count rfl
    split
    · intro a ha
      cases ha
    · refine Prog.obeys_bind hfetch (fun g rows hg => ?_) (fun _ _ _ _ h => by cases h)
      obtain rfl := hg rows rfl
      split
      · intro a _
        exact ⟨rfl, trivial⟩
      · intro a ha
        cases ha
  have hcommit : commit.Obeys (lifecycle.monitor schema proposalId)
      (fun g r => ∀ a, r = .ok a → g = .knows read status) (.knows read status) :=
    obeys_commit trivial (fun rows _ _ => rfl) (fun _ _ _ _ h => by cases h)
  refine Prog.obeys_mono (obeys_lifecycle_session (Prog.obeys_bind hbody (fun g a hg => ?_)
    (fun _ _ _ _ h => by cases h))) (fun g r h a ha => (h a ha).1)
  obtain ⟨rfl, -⟩ := hg a rfl
  refine Prog.obeys_bind hcommit (fun g x hg a _ => ?_) (fun _ _ _ _ h => by cases h)
  exact ⟨hg x rfl, by rw [hg x rfl]; trivial⟩

/-- What happens between the load and the update of an operation. -/
theorem obeys_aside {read last : RemediationStatus} {p : StoreM α} (h : p.Issues Aside) :
    p.Obeys (lifecycle.monitor schema proposalId) (fun g _ => g = .knows read last)
      (.knows read last) := by
  refine Lifecycle.obeys_of_issues (Prog.Issues.mono h (fun s hs => ?_))
  cases s <;> exact hs

/-- A checked transition. -/
theorem of_requireTransition {status target : RemediationStatus} {x : Unit}
    (h : requireTransition status target = .ok x) : target ∈ allowed status := by
  unfold requireTransition at h
  split at h
  · assumption
  · cases h

theorem leadsTo_of_allowed {s t : RemediationStatus} (h : t ∈ allowed s) : t ∈ leadsTo s := by
  cases s with
  | proposed =>
    rw [List.mem_singleton.mp h]
    decide
  | _ => exact h

end Operations

/-! ## The operations -/

/-- An operation on a proposal. -/
inductive Call where
  | evaluatePolicy (server : Server) (process : PolicyProcess) (tenantId : Option String)
      (environment : String) (team : Option String) (draws : Draws) (clock : ℕ → Instant)
  | resolveProposal (py : PyRuntime) (approved : Bool) (reviewer comment : String)
      (tenantId : Option String) (eventId : String) (clock : ℕ → Instant)
  | preparePrDraft (gitops : GitOpsPullRequestRequest → Except String (Option String))
      (tenantId prUrl : Option String) (now : Instant)
  | markApplied (tenantId prUrl : Option String) (clock : ℕ → Instant)
  | verifyRuntime (tenantId : Option String) (inventory : DriftStatus) (probeFresh : Bool)
      (clock : ℕ → Instant)

namespace Call

/-- The program of an operation on a proposal. -/
def code (proposalId : String) : Call → StoreM RemediationProposalRow
  | evaluatePolicy server process tenantId environment team draws clock =>
    Remediation.evaluatePolicy server process proposalId tenantId environment team draws clock
  | resolveProposal py approved reviewer comment tenantId eventId clock =>
    Remediation.resolveProposal py proposalId approved reviewer comment tenantId eventId clock
  | preparePrDraft gitops tenantId prUrl now =>
    Remediation.preparePrDraft gitops proposalId tenantId prUrl now
  | markApplied tenantId prUrl clock => Remediation.markApplied proposalId tenantId prUrl clock
  | verifyRuntime tenantId inventory probeFresh clock =>
    Remediation.verifyRuntime proposalId tenantId inventory probeFresh clock

/-- Work aside, and what follows it. -/
theorem obeys_work {α β : Type} {proposalId : String} {read last : RemediationStatus}
    {p : StoreM α} {f : α → StoreM β} (hp : p.Issues Aside)
    (hf : ∀ a, (f a).Obeys (lifecycle.monitor schema proposalId) (fun _ _ => True)
      (.knows read last)) :
    (p >>= f).Obeys (lifecycle.monitor schema proposalId) (fun _ _ => True)
      (.knows read last) := by
  refine Prog.obeys_bind (obeys_aside hp) ?_ (fun _ _ _ => trivial)
  rintro _ a rfl
  exact hf a

/-- An operation that loads its proposal, checks a transition, and goes on. -/
theorem obeys_checked {proposalId : String} {tenantId : Option String}
    {target : RemediationProposalRow → RemediationStatus}
    {rest : RemediationProposalRow → StoreM RemediationProposalRow}
    (h : ∀ record, target record ∈ allowed record.status →
      (rest record).Obeys (lifecycle.monitor schema proposalId) (fun _ _ => True)
        (.knows record.status record.status)) :
    (do
      let record ← load proposalId tenantId
      Prog.done (requireTransition record.status (target record))
      rest record : StoreM RemediationProposalRow).Obeys (lifecycle.monitor schema proposalId)
      (fun _ _ => True) .unread := by
  refine Prog.obeys_bind obeys_load (fun g record hg => ?_) (fun _ _ _ => trivial)
  obtain ⟨-, rfl⟩ := hg record rfl
  cases hallowed : requireTransition record.status (target record) with
  | error e => trivial
  | ok x => exact h record (of_requireTransition hallowed)

/-- The update at the end of an operation. -/
theorem obeys_end {proposalId : String} {u : ProposalUpdate} {now : Instant}
    {read last status : RemediationStatus} (hu : u.status = some status)
    (hread : status ∈ leadsTo read) (hlast : status ∈ leadsTo last) :
    (updateRemediationProposal proposalId u now).Obeys (lifecycle.monitor schema proposalId)
      (fun _ _ => True) (.knows read last) :=
  Prog.obeys_mono (obeys_update hu hread hlast) (fun _ _ _ => trivial)

/-- Where a verification may end. -/
theorem verdict_leadsTo (snapshot : RuntimeVerificationSnapshot) {status : RemediationStatus}
    (hs : status = .applied ∨ status = .verifying) :
    ∃ target, (verdictOf snapshot).status = some target ∧ target ∈ leadsTo status ∧
      target ∈ leadsTo .verifying := by
  unfold verdictOf
  cases snapshot.outcome with
  | verified => exact ⟨.verified, rfl, by rcases hs with rfl | rfl <;> decide, by decide⟩
  | failed => exact ⟨.failed, rfl, by rcases hs with rfl | rfl <;> decide, by decide⟩

/-- A verification begins with a proposal that is applied, or it goes on. -/
theorem obeys_beginVerifying {proposalId : String} {record : RemediationProposalRow}
    {now : Instant} (hid : record.proposalId = proposalId) :
    (beginVerifying record now).Obeys (lifecycle.monitor schema proposalId)
      (fun g r => ∀ x, r = .ok x → g = .knows record.status .verifying ∧
        (record.status = .applied ∨ record.status = .verifying))
      (.knows record.status record.status) := by
  unfold beginVerifying
  split
  · rename_i hs
    have hallowed : requireTransition record.status .verifying = .ok () := by
      rw [hs]
      rfl
    have hleads : RemediationStatus.verifying ∈ leadsTo record.status := by
      rw [hs]
      decide
    rw [hallowed, hid, Prog.bind_ok]
    refine Prog.obeys_bind (obeys_update rfl hleads hleads) (fun g updated hg x _ => ?_)
      (fun _ _ _ _ h => by cases h)
    exact ⟨hg updated rfl, Or.inl hs⟩
  · split
    · rename_i happlied hverifying
      intro x hx
      have hallowed := of_requireTransition hx
      cases hs : record.status with
      | applied => exact absurd hs happlied
      | verifying => exact absurd hs hverifying
      | _ =>
        rw [hs] at hallowed
        exact absurd hallowed (by decide)
    · rename_i hverifying
      have hs := not_not.mp hverifying
      rintro x -
      rw [hs]
      exact ⟨rfl, Or.inr rfl⟩

/-- **An operation keeps to the lifecycle**, as far as it knows its proposal. -/
theorem obeys (proposalId : String) (call : Call) :
    (call.code proposalId).Obeys (lifecycle.monitor schema proposalId) (fun _ _ => True)
      .unread := by
  cases call with
  | evaluatePolicy server process tenantId environment team draws clock =>
    refine obeys_checked (fun record hallowed => obeys_work (issues_evaluateSynced _ _ _)
      (fun result => obeys_work ?_ (fun persisted => obeys_end rfl ?_ ?_)))
    · exact issues_persistEvaluation (fun _ => rfl) rfl (fun _ _ => rfl)
    all_goals
      have hproposed : record.status = .proposed := by
        cases hs : record.status <;> rw [hs] at hallowed <;> revert hallowed <;> decide
      rw [hproposed]
      cases persisted.finalVerdict <;> decide
  | resolveProposal py approved reviewer comment tenantId eventId clock =>
    refine obeys_checked (fun record hallowed => obeys_work ?_ (fun _ => obeys_end rfl
      (leadsTo_of_allowed hallowed) (leadsTo_of_allowed hallowed)))
    exact issues_resolveLinked (fun _ _ => mild_updateApprovals (fun _ => rfl))
      (fun _ _ => mild_updateApprovals (fun _ => rfl)) (fun _ => rfl)
  | preparePrDraft gitops tenantId prUrl now =>
    exact obeys_checked (fun record hallowed => obeys_work issues_draftUrl (fun url =>
      obeys_end rfl (leadsTo_of_allowed hallowed) (leadsTo_of_allowed hallowed)))
  | markApplied tenantId prUrl clock =>
    exact obeys_checked (fun record hallowed => obeys_end rfl
      (leadsTo_of_allowed hallowed) (leadsTo_of_allowed hallowed))
  | verifyRuntime tenantId inventory probeFresh clock =>
    refine Prog.obeys_bind obeys_load (fun g record hg => ?_) (fun _ _ _ => trivial)
    obtain ⟨hid, rfl⟩ := hg record rfl
    refine Prog.obeys_bind (obeys_beginVerifying hid) (fun g x hg => ?_) (fun _ _ _ => trivial)
    obtain ⟨rfl, hs⟩ := hg x rfl
    refine obeys_work issues_pythonStep (fun _ => ?_)
    obtain ⟨target, htarget, hread, hlast⟩ := verdict_leadsTo
      (buildVerificationSnapshot proposalId inventory record.driftSnapshot probeFresh
        (Timestamp.isoformat (clock 1))) hs
    exact obeys_end htarget hread hlast

end Call

/-! ## Runs -/

/-- A watched state of the system. -/
abbrev World :=
  Watched RowKey Row PyError RemediationProposalRow (Belief RemediationStatus) Unit

/-- The system before its first move; each call has its proposal. -/
def start (rows : List Row) (calls : ℕ → String × Call) : World :=
  .start schema rows (fun n => (calls n).2.code (calls n).1) (fun _ => .unread) ()

/-- The system after some moves. -/
def after (rows : List Row) (calls : ℕ → String × Call) (moves : List (Move PyError)) : World :=
  (start rows calls).run schema (lifecycle.watch schema (fun n => (calls n).1)) moves

/-- The committed rows after some moves. -/
def committedAfter (rows : List Row) (calls : ℕ → String × Call) (moves : List (Move PyError)) :
    List Row :=
  committedRows (after rows calls moves).state.cells

/-- The statuses of the committed versions of a proposal, newest first. -/
def statuses (rows : List Row) (calls : ℕ → String × Call) (moves : List (Move PyError))
    (proposalId : String) : List RemediationStatus :=
  lifecycle.history proposalId (after rows calls moves).state.cells

/-- The statuses that a proposal has only after it has been approved. -/
def pastApproval : List RemediationStatus := [.prCreated, .applied, .verifying, .verified, .failed]

theorem leadsTo_pastApproval (r s : RemediationStatus) (h : s ∈ leadsTo r)
    (hs : s ∈ pastApproval) : r = .approved ∨ r ∈ pastApproval := by
  revert h hs
  cases r <;> cases s <;> decide

section Runs

variable {rows : List Row} {calls : ℕ → String × Call}

theorem subject_of_proposal {p : RemediationProposalRow} :
    lifecycle.subject (.proposal p) = some (p.proposalId, p.status) := rfl

/-- **No race skips a stage.**  For every interleaving of any number of operations, any of whose
statements may fail: each committed status of a proposal is one that a proposal of the start has,
or an operation leads to it from a status that this proposal has had before; in particular a
proposal with a pull request, or one that is applied or verified, has been approved before. -/
theorem nobody_skips_approval (rows : List Row) (hnodup : (rows.map Row.key).Nodup)
    (hstart : ∀ p ∈ proposals rows, p.status ∉ pastApproval) (calls : ℕ → String × Call)
    (moves : List (Move PyError)) :
    ∀ p ∈ proposals (committedAfter rows calls moves),
      (∃ older, statuses rows calls moves p.proposalId = p.status :: older) ∧
      (∀ newer s older, statuses rows calls moves p.proposalId = newer ++ s :: older →
        (older = [] ∧ s ∉ pastApproval) ∨ ∃ r ∈ older, s ∈ leadsTo r) ∧
      (p.status ∈ pastApproval → .approved ∈ statuses rows calls moves p.proposalId) := by
  have hcode := fun n => (calls n).2.obeys (calls n).1
  have hrun : lifecycle.Staged schema (fun n => (calls n).1) (fun s => s ∉ pastApproval) rows
      (fun n => (calls n).2.code (calls n).1) (after rows calls moves) := by
    refine Lifecycle.Staged.run keyed hnodup ?_ hcode moves
    intro row hrow proposalId s hs
    cases row with
    | proposal p =>
      cases hs
      exact hstart p (List.mem_filterMap.mpr ⟨_, hrow, rfl⟩)
    | _ => cases hs
  intro p hp
  have hgrounded := hrun.grounded_history p.proposalId
  obtain ⟨older, hhistory⟩ := Lifecycle.history_of_committed keyed
    (Lifecycle.sound_of_reachable keyed hnodup hcode hrun.reached) ((mem_proposals _).mp hp)
    subject_of_proposal
  refine ⟨⟨older, hhistory⟩, ?_, fun hpast => ?_⟩
  · intro newer s before hsplit
    have hsuffix : s :: before <:+ statuses rows calls moves p.proposalId := ⟨newer, hsplit.symm⟩
    exact (hgrounded.of_suffix hsuffix).1
  · refine hgrounded.passes (fun _ hs => hs) leadsTo_pastApproval (s := p.status) ?_ hpast
    rw [hhistory]
    exact List.mem_cons_self

/-- **Operations in time follow the transitions.**  For every interleaving of any number of
operations in which each update finds the status that its operation has read or written last:
from each committed status of a proposal to each later one there is a path of transitions, and a
terminal status stays. -/
theorem transitions_of_inTime (rows : List Row) (hnodup : (rows.map Row.key).Nodup)
    (calls : ℕ → String × Call) (moves later : List (Move PyError))
    (htime : (start rows calls).Meets schema (lifecycle.watch schema (fun n => (calls n).1))
      (Lifecycle.InTime lifecycle schema) (moves ++ later)) :
    ∀ p ∈ proposals (committedAfter rows calls moves),
      ∀ p' ∈ proposals (committedAfter rows calls (moves ++ later)),
      p'.proposalId = p.proposalId →
      Relation.ReflTransGen (fun s t => t ∈ allowed s) p.status p'.status ∧
        (p.status ∈ terminal → p'.status = p.status) := by
  have hcode := fun n => (calls n).2.obeys (calls n).1
  intro p hp p' hp' hid
  have hpath := Lifecycle.Ordered.path keyed hnodup hcode htime ((mem_proposals _).mp hp)
    ((mem_proposals _).mp hp') subject_of_proposal (hid ▸ subject_of_proposal)
  refine ⟨hpath.lift' id (fun _ _ => path_of_leadsTo),
    fun hterminal => ?_⟩
  · rcases Relation.ReflTransGen.cases_head hpath with hsame | ⟨s, hstep, -⟩
    · exact hsame.symm
    · exfalso
      have hnext : s ∈ leadsTo p.status := hstep
      revert hnext hterminal
      cases p.status <;> cases s <;> decide

end Runs

/-! ## One proposal -/

/-- What a probe of no backends reports. -/
def probe (inSync : Bool) : DriftStatus where
  updatedAt := "t"
  inSync := inSync
  summary := ""
  backends := []

/-- A pull request, its application, and two verifications, the second of which fails. -/
def workers : ℕ → String × Call
  | 0 => ("p1", .preparePrDraft (fun _ => .ok none) none none 1)
  | 1 => ("p1", .markApplied none none (fun _ => 2))
  | 2 => ("p1", .verifyRuntime none (probe true) false (fun _ => 3))
  | _ => ("p1", .verifyRuntime none (probe false) false (fun _ => 4))

/-- A store with one approved proposal. -/
def approvedProposal : List Row := [.proposal (proposalWith "p1" .approved)]

/-- The calls go on in the given order, and nothing fails. -/
def inOrder (order : List ℕ) : List (Move PyError) := order.map (fun n => { call := n })

/-- One operation after the other. -/
def serialOrder : List ℕ := List.replicate 11 0 ++ List.replicate 10 1 ++ List.replicate 18 2

/-- The two verifications read the proposal, and the first one ends before the second goes on. -/
def racingOrder : List ℕ :=
  List.replicate 11 0 ++ List.replicate 10 1 ++ List.replicate 3 2 ++ List.replicate 3 3 ++
    List.replicate 15 2 ++ List.replicate 15 3

/-- The racing verifications have passed the approval. -/
theorem nobody_skips_approval_racing :
    statuses approvedProposal workers (inOrder racingOrder) "p1"
      = [.failed, .verifying, .verified, .verifying, .applied, .prCreated, .approved] ∧
    ∀ p ∈ proposals (committedAfter approvedProposal workers (inOrder racingOrder)),
      p.status ∈ pastApproval →
        .approved ∈ statuses approvedProposal workers (inOrder racingOrder) p.proposalId := by
  refine ⟨by decide +kernel, fun p hp => ?_⟩
  refine (nobody_skips_approval approvedProposal (by decide) ?_ workers _ p hp).2.2
  intro q hq
  rw [List.mem_singleton.mp (show q ∈ [proposalWith "p1" .approved] from hq)]
  decide

/-- Without a race the verified proposal has gone from transition to transition. -/
theorem transitions_of_inTime_serial :
    (proposals (committedAfter approvedProposal workers ([] ++ inOrder serialOrder))).map
      RemediationProposalRow.status = [.verified] ∧
    ∀ p ∈ proposals (committedAfter approvedProposal workers []),
      ∀ p' ∈ proposals (committedAfter approvedProposal workers ([] ++ inOrder serialOrder)),
      p'.proposalId = p.proposalId →
      Relation.ReflTransGen (fun s t => t ∈ allowed s) p.status p'.status := by
  refine ⟨by decide +kernel, fun p hp p' hp' hid => ?_⟩
  exact (transitions_of_inTime approvedProposal (by decide) workers [] (inOrder serialOrder)
    (by decide +kernel) p hp p' hp' hid).1

/-- A verified proposal fails afterwards: the second verification has read it before. -/
example : (proposals (committedAfter approvedProposal workers (inOrder racingOrder))).map
    RemediationProposalRow.status = [.failed] := by
  decide +kernel

end ControlPlane.RemediationRace
