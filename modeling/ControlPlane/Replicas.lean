/-
# Approvals and the policies of replicas

Several processes share one store, and each decides with the bundle that it has loaded last.  An
approval is compared with that bundle, not with the active record: what it is redeemed under is
what is active exactly while the process is in step with the store.
-/
import ControlPlane.GoldenPath
import ControlPlane.PolicyFidelity

namespace ControlPlane.Replicas

open Transaction Remediation Threads Selection PolicyHistory PolicyOperations PolicyFidelity
  CapabilityPinning

-- what the endpoints compute between their statements is not evaluated
attribute [local irreducible] strip runBundle

/-! ## Replicas on one store -/

/-- The rows of the shared store, and the process of every replica. -/
structure Cluster where
  rows : List Row
  process : ℕ → PolicyProcess

/-- What a replica works on. -/
def Cluster.world (c : Cluster) (r : ℕ) : PolicyWorld := ⟨c.rows, c.process r⟩

/-- What a replica does: an operation of the lifecycle, or a request on a server, which is decided
with the bundle of the process and may synchronise it. -/
inductive Act where
  | operate (io : Surroundings) (op : Operation)
  | request (server : Server) (call : PolicyProcess → GateCall) (fails : ℕ → Option PyError)
      (synced : Bool)

/-- Whatever is loaded has a digest. -/
def LoadsDigested (load : SourceJson → Except PyError PolicyBundle) : Prop :=
  ∀ source bundle, load source = .ok bundle → bundle.contentDigest ≠ ""

namespace Act

/-- What the act makes of the rows and of the process. -/
def perform (act : Act) (w : PolicyWorld) : PolicyWorld :=
  match act with
  | operate io op => ((op.program io).run w).2
  | request server call fails synced => {
      rows := (call w.process).after server fails w.rows
      process :=
        if synced then
          (w.process.catchUp server.loadBundle false (selectPolicyBundle w.rows .active)).1
        else w.process }

/-- Files never have an empty digest. -/
def Digested : Act → Prop
  | operate io _ => PolicyOperations.Digested io
  | request server _ _ _ => LoadsDigested server.loadBundle

/-- The act neither activates a bundle nor rolls one back. -/
def Calm : Act → Prop
  | operate _ (.sync _) => True
  | operate _ (.validate _ _) => True
  | operate _ _ => False
  | request _ _ _ _ => True

end Act

/-- One replica acts. -/
def Cluster.step (c : Cluster) (act : ℕ × Act) : Cluster where
  rows := (act.2.perform (c.world act.1)).rows
  process := Function.update c.process act.1 (act.2.perform (c.world act.1)).process

/-- Replicas act, one after the other. -/
def Cluster.run (acts : List (ℕ × Act)) (c : Cluster) : Cluster := acts.foldl Cluster.step c

/-- The bundle of the replica has the digest of the active record. -/
def Cluster.InStep (c : Cluster) (r : ℕ) : Prop := Agrees (c.world r)

section Steps

variable {c : Cluster} {r : ℕ} {act : Act}

theorem world_step_self : (c.step (r, act)).world r = act.perform (c.world r) := by
  unfold Cluster.step Cluster.world
  dsimp only
  rw [Function.update_self]

theorem process_step_other {r' : ℕ} (h : r' ≠ r) :
    (c.step (r, act)).process r' = c.process r' :=
  Function.update_of_ne h _ _

end Steps

/-! ## Requests and the records of bundles -/

section Requests

variable {server : Server} {rows : List Row}

/-- A change that touches no bundle. -/
theorem policyBundles_untouched {change : Change Row}
    (hguard : ∀ b, change.guard (.policyBundle b) = false)
    (hset : ∀ row, row.policyBundle? = none → (change.set row).bind Row.policyBundle? = none) :
    policyBundles (change.apply rows) = policyBundles rows := by
  unfold policyBundles Change.apply
  rw [List.filterMap_filterMap]
  congr 1
  funext row
  cases hrow : row.policyBundle? with
  | some b =>
    have hb : row = .policyBundle b := by
      cases row <;> cases hrow
      rfl
    rw [hb, hguard b]
    rfl
  | none =>
    split
    · exact hset row hrow
    · exact hrow

theorem policyBundles_deleted {change : Change Row} (hset : ∀ row, change.set row = none)
    (hguard : ∀ b, change.guard (.policyBundle b) = false) :
    policyBundles (change.apply rows) = policyBundles rows :=
  policyBundles_untouched hguard (fun row _ => by rw [hset]; rfl)

theorem policyBundles_updateApprovals {guard : ApprovalRow → Bool}
    {set : ApprovalRow → ApprovalRow} :
    policyBundles ((updateApprovals guard set).apply rows) = policyBundles rows := by
  refine policyBundles_untouched (fun _ => rfl) (fun row hrow => ?_)
  cases row <;> first | rfl | cases hrow

theorem policyBundles_updateProposal {proposalId : String} {u : ProposalUpdate} {time : String} :
    policyBundles ((updateProposalChange proposalId u time).apply rows) = policyBundles rows := by
  refine policyBundles_untouched (fun _ => rfl) (fun row hrow => ?_)
  cases row <;> first | rfl | cases hrow

/-- **No request** changes the records of bundles. -/
theorem policyBundles_after (call : GateCall) (fails : ℕ → Option PyError) :
    policyBundles (call.after server fails rows) = policyBundles rows := by
  -- no endpoint inserts a bundle, and no change of one touches the bundles
  have hinsert : ∀ row : Row, row.policyBundle? = none → Prog.Preserves schema
      (fun rows' => policyBundles rows' = policyBundles rows) (.insert row) := by
    intro row hrow rows' h _
    rw [policyBundles_append, policyBundles_cons, hrow, h]
    exact List.append_nil _
  refine GateCall.after_keeps (I := fun rows' => policyBundles rows' = policyBundles rows)
    (GateCall.issues_program call ?_ ?_ ?_ ?_ ?_ ?_ ?_ ?_ ?_ ?_) fails rfl
  · exact fun _ _ rows' h => policyBundles_updateApprovals.trans h
  · exact fun _ rows' h => policyBundles_updateApprovals.trans h
  · exact fun _ _ _ rows' h => policyBundles_updateApprovals.trans h
  · exact fun _ _ _ _ _ _ _ rows' h => policyBundles_updateApprovals.trans h
  · refine fun _ ids => ⟨fun rows' h => ?_, fun rows' h => ?_, fun rows' h => ?_⟩
    · exact (policyBundles_deleted (fun _ => rfl) (fun _ => rfl)).trans h
    · exact (policyBundles_deleted (fun _ => rfl) (fun _ => rfl)).trans h
    · exact (policyBundles_deleted (fun _ => rfl) (fun _ => rfl)).trans h
  · exact fun m => hinsert _ rfl
  · exact fun _ _ new now => hinsert _ rfl
  · exact fun _ _ ttlSeconds now => hinsert _ rfl
  · exact fun p _ => hinsert _ rfl
  · exact fun _ proposalId u now rows' h => policyBundles_updateProposal.trans h

end Requests

/-! ## What the acts keep -/

section Keeps

variable {act : Act} {w : PolicyWorld}

/-- A process that catches up holds bundles with digests. -/
theorem held_catchUp {process : PolicyProcess} {load : SourceJson → Except PyError PolicyBundle}
    (hload : LoadsDigested load) (force : Bool)
    (active : Option PolicyBundleRow) (h : Held process) :
    Held (process.catchUp load force active).1 := by
  unfold PolicyProcess.catchUp
  cases active with
  | none => exact h
  | some record =>
    dsimp only
    split
    · exact h
    · cases hl : load record.sourceJson >>= checkLoaded record with
      | error e => exact ⟨h.bundle, h.previous, h.candidates⟩
      | ok loaded =>
        obtain ⟨found, hfound, hcheck⟩ := bind_eq_ok.mp hl
        obtain ⟨rfl, -, -⟩ := checkLoaded_ok hcheck
        exact h.switch _ h.bundle (hload _ _ hfound)

/-- **One act** keeps what the log of selections explains. -/
theorem sound_perform (hact : act.Digested) (h : Sound w) : Sound (act.perform w) := by
  cases act with
  | operate io op => exact ((keeps_program hact op).run h).2
  | request server call fails synced =>
    obtain ⟨log, hlog⟩ := h.recorded
    refine ⟨⟨log, hlog.map (f := id) ?_ (fun _ => ⟨rfl, rfl, rfl, rfl, rfl⟩)⟩, ?_⟩
    · rw [List.map_id]
      exact policyBundles_after _ _
    · unfold Act.perform
      dsimp only
      split
      · exact held_catchUp hact _ _ h.held
      · exact h.held

/-- What is active, once something is. -/
def ActiveIs (contentDigest : String) (rows : List Row) : Prop :=
  activeDigest rows = some contentDigest

theorem activeIs_congr {rows rows' : List Row} {contentDigest : String}
    (hrows : policyBundles rows' = policyBundles rows) (h : ActiveIs contentDigest rows) :
    ActiveIs contentDigest rows' := by
  unfold ActiveIs activeDigest selectPolicyBundle at h ⊢
  rw [hrows]
  exact h

/-- Registering a candidate does not change what is active. -/
theorem activeIs_upsert {rows : List Row} {log : Log String} {contentDigest : String}
    (hlog : Recorded rows log) {new : NewPolicyBundle} (hdigest : new.contentDigest ≠ "")
    (recordId : String) (now : Instant) (fails : ℕ → Option PyError)
    (h : ActiveIs contentDigest rows) :
    ActiveIs contentDigest
      (outcome (upsertPolicyBundleCandidate new recordId now) fails rows).2 := by
  obtain ⟨record, hselect, rfl⟩ := Option.map_eq_some_iff.mp h
  obtain ⟨hmem, hhead⟩ := hlog.selectActive_iff.mp hselect
  have hkept := hlog.upsert hdigest recordId now fails
  -- the active record is still there
  obtain ⟨record', hmem', hid, hsame⟩ : ∃ record' ∈ policyBundles
      (outcome (upsertPolicyBundleCandidate new recordId now) fails rows).2,
      record'.recordId = record.recordId ∧ record'.contentDigest = record.contentDigest := by
    rcases upsertPolicyBundleCandidate_outcome fails new recordId now with
      hrows | ⟨existing, -, hrows⟩ | ⟨-, -, hrows⟩
    · rw [hrows]
      exact ⟨record, hmem, rfl, rfl⟩
    · rw [hrows, policyBundles_refresh]
      have hrefreshed := refreshRecord_same new existing.recordId (Timestamp.isoformat now) record
      exact ⟨_, List.mem_map_of_mem hmem, hrefreshed.1, hrefreshed.2.2.1⟩
    · rw [hrows, policyBundles_append]
      exact ⟨record, List.mem_append_left _ hmem, rfl, rfl⟩
  have hselect' := hkept.selectActive_iff.mpr ⟨hmem', by rw [hid]; exact hhead⟩
  exact Option.map_eq_some_iff.mpr ⟨record', hselect', hsame⟩

/-- A candidate is validated: neither the bundle of the process nor the active record change. -/
theorem validate_run {io : Surroundings} (hio : PolicyOperations.Digested io) (hsound : Sound w)
    (root : String) (source : Option PolicySource) {contentDigest : String}
    (h : ActiveIs contentDigest w.rows) :
    ActiveIs contentDigest (((Operation.validate root source).program io).run w).2.rows ∧
      (((Operation.validate root source).program io).run w).2.process.bundle
        = w.process.bundle := by
  have hloaded := hio.loadRoot 0 root
  let I : PolicyWorld → Prop := fun w' => Sound w' ∧ ActiveIs contentDigest w'.rows ∧
    w'.process.bundle = w.process.bundle
  have hkeeps : (io.validateFromPath root source).Keeps I (fun _ => True) := by
    unfold Surroundings.validateFromPath
    dsimp only
    split
    · trivial
    · refine Thread.keeps_bind (Q := fun _ => True) (Thread.keeps_atomic (fun w hw => ?_))
        (fun _ _ => ?_) (fun _ _ => trivial)
      · -- the candidate is remembered
        obtain ⟨hsound, hactive, hbundle⟩ := hw
        exact ⟨⟨⟨hsound.recorded, hsound.held.remember _ hloaded⟩, hactive, hbundle⟩, trivial⟩
      · refine Thread.keeps_bind (Q := fun _ => True) (Thread.keeps_atomic (fun w hw => ?_))
          (fun _ _ => trivial) (fun _ _ => trivial)
        obtain ⟨hsound, hactive, hbundle⟩ := hw
        obtain ⟨log, hlog⟩ := hsound.recorded
        exact ⟨⟨⟨⟨log, hlog.upsert hloaded _ _ _⟩, hsound.held⟩,
          activeIs_upsert hlog hloaded _ _ _ hactive, hbundle⟩, trivial⟩
  have hprogram : ((Operation.validate root source).program io).Keeps I (fun _ => True) :=
    Thread.keeps_bind hkeeps (fun _ _ => trivial) (fun _ _ => trivial)
  exact (hprogram.run ⟨hsound, h, rfl⟩).2.2

/-- **A calm act** keeps the active digest. -/
theorem activeIs_calm (hact : act.Digested) (hcalm : act.Calm) (hsound : Sound w)
    {contentDigest : String} (h : ActiveIs contentDigest w.rows) :
    ActiveIs contentDigest (act.perform w).rows := by
  cases act with
  | request server call fails synced => exact activeIs_congr (policyBundles_after _ _) h
  | operate io op =>
    cases op with
    | sync force =>
      obtain ⟨active, -, hrun⟩ := sync_run io w 6 1 force
      show ActiveIs contentDigest ((io.sync 6 1 force).run w).2.rows
      rw [hrun]
      exact h
    | validate root source => exact (validate_run hact hsound root source h).1
    | activate bundleId => exact hcalm.elim
    | rollback => exact hcalm.elim
    | ensureBootstrapped => exact hcalm.elim

/-- A process with the active digest keeps it when it catches up. -/
theorem catchUp_digest {load : SourceJson → Except PyError PolicyBundle} {force : Bool}
    {process : PolicyProcess} {active : Option PolicyBundleRow} {contentDigest : String}
    (hactive : ∀ record, active = some record → record.contentDigest = contentDigest)
    (h : process.bundle.contentDigest = contentDigest) :
    (process.catchUp load force active).1.bundle.contentDigest = contentDigest := by
  cases hresult : (process.catchUp load force active).2 with
  | some bundle =>
    obtain ⟨record, hrecord, hdigest⟩ := catchUp_agrees hresult
    exact hdigest.trans (hactive record hrecord)
  | none =>
    -- the bundle stays as it was
    unfold PolicyProcess.catchUp at hresult ⊢
    cases active with
    | none => exact h
    | some record =>
      dsimp only at hresult ⊢
      split at hresult
      · cases hresult
      · rw [if_neg (by assumption)]
        cases hl : load record.sourceJson >>= checkLoaded record with
        | error e => exact h
        | ok loaded =>
          rw [hl] at hresult
          cases hresult

theorem digest_of_selected {rows : List Row} {contentDigest : String}
    (h : ActiveIs contentDigest rows) {record : PolicyBundleRow}
    (hselect : selectPolicyBundle rows .active = some record) :
    record.contentDigest = contentDigest := by
  unfold ActiveIs activeDigest at h
  rw [hselect] at h
  exact Option.some.inj h

/-- **A calm act of a replica in step** keeps it in step. -/
theorem agrees_calm (hact : act.Digested) (hcalm : act.Calm) (hsound : Sound w) (h : Agrees w) :
    Agrees (act.perform w) := by
  have hactive : ActiveIs w.process.bundle.contentDigest w.rows := (agrees_iff w).mp h
  have hkept := activeIs_calm hact hcalm hsound hactive
  refine (agrees_iff _).mpr (hkept.trans (congrArg some (Eq.symm ?_)))
  cases act with
  | request server call fails synced =>
    unfold Act.perform
    dsimp only
    split
    · exact catchUp_digest (fun record hselect => digest_of_selected hactive hselect) rfl
    · rfl
  | operate io op =>
    cases op with
    | sync force =>
      obtain ⟨active, hread, hrun⟩ := sync_run io w 6 1 force
      show ((io.sync 6 1 force).run w).2.process.bundle.contentDigest = _
      rw [hrun]
      refine catchUp_digest (fun record hrecord => ?_) rfl
      -- the store answers with the active record, or does not answer
      rcases hread with ⟨hselect, -⟩ | ⟨hnone, -⟩
      · exact digest_of_selected hactive (hselect.symm.trans hrecord)
      · rw [hnone] at hrecord
        cases hrecord
    | validate root source =>
      exact congrArg PolicyBundle.contentDigest (validate_run hact hsound root source hactive).2
    | activate bundleId => exact hcalm.elim
    | rollback => exact hcalm.elim
    | ensureBootstrapped => exact hcalm.elim

end Keeps

/-! ## Runs of the cluster -/

section Runs

variable {server : Server} {c : Cluster} {r : ℕ} {act : ℕ × Act} {acts : List (ℕ × Act)}

theorem sound_step (hact : act.2.Digested) (h : ∀ r, Sound (c.world r)) :
    ∀ r, Sound ((c.step act).world r) := by
  intro r
  have hstep := sound_perform hact (h act.1)
  by_cases hr : r = act.1
  · subst hr
    rw [show act = (act.1, act.2) from rfl, world_step_self]
    exact hstep
  · exact ⟨hstep.recorded, by
      show Held ((c.step (act.1, act.2)).process r)
      rw [process_step_other hr]
      exact (h r).held⟩

theorem sound_run (hacts : ∀ act ∈ acts, act.2.Digested) (h : ∀ r, Sound (c.world r)) :
    ∀ r, Sound ((c.run acts).world r) := by
  induction acts generalizing c with
  | nil => exact h
  | cons act acts ih =>
    obtain ⟨hact, hrest⟩ := List.forall_mem_cons.mp hacts
    exact ih hrest (sound_step hact h)

/-- A calm act, of whatever replica, keeps every replica in step that is in step. -/
theorem inStep_calm (hact : act.2.Digested) (hcalm : act.2.Calm) (hsound : ∀ r, Sound (c.world r))
    (h : c.InStep r) : (c.step act).InStep r := by
  by_cases hr : r = act.1
  · subst hr
    show Agrees ((c.step (act.1, act.2)).world act.1)
    rw [world_step_self]
    exact agrees_calm hact hcalm (hsound act.1) h
  · have hactive : ActiveIs (c.process r).bundle.contentDigest (c.world act.1).rows :=
      (agrees_iff _).mp h
    refine (agrees_iff _).mpr ?_
    show activeDigest _ = some ((c.step (act.1, act.2)).process r).bundle.contentDigest
    rw [process_step_other hr]
    exact activeIs_calm hact hcalm (hsound act.1) hactive

theorem inStep_run (hacts : ∀ act ∈ acts, act.2.Digested ∧ act.2.Calm)
    (hsound : ∀ r, Sound (c.world r)) (h : c.InStep r) : (c.run acts).InStep r := by
  induction acts generalizing c with
  | nil => exact h
  | cons act acts ih =>
    obtain ⟨⟨hact, hcalm⟩, hrest⟩ := List.forall_mem_cons.mp hacts
    exact ih hrest (sound_step hact hsound) (inStep_calm hact hcalm hsound h)

/-! ## Operations that return, and approvals that are redeemed -/

/-- An operation that returns a bundle, from files that it reads again unchanged. -/
structure Returned (io : Surroundings) (op : Operation) (w : PolicyWorld) : Prop where
  returned : ∃ bundle, ((op.program io).run w).1 = .ok (some bundle)
  undrifted : Undrifted io w op
  fallback : op = .ensureBootstrapped →
    ((op.program io).run w).2.process.fallbackActive = false

/-- It leaves its replica in step. -/
theorem agrees_returned {io : Surroundings} {op : Operation} {w : PolicyWorld}
    (hio : PolicyOperations.Digested io) (hsound : Sound w) (h : Returned io op w) :
    Agrees ((op.program io).run w).2 := by
  obtain ⟨bundle, hbundle⟩ := h.returned
  have hrun : (op.program io).run w = (.ok (some bundle), ((op.program io).run w).2) :=
    Prod.ext hbundle rfl
  cases op with
  | sync force => exact sync_agrees hrun
  | activate bundleId =>
    obtain ⟨b, w₁, hactivate, hdone⟩ := Thread.run_bind_eq_ok.mp hrun
    rw [← congrArg Prod.snd hdone]
    exact activate_agrees hio hsound hactivate
  | rollback =>
    obtain ⟨b, w₁, hroll, hdone⟩ := Thread.run_bind_eq_ok.mp hrun
    rw [← congrArg Prod.snd hdone]
    exact rollback_agrees hio hsound h.undrifted hroll
  | ensureBootstrapped =>
    obtain ⟨b, w₁, hboot, hdone⟩ := Thread.run_bind_eq_ok.mp hrun
    have hlast := congrArg Prod.snd hdone
    have hfallback := h.fallback rfl
    rw [← hlast] at hfallback ⊢
    exact ensureBootstrapped_agrees hio hsound h.undrifted hboot hfallback
  | validate root source =>
    obtain ⟨b, w₁, -, hdone⟩ := Thread.run_bind_eq_ok.mp hrun
    cases congrArg Prod.fst hdone

/-- **An approval that a replica redeems** was given under the active policy exactly if its
decision has a policy and the replica is in step. -/
theorem redeemed_iff {headers : Headers} {body : GovernanceEvaluateRequest} {draws : Draws}
    {clock : ℕ → Instant} {fails : ℕ → Option PyError} {approvalId : String}
    (hsound : Sound (c.world r)) (hid : headerText headers "x-ai-approval-id" = approvalId)
    (hbefore : ¬ Consumed approvalId c.rows)
    (hafter : Consumed approvalId (outcome
      (server.governanceEvaluate (c.process r) headers body draws clock) fails c.rows).2) :
    ∃ a d, findApproval c.rows approvalId = some a ∧
      findDecision c.rows a.decisionId = some d ∧
      (ActiveIs d.policyDigest c.rows ↔ d.policyDigest ≠ "" ∧ c.InStep r) := by
  unfold Server.governanceEvaluate at hafter
  cases hmerged : server.mergedRequest headers body with
  | error e =>
    rw [hmerged] at hafter
    exact absurd hafter hbefore
  | ok merged =>
    rw [hmerged, Prog.bind_ok] at hafter
    by_contra hnone
    refine GoldenPath.not_consumed _ clock hid (fun a d hr => hnone ?_) hbefore fails hafter
    obtain ⟨-, -, hclash⟩ := of_decide_eq_true hr.bound
    -- both digests are there, so the comparison was made
    have hheld : (c.process r).bundle.contentDigest ≠ "" := hsound.held.bundle
    have hsame : d.policyDigest ≠ "" → (c.process r).bundle.contentDigest = d.policyDigest := by
      intro hpolicy
      by_contra hdiffer
      exact hclash (decide_eq_true ⟨hheld, hpolicy, hdiffer⟩)
    refine ⟨a, d, hr.approval, hr.decision, fun hactive => ?_, fun ⟨hpolicy, hstep⟩ => ?_⟩
    · obtain ⟨log, hlog⟩ := hsound.recorded
      obtain ⟨record, hselect, hrecord⟩ := Option.map_eq_some_iff.mp hactive
      have hpolicy : d.policyDigest ≠ "" := by
        rw [← hrecord]
        exact hlog.digested record (hlog.selectActive_iff.mp hselect).1
      refine ⟨hpolicy, (agrees_iff _).mpr ?_⟩
      show activeDigest c.rows = some (c.process r).bundle.contentDigest
      rw [hsame hpolicy]
      exact hactive
    · have hactive : activeDigest c.rows = some (c.process r).bundle.contentDigest :=
        (agrees_iff _).mp hstep
      rw [hsame hpolicy] at hactive
      exact hactive

end Runs

/-- An approval that is asked for under the shipped bundle, and granted. -/
def grantedRows : List Row :=
  Persistence.afterCalls .ascii (fun _ => "sha256:r")
    [(.persistEvaluation
        { Persistence.askingResponse with policyDigest := some shippedBundle.contentDigest } {}
        (Persistence.drawsOf "d1" "a1" "e1" "e2") 3600 (fun _ => 0), fun _ => none),
      (.resolveApproval "a1" .approved "bob" "" none true (fun _ => 1), fun _ => none)] []

/-- Two replicas on a store with the approval. -/
def twoReplicas : Cluster where
  rows := grantedRows
  process _ := { bundle := shippedBundle }

/-- The files of the first replica. -/
def firstFiles : Surroundings := reading (fun _ => shippedBundle.contentDigest)

/-- The files of the second replica. -/
def secondFiles : Surroundings := { reading (fun _ => "d2") with recordId := "r4" }

/-- The first replica bootstraps, and the second one activates another bundle. -/
def behindActs : List (ℕ × Act) :=
  [(0, .operate firstFiles .ensureBootstrapped),
    (1, .operate secondFiles (.validate "governance" none)),
    (1, .operate secondFiles (.activate "bundle"))]

/-- The cluster afterwards. -/
def behind : Cluster := twoReplicas.run behindActs

theorem digested_behindActs : ∀ act ∈ behindActs, act.2.Digested := by
  have hfirst : PolicyOperations.Digested firstFiles := digested_reading (fun _ => by decide)
  have hread : PolicyOperations.Digested (reading (fun _ => "d2")) :=
    digested_reading (fun _ => by decide)
  have hsecond : PolicyOperations.Digested secondFiles := ⟨hread.load, hread.loadRoot⟩
  intro act hact
  simp only [behindActs, List.mem_cons, List.not_mem_nil, or_false] at hact
  rcases hact with rfl | rfl | rfl
  · exact hfirst
  · exact hsecond
  · exact hsecond

/-- The rows after the first replica has served the request that cites the approval. -/
def redeemedBehind : List Row :=
  (outcome (AuditTrail.demoServer.governanceEvaluate (behind.process 0) GoldenPath.citing
    {} GoldenPath.drawsAgain (fun _ => 2)) (fun _ => none) behind.rows).2

theorem consumed_of_any {approvalId : String} {rows : List Row} :
    (findApproval rows approvalId).any (fun a => a.status = .consumed) = true ↔
      Consumed approvalId rows := by
  unfold Consumed
  rw [Option.any_eq_true]
  refine exists_congr (fun a => and_congr_right (fun _ => decide_eq_true_iff))

end ControlPlane.Replicas
