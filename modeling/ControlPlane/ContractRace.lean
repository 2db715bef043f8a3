/-
# Racing contract activations

Any number of registrations and activations of capability contracts run against one store at
READ COMMITTED.  An activation retires the active contracts with its kind, name and tenant by
one `UPDATE` and promotes its own by another; a contract that becomes active after the first
one has started is not seen by it.
-/
import ControlPlane.Store.Records
import ControlPlane.Store.MoveRules

namespace ControlPlane.ContractRace

open Transaction

/-! ## The competition -/

/-- The contracts of one kind, name and tenant compete for being active. -/
def contracts : Contest Row (String × String × String) where
  home
    | .capability r => (r.kind, r.name, r.tenantId)
    | _ => ("", "", "")
  chosen
    | .capability r => if r.status = .active then some (r.kind, r.name, r.tenantId) else none
    | _ => none
  stamp _ := none
  largest _ := 0
  le_largest _ _ _ _ h := nomatch h
  stamped := false

theorem contracts_chosen {r : Row} {group : String × String × String} :
    contracts.chosen r = some group ↔
      ∃ c, r = .capability c ∧ c.status = .active ∧ (c.kind, c.name, c.tenantId) = group := by
  cases r with
  | capability c =>
    by_cases hactive : c.status = .active
    · have hsome : contracts.chosen (.capability c) = some (c.kind, c.name, c.tenantId) :=
        if_pos hactive
      rw [hsome, Option.some.injEq]
      refine ⟨fun h => ⟨c, rfl, hactive, h⟩, ?_⟩
      rintro ⟨_, ⟨⟩, -, h⟩
      exact h
    · have hnone : contracts.chosen (.capability c) = none := if_neg hactive
      rw [hnone]
      refine iff_of_false (fun h => nomatch h) ?_
      rintro ⟨_, ⟨⟩, hactive', -⟩
      exact hactive hactive'
  | _ => exact iff_of_false (fun h => nomatch h) (by rintro ⟨c, h, -⟩; exact nomatch h)

theorem mem_capabilities {rows : List Row} {c : CapabilityContractRow}
    (h : c ∈ capabilities rows) : Row.capability c ∈ rows := by
  obtain ⟨r, hr, hc⟩ := List.mem_filterMap.mp h
  cases r with
  | capability _ =>
    cases hc
    exact hr
  | _ => exact nomatch hc

/-! ## The calls -/

/-- A call that registers a contract or sets the status of one. -/
inductive Call where
  | upsert (new : CapabilityContractRow)
  | setStatus (contractId : String) (status : ContractStatus) (now : Instant)

/-- The method that is called. -/
def Call.code : Call → StoreM CapabilityContractRow
  | upsert new => upsertCapabilityContract new
  | setStatus contractId status now => setCapabilityContractStatus contractId status now

/-- The contract that a call promotes after its read. -/
def Call.target : Call → List (List Row) → Option CapabilityContractRow
  | setStatus contractId .active _, [rows] =>
    (capabilities rows).find? (fun r => r.contractId = contractId)
  | _, _ => none

/-- The key that a call promotes, with its group. -/
def Call.plan (call : Call) (reads : List (List Row)) :
    Option (RowKey × String × String × String) :=
  (call.target reads).map (fun c => (.capability c.contractId, c.kind, c.name, c.tenantId))

theorem mild_setStatus (contractId now : String) {status : ContractStatus}
    (hstatus : status ≠ .active) : contracts.Mild schema (setStatus contractId status now) := by
  intro r hguard
  cases r with
  | capability c => exact ⟨_, rfl, rfl, rfl, rfl, .inl (if_neg hstatus)⟩
  | _ => exact nomatch hguard

theorem retires_supersede (record : CapabilityContractRow) (now : String) :
    contracts.Retires schema (supersede record now) (.capability record.contractId)
      (record.kind, record.name, record.tenantId) where
  reaches := by
    intro r hchosen hkey
    obtain ⟨c, rfl, hactive, hgroup⟩ := contracts_chosen.mp hchosen
    obtain ⟨hkind, hrest⟩ := Prod.mk.inj hgroup
    obtain ⟨hname, htenant⟩ := Prod.mk.inj hrest
    exact decide_eq_true ⟨hkind, hname, htenant, hactive,
      fun hid => hkey (congrArg RowKey.capability hid)⟩
  retires := by
    intro r hguard
    cases r with
    | capability c =>
      obtain ⟨-, -, -, -, hne⟩ := of_decide_eq_true hguard
      exact ⟨fun hkey => hne (RowKey.capability.inj hkey), _, rfl, rfl, rfl, rfl, rfl⟩
    | _ => exact nomatch hguard

theorem promotes_setStatus (contractId now : String) (bound : ℤ) :
    contracts.Promotes schema (setStatus contractId .active now) (.capability contractId)
      bound := by
  intro r hguard
  cases r with
  | capability c =>
    have hid : c.contractId = contractId := of_decide_eq_true hguard
    exact ⟨congrArg RowKey.capability hid, _, rfl, rfl, rfl, .inr rfl, .inl rfl⟩
  | _ => exact nomatch hguard

variable {plan : List (List Row) → Option (RowKey × String × String × String)}

/-- The end of a session: it reads its row back after the writes, and commits. -/
theorem obeys_finish (phase : Phase RowKey Row (String × String × String))
    (hallows : (contracts.monitor schema plan).allows phase .select ∧
      ∀ rows, (contracts.monitor schema plan).next phase .select rows = phase)
    (hcommit : (contracts.monitor schema plan).allows phase .commit) (contractId : String) :
    (do
      let rows ← fetchAll
      commit
      match (capabilities rows).find? (fun r => r.contractId = contractId) with
      | some r => return r
      | none => throw (.runtimeError "assertion failed") :
        StoreM CapabilityContractRow).Obeys (contracts.monitor schema plan)
      (fun phase r => ∀ a, r = .ok a → (contracts.monitor schema plan).allows phase .commit)
      phase := by
  refine Prog.obeys_bind (Q := fun phase' r => ∀ rows, r = .ok rows → phase' = phase)
    (obeys_fetchAll hallows.1 (fun rows _ _ => hallows.2 rows) (fun _ _ _ _ h => nomatch h)) ?_
    (fun _ _ _ _ h => nomatch h)
  intro phase' rows hphase
  obtain rfl := hphase rows rfl
  refine Prog.obeys_bind (Q := fun phase r => r = .ok () → phase = .reading [])
    (obeys_commit hcommit (fun rows _ => ?_) (fun _ _ _ h => nomatch h)) ?_
    (fun _ _ _ _ h => nomatch h)
  · cases phase' <;> rfl
  intro phase u hphase
  obtain rfl := hphase rfl
  cases (capabilities rows).find? (fun r => r.contractId = contractId) with
  | none => exact fun a h => nomatch h
  | some r => exact fun a _ => trivial

/-- A call keeps to its plan when what it registers is not active. -/
theorem Call.obeys (call : Call) (hcall : ∀ new, call = upsert new → new.status ≠ .active) :
    call.code.Obeys (contracts.monitor schema call.plan) (fun _ _ => True) (.reading []) := by
  cases call with
  | upsert new =>
    have hnew := hcall new rfl
    refine Prog.obeys_bind obeys_contest_fetchAll ?_ (fun _ _ _ => trivial)
    intro phase rows hphase
    obtain rfl := hphase rows rfl
    cases findContractByDigest rows new.kind new.name new.tenantId new.contentDigest with
    | some existing => trivial
    | none =>
      refine Prog.obeys_mono (obeys_contest_session ?_) (fun _ _ _ => trivial)
      refine Prog.obeys_bind (Q := fun phase r => r = .ok () → phase = .editing)
        (obeys_insert ⟨if_neg hnew, rfl⟩ (fun _ _ => rfl) (fun _ _ _ h => nomatch h)) ?_
        (fun _ _ _ _ h => nomatch h)
      intro phase u hphase
      obtain rfl := hphase rfl
      exact obeys_finish .editing ⟨trivial, fun _ => rfl⟩ trivial new.contractId
  | setStatus contractId status now =>
    refine Prog.obeys_mono (obeys_contest_session ?_) (fun _ _ _ => trivial)
    refine Prog.obeys_bind (Q := fun phase r => ∀ rows, r = .ok rows →
      phase = .reading [rows]) ?_ ?_ (fun _ _ _ _ h => nomatch h)
    · refine obeys_fetchAll trivial ?_ (fun _ _ _ _ h => nomatch h)
      rintro rows _ ⟨⟩
      rfl
    intro phase rows hphase
    obtain rfl := hphase rows rfl
    cases hfind : (capabilities rows).find? (fun r => r.contractId = contractId) with
    | none => exact fun a h => nomatch h
    | some record =>
      have hid : record.contractId = contractId := by
        have := List.find?_some hfind
        exact of_decide_eq_true this
      dsimp only
      split
      · rename_i hactive
        subst hactive
        have htakes : (setStatus contractId .active now).plan [rows]
            = some (.capability record.contractId, record.kind, record.name, record.tenantId) := by
          unfold plan target
          dsimp only
          rw [hfind]
          rfl
        obtain ⟨hallows, hnext⟩ := Contest.begins_of_plan schema htakes
          ⟨rows, List.mem_cons_self, .capability record,
            mem_capabilities (List.mem_of_find?_eq_some hfind), rfl, rfl⟩
          (retires_supersede record (Timestamp.isoformat now))
        refine Prog.obeys_bind (Q := fun phase r => ∀ count, r = .ok count →
            phase = .retiring (.capability record.contractId)
              (record.kind, record.name, record.tenantId) [rows])
          (obeys_execute hallows (fun rows count _ _ => hnext rows) (fun _ _ _ _ h => nomatch h)) ?_
          (fun _ _ _ _ h => nomatch h)
        intro phase count hphase
        obtain rfl := hphase count rfl
        refine Prog.obeys_bind (Q := fun phase r => ∀ count, r = .ok count →
            phase = .promoting (.capability record.contractId)
              (record.kind, record.name, record.tenantId) [rows])
          (obeys_execute (hid ▸ promotes_setStatus contractId _ _) (fun _ _ _ _ => rfl)
            (fun _ _ _ _ h => nomatch h)) ?_ (fun _ _ _ _ h => nomatch h)
        intro phase count hphase
        obtain rfl := hphase count rfl
        exact obeys_finish (.promoting (.capability record.contractId)
          (record.kind, record.name, record.tenantId) [rows]) ⟨trivial, fun _ => rfl⟩ trivial
          contractId
      · rename_i hstatus
        have hplan : (setStatus contractId status now).plan [rows] = none := by
          unfold plan target
          cases status with
          | active => exact absurd rfl hstatus
          | _ => rfl
        obtain ⟨hallows, hnext⟩ := Contest.edits_of_plan schema hplan
          (mild_setStatus contractId (Timestamp.isoformat now) hstatus)
        refine Prog.obeys_bind (Q := fun phase r => ∀ count, r = .ok count → phase = .editing)
          (obeys_execute hallows (fun rows count _ _ => hnext rows) (fun _ _ _ _ h => nomatch h)) ?_
          (fun _ _ _ _ h => nomatch h)
        intro phase count hphase
        obtain rfl := hphase count rfl
        exact obeys_finish .editing ⟨trivial, fun _ => rfl⟩ trivial contractId

/-! ## Runs -/

/-- At most one contract of a kind, name and tenant is active. -/
def OneActive (rows : List Row) : Prop :=
  ∀ c ∈ capabilities rows, ∀ c' ∈ capabilities rows, c.status = .active → c'.status = .active →
    (c.kind, c.name, c.tenantId) = (c'.kind, c'.name, c'.tenantId) → c.contractId = c'.contractId

instance (rows : List Row) : Decidable (OneActive rows) :=
  inferInstanceAs (Decidable (∀ c ∈ capabilities rows, ∀ c' ∈ capabilities rows,
    c.status = .active → c'.status = .active →
    (c.kind, c.name, c.tenantId) = (c'.kind, c'.name, c'.tenantId) → c.contractId = c'.contractId))

/-- A watched state of the system. -/
abbrev World :=
  Watched RowKey Row PyError CapabilityContractRow (Phase RowKey Row (String × String × String))
    (Takeovers RowKey (String × String × String))

/-- The system before its first move. -/
def start (rows : List Row) (calls : ℕ → Call) : World :=
  .start schema rows (fun n => (calls n).code) (fun _ => .reading []) {}

/-- What is watched: the phase of each call, and the activations that have been committed. -/
def watch (calls : ℕ → Call) :
    Watch Row PyError (Phase RowKey Row (String × String × String))
      (Takeovers RowKey (String × String × String)) :=
  contracts.watch schema (fun n => (calls n).plan)

/-- The committed rows after some moves. -/
def committedAfter (rows : List Row) (calls : ℕ → Call) (moves : List (Move PyError)) :
    List Row :=
  committedRows ((start rows calls).run schema (watch calls) moves).state.cells

/-- **When racing activations of contracts keep the order.**  For every interleaving of any
number of registrations and status changes: if none registers a contract as active, and no call
commits its promotion when another contract of the same kind, name and tenant has been promoted
since the call began to retire, then in every committed state at most one contract of each kind,
name and tenant is active. -/
theorem one_active_contract_of_inTime (rows : List Row) (hnodup : (rows.map Row.key).Nodup)
    (hactive : OneActive rows) (calls : ℕ → Call)
    (hcalls : ∀ n new, calls n = .upsert new → new.status ≠ .active)
    (moves : List (Move PyError))
    (htime : (start rows calls).Meets schema (watch calls) (Contest.InTime schema) moves) :
    OneActive (committedAfter rows calls moves) := by
  have hcode := fun n => (calls n).obeys (hcalls n)
  have hfair : contracts.Fair schema rows := by
    refine ⟨hnodup, ?_, fun h => nomatch h⟩
    intro r hr r' hr' group h h'
    obtain ⟨c, rfl, hc, hgroup⟩ := contracts_chosen.mp h
    obtain ⟨c', rfl, hc', hgroup'⟩ := contracts_chosen.mp h'
    exact congrArg RowKey.capability (hactive c (List.mem_filterMap.mpr ⟨_, hr, rfl⟩) c'
      (List.mem_filterMap.mpr ⟨_, hr', rfl⟩) hc hc' (hgroup.trans hgroup'.symm))
  have horderly := Contest.Orderly.run hfair hcode htime
  intro c hc c' hc' hstatus hstatus' hgroup
  have heq := horderly.eq_of_chosen hnodup hcode (mem_capabilities hc) (mem_capabilities hc')
    (contracts_chosen.mpr ⟨c, rfl, hstatus, rfl⟩)
    (contracts_chosen.mpr ⟨c', rfl, hstatus', hgroup.symm⟩)
  exact congrArg CapabilityContractRow.contractId (Row.capability.inj heq)

/-! ## Two activations -/

/-- A contract of an agent that has been registered. -/
def draftContract (contractId version : String) : CapabilityContractRow where
  contractId := contractId
  kind := "agent"
  name := "ops-agent"
  tenantId := "platform"
  status := .draft
  version := version
  contentDigest := "sha256:" ++ version
  capabilities := []
  source := "filesystem"
  createdAt := Timestamp.isoformat 0
  updatedAt := Timestamp.isoformat 0
  activatedAt := none

/-- A store with two versions of a contract. -/
def twoDrafts : List Row :=
  [.capability (draftContract "c1" "v1"), .capability (draftContract "c2" "v2")]

/-- Two clients activate the two versions of the contract. -/
def twoActivations : ℕ → Call
  | 0 => .setStatus "c1" .active 1
  | _ => .setStatus "c2" .active 1

/-- The calls go on in the given order, and nothing fails. -/
def inOrder (order : List ℕ) : List (Move PyError) := order.map (fun n => { call := n })

/-- One activation after the other. -/
theorem one_active_contract_of_inTime_serial :
    OneActive (committedAfter twoDrafts twoActivations
      (inOrder (List.replicate 10 0 ++ List.replicate 11 1))) := by
  refine one_active_contract_of_inTime twoDrafts (by decide +kernel) (by decide +kernel)
    twoActivations
    ?_ _ (by decide +kernel)
  intro n new h
  match n, h with
  | 0, h => exact nomatch h
  | _ + 1, h => exact nomatch h

/-- Both clients have written before the first one commits: neither retires the other's
contract, and both versions are active. -/
theorem racing_contract_activations :
    OneActive twoDrafts ∧
    ¬ OneActive (committedAfter twoDrafts twoActivations
      (inOrder (List.replicate 7 0 ++ List.replicate 7 1 ++ [0, 1]))) := by
  decide +kernel

end ControlPlane.ContractRace
