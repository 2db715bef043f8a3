/-
# Serial histories of the policy store

Candidates are registered, activated and rolled back, one call after the other, and any
statement may fail.  A log of the selections explains the statuses and the generations of
all records, and so the record that a rollback goes back to.

The laws are about either backend; on the shared connection they are about histories whose
calls leave nothing pending, and such a call does what some call on the pool does.
-/
import ControlPlane.Selection
import ControlPlane.Store.PolicyRules
import ControlPlane.Store.SharedConnection

namespace ControlPlane.PolicyHistory

open Transaction Selection

/-! ## Histories -/

/-- A call of the policy store. -/
inductive PolicyCall where
  | upsert (new : NewPolicyBundle) (recordId : String)
  | activate (bundleId contentDigest : String)
  | rollback

/-- The method of the store that is called. -/
def PolicyCall.program (b : Backend) (call : PolicyCall) (now : Instant) :
    StoreM PolicyBundleRow :=
  match call with
  | upsert new recordId => b.upsertPolicyBundleCandidate new recordId now
  | activate bundleId contentDigest => b.activatePolicyBundle bundleId contentDigest now
  | rollback => b.rollbackPolicyBundle now

/-- A bundle is registered with its digest. -/
def PolicyCall.Digested : PolicyCall → Prop
  | upsert new _ => new.contentDigest ≠ ""
  | _ => True

instance (call : PolicyCall) : Decidable call.Digested :=
  match call with
  | .upsert new _ => inferInstanceAs (Decidable (new.contentDigest ≠ ""))
  | .activate _ _ => isTrue trivial
  | .rollback => isTrue trivial

/-- The active record, with its generation. -/
def activeEntry (rows : List Row) : Option (String × ℤ) :=
  ((policyBundles rows).find? (fun b => b.status = .active)).map
    (fun b => (b.recordId, b.generation.getD 0))

/-- The log of what was seen active, newest first. -/
def observe (log : Log String) (rows : List Row) : Log String :=
  match activeEntry rows with
  | none => log
  | some e => if log.head? = some e then log else e :: log

/-- The rows after a history of calls from a store without bundles, and what was seen active.
On the shared connection the calls leave nothing pending. -/
inductive HistoryOn (b : Backend) : List Row → Log String → Prop
  | start {rows : List Row} : policyBundles rows = [] → HistoryOn b rows []
  | call {rows : List Row} {log : Log String} (call : PolicyCall) (now : Instant)
      (fails : ℕ → Option PyError) : call.Digested →
      b.Settles (call.program b now) fails rows → HistoryOn b rows log →
      HistoryOn b (b.outcome (call.program b now) fails rows).2
        (observe log (b.outcome (call.program b now) fails rows).2)

/-- A history on the pool. -/
abbrev History : List Row → Log String → Prop := HistoryOn .pool

/-! ## What the log explains -/

/-- The status of a record with a standing. -/
def PolicyStatus.ofStanding : Standing → PolicyStatus
  | .never => .candidate
  | .current => .active
  | .former => .previous

/-- The records are as the log says. -/
structure Recorded (rows : List Row) (log : Log String) : Prop where
  ids : ((policyBundles rows).map PolicyBundleRow.recordId).Nodup
  digested : ∀ b ∈ policyBundles rows, b.contentDigest ≠ ""
  keyed : ∀ a ∈ policyBundles rows, ∀ b ∈ policyBundles rows,
    a.bundleId = b.bundleId → a.contentDigest = b.contentDigest → a = b
  increasing : Increasing log
  generation : ∀ b ∈ policyBundles rows, b.generation = generation log b.recordId
  status : ∀ b ∈ policyBundles rows, b.status = PolicyStatus.ofStanding (standing log b.recordId)
  known : ∀ e ∈ log, ∃ b ∈ policyBundles rows, b.recordId = e.1

namespace Recorded

variable {rows rows' : List Row} {log : Log String} {a b : PolicyBundleRow}

/-- A record is known by its id. -/
theorem unique (h : Recorded rows log) (ha : a ∈ policyBundles rows) (hb : b ∈ policyBundles rows)
    (hid : a.recordId = b.recordId) : a = b := List.inj_on_of_nodup_map h.ids ha hb hid

theorem active_iff (h : Recorded rows log) (hb : b ∈ policyBundles rows) :
    b.status = .active ↔ standing log b.recordId = .current := by
  rw [h.status b hb]
  cases standing log b.recordId <;> simp [PolicyStatus.ofStanding]

theorem previous_iff (h : Recorded rows log) (hb : b ∈ policyBundles rows) :
    b.status = .previous ↔ standing log b.recordId = .former := by
  rw [h.status b hb]
  cases standing log b.recordId <;> simp [PolicyStatus.ofStanding]

/-- The active record is the newest entry of the log. -/
theorem activeEntry_eq (h : Recorded rows log) : activeEntry rows = log.head? := by
  unfold activeEntry
  cases hfind : (policyBundles rows).find? (fun b => b.status = .active) with
  | some b =>
    have hdec := List.find?_some hfind
    have hb := List.mem_of_find?_eq_some hfind
    have hcur := (h.active_iff hb).mp (of_decide_eq_true hdec)
    have hgen := h.generation b hb
    rw [generation_of_current hcur] at hgen
    cases log with
    | nil => exact nomatch hcur
    | cons e rest =>
      have hid := Option.some.inj (standing_current_iff.mp hcur)
      rw [Option.map_some, List.head?_cons, hgen, ← hid]
      rfl
  | none =>
    cases log with
    | nil => rfl
    | cons e rest =>
      -- the newest entry is of a record, and that record is active
      obtain ⟨b, hb, hid⟩ := h.known e List.mem_cons_self
      have hcur : standing (e :: rest) b.recordId = .current := standing_cons_self hid.symm
      exact absurd (decide_eq_true ((h.active_iff hb).mpr hcur))
        (List.find?_eq_none.mp hfind b hb)

/-- The active record is the one at the head of the log. -/
theorem selectActive_iff (h : Recorded rows log) :
    selectPolicyBundle rows .active = some b ↔
      b ∈ policyBundles rows ∧ log.head?.map Prod.fst = some b.recordId := by
  constructor
  · intro hb
    obtain ⟨hmem, hstatus⟩ := selectPolicyBundle_some hb
    exact ⟨hmem, standing_current_iff.mp ((h.active_iff hmem).mp hstatus)⟩
  · rintro ⟨hmem, hhead⟩
    have hactive := (h.active_iff hmem).mpr (standing_current_iff.mpr hhead)
    cases ha : selectPolicyBundle rows .active with
    | none => exact absurd hactive (selectPolicyBundle_none ha b hmem)
    | some a =>
      obtain ⟨hmem', hstatus⟩ := selectPolicyBundle_some ha
      have hhead' := standing_current_iff.mp ((h.active_iff hmem').mp hstatus)
      rw [h.unique hmem' hmem (Option.some.inj (hhead'.symm.trans hhead))]

theorem observe_eq (h : Recorded rows log) : observe log rows = log := by
  unfold observe
  rw [h.activeEntry_eq]
  cases log with
  | nil => rfl
  | cons e rest => exact if_pos rfl

/-- The largest generation is the latest one. -/
theorem maxGeneration_eq (h : Recorded rows log) : maxGeneration rows = latest log := by
  unfold maxGeneration
  cases log with
  | nil =>
    have hnone : (policyBundles rows).filterMap PolicyBundleRow.generation = [] := by
      rw [List.filterMap_eq_nil_iff]
      exact fun b hb => h.generation b hb
    rw [hnone]
    rfl
  | cons e rest =>
    obtain ⟨b, hb, hid⟩ := h.known e List.mem_cons_self
    have hgen : b.generation = some e.2 := by
      rw [h.generation b hb, generation_of_current (standing_cons_self hid.symm)]
      rfl
    -- no generation in the rows is later than the last entry of the log
    have hmax : ((policyBundles rows).filterMap PolicyBundleRow.generation).max? = some e.2 := by
      rw [List.max?_eq_some_iff]
      refine ⟨List.mem_filterMap.mpr ⟨b, hb, hgen⟩, fun g hg => ?_⟩
      obtain ⟨b', hb', hg'⟩ := List.mem_filterMap.mp hg
      rw [h.generation b' hb'] at hg'
      exact h.increasing.le_latest _ (generation_some hg')
    rw [hmax]
    rfl

/-! ### What the calls keep -/

/-- A change of the other columns keeps what the log explains. -/
theorem map (h : Recorded rows log) {f : PolicyBundleRow → PolicyBundleRow}
    (hrows : policyBundles rows' = (policyBundles rows).map f)
    (hf : ∀ b, (f b).recordId = b.recordId ∧ (f b).bundleId = b.bundleId ∧
      (f b).contentDigest = b.contentDigest ∧ (f b).status = b.status ∧
      (f b).generation = b.generation) : Recorded rows' log where
  ids := by
    rw [hrows, List.map_map]
    exact (List.map_congr_left (fun b _ => (hf b).1)).symm ▸ h.ids
  digested := by
    intro b' hb'
    obtain ⟨b, hb, rfl⟩ := List.mem_map.mp (hrows ▸ hb')
    rw [(hf b).2.2.1]
    exact h.digested b hb
  keyed := by
    intro a' ha' b' hb' hbundle hdigest
    obtain ⟨a, ha, rfl⟩ := List.mem_map.mp (hrows ▸ ha')
    obtain ⟨b, hb, rfl⟩ := List.mem_map.mp (hrows ▸ hb')
    rw [(hf a).2.1, (hf b).2.1] at hbundle
    rw [(hf a).2.2.1, (hf b).2.2.1] at hdigest
    rw [h.keyed a ha b hb hbundle hdigest]
  increasing := h.increasing
  generation := by
    intro b' hb'
    obtain ⟨b, hb, rfl⟩ := List.mem_map.mp (hrows ▸ hb')
    rw [(hf b).2.2.2.2, (hf b).1]
    exact h.generation b hb
  status := by
    intro b' hb'
    obtain ⟨b, hb, rfl⟩ := List.mem_map.mp (hrows ▸ hb')
    rw [(hf b).2.2.2.1, (hf b).1]
    exact h.status b hb
  known := by
    intro e he
    obtain ⟨b, hb, hid⟩ := h.known e he
    refine ⟨f b, ?_, (hf b).1.trans hid⟩
    rw [hrows]
    exact List.mem_map_of_mem hb

theorem refresh (h : Recorded rows log) (new : NewPolicyBundle) (recordId now : String) :
    Recorded ((refreshPolicyBundle new recordId now).apply rows) log :=
  h.map (policyBundles_refresh new recordId now) (refreshRecord_same new recordId now)

/-- A registered bundle is a record that was never selected. -/
theorem register (h : Recorded rows log) {new : NewPolicyBundle} {recordId now : String}
    (hdigested : new.contentDigest ≠ "")
    (hnone : findPolicyBundle rows new.bundleId new.contentDigest = none)
    (hadmits : schema.admits rows (.policyBundle (new.row recordId now)) = true) :
    Recorded (rows ++ [.policyBundle (new.row recordId now)]) log := by
  have hrows : policyBundles (rows ++ [.policyBundle (new.row recordId now)])
      = policyBundles rows ++ [new.row recordId now] := policyBundles_append _ _
  have hfresh : ∀ b ∈ policyBundles rows, b.recordId ≠ recordId := admits_policyBundle.mp hadmits
  have hnew : ∀ b ∈ policyBundles rows,
      ¬ (b.bundleId = new.bundleId ∧ b.contentDigest = new.contentDigest) := by
    intro b hb hkey
    exact List.find?_eq_none.mp hnone b hb (decide_eq_true hkey)
  -- the log only names records that are there, and the id is new
  have hnever : standing log recordId = .never := by
    refine standing_never_iff.mpr (fun e he hid => ?_)
    obtain ⟨b, hb, hid'⟩ := h.known e he
    exact hfresh b hb (hid'.trans hid)
  have hcases : ∀ {P : PolicyBundleRow → Prop}, (∀ b ∈ policyBundles rows, P b) →
      P (new.row recordId now) →
      ∀ b ∈ policyBundles (rows ++ [.policyBundle (new.row recordId now)]), P b := by
    intro P hold hrow b hb
    rw [hrows] at hb
    rcases List.mem_append.mp hb with hb | hb
    · exact hold b hb
    · rw [List.mem_singleton.mp hb]
      exact hrow
  refine ⟨?_, hcases h.digested hdigested, ?_, h.increasing, hcases h.generation ?_,
    hcases h.status ?_, ?_⟩
  · rw [hrows, List.map_append, List.nodup_append]
    refine ⟨h.ids, List.nodup_singleton _, ?_⟩
    intro id hid id' hid'
    obtain ⟨b, hb, rfl⟩ := List.mem_map.mp hid
    rw [List.mem_singleton.mp hid']
    exact hfresh b hb
  · refine hcases (fun a ha => hcases (h.keyed a ha) (fun hbundle hdigest => ?_))
      (hcases (fun b hb hbundle hdigest => ?_) (fun _ _ => rfl))
    · exact absurd ⟨hbundle, hdigest⟩ (hnew a ha)
    · exact absurd ⟨hbundle.symm, hdigest.symm⟩ (hnew b hb)
  · exact (generation_none_iff.mpr hnever).symm
  · show PolicyStatus.candidate = PolicyStatus.ofStanding (standing log recordId)
    rw [hnever]
    rfl
  · intro e he
    obtain ⟨b, hb, hid⟩ := h.known e he
    exact ⟨b, by rw [hrows]; exact List.mem_append_left _ hb, hid⟩

theorem switched_same (recordId : String) (g : ℤ) (now : String) (b : PolicyBundleRow) :
    (b.switched recordId g now).recordId = b.recordId ∧
      (b.switched recordId g now).bundleId = b.bundleId ∧
      (b.switched recordId g now).contentDigest = b.contentDigest := by
  unfold PolicyBundleRow.switched PolicyBundleRow.retired updatedBundle
  split
  · exact ⟨rfl, rfl, rfl⟩
  · split <;> exact ⟨rfl, rfl, rfl⟩

/-- **A switch selects**: it is one more entry of the log. -/
theorem switchTo (h : Recorded rows log) (hb : b ∈ policyBundles rows) (now : String) :
    Recorded (switchTo b.recordId now rows) (select log b.recordId) := by
  have hrows : policyBundles (ControlPlane.switchTo b.recordId now rows)
      = (policyBundles rows).map (·.switched b.recordId (latest log + 1) now) := by
    rw [policyBundles_switchTo, h.maxGeneration_eq]
  have hsame := switched_same b.recordId (latest log + 1) now
  refine ⟨?_, ?_, ?_, h.increasing.select _, ?_, ?_, ?_⟩
  · rw [hrows, List.map_map]
    exact (List.map_congr_left (fun a _ => (hsame a).1)).symm ▸ h.ids
  · intro a' ha'
    obtain ⟨a, ha, rfl⟩ := List.mem_map.mp (hrows ▸ ha')
    rw [(hsame a).2.2]
    exact h.digested a ha
  · intro a' ha' c' hc' hbundle hdigest
    obtain ⟨a, ha, rfl⟩ := List.mem_map.mp (hrows ▸ ha')
    obtain ⟨c, hc, rfl⟩ := List.mem_map.mp (hrows ▸ hc')
    rw [(hsame a).2.1, (hsame c).2.1] at hbundle
    rw [(hsame a).2.2, (hsame c).2.2] at hdigest
    rw [h.keyed a ha c hc hbundle hdigest]
  · intro a' ha'
    obtain ⟨a, ha, rfl⟩ := List.mem_map.mp (hrows ▸ ha')
    rw [(hsame a).1]
    unfold PolicyBundleRow.switched
    by_cases hid : a.recordId = b.recordId
    · rw [if_pos hid, hid, generation_select_self]
      rfl
    · rw [if_neg hid, generation_select_of_ne hid, ← h.generation a ha]
      unfold PolicyBundleRow.retired updatedBundle
      split <;> rfl
  · intro a' ha'
    obtain ⟨a, ha, rfl⟩ := List.mem_map.mp (hrows ▸ ha')
    rw [(hsame a).1]
    unfold PolicyBundleRow.switched
    by_cases hid : a.recordId = b.recordId
    · rw [if_pos hid, hid, standing_select_self]
      rfl
    · -- the record that was active is retired, the others stay as they are
      rw [if_neg hid, standing_select_of_ne hid]
      unfold PolicyBundleRow.retired updatedBundle
      by_cases hact : a.status = .active
      · rw [if_pos (decide_eq_true hact), if_pos ((h.active_iff ha).mp hact)]
        rfl
      · rw [if_neg (by rwa [decide_eq_true_eq]),
          if_neg (fun hcur => hact ((h.active_iff ha).mpr hcur))]
        exact h.status a ha
  · intro e he
    have hmem : ∀ a ∈ policyBundles rows, a.switched b.recordId (latest log + 1) now
        ∈ policyBundles (ControlPlane.switchTo b.recordId now rows) := by
      intro a ha
      rw [hrows]
      exact List.mem_map_of_mem ha
    rcases List.mem_cons.mp he with rfl | he
    · exact ⟨_, hmem b hb, (hsame b).1⟩
    · obtain ⟨a, ha, hid⟩ := h.known e he
      exact ⟨_, hmem a ha, (hsame a).1.trans hid⟩

/-- What is seen after a switch is the new selection. -/
theorem observe_switchTo (h : Recorded rows log) (hb : b ∈ policyBundles rows) (now : String) :
    observe log (ControlPlane.switchTo b.recordId now rows) = select log b.recordId := by
  unfold observe
  rw [(h.switchTo hb now).activeEntry_eq]
  show (if log.head? = some (b.recordId, latest log + 1) then _ else _) = _
  rw [if_neg]
  · rfl
  · intro hhead
    cases log with
    | nil => exact nomatch hhead
    | cons e rest =>
      have hgen : e.2 = e.2 + 1 := congrArg Prod.snd (Option.some.inj hhead)
      omega

/-! ### The target of a rollback -/

/-- The digest of a record leads to it. -/
theorem activationTarget_self (h : Recorded rows log) (hb : b ∈ policyBundles rows) :
    activationTarget rows b.bundleId b.contentDigest = some b := by
  unfold activationTarget
  rw [if_pos (h.digested b hb)]
  cases hfind : findPolicyBundle rows b.bundleId b.contentDigest with
  | none => exact absurd (decide_eq_true ⟨rfl, rfl⟩) (List.find?_eq_none.mp hfind b hb)
  | some a =>
    obtain ⟨ha, hbundle, hdigest⟩ := findPolicyBundle_some hfind
    rw [h.keyed a ha b hb hbundle hdigest]

/-- The newest previous record is the one that was selected before the current one. -/
theorem selectPrevious_iff (h : Recorded rows log) :
    selectPolicyBundle rows .previous = some b ↔
      b ∈ policyBundles rows ∧ before log = some b.recordId := by
  have hget : ∀ id, before log = some id → ∃ a ∈ policyBundles rows, a.recordId = id := by
    intro id hid
    obtain ⟨-, g, hg, -⟩ := h.increasing.before_spec hid
    exact h.known _ (generation_some hg)
  have hunique : ∀ p q, selectPolicyBundle rows .previous = some p → q ∈ policyBundles rows →
      before log = some q.recordId → q = p := by
    intro p q hp hq hbefore
    obtain ⟨hmem, hstatus⟩ := selectPolicyBundle_some hp
    obtain ⟨hformer, g, hg, hmax⟩ := h.increasing.before_spec hbefore
    have hpformer := (h.previous_iff hmem).mp hstatus
    rcases selectPolicyBundle_newest hp q hq ((h.previous_iff hq).mpr hformer) with heq | hnewer
    · exact heq
    · -- both have the greatest generation of the former records
      have hgp := h.generation p hmem
      cases hpg : Selection.generation log p.recordId with
      | none => exact absurd hpformer (by rw [generation_none_iff.mp hpg]; exact nofun)
      | some g' =>
        have hle := hmax p.recordId g' hpformer hpg
        rw [hpg] at hgp
        have hgq : q.generation = some g := (h.generation q hq).trans hg
        have hge : g ≤ g' := by
          unfold PolicyBundleRow.newerFirst at hnewer
          rw [hgp, hgq] at hnewer
          rcases of_decide_eq_true hnewer with hlt | ⟨heq, -⟩
          · exact le_of_lt hlt
          · exact le_of_eq heq.symm
        obtain rfl := le_antisymm hle hge
        exact h.unique hq hmem (h.increasing.generation_injective hg hpg)
  constructor
  · intro hp
    refine ⟨(selectPolicyBundle_some hp).1, ?_⟩
    obtain ⟨hmem, hstatus⟩ := selectPolicyBundle_some hp
    cases hbefore : before log with
    | none => exact absurd ((h.previous_iff hmem).mp hstatus) (before_eq_none_iff.mp hbefore _)
    | some id =>
      obtain ⟨a, ha, rfl⟩ := hget id hbefore
      rw [hunique b a hp ha hbefore]
  · rintro ⟨hb, hbefore⟩
    cases hp : selectPolicyBundle rows .previous with
    | none =>
      obtain ⟨hformer, -⟩ := h.increasing.before_spec hbefore
      exact absurd ((h.previous_iff hb).mpr hformer) (selectPolicyBundle_none hp b hb)
    | some p => rw [hunique p b hp hb hbefore]

/-- **A rollback goes back** to the record that was selected before, if it is valid. -/
theorem rollbackTarget_iff (h : Recorded rows log) :
    RollbackTarget rows b ↔ b ∈ policyBundles rows ∧ before log = some b.recordId ∧
      b.validationStatus = "ok" := by
  constructor
  · rintro ⟨previous, hprevious, htarget, hvalid⟩
    obtain ⟨hmem, hbefore⟩ := h.selectPrevious_iff.mp hprevious
    rw [h.activationTarget_self hmem, Option.some.injEq] at htarget
    subst htarget
    exact ⟨hmem, hbefore, hvalid⟩
  · rintro ⟨hmem, hbefore, hvalid⟩
    exact ⟨b, h.selectPrevious_iff.mpr ⟨hmem, hbefore⟩, h.activationTarget_self hmem, hvalid⟩

/-! ### Every call -/

/-- A selecting call leaves the log as it is, or adds its target. -/
theorem selects (h : Recorded rows log) {target : PolicyBundleRow → Prop} {now : String} {k n : ℕ}
    {fails : ℕ → Option PyError} {out : Except PyError PolicyBundleRow × List Row}
    (hmem : ∀ b, target b → b ∈ policyBundles rows) (hout : Selects rows target now k n fails out) :
    Recorded out.2 (observe log out.2) := by
  rcases hout with ⟨-, hrows, -⟩ | ⟨b, -, hb, -, hrows, -⟩
  · rw [hrows, h.observe_eq]
    exact h
  · rw [hrows, h.observe_switchTo (hmem b hb)]
    exact h.switchTo (hmem b hb) now

/-- Registering does not select. -/
theorem upsert (h : Recorded rows log) {new : NewPolicyBundle} (hdigested : new.contentDigest ≠ "")
    (recordId : String) (now : Instant) (fails : ℕ → Option PyError) :
    Recorded (outcome (upsertPolicyBundleCandidate new recordId now) fails rows).2 log := by
  rcases upsertPolicyBundleCandidate_outcome fails new recordId now with
    hrows | ⟨existing, -, hrows⟩ | ⟨hnone, hadmits, hrows⟩
  · rw [hrows]
    exact h
  · rw [hrows]
    exact h.refresh new _ _
  · rw [hrows]
    exact h.register hdigested hnone hadmits

theorem activationTarget_mem {bundleId contentDigest : String}
    (h : ActivationTarget rows bundleId contentDigest b) : b ∈ policyBundles rows :=
  ControlPlane.activationTarget_mem h.1

theorem rollbackTarget_mem (h : RollbackTarget rows b) : b ∈ policyBundles rows := by
  obtain ⟨previous, -, htarget⟩ := h
  exact activationTarget_mem htarget

/-- What one call keeps. -/
theorem call (h : Recorded rows log) (call : PolicyCall) (hcall : call.Digested) (now : Instant)
    (fails : ℕ → Option PyError) :
    Recorded (outcome (call.program .pool now) fails rows).2
      (observe log (outcome (call.program .pool now) fails rows).2) := by
  cases call with
  | upsert new recordId =>
    have hkept := h.upsert hcall recordId now fails
    show Recorded _ (observe log (outcome (upsertPolicyBundleCandidate new recordId now) _ _).2)
    rw [hkept.observe_eq]
    exact hkept
  | activate bundleId contentDigest =>
    exact h.selects (fun b hb => activationTarget_mem hb)
      (activatePolicyBundle_selects fails bundleId contentDigest now)
  | rollback =>
    exact h.selects (fun b hb => rollbackTarget_mem hb) (rollbackPolicyBundle_selects fails rows now)

end Recorded

/-! ### Either backend -/

section Backends

variable {b : Backend} {rows : List Row} {log : Log String}

/-- A call that selects does what one on the pool does under some of the same failures. -/
theorem outcome_selecting (call : PolicyCall) (hselects : ∀ new recordId, call ≠ .upsert new recordId)
    (now : Instant) (fails : ℕ → Option PyError) (rows : List Row) :
    ∃ fails', (∀ i, fails' i = fails i ∨ fails' i = none) ∧
      outcome (call.program .pool now) fails' rows = outcome (call.program b now) fails rows := by
  cases call with
  | upsert new recordId => exact absurd rfl (hselects new recordId)
  | activate bundleId contentDigest => exact Backend.outcome_committing b _ fails rows
  | rollback => exact Backend.outcome_committing b _ fails rows

/-- A call that leaves nothing pending does what some call on the pool does. -/
theorem outcome_call {call : PolicyCall} {now : Instant} {fails : ℕ → Option PyError}
    (h : b.Settles (call.program b now) fails rows) : ∃ fails',
      outcome (call.program .pool now) fails' rows = b.outcome (call.program b now) fails rows := by
  rw [Backend.outcome_of_settles h]
  cases call with
  | upsert new recordId => exact Backend.outcome_upsert b new recordId now fails rows
  | activate bundleId contentDigest =>
    obtain ⟨fails', -, heq⟩ := @outcome_selecting b (.activate bundleId contentDigest)
      (fun new recordId hcall => by cases hcall) now fails rows
    exact ⟨fails', heq⟩
  | rollback =>
    obtain ⟨fails', -, heq⟩ := @outcome_selecting b .rollback
      (fun new recordId hcall => by cases hcall) now fails rows
    exact ⟨fails', heq⟩

/-- A call that succeeds leaves nothing pending. -/
theorem settles_of_ok {call : PolicyCall} {now : Instant} {fails : ℕ → Option PyError}
    {r : PolicyBundleRow} (h : (b.outcome (call.program b now) fails rows).1 = .ok r) :
    b.Settles (call.program b now) fails rows := by
  cases call with
  | upsert new recordId => exact Backend.settles_upsert b h
  | activate bundleId contentDigest => exact Backend.settles_committing b h
  | rollback => exact Backend.settles_committing b h

end Backends

/-- What a whole history keeps. -/
theorem HistoryOn.recorded {b : Backend} {rows : List Row} {log : Log String}
    (h : HistoryOn b rows log) : Recorded rows log := by
  induction h with
  | start hnone =>
    have hempty : ∀ {P : PolicyBundleRow → Prop}, ∀ b ∈ policyBundles _, P b :=
      fun b hb => absurd (hnone ▸ hb) List.not_mem_nil
    exact {
      ids := by rw [hnone]; exact List.nodup_nil
      digested := hempty
      keyed := hempty
      increasing := .nil
      generation := hempty
      status := hempty
      known := fun _ he => absurd he List.not_mem_nil }
  | call call now fails hcall hsettles _ ih =>
    obtain ⟨fails', heq⟩ := outcome_call hsettles
    rw [← heq]
    exact ih.call call hcall now fails'

/-! ## Calls that are cut short on the shared connection -/

section Shared

variable {fails : ℕ → Option PyError} {σ σ' : Session Row} {α : Type} {r : Except PyError α}

theorem run_execute_cases (c : Change Row) (fails : ℕ → Option PyError) (σ : Session Row) :
    (execute c).run schema fails σ = match fails σ.time with
      | some e => (.error e, { σ with time := σ.time + 1 })
      | none => (.ok (σ.current.countP c.guard),
        { σ with current := c.apply σ.current, time := σ.time + 1 }) := by
  unfold execute
  rw [Prog.run_bind, Prog.run_call, Stmt.serve]
  cases fails σ.time <;> rfl

theorem run_insert_cases (row : Row) (fails : ℕ → Option PyError) (σ : Session Row) :
    (insert row).run schema fails σ = match fails σ.time with
      | some e => (.error e, { σ with time := σ.time + 1 })
      | none => if schema.admits σ.current row then
          (.ok (), { σ with current := σ.current ++ [row], time := σ.time + 1 })
        else (.error schema.violation, { σ with time := σ.time + 1 }) := by
  unfold insert
  rw [Prog.run_bind, Prog.run_call, Stmt.serve]
  cases fails σ.time with
  | some e => rfl
  | none =>
    dsimp only
    split_ifs <;> rfl

/-- The program has raised, and what the connection sees is as it was. -/
def RaisedQuietly (r : Except PyError α) (σ σ' : Session Row) : Prop :=
  (∃ e, r = .error e) ∧ σ'.current = σ.current

/-- A first statement that fails ends the program. -/
theorem raisedQuietly_bind {β : Type} {p : StoreM β} {f : β → StoreM α} {e : PyError} {t : ℕ}
    (hp : p.run schema fails σ = (.error e, { σ with time := t }))
    (h : (p >>= f).run schema fails σ = (r, σ')) : RaisedQuietly r σ σ' := by
  rw [Prog.run_bind_error hp] at h
  obtain ⟨rfl, rfl⟩ := Prod.mk.inj h
  exact ⟨⟨e, rfl⟩, rfl⟩

/-- A query fails, or the rest runs. -/
theorem run_after_fetchAll {f : List Row → StoreM α}
    (h : (fetchAll >>= f).run schema fails σ = (r, σ')) : RaisedQuietly r σ σ' ∨
      (f σ.current).run schema fails { σ with time := σ.time + 1 } = (r, σ') := by
  have hfetch := Backend.run_fetchAll_cases fails σ
  cases hfail : fails σ.time with
  | some e =>
    rw [hfail] at hfetch
    exact Or.inl (raisedQuietly_bind hfetch h)
  | none =>
    rw [hfail] at hfetch
    rw [Prog.run_bind_ok hfetch] at h
    exact Or.inr h

/-- An update fails, or the rest runs. -/
theorem run_after_execute {c : Change Row} {f : ℕ → StoreM α}
    (h : (execute c >>= f).run schema fails σ = (r, σ')) :
    RaisedQuietly r σ σ' ∧ fails σ.time ≠ none ∨
      (f (σ.current.countP c.guard)).run schema fails
        { σ with current := c.apply σ.current, time := σ.time + 1 } = (r, σ') := by
  have hupdate := run_execute_cases c fails σ
  cases hfail : fails σ.time with
  | some e =>
    rw [hfail] at hupdate
    exact Or.inl ⟨raisedQuietly_bind hupdate h, fun hnone => by cases hnone⟩
  | none =>
    rw [hfail] at hupdate
    rw [Prog.run_bind_ok hupdate] at h
    exact Or.inr h

/-- An insertion fails, or the rest runs. -/
theorem run_after_insert {row : Row} {f : Unit → StoreM α}
    (h : (insert row >>= f).run schema fails σ = (r, σ')) : RaisedQuietly r σ σ' ∨
      (f ()).run schema fails { σ with current := σ.current ++ [row], time := σ.time + 1 }
        = (r, σ') := by
  have hinsert := run_insert_cases row fails σ
  cases hfail : fails σ.time with
  | some e =>
    rw [hfail] at hinsert
    exact Or.inl (raisedQuietly_bind hinsert h)
  | none =>
    rw [hfail] at hinsert
    dsimp only at hinsert
    split_ifs at hinsert with hadmits
    · rw [Prog.run_bind_ok hinsert] at h
      exact Or.inr h
    · exact Or.inl (raisedQuietly_bind hinsert h)

/-- A statement that writes nothing. -/
def Writeless (s : Stmt Row) : Prop := s = .select ∨ s = .commit

theorem run_current {p : StoreM α} (h : p.Issues Writeless) (fails : ℕ → Option PyError)
    (σ : Session Row) : (p.run schema fails σ).2.current = σ.current := by
  induction p generalizing σ with
  | done r => rfl
  | exec s k ih =>
    rw [Prog.run_exec, ih _ (h.2 _)]
    unfold Stmt.serve
    rcases h.1 with rfl | rfl
    · cases fails σ.time <;> rfl
    · cases fails σ.time <;> rfl

theorem issues_readBack_commit (recordId : String) : (do
    let r ← readBack recordId
    commit
    return r : StoreM PolicyBundleRow).Issues Writeless := by
  have hfetch : fetchAll.Issues Writeless :=
    Prog.issues_bind (Prog.issues_call (Or.inl rfl)) (fun _ => trivial)
  have hcommit : commit.Issues Writeless :=
    Prog.issues_bind (Prog.issues_call (Or.inr rfl)) (fun _ => trivial)
  refine Prog.issues_bind (Prog.issues_bind hfetch (fun rows => ?_))
    (fun r => Prog.issues_bind hcommit (fun _ => trivial))
  cases findPolicyRecord rows recordId <;> trivial

/-- What the next call sees after a registration on the shared connection. -/
theorem upsert_shared (fails : ℕ → Option PyError) (rows : List Row) (new : NewPolicyBundle)
    (recordId : String) (now : Instant) :
    (Backend.shared.outcome (Backend.shared.upsertPolicyBundleCandidate new recordId now) fails
        rows).2 = rows ∨
    (∃ existing, (Backend.shared.outcome (Backend.shared.upsertPolicyBundleCandidate new recordId
        now) fails rows).2
        = (refreshPolicyBundle new existing (Timestamp.isoformat now)).apply rows) ∨
      (Backend.shared.outcome (Backend.shared.upsertPolicyBundleCandidate new recordId now) fails
        rows).2 = rows ++ [.policyBundle (new.row recordId (Timestamp.isoformat now))] := by
  unfold Backend.outcome
  dsimp only
  rcases hrun : (Backend.shared.upsertPolicyBundleCandidate new recordId now).run schema fails
    (.ofRows rows) with ⟨r, σ'⟩
  rcases run_after_fetchAll hrun with ⟨-, hsame⟩ | h
  · exact Or.inl hsame
  -- behind the write there are only queries and the commit
  cases hfind : findPolicyBundle (Session.ofRows rows).current new.bundleId new.contentDigest with
  | some existing =>
    rw [hfind, show Backend.shared.committing (upsertInSession (some existing) new recordId
      (Timestamp.isoformat now)) = _ from Prog.bind_assoc _ _ _] at h
    rcases run_after_execute h with ⟨⟨-, hsame⟩, -⟩ | h
    · exact Or.inl hsame
    · have hcurrent := run_current (issues_readBack_commit existing.recordId) fails
        ⟨rows, (refreshPolicyBundle new existing.recordId (Timestamp.isoformat now)).apply rows, 2⟩
      exact Or.inr (Or.inl ⟨_, (congrArg (fun out => out.2.current) h).symm.trans hcurrent⟩)
  | none =>
    rw [hfind, show Backend.shared.committing (upsertInSession none new recordId
      (Timestamp.isoformat now)) = _ from Prog.bind_assoc _ _ _] at h
    rcases run_after_insert h with ⟨-, hsame⟩ | h
    · exact Or.inl hsame
    · have hcurrent := run_current (issues_readBack_commit recordId) fails
        ⟨rows, rows ++ [.policyBundle (new.row recordId (Timestamp.isoformat now))], 2⟩
      exact Or.inr (Or.inr ((congrArg (fun out => out.2.current) h).symm.trans hcurrent))

/-- What the next call sees after a registration on either backend. -/
theorem upsert_visible (b : Backend) (fails : ℕ → Option PyError) (rows : List Row)
    (new : NewPolicyBundle) (recordId : String) (now : Instant) :
    (b.outcome (b.upsertPolicyBundleCandidate new recordId now) fails rows).2 = rows ∨
    (∃ existing, (b.outcome (b.upsertPolicyBundleCandidate new recordId now) fails rows).2
        = (refreshPolicyBundle new existing (Timestamp.isoformat now)).apply rows) ∨
      (b.outcome (b.upsertPolicyBundleCandidate new recordId now) fails rows).2
        = rows ++ [.policyBundle (new.row recordId (Timestamp.isoformat now))] := by
  cases b with
  | shared => exact upsert_shared fails rows new recordId now
  | pool =>
    rcases upsertPolicyBundleCandidate_outcome fails new recordId now with
      hrows | ⟨existing, -, hrows⟩ | ⟨-, -, hrows⟩
    · exact Or.inl hrows
    · exact Or.inr (Or.inl ⟨existing.recordId, hrows⟩)
    · exact Or.inr (Or.inr hrows)

/-- An activation none of whose statements fails behind its first update raises without having
written anything, or returns. -/
theorem activateInSession_quiet {bundleId contentDigest now : String}
    {r : Except PyError PolicyBundleRow} (hlate : ∀ i, σ.time + 2 < i → fails i = none)
    (h : (activateInSession bundleId contentDigest now).run schema fails σ = (r, σ')) :
    RaisedQuietly r σ σ' ∨ (∃ b, r = .ok b) ∧ σ.time + 2 < σ'.time := by
  unfold activateInSession at h
  rcases run_after_fetchAll h with hquiet | h
  · exact Or.inl hquiet
  cases htarget : activationTarget σ.current bundleId contentDigest with
  | none =>
    simp only [htarget] at h
    obtain ⟨rfl, rfl⟩ := Prod.mk.inj h
    exact Or.inl ⟨⟨_, rfl⟩, rfl⟩
  | some target =>
    simp only [htarget] at h
    split_ifs at h with hvalid
    · obtain ⟨rfl, rfl⟩ := Prod.mk.inj h
      exact Or.inl ⟨⟨_, rfl⟩, rfl⟩
    rcases run_after_fetchAll h with hquiet | h
    · exact Or.inl hquiet
    rcases run_after_execute h with ⟨hquiet, -⟩ | h
    · exact Or.inl hquiet
    -- the promotion and the query behind it do not fail
    rcases run_after_execute h with ⟨-, hfail⟩ | h
    · exact absurd (hlate _ (Nat.lt_succ_self _)) hfail
    obtain ⟨b, hb⟩ := exists_switched (activationTarget_mem htarget) now
    have hread := ((writes_readBack hb) fails σ.committed (σ.time + 1 + 1 + 1 + 1)).1
      (fun i _ => hlate _ (by omega))
    obtain ⟨rfl, rfl⟩ := Prod.mk.inj (hread.symm.trans h)
    exact Or.inr ⟨⟨b, rfl⟩, by show σ.time + 2 < σ.time + 1 + 1 + 1 + 1 + 1; omega⟩

/-- **A rollback on the shared connection that raises changes nothing**, when no statement behind
its first update fails. -/
theorem rollback_quiet {rows : List Row} {now : Instant} {e : PyError}
    (hlate : ∀ i, 3 < i → fails i = none)
    (h : (Backend.shared.outcome (Backend.shared.rollbackPolicyBundle now) fails rows).1 = .error e) :
    (Backend.shared.outcome (Backend.shared.rollbackPolicyBundle now) fails rows).2 = rows := by
  have hbody : ∀ r σ', (rollbackInSession (Timestamp.isoformat now)).run schema fails (.ofRows rows)
      = (r, σ') → RaisedQuietly r (.ofRows rows) σ' ∨ (∃ b, r = .ok b) ∧ 3 < σ'.time := by
    intro r σ' hrun
    unfold rollbackInSession at hrun
    rcases run_after_fetchAll hrun with hquiet | hrun
    · exact Or.inl hquiet
    cases hprevious : selectPolicyBundle (Session.ofRows rows).current .previous with
    | none =>
      simp only [hprevious] at hrun
      obtain ⟨rfl, rfl⟩ := Prod.mk.inj hrun
      exact Or.inl ⟨⟨_, rfl⟩, rfl⟩
    | some previous =>
      simp only [hprevious] at hrun
      exact activateInSession_quiet hlate hrun
  unfold Backend.outcome at h ⊢
  rcases hrun : (rollbackInSession (Timestamp.isoformat now)).run schema fails (.ofRows rows)
    with ⟨r, σ₁⟩
  cases r with
  | error e' =>
    have hall : (Backend.shared.rollbackPolicyBundle now).run schema fails (.ofRows rows)
        = (.error e', σ₁) := Prog.run_bind_error hrun
    rcases hbody _ _ hrun with ⟨-, hsame⟩ | ⟨⟨b, hb⟩, -⟩
    · rw [hall]
      exact hsame
    · cases hb
  | ok b =>
    rcases hbody _ _ hrun with ⟨⟨e', he'⟩, -⟩ | ⟨-, htime⟩
    · cases he'
    · -- the commit does not fail either
      have hall : (Backend.shared.rollbackPolicyBundle now).run schema fails (.ofRows rows)
          = (do commit; return b : StoreM PolicyBundleRow).run schema fails σ₁ :=
        Prog.run_bind_ok hrun
      have hcommit : (do commit; return b : StoreM PolicyBundleRow).run schema fails σ₁
          = (.ok b, { σ₁ with committed := σ₁.current, time := σ₁.time + 1 }) := by
        rw [commit_bind, Prog.run_bind, Prog.run_call, Stmt.serve]
        dsimp only
        rw [hlate σ₁.time htime]
        rfl
      rw [hall, hcommit] at h
      cases h

end Shared

/-! ## The laws of the store -/

/-- The last statement of a rollback whose failure leaves nothing: on the pool the commit, on the
shared connection the first update. -/
def lastHarmless : Backend → ℕ
  | .pool => 6
  | .shared => 3

/-- A rollback goes back to the record that was active before: it returns that record when it
is valid, raises when there is none or it is not valid, and changes nothing when it raises,
unless a statement behind its last harmless one has failed. -/
structure RollsBack (b : Backend) (rows : List Row) (log : Log String)
    (fails : ℕ → Option PyError) (out : Except PyError PolicyBundleRow × List Row) : Prop where
  target : ∀ r, out.1 = .ok r → before log = some r.recordId ∧
    (activeEntry out.2).map Prod.fst = some r.recordId
  returns : (∀ i, fails i = none) → (∃ b ∈ policyBundles rows,
    before log = some b.recordId ∧ b.validationStatus = "ok") → ∃ r, out.1 = .ok r
  raises : (¬ ∃ b ∈ policyBundles rows,
    before log = some b.recordId ∧ b.validationStatus = "ok") → ∃ e, out.1 = .error e
  unchanged : ∀ e, out.1 = .error e → out.2 = rows ∨ ∃ i, lastHarmless b < i ∧ fails i ≠ none

/-- What holds at a point of a history, with what was seen active so far. -/
structure Lawful (b : Backend) (rows : List Row) (log : Log String) : Prop where
  single : ∀ a ∈ policyBundles rows, ∀ b ∈ policyBundles rows,
    a.status = .active → b.status = .active → a = b
  increasing : log.Pairwise (fun later earlier => earlier.2 < later.2)
  newest : ∀ a ∈ policyBundles rows, a.status = .active →
    ∃ g, a.generation = some g ∧ ∀ b ∈ policyBundles rows, ∀ g', b.generation = some g' → g' ≤ g
  assigns : ∀ (call : PolicyCall) now fails r, (∀ new recordId, call ≠ .upsert new recordId) →
    (b.outcome (call.program b now) fails rows).1 = .ok r →
    ∃ g, r.generation = some g ∧
      observe log (b.outcome (call.program b now) fails rows).2 = (r.recordId, g) :: log
  upsert : ∀ new recordId now fails,
    activeEntry (b.outcome (b.upsertPolicyBundleCandidate new recordId now) fails rows).2
      = activeEntry rows ∧
    ∀ r ∈ policyBundles rows,
      ∃ r' ∈ policyBundles (b.outcome (b.upsertPolicyBundleCandidate new recordId now) fails rows).2,
        r'.recordId = r.recordId ∧ r'.status = r.status
  rollback : ∀ now fails, RollsBack b rows log fails
    (b.outcome (b.rollbackPolicyBundle now) fails rows)

section Laws

variable {rows : List Row} {log : Log String}

theorem find?_active_map {l : List PolicyBundleRow} {f : PolicyBundleRow → PolicyBundleRow}
    (hf : ∀ b, (f b).recordId = b.recordId ∧ (f b).status = b.status ∧
      (f b).generation = b.generation) :
    ((l.map f).find? (fun b => b.status = .active)).map
        (fun b => (b.recordId, b.generation.getD 0))
      = (l.find? (fun b => b.status = .active)).map (fun b => (b.recordId, b.generation.getD 0)) := by
  induction l with
  | nil => rfl
  | cons b l ih =>
    rw [List.map_cons, List.find?_cons, List.find?_cons, (hf b).2.1]
    by_cases hactive : b.status = .active
    · rw [decide_eq_true hactive]
      show some ((f b).recordId, (f b).generation.getD 0) = _
      rw [(hf b).1, (hf b).2.2]
      rfl
    · rw [decide_eq_false hactive]
      exact ih

/-- Registering never changes which record is active, and demotes none. -/
theorem upsert_keeps (b : Backend) (new : NewPolicyBundle) (recordId : String) (now : Instant)
    (fails : ℕ → Option PyError) :
    activeEntry (b.outcome (b.upsertPolicyBundleCandidate new recordId now) fails rows).2
      = activeEntry rows ∧
    ∀ r ∈ policyBundles rows,
      ∃ r' ∈ policyBundles (b.outcome (b.upsertPolicyBundleCandidate new recordId now) fails rows).2,
        r'.recordId = r.recordId ∧ r'.status = r.status := by
  rcases upsert_visible b fails rows new recordId now with hrows | ⟨existing, hrows⟩ | hrows
  · rw [hrows]
    exact ⟨rfl, fun r hr => ⟨r, hr, rfl, rfl⟩⟩
  · have hsame := refreshRecord_same new existing (Timestamp.isoformat now)
    rw [hrows]
    unfold activeEntry
    rw [policyBundles_refresh]
    refine ⟨find?_active_map (fun r => ?_), fun r hr => ⟨_, List.mem_map_of_mem hr, ?_⟩⟩
    · exact ⟨(hsame r).1, (hsame r).2.2.2⟩
    · exact ⟨(hsame r).1, (hsame r).2.2.2.1⟩
  · rw [hrows]
    unfold activeEntry
    rw [policyBundles_append, List.find?_append]
    refine ⟨?_, fun r hr => ⟨r, List.mem_append_left _ hr, rfl, rfl⟩⟩
    show ((List.find? _ _).or none).map _ = _
    rw [Option.or_none]

/-- What a call that selects and returns has done. -/
structure Activated (rows : List Row) (log : Log String) (target : PolicyBundleRow → Prop)
    (rows' : List Row) (r : PolicyBundleRow) : Prop where
  target : ∃ b, target b ∧ r.recordId = b.recordId ∧ r.contentDigest = b.contentDigest ∧
    r.sourceJson = b.sourceJson
  recorded : Recorded rows' (select log r.recordId)
  observed : observe log rows' = select log r.recordId
  active : selectPolicyBundle rows' .active = some r
  generation : r.generation = some (latest log + 1)

/-- A call that selects and returns adds its target to the log. -/
theorem Recorded.selects_ok (h : Recorded rows log) {target : PolicyBundleRow → Prop}
    {now : String} {k n : ℕ} {fails : ℕ → Option PyError}
    {out : Except PyError PolicyBundleRow × List Row} {r : PolicyBundleRow}
    (hmem : ∀ b, target b → b ∈ policyBundles rows) (hout : Selects rows target now k n fails out)
    (hok : out.1 = .ok r) : Activated rows log target out.2 r := by
  rcases hout with ⟨⟨e, herror⟩, -⟩ | ⟨b, r', hb, hr', hrows, hres⟩
  · rw [herror] at hok
    exact nomatch hok
  · rcases hres with ⟨hok', -⟩ | ⟨⟨e, herror⟩, -⟩
    · rw [hok', Except.ok.injEq] at hok
      subst hok
      obtain ⟨hmem', hid⟩ := findPolicyRecord_some hr'
      -- the record that is read back is the target after the switch
      obtain rfl := eq_activated h.ids (hmem b hb) hmem' hid
      rw [hrows]
      refine ⟨⟨b, hb, rfl, rfl, rfl⟩, h.switchTo (hmem b hb) now,
        h.observe_switchTo (hmem b hb) now, selectActive_switchTo h.ids (hmem b hb) now, ?_⟩
      rw [← h.maxGeneration_eq]
      rfl
    · rw [herror] at hok
      exact nomatch hok

theorem Recorded.rollsBack (h : Recorded rows log) (now : Instant)
    (fails : ℕ → Option PyError) :
    RollsBack .pool rows log fails (outcome (rollbackPolicyBundle now) fails rows) := by
  have hout := rollbackPolicyBundle_selects fails rows now
  refine ⟨?_, ?_, ?_, ?_⟩
  · intro r hok
    have hact := h.selects_ok (fun b hb => rollbackTarget_mem hb) hout hok
    obtain ⟨b, hb, hid, -⟩ := hact.target
    obtain ⟨-, hbefore, -⟩ := h.rollbackTarget_iff.mp hb
    rw [hact.recorded.activeEntry_eq]
    exact ⟨hid ▸ hbefore, rfl⟩
  · rintro hnone ⟨b, hb, hbefore, hvalid⟩
    have htarget := h.rollbackTarget_iff.mpr ⟨hb, hbefore, hvalid⟩
    rcases hout with ⟨-, -, hno | hfail⟩ | ⟨b', r, -, -, -, ⟨hok, -⟩ | ⟨-, -, hfail⟩⟩
    · exact absurd htarget (hno b)
    · exact absurd (fun i _ => hnone i) hfail
    · exact ⟨r, hok⟩
    · exact absurd (fun i _ => hnone i) hfail
  · intro hno
    rcases hout with ⟨herror, -⟩ | ⟨b, r, hb, -⟩
    · exact herror
    · exact absurd ⟨b, h.rollbackTarget_iff.mp hb⟩ hno
  · intro e herror
    rcases hout with ⟨-, hrows, -⟩ | ⟨b, r, -, -, -, ⟨hok, -⟩ | ⟨-, hdone, hfail⟩⟩
    · exact Or.inl hrows
    · rw [herror] at hok
      exact nomatch hok
    · refine Or.inr ?_
      by_contra hbehind
      refine hfail (fun i _ => ?_)
      rcases Nat.lt_or_ge i 7 with hi | hi
      · exact hdone i hi
      · by_contra hne
        exact hbehind ⟨i, hi, hne⟩

/-- A rollback on either backend. -/
theorem Recorded.rollsBackOn (h : Recorded rows log) (b : Backend) (now : Instant)
    (fails : ℕ → Option PyError) :
    RollsBack b rows log fails (b.outcome (b.rollbackPolicyBundle now) fails rows) := by
  cases b with
  | pool => exact h.rollsBack now fails
  | shared =>
    obtain ⟨fails', hsub, heq⟩ := Backend.outcome_committing .shared
      (rollbackInSession (Timestamp.isoformat now)) fails rows
    have hrolls := h.rollsBack now fails'
    rw [show outcome (rollbackPolicyBundle now) fails' rows = _ from heq] at hrolls
    refine ⟨fun r hok => ?_, fun hnone => hrolls.returns (fun i => ?_), hrolls.raises,
      fun e herror => ?_⟩
    · have hsettles : Backend.shared.Settles (Backend.shared.rollbackPolicyBundle now) fails rows :=
        Backend.settles_committing .shared hok
      -- a rollback that returns has committed
      rw [Backend.outcome_of_settles hsettles] at hok ⊢
      exact hrolls.target r hok
    · rcases hsub i with hi | hi
      · exact hi.trans (hnone i)
      · exact hi
    · by_cases hlate : ∀ i, 3 < i → fails i = none
      · exact Or.inl (rollback_quiet hlate herror)
      · obtain ⟨i, hi⟩ := not_forall.mp hlate
        exact Or.inr ⟨i, Classical.not_imp.mp hi⟩

/-- **The laws hold at every point of every history.** -/
theorem HistoryOn.lawful {b : Backend} (h : HistoryOn b rows log) : Lawful b rows log := by
  have hrec := h.recorded
  refine ⟨?_, hrec.increasing.sorted, ?_, ?_, upsert_keeps b, hrec.rollsBackOn b⟩
  · intro a ha a' ha' hact hact'
    have hcur := standing_current_iff.mp ((hrec.active_iff ha).mp hact)
    have hcur' := standing_current_iff.mp ((hrec.active_iff ha').mp hact')
    exact hrec.unique ha ha' (Option.some.inj (hcur.symm.trans hcur'))
  · intro a ha hact
    refine ⟨latest log, ?_, fun a' ha' g' hg' => ?_⟩
    · rw [hrec.generation a ha, generation_of_current ((hrec.active_iff ha).mp hact)]
    · rw [hrec.generation a' ha'] at hg'
      exact hrec.increasing.le_latest _ (generation_some hg')
  · intro call now fails r hselects hok
    refine ⟨latest log + 1, ?_⟩
    rw [Backend.outcome_of_settles (settles_of_ok hok)] at hok ⊢
    obtain ⟨fails', -, heq⟩ := @outcome_selecting b call hselects now fails rows
    rw [← heq] at hok ⊢
    cases call with
    | upsert new recordId => exact absurd rfl (hselects new recordId)
    | activate bundleId contentDigest =>
      have hact := hrec.selects_ok (fun b hb => Recorded.activationTarget_mem hb)
        (activatePolicyBundle_selects fails' bundleId contentDigest now) hok
      exact ⟨hact.generation, hact.observed⟩
    | rollback =>
      have hact := hrec.selects_ok (fun b hb => Recorded.rollbackTarget_mem hb)
        (rollbackPolicyBundle_selects fails' rows now) hok
      exact ⟨hact.generation, hact.observed⟩

/-! ### Two bundles -/

/-- The rows after some calls on an empty store, of which nothing fails, and what was seen
active. -/
def replay (b : Backend) (calls : List PolicyCall) : List Row × Log String :=
  calls.foldl (fun s call =>
    let rows := (b.outcome (call.program b 0) (fun _ => none) s.1).2
    (rows, observe s.2 rows)) ([], [])

/-- The calls return. -/
def allReturn (b : Backend) : List PolicyCall → List Row → Bool
  | [], _ => true
  | call :: calls, rows => (b.outcome (call.program b 0) (fun _ => none) rows).1.isOk &&
      allReturn b calls (b.outcome (call.program b 0) (fun _ => none) rows).2

theorem history_replay {b : Backend} {calls : List PolicyCall}
    (h : ∀ call ∈ calls, call.Digested) (hreturn : allReturn b calls [] = true) :
    HistoryOn b (replay b calls).1 (replay b calls).2 := by
  have hfold : ∀ (calls : List PolicyCall) (s : List Row × Log String),
      (∀ call ∈ calls, call.Digested) → allReturn b calls s.1 = true → HistoryOn b s.1 s.2 →
      HistoryOn b (calls.foldl (fun s call =>
        let rows := (b.outcome (call.program b 0) (fun _ => none) s.1).2
        (rows, observe s.2 rows)) s).1 (calls.foldl (fun s call =>
        let rows := (b.outcome (call.program b 0) (fun _ => none) s.1).2
        (rows, observe s.2 rows)) s).2 := by
    intro calls
    induction calls with
    | nil => exact fun s _ _ hs => hs
    | cons call calls ih =>
      intro s hcalls hreturn hs
      obtain ⟨hok, hrest⟩ := Bool.and_eq_true_iff.mp hreturn
      have hsettles : b.Settles (call.program b 0) (fun _ => none) s.1 := by
        cases hres : (b.outcome (call.program b 0) (fun _ => none) s.1).1 with
        | error e =>
          rw [hres] at hok
          cases hok
        | ok r => exact settles_of_ok hres
      exact ih _ (fun c hc => hcalls c (List.mem_cons_of_mem _ hc)) hrest
        (.call call 0 _ (hcalls call List.mem_cons_self) hsettles hs)
  exact hfold calls ([], []) h hreturn (.start rfl)

/-- A bundle with a digest, as a validation registers it. -/
def validated (contentDigest : String) : NewPolicyBundle where
  bundleId := "bundle"
  contentDigest := contentDigest
  gitRevision := ""
  sourceType := "filesystem"
  sourceJson := []
  validationStatus := "ok"
  error := none
  loadedAt := ""

/-- Two bundles are registered and activated. -/
def twoActivations (first second : String) : List PolicyCall :=
  [.upsert (validated first) "r1", .activate "bundle" first,
    .upsert (validated second) "r2", .activate "bundle" second]

theorem lawful_two :
    Lawful .pool (replay .pool (twoActivations "d1" "d2")).1
      (replay .pool (twoActivations "d1" "d2")).2 ∧
    Lawful .shared (replay .shared (twoActivations "d1" "d2")).1
      (replay .shared (twoActivations "d1" "d2")).2 :=
  ⟨HistoryOn.lawful (history_replay (by decide +kernel) (by decide +kernel)),
    HistoryOn.lawful (history_replay (by decide +kernel) (by decide +kernel))⟩

/-- The rollback after two activations. -/
def rollbackAfter (b : Backend) (first second : String) (fails : ℕ → Option PyError) :
    Except PyError PolicyBundleRow × List Row :=
  b.outcome (b.rollbackPolicyBundle 0) fails (replay b (twoActivations first second)).1

/-- The statement with the number fails. -/
def failing (n : ℕ) : ℕ → Option PyError := fun i => if i = n then some storeUnavailable else none

/-- On the shared connection: the rollback after two activations, of which the promotion fails, and
then the registration of another bundle. -/
def pendingRollback : Session Row :=
  ((Backend.shared.upsertPolicyBundleCandidate (validated "d3") "r3" 0).run schema (fun _ => none)
    { ((Backend.shared.rollbackPolicyBundle 0).run schema (failing 4)
      (.ofRows (replay .shared (twoActivations "d1" "d2")).1)).2 with time := 0 }).2

/-- A record without a digest is looked up by its bundle id, and the rollback finds the active
record instead of it.  When the connection breaks behind the commit, a rollback raises after it has
switched.  And on the shared connection a rollback whose promotion or whose commit fails raises and
leaves the demotion pending, which the next commit of any call makes durable. -/
theorem rollback_misses :
    (before (replay .pool (twoActivations "" "d2")).2 = some "r1" ∧
      (rollbackAfter .pool "" "d2" (fun _ => none)).1.toOption.map PolicyBundleRow.recordId
        = some "r2") ∧
    ((rollbackAfter .pool "d1" "d2" (failing 7)).1.toOption.map PolicyBundleRow.recordId = none ∧
      activeEntry (replay .pool (twoActivations "d1" "d2")).1 = some ("r2", 2) ∧
      activeEntry (rollbackAfter .pool "d1" "d2" (failing 7)).2 = some ("r1", 3)) ∧
    (activeEntry (replay .shared (twoActivations "d1" "d2")).1 = some ("r2", 2) ∧
      (rollbackAfter .shared "d1" "d2" (failing 4)).1.toOption.map PolicyBundleRow.recordId = none ∧
      activeEntry (rollbackAfter .shared "d1" "d2" (failing 4)).2 = none ∧
      (rollbackAfter .shared "d1" "d2" (failing 6)).1.toOption.map PolicyBundleRow.recordId = none ∧
      activeEntry (rollbackAfter .shared "d1" "d2" (failing 6)).2 = some ("r1", 3) ∧
      activeEntry pendingRollback.committed = none) := by
  decide +kernel

end Laws

end ControlPlane.PolicyHistory
