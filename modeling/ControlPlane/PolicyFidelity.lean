/-
# What runs is what is durably active

Immediately after an operation of the lifecycle that returns a bundle, the bundle of the
process has the digest of the active record of the store.  Files may change at any time;
the two reads that are not compared with the record decide.
-/
import ControlPlane.PolicyOperations

namespace ControlPlane.PolicyFidelity

open Transaction Selection Threads PolicyHistory PolicyOperations

variable {io : Surroundings} {w w' : PolicyWorld} {log : Log String}

/-! ## Runs -/

/-- An operation of the lifecycle. -/
inductive Operation where
  | sync (force : Bool)
  | activate (bundleId : String)
  | rollback
  | ensureBootstrapped
  | validate (root : String) (source : Option PolicySource)

/-- The operation, with the bundle that it returns. -/
def Operation.program (io : Surroundings) (op : Operation) : LifecycleM (Option PolicyBundle) :=
  match op with
  | sync force => io.sync 6 1 force
  | activate bundleId => do
    let bundle ← io.activate bundleId
    return some bundle
  | rollback => do
    let bundle ← io.rollback
    return some bundle
  | ensureBootstrapped => do
    let bundle ← io.ensureBootstrapped
    return some bundle
  | validate root source => do
    let _ ← io.validateFromPath root source
    return none

/-- What operations one at a time reach, from a process on a store with a history. -/
inductive Run : PolicyWorld → Prop
  | start {w : PolicyWorld} {log : Log String} : History w.rows log → Held w.process → Run w
  | perform {w : PolicyWorld} (io : Surroundings) (op : Operation) : Digested io → Run w →
      Run ((op.program io).run w).2

theorem keeps_program (hio : Digested io) (op : Operation) :
    (op.program io).Keeps Sound (fun _ => True) := by
  cases op with
  | sync force => exact Thread.keeps_mono (keeps_sync hio 6 1 force) (fun _ _ => trivial)
  | activate bundleId =>
    exact Thread.keeps_bind (keeps_activate hio bundleId) (fun _ _ => trivial) (fun _ _ => trivial)
  | rollback =>
    exact Thread.keeps_bind (keeps_rollback hio) (fun _ _ => trivial) (fun _ _ => trivial)
  | ensureBootstrapped =>
    exact Thread.keeps_bind (keeps_ensureBootstrapped hio) (fun _ _ => trivial)
      (fun _ _ => trivial)
  | validate root source =>
    exact Thread.keeps_bind (keeps_validateFromPath hio root source) (fun _ _ => trivial)
      (fun _ _ => trivial)

theorem Run.sound (h : Run w) : Sound w := by
  induction h with
  | start hrows hheld => exact ⟨⟨_, hrows.recorded⟩, hheld⟩
  | perform io op hio _ ih => exact ((keeps_program hio op).run ih).2

/-! ## Operations that return -/

/-- The bundle of the process has the digest of the active record. -/
def Agrees (w : PolicyWorld) : Prop :=
  ∃ record, selectPolicyBundle w.rows .active = some record ∧
    w.process.bundle.contentDigest = record.contentDigest

/-- What a synchronisation makes of an active record, if it returns a bundle. -/
theorem catchUp_agrees {load : SourceJson → Except PyError PolicyBundle} {force : Bool}
    {process : PolicyProcess} {active : Option PolicyBundleRow} {bundle : PolicyBundle}
    (h : (process.catchUp load force active).2 = some bundle) :
    ∃ record, active = some record ∧
      (process.catchUp load force active).1.bundle.contentDigest = record.contentDigest := by
  unfold PolicyProcess.catchUp at h ⊢
  cases active with
  | none => exact nomatch h
  | some record =>
    refine ⟨record, rfl, ?_⟩
    dsimp only at h ⊢
    split at h
    · rename_i hup
      rw [if_pos hup]
      exact (of_decide_eq_true hup.2).2.2
    · rename_i hup
      rw [if_neg hup]
      cases hload : load record.sourceJson >>= checkLoaded record with
      | error e =>
        rw [hload] at h
        exact nomatch h
      | ok loaded =>
        cases hl : load record.sourceJson with
        | error e =>
          rw [hl] at hload
          exact nomatch hload
        | ok found =>
          rw [hl] at hload
          obtain ⟨rfl, -, hdigest⟩ := checkLoaded_ok hload
          exact hdigest

/-- A synchronisation that runs alone reads the active record, unless the store fails, and
catches up with it. -/
theorem sync_run (io : Surroundings) (w : PolicyWorld) (call read : ℕ) (force : Bool) :
    ∃ active, (active = selectPolicyBundle w.rows .active ∧ Prog.Succeeds (io.fails call) 3 ∨
        active = none ∧ ¬ Prog.Succeeds (io.fails call) 3) ∧
      (io.sync call read force).run w
        = (.ok (w.process.catchUp (io.load read) force active).2,
          ⟨w.rows, (w.process.catchUp (io.load read) force active).1⟩) := by
  have hread : ∃ active, (active = selectPolicyBundle w.rows .active ∧
        Prog.Succeeds (io.fails call) 3 ∨
      active = none ∧ ¬ Prog.Succeeds (io.fails call) 3) ∧
      ((storeCall (some (.learn .sync)) getActivePolicyBundle (io.fails call)).handle
        (fun _ => pure none)).run w = (.ok active, w) := by
    rcases run_query (some (.learn .sync)) (io.fails call)
      (fun rows => selectPolicyBundle rows .active) w with
      ⟨hrun, hall⟩ | ⟨e, hrun, i, hi, hfail⟩
    · refine ⟨_, Or.inl ⟨rfl, hall⟩, ?_⟩
      rw [Thread.run_handle]
      erw [hrun]
    · refine ⟨none, Or.inr ⟨rfl, fun hall => hfail (hall i hi)⟩, ?_⟩
      rw [Thread.run_handle]
      erw [hrun]
      rfl
  obtain ⟨active, hactive, hrun⟩ := hread
  refine ⟨active, hactive, ?_⟩
  refine (Thread.run_bind_ok hrun).trans ?_
  cases active with
  | none => rfl
  | some record =>
    refine (Thread.run_bind_ok run_locked).trans ?_
    unfold PolicyProcess.catchUp
    dsimp only
    by_cases hup : ¬ force = true ∧ w.process.upToDate record = true
    · rw [if_pos hup, if_pos hup]
      rfl
    · rw [if_neg hup, if_neg hup]
      cases io.load read record.sourceJson >>= checkLoaded record with
      | error e => rfl
      | ok loaded => rfl

theorem sync_agrees {call read : ℕ} {force : Bool} {bundle : PolicyBundle}
    (h : (io.sync call read force).run w = (.ok (some bundle), w')) : Agrees w' := by
  obtain ⟨active, hactive, hrun⟩ := sync_run io w call read force
  rw [hrun] at h
  obtain ⟨hres, rfl⟩ := Prod.mk.inj h
  obtain ⟨record, rfl, hdigest⟩ := catchUp_agrees (Except.ok.inj hres)
  rcases hactive with ⟨hactive, -⟩ | ⟨hnone, -⟩
  · exact ⟨record, hactive.symm, hdigest⟩
  · exact nomatch hnone

/-- The synchronisation after a rollback to `b` succeeds: the store answers, and the files are
valid and have the digest of the record. -/
def SyncLoads (io : Surroundings) (b : PolicyBundleRow) : Prop :=
  Prog.Succeeds (io.fails 6) 3 ∧ ∃ loaded, io.load 1 b.sourceJson = .ok loaded ∧
    loaded.isValid = true ∧ loaded.contentDigest = b.contentDigest

/-- A forced synchronisation that returns nothing changes no record, and could not load. -/
theorem sync_fails {b : PolicyBundleRow}
    (h : (io.sync 6 1 true).run w = (.ok none, w'))
    (hb : selectPolicyBundle w.rows .active = some b) :
    w'.rows = w.rows ∧ ¬ SyncLoads io b := by
  obtain ⟨active, hactive, hrun⟩ := sync_run io w 6 1 true
  rw [hrun] at h
  obtain ⟨hres, rfl⟩ := Prod.mk.inj h
  refine ⟨rfl, ?_⟩
  rintro ⟨hanswers, loaded, hload, hvalid, hdigest⟩
  rcases hactive with ⟨hactive, -⟩ | ⟨-, hfail⟩
  · rw [hb] at hactive
    subst hactive
    have hcheck : (Except.ok loaded >>= checkLoaded b) = .ok loaded := by
      show checkLoaded b loaded = .ok loaded
      unfold checkLoaded
      rw [if_neg (not_not_intro hvalid), if_neg (not_not_intro hdigest)]
    have hsome : (w.process.catchUp (io.load 1) true (some b)).2 = some loaded := by
      unfold PolicyProcess.catchUp
      dsimp only
      rw [if_neg (fun hforce => hforce.1 rfl), hload, hcheck]
    rw [hsome] at hres
    exact nomatch hres
  · exact hfail hanswers

/-- An activation of a digest that returns makes its record the active one. -/
theorem activateRecord_run {mark : Option PolicyMark} {bundleId contentDigest : String}
    {now : Instant} {fails : ℕ → Option PyError} {r : PolicyBundleRow} (hsound : Sound w)
    (hdigest : contentDigest ≠ "")
    (h : (storeCall mark (activatePolicyBundle bundleId contentDigest now) fails).run w
      = (.ok r, w')) :
    selectPolicyBundle w'.rows .active = some r ∧ r.contentDigest = contentDigest ∧
      w'.process = w.process := by
  obtain ⟨log, hlog⟩ := hsound.recorded
  obtain ⟨hres, rfl⟩ := Prod.mk.inj h
  have hact := hlog.selects_ok (fun _ => Recorded.activationTarget_mem)
    (activatePolicyBundle_selects fails bundleId contentDigest now) hres
  obtain ⟨b, ⟨hb, -⟩, -, hsame, -⟩ := hact.target
  unfold activationTarget at hb
  rw [if_pos hdigest] at hb
  exact ⟨hact.active, hsame.trans (findPolicyBundle_some hb).2.2, rfl⟩

/-- A rollback of the store that returns makes its target the active record. -/
theorem rollbackRecord_run {mark : Option PolicyMark} {now : Instant}
    {fails : ℕ → Option PyError} {r : PolicyBundleRow} (hsound : Sound w)
    (h : (storeCall mark (rollbackPolicyBundle now) fails).run w = (.ok r, w')) :
    selectPolicyBundle w'.rows .active = some r ∧ w'.process = w.process ∧
      ∃ b, RollbackTarget w.rows b ∧ r.contentDigest = b.contentDigest ∧
        r.sourceJson = b.sourceJson := by
  obtain ⟨log, hlog⟩ := hsound.recorded
  obtain ⟨hres, rfl⟩ := Prod.mk.inj h
  have hact := hlog.selects_ok (fun _ => Recorded.rollbackTarget_mem)
    (rollbackPolicyBundle_selects fails _ now) hres
  obtain ⟨b, hb, -, hdigest, hsource⟩ := hact.target
  exact ⟨hact.active, rfl, b, hb, hdigest, hsource⟩

/-- `activate` installs the candidate that it has activated. -/
theorem activate_agrees (hio : Digested io) {bundleId : String} {bundle : PolicyBundle}
    (hsound : Sound w) (h : (io.activate bundleId).run w = (.ok bundle, w')) : Agrees w' := by
  obtain ⟨process, w₁, hlook, h⟩ := Thread.run_bind_eq_ok.mp h
  cases hlook
  obtain ⟨candidate, w₂, hfind, h⟩ := Thread.run_bind_eq_ok.mp h
  obtain ⟨hcandidate, hsound₂⟩ := (keeps_findCandidate hio bundleId
    (fun b hb => hsound.held.lookup hb)).run hsound
  rw [hfind] at hcandidate hsound₂
  obtain ⟨source, w₃, hsource, h⟩ := Thread.run_bind_eq_ok.mp h
  have hsound₃ := ((keeps_sourceOf io candidate
    ((w.process.candidateSources.lookup bundleId).getD [])).run hsound₂).2
  rw [hsource] at hsound₃
  obtain ⟨registered, w₄, hupsert, h⟩ := Thread.run_bind_eq_ok.mp h
  have hkeeps : (storeCall none (upsertPolicyBundleCandidate (candidate.registration io.py source)
      io.recordId (io.clock 0)) (io.fails 2)).Keeps Sound (fun _ => True) :=
    keeps_upsert (hcandidate candidate rfl)
  have hsound₄ := (hkeeps.run hsound₃).2
  rw [hupsert] at hsound₄
  obtain ⟨activated, w₅, hactivate, h⟩ := Thread.run_bind_eq_ok.mp h
  obtain ⟨hactive, hdigest, -⟩ :=
    activateRecord_run hsound₄ (hcandidate candidate rfl) hactivate
  obtain ⟨_, w₆, hinstall, h⟩ := Thread.run_bind_eq_ok.mp h
  cases hinstall
  cases h
  exact ⟨activated, hactive, hdigest.symm⟩

/-! ## The claim of the lifecycle -/

/-- The files behind the reads of an operation that are not compared with the record do not
change: the record that a rollback loads after a failed synchronisation still has its digest,
and a bundle that seeds the store is the same when it is loaded again. -/
def Undrifted (io : Surroundings) (w : PolicyWorld) (op : Operation) : Prop :=
  match op with
  | .rollback => ∀ b, RollbackTarget w.rows b → ∀ loaded, io.load 2 b.sourceJson = .ok loaded →
      loaded.isValid = true → loaded.contentDigest = b.contentDigest ∨ SyncLoads io b
  | .ensureBootstrapped => selectPolicyBundle w.rows .active = none →
      ∀ root, io.materialize io.source = .ok root → (io.loadRoot 0 root).isValid = true →
        (io.loadRoot 1 root).contentDigest = (io.loadRoot 0 root).contentDigest
  | _ => True

theorem rollback_agrees (hio : Digested io) {bundle : PolicyBundle} (hsound : Sound w)
    (hfiles : Undrifted io w .rollback) (h : io.rollback.run w = (.ok bundle, w')) :
    Agrees w' := by
  obtain ⟨remembered, w₁, hlook, h⟩ := Thread.run_bind_eq_ok.mp h
  cases hlook
  obtain ⟨previous, w₁, hprevious, h⟩ := Thread.run_bind_eq_ok.mp h
  obtain rfl : w = w₁ := by
    rcases run_query none (io.fails 4) (fun rows => selectPolicyBundle rows .previous) w with
      ⟨hrun, -⟩ | ⟨e, hrun, -⟩
    · exact congrArg Prod.snd (hrun.symm.trans hprevious)
    · exact congrArg Prod.snd (hrun.symm.trans hprevious)
  cases previous with
  | none =>
    dsimp only at h
    split at h
    · exact nomatch h
    · exact activate_agrees hio hsound h
  | some record =>
    obtain ⟨activated, w₂, hroll, h⟩ := Thread.run_bind_eq_ok.mp h
    obtain ⟨hactive, -, b, hb, hdigest, hsource⟩ := rollbackRecord_run hsound hroll
    obtain ⟨synced, w₃, hsync, h⟩ := Thread.run_bind_eq_ok.mp h
    cases synced with
    | some bundle' =>
      cases h
      exact sync_agrees hsync
    | none =>
      -- the fallback: only the validity of the files is checked
      obtain ⟨hrows, hnosync⟩ := sync_fails hsync hactive
      obtain ⟨loaded, w₄, hload, h⟩ := Thread.run_bind_eq_ok.mp h
      have hres : io.load 2 activated.sourceJson = .ok loaded := congrArg Prod.fst hload
      obtain rfl : w₃ = w₄ := congrArg Prod.snd hload
      split at h
      · exact nomatch h
      · rename_i hvalid
        obtain ⟨_, w₅, hinstall, h⟩ := Thread.run_bind_eq_ok.mp h
        cases hinstall
        cases h
        refine ⟨activated, hrows ▸ hactive, ?_⟩
        rw [hsource] at hres
        rcases hfiles b hb _ hres (not_not.mp hvalid) with hsame | hsync'
        · exact hsame.trans hdigest.symm
        · unfold SyncLoads at hnosync
          rw [hsource, hdigest] at hnosync
          exact absurd hsync' hnosync

theorem seed_agrees (hio : Digested io) {current bundle : PolicyBundle} (hsound : Sound w)
    (hfiles : ∀ root, io.materialize io.source = .ok root → (io.loadRoot 0 root).isValid = true →
      (io.loadRoot 1 root).contentDigest = (io.loadRoot 0 root).contentDigest)
    (h : (io.seed current).run w = (.ok bundle, w')) : Agrees w' := by
  obtain ⟨root, w₁, hdone, h⟩ := Thread.run_bind_eq_ok.mp h
  have hroot : io.materialize io.source = .ok root := congrArg Prod.fst hdone
  obtain rfl : w = w₁ := congrArg Prod.snd hdone
  dsimp only at h
  split at h
  · exact nomatch h
  · rename_i hvalid
    obtain ⟨registered, w₂, hupsert, h⟩ := Thread.run_bind_eq_ok.mp h
    have hkeeps : (storeCall none (upsertPolicyBundleCandidate ((io.loadRoot 0 root).registration
        io.py (Surroundings.recordedSource io.source root)) io.recordId (io.clock 0))
        (io.fails 2)).Keeps Sound (fun _ => True) := keeps_upsert (hio.loadRoot 0 root)
    have hsound₂ := (hkeeps.run hsound).2
    rw [hupsert] at hsound₂
    obtain ⟨activated, w₃, hactivate, h⟩ := Thread.run_bind_eq_ok.mp h
    obtain ⟨hactive, hdigest, -⟩ := activateRecord_run hsound₂ (hio.loadRoot 0 root) hactivate
    obtain ⟨_, w₄, hinstall, h⟩ := Thread.run_bind_eq_ok.mp h
    cases hinstall
    cases h
    exact ⟨activated, hactive, (hfiles root hroot (not_not.mp hvalid)).trans hdigest.symm⟩

theorem syncOrSeed_agrees (hio : Digested io) {current bundle : PolicyBundle} (hsound : Sound w)
    (hfiles : Undrifted io w .ensureBootstrapped)
    (h : (io.syncOrSeed current).run w = (.ok bundle, w')) : Agrees w' := by
  obtain ⟨durable, w₁, hdurable, h⟩ := Thread.run_bind_eq_ok.mp h
  rcases run_query none (io.fails 4) (fun rows => selectPolicyBundle rows .active) w with
    ⟨hrun, -⟩ | ⟨e, hrun, -⟩
  · obtain ⟨hres, rfl⟩ := Prod.mk.inj (hrun.symm.trans hdurable)
    obtain rfl := Except.ok.inj hres
    cases hselect : selectPolicyBundle w.rows .active with
    | none =>
      rw [hselect] at h
      exact seed_agrees hio hsound (hfiles hselect) h
    | some record =>
      rw [hselect] at h
      obtain ⟨synced, w₂, hsync, h⟩ := Thread.run_bind_eq_ok.mp h
      cases synced with
      | some bundle' =>
        cases h
        exact sync_agrees hsync
      | none => exact nomatch h
  · exact nomatch (congrArg Prod.fst (hrun.symm.trans hdurable))

/-- A bootstrap that does not fall back has synchronised or seeded. -/
theorem ensureBootstrapped_agrees (hio : Digested io) {bundle : PolicyBundle} (hsound : Sound w)
    (hfiles : Undrifted io w .ensureBootstrapped)
    (h : io.ensureBootstrapped.run w = (.ok bundle, w'))
    (hfallback : w'.process.fallbackActive = false) : Agrees w' := by
  obtain ⟨current, w₁, hlook, h⟩ := Thread.run_bind_eq_ok.mp h
  cases hlook
  replace h := (Thread.run_handle _ _ w).symm.trans h
  match hrun : (io.syncOrSeed w.process.bundle).run w with
  | (.ok b, w₂) =>
    rw [hrun] at h
    cases h
    exact syncOrSeed_agrees hio hsound hfiles hrun
  | (.error e, w₂) =>
    rw [hrun] at h
    obtain ⟨_, w₃, hmark, h⟩ := Thread.run_bind_eq_ok.mp h
    split at h
    · -- the fallback says so
      obtain ⟨_, w₄, hmark', h⟩ := Thread.run_bind_eq_ok.mp h
      cases hmark'
      cases h
      exact nomatch hfallback
    · exact nomatch h

/-- **What runs is what is durably active**, after every operation that returns a bundle, when
the files that it reads again do not change. -/
theorem active_is_durable (hrun : Run w) (hio : Digested io) (op : Operation)
    (hfiles : Undrifted io w op) {bundle : PolicyBundle}
    (h : (op.program io).run w = (.ok (some bundle), w'))
    (hfallback : op = .ensureBootstrapped → w'.process.fallbackActive = false) : Agrees w' := by
  have hsound := hrun.sound
  cases op with
  | sync force => exact sync_agrees h
  | activate bundleId =>
    obtain ⟨b, w₁, hact, h⟩ := Thread.run_bind_eq_ok.mp h
    cases h
    exact activate_agrees hio hsound hact
  | rollback =>
    obtain ⟨b, w₁, hroll, h⟩ := Thread.run_bind_eq_ok.mp h
    cases h
    exact rollback_agrees hio hsound hfiles hroll
  | ensureBootstrapped =>
    obtain ⟨b, w₁, hboot, h⟩ := Thread.run_bind_eq_ok.mp h
    cases h
    exact ensureBootstrapped_agrees hio hsound hfiles hboot (hfallback rfl)
  | validate root source =>
    obtain ⟨b, w₁, -, h⟩ := Thread.run_bind_eq_ok.mp h
    exact nomatch h

/-! ### Files that change -/

/-- A valid bundle with a digest. -/
def loadedBundle (contentDigest : String) : PolicyBundle where
  bundleId := "bundle"
  contentDigest := contentDigest
  config := .ok {}

/-- A process that has activated one bundle after another. -/
def afterTwo : PolicyWorld where
  rows := (replay .pool (twoActivations "d1" "d2")).1
  process := {
    bundle := loadedBundle "d2", previous := some (loadedBundle "d1"), observedGeneration := 2 }

/-- A process that starts on an empty store. -/
def beforeAny : PolicyWorld where
  rows := []
  process := { bundle := loadedBundle "d0" }

/-- Nothing fails, and the files have the given digest at each read. -/
def reading (digestAt : ℕ → String) : Surroundings where
  py := .ascii
  fails _ _ := none
  load read _ := .ok (loadedBundle (digestAt read))
  clock _ := 0
  recordId := "r3"
  governanceRoot := "governance"
  source := {
    sourceType := "filesystem", path := "", reference := "", digest := ""
    verifySignature := false }
  materialize _ := .ok "governance"
  loadRoot read _ := loadedBundle (digestAt read)
  lastKnownGood := false

theorem digested_reading {digestAt : ℕ → String} (h : ∀ read, digestAt read ≠ "") :
    Digested (reading digestAt) where
  load := by
    intro read source bundle hload
    cases hload
    exact h read
  loadRoot := fun read _ => h read

theorem run_afterTwo : Run afterTwo := by
  refine .start (history_replay (by decide +kernel) (by decide +kernel)) ⟨by decide, ?_, ?_⟩
  · intro bundle h
    cases h
    decide
  · intro id bundle h
    exact nomatch h

/-- The digest of the active record. -/
def activeDigest (rows : List Row) : Option String :=
  (selectPolicyBundle rows .active).map PolicyBundleRow.contentDigest

theorem agrees_iff (w : PolicyWorld) :
    Agrees w ↔ activeDigest w.rows = some w.process.bundle.contentDigest := by
  unfold Agrees activeDigest
  rw [Option.map_eq_some_iff]
  constructor
  · rintro ⟨record, hselect, hdigest⟩
    exact ⟨record, hselect, hdigest.symm⟩
  · rintro ⟨record, hselect, hdigest⟩
    exact ⟨record, hselect, hdigest.symm⟩

instance (w : PolicyWorld) : Decidable (Agrees w) := decidable_of_iff _ (agrees_iff w).symm

/-- The digest of the bundle that a rollback returns. -/
def rolledBackTo (digestAt : ℕ → String) : Option String :=
  (((Operation.rollback.program (reading digestAt)).run afterTwo).1.toOption.bind id).map
    PolicyBundle.contentDigest

/-- The files of the previous record are as they were. -/
theorem active_is_durable_rollback :
    ∃ bundle w', (Operation.rollback.program (reading (fun _ => "d1"))).run afterTwo
      = (.ok (some bundle), w') ∧ Agrees w' := by
  have hreturns : rolledBackTo (fun _ => "d1") = some "d1" := by decide +kernel
  have hprevious : (selectPolicyBundle afterTwo.rows .previous).map PolicyBundleRow.contentDigest
      = some "d1" := by decide +kernel
  obtain ⟨bundle, hbundle, -⟩ := Option.map_eq_some_iff.mp hreturns
  match hrun : (Operation.rollback.program (reading (fun _ => "d1"))).run afterTwo with
  | (.error e, w') =>
    rw [hrun] at hbundle
    exact nomatch hbundle
  | (.ok r, w') =>
    rw [hrun] at hbundle
    obtain rfl : r = some bundle := hbundle
    refine ⟨bundle, w', rfl, active_is_durable run_afterTwo
      (digested_reading (fun _ => by decide)) .rollback ?_ hrun (fun h => nomatch h)⟩
    rintro b ⟨previous, hselect, hb, -⟩ loaded hload -
    cases hload
    rw [hselect, Option.map_some, Option.some.injEq] at hprevious
    unfold activationTarget at hb
    rw [hprevious, if_pos (by decide)] at hb
    exact Or.inl (findPolicyBundle_some hb).2.2.symm

/-- The files of the previous record have changed to `d9`: the synchronisation notices, and the
rollback installs them all the same.  And when the files of the environment change while they
seed the store, the process runs a bundle that is not the active one. -/
theorem drifted_files_run :
    Run afterTwo ∧
    (rolledBackTo (fun _ => "d9") = some "d9" ∧
      activeDigest ((Operation.rollback.program (reading (fun _ => "d9"))).run afterTwo).2.rows
        = some "d1" ∧
      ¬ Agrees ((Operation.rollback.program (reading (fun _ => "d9"))).run afterTwo).2) ∧
    (activeDigest ((Operation.ensureBootstrapped.program
        (reading (fun read => if read = 0 then "d1" else "d2"))).run beforeAny).2.rows
        = some "d1" ∧
      ((Operation.ensureBootstrapped.program
        (reading (fun read => if read = 0 then "d1" else "d2"))).run
          beforeAny).2.process.fallbackActive = false ∧
      ¬ Agrees ((Operation.ensureBootstrapped.program
        (reading (fun read => if read = 0 then "d1" else "d2"))).run beforeAny).2) :=
  ⟨run_afterTwo, by decide +kernel, by decide +kernel⟩

end ControlPlane.PolicyFidelity
