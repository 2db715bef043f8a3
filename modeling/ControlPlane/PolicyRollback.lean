/-
# Rollbacks that raise

A rollback switches the store, synchronises the process and, when that gives nothing, loads
the record itself.  The switch is durable before the files are read, so a rollback that
raises may have switched; the module says when, for a store with a pool of connections.  On the
shared connection a rollback raises as well when the store has switched half way
(`rollbackOn_raises`).
-/
import ControlPlane.PolicyFidelity

namespace ControlPlane.PolicyRollback

open Transaction Threads PolicyOperations PolicyFidelity

variable {io : Surroundings} {w w' : PolicyWorld}

/-! ## When a rollback switches and raises -/

/-- The same records are selected as before, with the same generations, and the process runs
the same bundle. -/
structure Unchanged (w w' : PolicyWorld) : Prop where
  selection : ∃ added, selectionOf w'.rows = selectionOf w.rows ++ added ∧
    ∀ s ∈ added, s.2.1 = .candidate
  bundle : w'.process.bundle = w.process.bundle

/-- The files of the record give a valid bundle. -/
def Loads (io : Surroundings) (read : ℕ) (b : PolicyBundleRow) : Prop :=
  ∃ loaded, io.load read b.sourceJson = .ok loaded ∧ loaded.isValid = true

/-- A call with `n` statements commits with the one number `k`, and fails behind it. -/
def BreaksBehind (fails : ℕ → Option PyError) (k n : ℕ) : Prop :=
  Prog.Succeeds fails (k + 1) ∧ ¬ Prog.Succeeds fails n

/-- The store goes back to a valid previous record, and then its call fails, or the record can
neither be synchronised nor loaded. -/
def StrandsRecord (io : Surroundings) (w : PolicyWorld) : Prop :=
  ∃ b, RollbackTarget w.rows b ∧ (BreaksBehind (io.fails 5) 6 9 ∨
    Prog.Succeeds (io.fails 5) 9 ∧ ¬ SyncLoads io b ∧ ¬ Loads io 2 b)

/-- The bundle that is activated when the store has no previous record: the one with the id of
the valid bundle that the process remembers. -/
def remembered (process : PolicyProcess) : Option (String × PolicyBundle) := do
  let previous ← process.previous.filter PolicyBundle.isValid
  let candidate ← (process.cached previous.bundleId).filter PolicyBundle.isValid
  return (previous.bundleId, candidate)

/-- The candidate is registered, and the call that activates it fails behind its commit. -/
def StrandsActivation (io : Surroundings) (w : PolicyWorld) (id : String)
    (candidate : PolicyBundle) : Prop :=
  (((w.process.candidateSources.lookup id).getD []).isEmpty = false ∨
    Prog.Succeeds (io.fails 1) 3) ∧
  Registrable candidate.bundleId candidate.contentDigest io.recordId w.rows ∧
  Prog.Succeeds (io.fails 2) 8 ∧ BreaksBehind (io.fails 3) 5 8

/-- The store has no previous record, and the remembered bundle is activated. -/
def StrandsRemembered (io : Surroundings) (w : PolicyWorld) : Prop :=
  selectPolicyBundle w.rows .previous = none ∧
    ∃ id candidate, remembered w.process = some (id, candidate) ∧
      StrandsActivation io w id candidate

/-- The rollback switches the store and raises. -/
def Strands (io : Surroundings) (w : PolicyWorld) : Prop :=
  Prog.Succeeds (io.fails 4) 3 ∧ (StrandsRecord io w ∨ StrandsRemembered io w)

/-- A run that returns or changes nothing unless the condition holds, when it raises and
changes something. -/
def Decided (strands : Prop) (w : PolicyWorld) (out : Except PyError PolicyBundle × PolicyWorld) :
    Prop :=
  ((∃ bundle, out.1 = .ok bundle) ∨ Unchanged w out.2) ∧ ¬ strands ∨
    (∃ e, out.1 = .error e) ∧ ¬ Unchanged w out.2 ∧ strands

theorem Unchanged.refl (w : PolicyWorld) : Unchanged w w :=
  ⟨⟨[], (List.append_nil _).symm, fun _ h => absurd h List.not_mem_nil⟩, rfl⟩

theorem Decided.mono {p q : Prop} {out : Except PyError PolicyBundle × PolicyWorld}
    (h : Decided p w out) (hpq : p ↔ q) : Decided q w out := by
  unfold Decided at *
  rwa [← hpq]

/-! ## Adopting a record -/

/-- A synchronisation that returns nothing keeps the bundle of the process. -/
theorem catchUp_bundle {load : SourceJson → Except PyError PolicyBundle} {force : Bool}
    {process : PolicyProcess} {active : Option PolicyBundleRow}
    (h : (process.catchUp load force active).2 = none) :
    (process.catchUp load force active).1.bundle = process.bundle := by
  unfold PolicyProcess.catchUp at h ⊢
  cases active with
  | none => rfl
  | some record =>
    dsimp only at h ⊢
    split at h
    · exact nomatch h
    · -- behind the store: the files are loaded, and refused
      rename_i hup
      rw [if_neg hup]
      cases hload : load record.sourceJson >>= checkLoaded record with
      | error e => rfl
      | ok loaded =>
        rw [hload] at h
        exact nomatch h

/-- A forced synchronisation with the active record returns a bundle just when it can. -/
theorem sync_forced (io : Surroundings) {b : PolicyBundleRow}
    (hb : selectPolicyBundle w.rows .active = some b) :
    (∃ bundle w', (io.sync 6 1 true).run w = (.ok (some bundle), w') ∧ SyncLoads io b) ∨
    ∃ w', (io.sync 6 1 true).run w = (.ok none, w') ∧ ¬ SyncLoads io b ∧ w'.rows = w.rows ∧
      w'.process.bundle = w.process.bundle := by
  obtain ⟨active, hactive, hrun⟩ := sync_run io w 6 1 true
  cases hres : (w.process.catchUp (io.load 1) true active).2 with
  | none =>
    rw [hres] at hrun
    obtain ⟨hrows, hnot⟩ := sync_fails hrun hb
    exact Or.inr ⟨_, hrun, hnot, hrows, catchUp_bundle hres⟩
  | some bundle =>
    rw [hres] at hrun
    refine Or.inl ⟨bundle, _, hrun, ?_⟩
    rcases hactive with ⟨hactive, hanswers⟩ | ⟨rfl, -⟩
    · rw [hb] at hactive
      subst hactive
      unfold PolicyProcess.catchUp at hres
      dsimp only at hres
      -- a forced synchronisation loads the files even at the same generation
      rw [if_neg (fun hforce => hforce.1 rfl)] at hres
      cases hload : io.load 1 b.sourceJson >>= checkLoaded b with
      | error e =>
        rw [hload] at hres
        exact nomatch hres
      | ok loaded =>
        obtain ⟨hfiles, hvalid, hdigest⟩ := loadChecked_ok hload
        exact ⟨hanswers, loaded, hfiles, hvalid, hdigest⟩
    · exact nomatch hres

/-- What is adopted after the store has rolled back. -/
theorem adoptRollback_run (io : Surroundings) {b : PolicyBundleRow}
    (hb : selectPolicyBundle w.rows .active = some b) :
    (∃ bundle w', (io.adoptRollback b).run w = (.ok bundle, w') ∧
      (SyncLoads io b ∨ Loads io 2 b)) ∨
    ∃ e w', (io.adoptRollback b).run w = (.error e, w') ∧ w'.rows = w.rows ∧
      ¬ SyncLoads io b ∧ ¬ Loads io 2 b := by
  rcases sync_forced io hb with ⟨bundle, w₁, hsync, hloads⟩ | ⟨w₁, hsync, hnot, hrows, -⟩
  · exact Or.inl ⟨bundle, w₁, Thread.run_bind_ok hsync, Or.inl hloads⟩
  · -- the synchronisation has given nothing, and the files are read once more
    cases hload : io.load 2 b.sourceJson with
    | error e =>
      refine Or.inr ⟨e, w₁, ?_, hrows, hnot, ?_⟩
      · refine (Thread.run_bind_ok hsync).trans ?_
        dsimp only
        rw [hload]
        rfl
      · rintro ⟨loaded, hok, -⟩
        rw [hload] at hok
        exact nomatch hok
    | ok loaded =>
      by_cases hvalid : loaded.isValid = true
      · refine Or.inl ⟨loaded,
          { w₁ with process := w₁.process.adopt loaded (b.generation.getD 0) }, ?_,
          Or.inr ⟨loaded, hload, hvalid⟩⟩
        refine (Thread.run_bind_ok hsync).trans ?_
        dsimp only
        rw [hload, Thread.bind_ok, if_neg (not_not_intro hvalid)]
        rfl
      · refine Or.inr ⟨.runtimeError (loaded.errorOr "rollback bundle invalid"), w₁, ?_, hrows,
          hnot, ?_⟩
        · refine (Thread.run_bind_ok hsync).trans ?_
          dsimp only
          rw [hload, Thread.bind_ok, if_pos hvalid]
          rfl
        · rintro ⟨loaded', hok, hvalid'⟩
          rw [hload, Except.ok.injEq] at hok
          exact hvalid (hok ▸ hvalid')

/-! ## Activating a bundle that the process holds -/

/-- The bundle with the id of the previous one is held. -/
theorem exists_cached {process : PolicyProcess} {previous : PolicyBundle}
    (h : process.previous = some previous) :
    ∃ bundle, process.cached previous.bundleId = some bundle := by
  unfold PolicyProcess.cached
  cases process.candidates.lookup previous.bundleId with
  | some bundle => exact ⟨bundle, rfl⟩
  | none =>
    dsimp only
    split
    · exact ⟨process.bundle, rfl⟩
    · refine ⟨previous, ?_⟩
      rw [h]
      exact Option.filter_some_pos (decide_eq_true rfl)

/-- A bundle that the process holds is found without the store. -/
theorem findCandidate_run (io : Surroundings) {id : String} {bundle : PolicyBundle}
    (h : w.process.cached id = some bundle) :
    (io.findCandidate id (w.process.candidates.lookup id)).run w
      = (if bundle.isValid then .ok bundle
          else .error (.keyError ("validated policy bundle not found: " ++ id)), w) := by
  have hrun : (io.rememberedOr id (w.process.candidates.lookup id)).run w
      = (.ok (some bundle), w) := by
    unfold Surroundings.rememberedOr
    cases hfilter : (w.process.candidates.lookup id).filter PolicyBundle.isValid with
    | some b =>
      -- a valid candidate is what the process holds under the id
      obtain ⟨hlookup, -⟩ := Option.filter_eq_some_iff.mp hfilter
      unfold PolicyProcess.cached at h
      rw [hlookup] at h
      rw [Option.some.inj h]
      rfl
    | none =>
      refine (Thread.run_bind_ok run_locked).trans ?_
      rw [h]
      rfl
  refine (Thread.run_bind_ok hrun).trans ?_
  by_cases hvalid : bundle.isValid = true
  · rw [Option.filter_some_pos hvalid, if_pos hvalid]
    rfl
  · rw [Option.filter_some_neg (Bool.eq_false_of_not_eq_true hvalid), if_neg hvalid]
    rfl

/-- The recorded source is looked up in the store when the process does not remember it. -/
theorem sourceOf_run (io : Surroundings) (w : PolicyWorld) (candidate : PolicyBundle)
    (source : SourceJson) :
    (∃ json, (io.sourceOf candidate source).run w = (.ok json, w) ∧
      (source.isEmpty = false ∨ Prog.Succeeds (io.fails 1) 3)) ∨
    ∃ e, (io.sourceOf candidate source).run w = (.error e, w) ∧
      ¬ (source.isEmpty = false ∨ Prog.Succeeds (io.fails 1) 3) := by
  -- an empty source becomes the one of the governance root
  have hfinish : ∀ json, ∃ json', ((if json.isEmpty then
        return PolicySource.toJson {
          sourceType := "filesystem", path := io.governanceRoot, reference := "", digest := ""
          verifySignature := false }
      else return json : LifecycleM SourceJson)).run w = (.ok json', w) := by
    intro json
    split
    · exact ⟨_, rfl⟩
    · exact ⟨_, rfl⟩
  by_cases hempty : source.isEmpty = true
  · rcases run_query none (io.fails 1)
        (fun rows => findPolicyBundle rows candidate.bundleId candidate.contentDigest) w with
      ⟨hrun, hall⟩ | ⟨e, hrun, i, hi, hfail⟩
    · have hsource : (io.rememberedSource candidate source).run w
          = (.ok ((findPolicyBundle w.rows candidate.bundleId candidate.contentDigest).elim []
            PolicyBundleRow.sourceJson), w) := by
        unfold Surroundings.rememberedSource
        rw [if_pos hempty]
        exact (Thread.run_bind_ok hrun).trans rfl
      obtain ⟨json, hjson⟩ := hfinish
        ((findPolicyBundle w.rows candidate.bundleId candidate.contentDigest).elim []
          PolicyBundleRow.sourceJson)
      exact Or.inl ⟨json, (Thread.run_bind_ok hsource).trans hjson, Or.inr hall⟩
    · have hsource : (io.rememberedSource candidate source).run w = (.error e, w) := by
        unfold Surroundings.rememberedSource
        rw [if_pos hempty]
        exact Thread.run_bind_error hrun
      refine Or.inr ⟨e, Thread.run_bind_error hsource, ?_⟩
      rintro (hsome | hall)
      · rw [hempty] at hsome
        exact nomatch hsome
      · exact hfail (hall i hi)
  · have hsource : (io.rememberedSource candidate source).run w = (.ok source, w) := by
      unfold Surroundings.rememberedSource
      rw [if_neg hempty]
      rfl
    obtain ⟨json, hjson⟩ := hfinish source
    exact Or.inl ⟨json, (Thread.run_bind_ok hsource).trans hjson,
      Or.inl (Bool.eq_false_of_not_eq_true hempty)⟩

/-- An activation of a held bundle strands it, or returns, or changes nothing. -/
theorem activate_decided (io : Surroundings) {id : String} {candidate : PolicyBundle}
    (hcached : (w.process.cached id).filter PolicyBundle.isValid = some candidate)
    (hdigest : candidate.contentDigest ≠ "") :
    Decided (StrandsActivation io w id candidate) w ((io.activate id).run w) := by
  obtain ⟨hheld, hvalid⟩ := Option.filter_eq_some_iff.mp hcached
  have hfind := findCandidate_run io hheld
  rw [if_pos hvalid] at hfind
  have hstart : (io.activate id).run w = _ :=
    (Thread.run_bind_ok run_locked).trans (Thread.run_bind_ok hfind)
  rcases sourceOf_run io w candidate ((w.process.candidateSources.lookup id).getD []) with
    ⟨json, hsource, hgot⟩ | ⟨e, hsource, hnot⟩
  swap
  · rw [hstart, Thread.run_bind_error hsource]
    exact Or.inl ⟨Or.inr (.refl w), fun h => hnot h.1⟩
  rw [hstart, Thread.run_bind_ok hsource]
  -- the registration
  obtain ⟨added, hreg, hadded⟩ := selectionOf_registered (candidate.registration io.py json)
    io.recordId (Timestamp.isoformat (io.clock 0)) w.rows
  have hunchanged : Unchanged w { w with rows := (registered (candidate.registration io.py json)
      io.recordId (Timestamp.isoformat (io.clock 0)) w.rows) } := ⟨⟨added, hreg, hadded⟩, rfl⟩
  have hregisters : Registers w.rows _ _ _ _ _ := upsertPolicyBundleCandidate_registers
    (io.fails 2) (candidate.registration io.py json) io.recordId (io.clock 0)
  rcases hregisters with
    ⟨⟨e, herror⟩, hrows, hwhy⟩ | ⟨hok, hrows, ⟨⟨r, hres⟩, hall⟩ | ⟨⟨e, herror⟩, -, hfail⟩⟩
  · rw [Thread.run_bind_error (run_storeCall herror hrows)]
    refine Or.inl ⟨Or.inr (.refl w), fun h => ?_⟩
    rcases hwhy with hno | hfail
    · exact hno h.2.1
    · exact hfail (h.2.2.1.mono (by decide))
  swap
  · rw [Thread.run_bind_error (run_storeCall herror hrows)]
    exact Or.inl ⟨Or.inr hunchanged, fun h => hfail h.2.2.1⟩
  rw [Thread.run_bind_ok (run_storeCall hres hrows)]
  -- the activation
  obtain ⟨b, hb⟩ : ∃ b, ActivationTarget (registered (candidate.registration io.py json)
      io.recordId (Timestamp.isoformat (io.clock 0)) w.rows) candidate.bundleId
      candidate.contentDigest b :=
    exists_activationTarget_registered _ _ _ hdigest (if_pos hvalid)
  have hselects : Selects (registered (candidate.registration io.py json) io.recordId
      (Timestamp.isoformat (io.clock 0)) w.rows) _ _ _ _ _ _ :=
    activatePolicyBundle_selects (io.fails 3) candidate.bundleId candidate.contentDigest
      (io.clock 1)
  rcases hselects with
    ⟨⟨e, herror⟩, hrows', hwhy⟩ |
      ⟨b', r', hb', -, hrows', ⟨hres', hall'⟩ | ⟨⟨e, herror⟩, hdone, hfail⟩⟩
  · rw [Thread.run_bind_error (run_storeCall herror hrows')]
    refine Or.inl ⟨Or.inr hunchanged, fun h => ?_⟩
    rcases hwhy with hno | hfail
    · exact hno b hb
    · exact hfail h.2.2.2.1
  · rw [Thread.run_bind_ok (run_storeCall hres' hrows')]
    exact Or.inl ⟨Or.inl ⟨candidate, rfl⟩, fun h => h.2.2.2.2 hall'⟩
  · rw [Thread.run_bind_error (run_storeCall herror hrows')]
    refine Or.inr ⟨⟨e, rfl⟩, ?_, hgot, hok, hall, hdone, hfail⟩
    rintro ⟨⟨added', heq, hcandidates⟩, -⟩
    exact selectionOf_switchTo_ne hreg (activationTarget_mem hb'.1) hcandidates heq

/-! ## Rolling back -/

theorem rollbackTarget_unique {rows : List Row} {b b' : PolicyBundleRow}
    (h : RollbackTarget rows b) (h' : RollbackTarget rows b') : b = b' := by
  obtain ⟨previous, hprevious, hb, -⟩ := h
  obtain ⟨previous', hprevious', hb', -⟩ := h'
  rw [hprevious, Option.some.injEq] at hprevious'
  subst hprevious'
  exact Option.some.inj (hb.symm.trans hb')

/-- The store has a previous record. -/
theorem rollback_record (hids : ((policyBundles w.rows).map PolicyBundleRow.recordId).Nodup) :
    Decided (StrandsRecord io w) w ((do
      let activated ← storeCall (some (.learn .own)) (rollbackPolicyBundle (io.clock 2))
        (io.fails 5)
      io.adoptRollback activated : LifecycleM PolicyBundle).run w) := by
  have hchanged : ∀ (b : PolicyBundleRow) (now : String) (w' : PolicyWorld),
      b ∈ policyBundles w.rows → w'.rows = switchTo b.recordId now w.rows → ¬ Unchanged w w' := by
    rintro b now w' hb hrows ⟨⟨added, heq, hcandidates⟩, -⟩
    rw [hrows] at heq
    exact selectionOf_switchTo_ne (List.append_nil _).symm hb hcandidates heq
  rcases rollbackPolicyBundle_selects (io.fails 5) w.rows (io.clock 2) with
    ⟨⟨e, herror⟩, hrows, hwhy⟩ | ⟨b, r, hb, hr, hrows, hends⟩
  · rw [Thread.run_bind_error (run_storeCall herror hrows)]
    refine Or.inl ⟨Or.inr (.refl w), ?_⟩
    rintro ⟨b, hb, hstrands⟩
    rcases hwhy with hno | hfail
    · exact hno b hb
    · rcases hstrands with ⟨hdone, -⟩ | ⟨hall, -⟩
      · exact hfail hdone
      · exact hfail (hall.mono (by decide))
  have hmem : b ∈ policyBundles w.rows := by
    obtain ⟨previous, -, htarget, -⟩ := hb
    exact activationTarget_mem htarget
  rcases hends with ⟨hres, hall⟩ | ⟨⟨e, herror⟩, hdone, hfail⟩
  swap
  · rw [Thread.run_bind_error (run_storeCall herror hrows)]
    exact Or.inr ⟨⟨e, rfl⟩, hchanged b _ _ hmem rfl, b, hb, Or.inl ⟨hdone, hfail⟩⟩
  rw [Thread.run_bind_ok (run_storeCall hres hrows)]
  -- the record that was activated has the source and the digest of the target
  obtain ⟨hmem', hid⟩ := findPolicyRecord_some hr
  obtain rfl := eq_activated hids hmem hmem' hid
  have hactive : selectPolicyBundle (switchTo b.recordId (Timestamp.isoformat (io.clock 2)) w.rows)
      .active = some _ := selectActive_switchTo hids hmem _
  rcases adoptRollback_run io
      (w := { w with rows := switchTo b.recordId (Timestamp.isoformat (io.clock 2)) w.rows })
      hactive with ⟨bundle, w', hrun, hgot⟩ | ⟨e, w', hrun, hrows', hnosync, hnoload⟩
  · rw [hrun]
    refine Or.inl ⟨Or.inl ⟨bundle, rfl⟩, ?_⟩
    rintro ⟨b', hb', hstrands⟩
    obtain rfl := rollbackTarget_unique hb hb'
    rcases hstrands with ⟨-, hfail⟩ | ⟨-, hnosync, hnoload⟩
    · exact hfail hall
    · exact hgot.elim hnosync hnoload
  · rw [hrun]
    exact Or.inr ⟨⟨e, rfl⟩, hchanged b _ _ hmem hrows', b, hb, Or.inr ⟨hall, hnosync, hnoload⟩⟩

/-- The store has no previous record. -/
theorem rollback_remembered (hheld : Held w.process)
    (hnone : selectPolicyBundle w.rows .previous = none) :
    Decided (StrandsRemembered io w) w ((match w.process.previous.filter PolicyBundle.isValid with
      | none => throw (.runtimeError "no last-known-good policy bundle to rollback to")
      | some bundle => io.activate bundle.bundleId : LifecycleM PolicyBundle).run w) := by
  have hremembered : ∀ previous, w.process.previous.filter PolicyBundle.isValid = some previous →
      remembered w.process = ((w.process.cached previous.bundleId).filter
        PolicyBundle.isValid).map (fun candidate => (previous.bundleId, candidate)) := by
    intro previous h
    unfold remembered
    rw [h, Option.map_eq_bind]
    rfl
  cases hprevious : w.process.previous.filter PolicyBundle.isValid with
  | none =>
    refine Or.inl ⟨Or.inr (.refl w), ?_⟩
    rintro ⟨-, id, candidate, hsome, -⟩
    unfold remembered at hsome
    rw [hprevious] at hsome
    exact nomatch hsome
  | some previous =>
    dsimp only
    cases hcached : (w.process.cached previous.bundleId).filter PolicyBundle.isValid with
    | none =>
      -- another bundle hides the remembered one, and it is not valid
      obtain ⟨bundle, hbundle⟩ := exists_cached (Option.filter_eq_some_iff.mp hprevious).1
      rw [hbundle] at hcached
      have hinvalid : ¬ bundle.isValid = true := Option.filter_some_eq_none.mp hcached
      have hfind := findCandidate_run io hbundle
      rw [if_neg hinvalid] at hfind
      have hrun : (io.activate previous.bundleId).run w = _ :=
        (Thread.run_bind_ok run_locked).trans (Thread.run_bind_error hfind)
      rw [hrun]
      refine Or.inl ⟨Or.inr (.refl w), ?_⟩
      rintro ⟨-, id, candidate, hsome, -⟩
      rw [hremembered previous hprevious, hbundle, hcached] at hsome
      exact nomatch hsome
    | some candidate =>
      have hdigest := hheld.cached (Option.filter_eq_some_iff.mp hcached).1
      refine (activate_decided io hcached hdigest).mono ?_
      constructor
      · exact fun h => ⟨hnone, previous.bundleId, candidate,
          by rw [hremembered previous hprevious, hcached]; rfl, h⟩
      · rintro ⟨-, id, candidate', hsome, h⟩
        rw [hremembered previous hprevious, hcached] at hsome
        cases hsome
        exact h

theorem rollback_decided (io : Surroundings)
    (hids : ((policyBundles w.rows).map PolicyBundleRow.recordId).Nodup)
    (hheld : Held w.process) : Decided (Strands io w) w (io.rollback.run w) := by
  rcases run_query none (io.fails 4) (fun rows => selectPolicyBundle rows .previous) w with
    ⟨hquery, hanswers⟩ | ⟨e, hquery, i, hi, hfail⟩
  swap
  · have hrun : io.rollback.run w = _ :=
      (Thread.run_bind_ok run_locked).trans (Thread.run_bind_error hquery)
    rw [hrun]
    exact Or.inl ⟨Or.inr (.refl w), fun h => hfail (h.1 i hi)⟩
  have hrun : io.rollback.run w = _ :=
    (Thread.run_bind_ok run_locked).trans (Thread.run_bind_ok hquery)
  rw [hrun]
  cases hprevious : selectPolicyBundle w.rows .previous with
  | some previous =>
    refine (rollback_record hids).mono ⟨fun h => ⟨hanswers, Or.inl h⟩, fun h => ?_⟩
    refine h.2.resolve_right (fun hremembered => ?_)
    exact nomatch hprevious.symm.trans hremembered.1
  | none =>
    refine (rollback_remembered hheld hprevious).mono
      ⟨fun h => ⟨hanswers, Or.inr h⟩, fun h => h.2.resolve_left ?_⟩
    rintro ⟨b, ⟨previous, hsome, -⟩, -⟩
    rw [hprevious] at hsome
    exact nomatch hsome

/-- **A rollback that raises changes nothing**, just when it does not strand a record. -/
theorem rollback_unchanged_iff (io : Surroundings) (w : PolicyWorld)
    (hids : ((policyBundles w.rows).map PolicyBundleRow.recordId).Nodup)
    (hheld : Held w.process) :
    ((∃ e, (io.rollback.run w).1 = .error e) → Unchanged w (io.rollback.run w).2) ↔
      ¬ Strands io w := by
  rcases rollback_decided io hids hheld with
    ⟨⟨bundle, hok⟩ | hunchanged, hnot⟩ | ⟨herror, hchanged, hstrands⟩
  · refine ⟨fun _ => hnot, ?_⟩
    rintro - ⟨e, herror⟩
    rw [hok] at herror
    exact nomatch herror
  · exact ⟨fun _ => hnot, fun _ _ => hunchanged⟩
  · exact ⟨fun h => absurd (h herror) hchanged, fun h => absurd hstrands h⟩

/-! ### The shared connection -/

/-- A call of the store on a backend. -/
def storeCallOn {α : Type} (b : Backend) (mark : Option PolicyMark) (p : StoreM α)
    (fails : ℕ → Option PyError) : LifecycleM α :=
  Thread.atomic mark (fun w =>
    ((b.outcome p fails w.rows).1, { w with rows := (b.outcome p fails w.rows).2 }))

/-- `rollback` on a backend.  What follows the store's own rollback, and the activation of a
remembered bundle, are given. -/
def rollbackOn (b : Backend) (io : Surroundings)
    (adoptRollback : PolicyBundleRow → LifecycleM PolicyBundle)
    (activate : String → LifecycleM PolicyBundle) : LifecycleM PolicyBundle := do
  let remembered ← locked none (fun process => (process.previous, process))
  let previous ← storeCallOn b none b.getPreviousPolicyBundle (io.fails 4)
  match previous with
  | some _ =>
    let activated ← storeCallOn b (some (.learn .own)) (b.rollbackPolicyBundle (io.clock 2))
      (io.fails 5)
    adoptRollback activated
  | none =>
    match remembered.filter PolicyBundle.isValid with
    | none => throw (.runtimeError "no last-known-good policy bundle to rollback to")
    | some bundle => activate bundle.bundleId

theorem rollbackOn_pool (io : Surroundings) :
    rollbackOn .pool io io.adoptRollback io.activate = io.rollback := rfl

/-- A rollback raises what its store call raises, and leaves what the store call has left. -/
theorem rollbackOn_raises {b : Backend} {previous : PolicyBundleRow} {e : PyError}
    {rows : List Row} {adoptRollback : PolicyBundleRow → LifecycleM PolicyBundle}
    {activate : String → LifecycleM PolicyBundle}
    (hprevious : b.outcome b.getPreviousPolicyBundle (io.fails 4) w.rows
      = (.ok (some previous), w.rows))
    (hcall : b.outcome (b.rollbackPolicyBundle (io.clock 2)) (io.fails 5) w.rows
      = (.error e, rows)) :
    (rollbackOn b io adoptRollback activate).run w = (.error e, { w with rows := rows }) := by
  have hquery : (storeCallOn b none b.getPreviousPolicyBundle (io.fails 4)).run w
      = (.ok (some previous), w) := by
    unfold storeCallOn
    rw [Thread.run_atomic, hprevious]
  have hrollback : (storeCallOn b (some (.learn .own)) (b.rollbackPolicyBundle (io.clock 2))
      (io.fails 5)).run w = (.error e, { w with rows := rows }) := by
    unfold storeCallOn
    rw [Thread.run_atomic, hcall]
  have hlocked : (locked none (fun process => (process.previous, process))).run w
      = (.ok w.process.previous, w) := rfl
  exact (Thread.run_bind_ok hlocked).trans
    ((Thread.run_bind_ok hquery).trans (Thread.run_bind_error hrollback))

/-! ### Files that cannot be loaded -/

/-- Nothing of the store fails, and the files of a record cannot be materialised. -/
def unreadable : Surroundings :=
  { reading (fun _ => "d1") with
    load := fun _ _ => .error (.runtimeError "policy source digest mismatch") }

theorem rollback_unchanged_iff_unreadable :
    ((∃ e, (unreadable.rollback.run afterTwo).1 = .error e) →
      Unchanged afterTwo (unreadable.rollback.run afterTwo).2) ↔ ¬ Strands unreadable afterTwo :=
  rollback_unchanged_iff unreadable afterTwo (by decide +kernel) run_afterTwo.sound.held

/-- One statement of the store's rollback fails. -/
def breakingAt (n : ℕ) : Surroundings :=
  { reading (fun _ => "d1") with
    fails := fun call i => if call = 5 ∧ i = n then some storeUnavailable else none }

/-- What is selected after a rollback on the shared connection of which a statement fails. -/
theorem rollbackOn_breakingAt {n : ℕ} {selection : List (String × PolicyStatus × Option ℤ)}
    (hcall : (Backend.shared.outcome (Backend.shared.rollbackPolicyBundle 0)
      ((breakingAt n).fails 5) afterTwo.rows).1.toOption.isNone = true)
    (hrows : selectionOf (Backend.shared.outcome (Backend.shared.rollbackPolicyBundle 0)
      ((breakingAt n).fails 5) afterTwo.rows).2 = selection)
    (adoptRollback : PolicyBundleRow → LifecycleM PolicyBundle)
    (activate : String → LifecycleM PolicyBundle) :
    ((rollbackOn .shared (breakingAt n) adoptRollback activate).run afterTwo).1.toOption.isNone
        = true ∧
      selectionOf ((rollbackOn .shared (breakingAt n) adoptRollback activate).run afterTwo).2.rows
        = selection := by
  obtain ⟨previous, hprevious⟩ : ∃ previous, selectPolicyBundle afterTwo.rows .previous
      = some previous := Option.isSome_iff_exists.mp (by decide +kernel)
  have hquery : Backend.shared.outcome Backend.shared.getPreviousPolicyBundle
      ((breakingAt n).fails 4) afterTwo.rows = (.ok (some previous), afterTwo.rows) := by
    rw [← hprevious]
    rfl
  cases hout : Backend.shared.outcome (Backend.shared.rollbackPolicyBundle 0)
    ((breakingAt n).fails 5) afterTwo.rows with
  | mk result rows =>
    rw [hout] at hcall hrows
    cases result with
    | ok r => cases hcall
    | error e =>
      rw [rollbackOn_raises hquery hout]
      exact ⟨rfl, hrows⟩

/-- The rollback raises, and the store has gone from the second record to the first.  On the shared
connection a rollback also raises when the promotion (its statement 4) or the commit (6) fails, and
what was written before stays: no record is active, or the first one. -/
theorem rollback_strands :
    ((unreadable.rollback.run afterTwo).1.toOption.isNone = true ∧
      selectionOf afterTwo.rows = [("r1", .previous, some 1), ("r2", .active, some 2)] ∧
      selectionOf (unreadable.rollback.run afterTwo).2.rows
        = [("r1", .active, some 3), ("r2", .previous, some 2)] ∧
      ¬ Unchanged afterTwo (unreadable.rollback.run afterTwo).2) ∧
    ∀ adoptRollback activate,
      (((rollbackOn .shared (breakingAt 4) adoptRollback activate).run
          afterTwo).1.toOption.isNone = true ∧
        selectionOf ((rollbackOn .shared (breakingAt 4) adoptRollback activate).run
          afterTwo).2.rows = [("r1", .previous, some 1), ("r2", .previous, some 2)]) ∧
      ((rollbackOn .shared (breakingAt 6) adoptRollback activate).run
          afterTwo).1.toOption.isNone = true ∧
        selectionOf ((rollbackOn .shared (breakingAt 6) adoptRollback activate).run
          afterTwo).2.rows = [("r1", .active, some 3), ("r2", .previous, some 2)] := by
  have hbefore : selectionOf afterTwo.rows
      = [("r1", .previous, some 1), ("r2", .active, some 2)] := by decide +kernel
  have hafter : selectionOf (unreadable.rollback.run afterTwo).2.rows
      = [("r1", .active, some 3), ("r2", .previous, some 2)] := by decide +kernel
  refine ⟨⟨by decide +kernel, hbefore, hafter, ?_⟩, fun adoptRollback activate =>
    ⟨rollbackOn_breakingAt (by decide +kernel) (by decide +kernel) adoptRollback activate,
      rollbackOn_breakingAt (by decide +kernel) (by decide +kernel) adoptRollback activate⟩⟩
  rintro ⟨⟨added, heq, -⟩, -⟩
  rw [hbefore, hafter] at heq
  exact nomatch (List.cons.inj heq).1

end ControlPlane.PolicyRollback
