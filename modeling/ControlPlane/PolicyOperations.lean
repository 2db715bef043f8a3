/-
# What the operations of the policy lifecycle keep

Whatever the operations of a process read from files, and whichever statements of their
store calls fail: the records stay as a log of selections says, and every bundle that the
process holds has a digest.
-/
import ControlPlane.PolicyHistory
import ControlPlane.PolicyLifecycle

namespace ControlPlane.PolicyOperations

open Transaction Selection Threads PolicyHistory

/-! ## Sound worlds -/

/-- Files never have an empty digest: it is the hexadecimal SHA-256 digest of their contents. -/
structure Digested (io : Surroundings) : Prop where
  load : ∀ read source bundle, io.load read source = .ok bundle → bundle.contentDigest ≠ ""
  loadRoot : ∀ read root, (io.loadRoot read root).contentDigest ≠ ""

/-- Every bundle that the process holds has a digest. -/
structure Held (process : PolicyProcess) : Prop where
  bundle : process.bundle.contentDigest ≠ ""
  previous : ∀ bundle, process.previous = some bundle → bundle.contentDigest ≠ ""
  candidates : ∀ id bundle, (id, bundle) ∈ process.candidates → bundle.contentDigest ≠ ""

/-- The records are as a log of selections says, and the bundles have digests. -/
structure Sound (w : PolicyWorld) : Prop where
  recorded : ∃ log, Recorded w.rows log
  held : Held w.process

namespace Held

variable {process : PolicyProcess} {bundle : PolicyBundle}

theorem lookup (h : Held process) {id : String}
    (hlookup : process.candidates.lookup id = some bundle) : bundle.contentDigest ≠ "" := by
  obtain ⟨l₁, l₂, hsplit, -⟩ := List.lookup_eq_some_iff.mp hlookup
  exact h.candidates id bundle (by rw [hsplit]; exact List.mem_append_right _ List.mem_cons_self)

theorem cached (h : Held process) {id : String} (hcached : process.cached id = some bundle) :
    bundle.contentDigest ≠ "" := by
  unfold PolicyProcess.cached at hcached
  cases hlookup : process.candidates.lookup id with
  | some b =>
    rw [hlookup, Option.some.injEq] at hcached
    exact hcached ▸ h.lookup hlookup
  | none =>
    rw [hlookup] at hcached
    dsimp only at hcached
    split at hcached
    · rw [Option.some.injEq] at hcached
      exact hcached ▸ h.bundle
    · exact h.previous bundle (Option.filter_eq_some_iff.mp hcached).1

theorem previous_or (h : Held process) {current : PolicyBundle} {c : Prop} [Decidable c]
    (hcurrent : current.contentDigest ≠ "") :
    ∀ bundle, (if c then some current else process.previous) = some bundle →
      bundle.contentDigest ≠ "" := by
  intro bundle hb
  split at hb
  · rw [Option.some.injEq] at hb
    exact hb ▸ hcurrent
  · exact h.previous bundle hb

theorem switch (h : Held process) {leaving loaded : PolicyBundle} (generation : ℤ)
    (hleaving : leaving.contentDigest ≠ "") (hloaded : loaded.contentDigest ≠ "") :
    Held (process.switch leaving loaded generation) where
  bundle := hloaded
  previous := h.previous_or hleaving
  candidates := h.candidates

theorem adopt (h : Held process) (generation : ℤ) (hb : bundle.contentDigest ≠ "") :
    Held (process.adopt bundle generation) where
  bundle := hb
  previous := h.previous_or h.bundle
  candidates := h.candidates

theorem remember (h : Held process) (source : SourceJson) (hb : bundle.contentDigest ≠ "") :
    Held (process.remember bundle source) where
  bundle := h.bundle
  previous := h.previous
  candidates := by
    intro id b hmem
    rcases List.mem_cons.mp hmem with heq | hmem
    · rw [(Prod.mk.inj heq).2]
      exact hb
    · exact h.candidates id b hmem

end Held

/-! ## Sections -/

section Sections

variable {α : Type} {io : Surroundings} {mark : Option PolicyMark}

theorem run_storeCall {p : StoreM α} {fails : ℕ → Option PyError} {w : PolicyWorld}
    {r : Except PyError α} {rows : List Row} (hr : (outcome p fails w.rows).1 = r)
    (hrows : (outcome p fails w.rows).2 = rows) :
    (storeCall mark p fails).run w = (r, { w with rows := rows }) := by
  subst hr hrows
  rfl

theorem run_locked {f : PolicyProcess → α × PolicyProcess} {w : PolicyWorld} :
    (locked mark f).run w = (.ok (f w.process).1, { w with process := (f w.process).2 }) := rfl

/-- A query that runs alone answers, unless a statement fails. -/
theorem run_query (mark : Option PolicyMark) (fails : ℕ → Option PyError) (f : List Row → α)
    (w : PolicyWorld) :
    (storeCall mark (do let rows ← session fetchAll; return f rows) fails).run w
      = (.ok (f w.rows), w) ∧ (∀ i < 3, fails i = none) ∨
    ∃ e, (storeCall mark (do let rows ← session fetchAll; return f rows) fails).run w
      = (.error e, w) ∧ ∃ i < 3, fails i ≠ none := by
  obtain ⟨hrows, ⟨⟨e, he⟩, hi⟩ | ⟨hok, hall⟩⟩ := outcome_query fails w.rows f
  · exact Or.inr ⟨e, run_storeCall he hrows, hi⟩
  · exact Or.inl ⟨run_storeCall hok hrows, hall⟩

/-- A call of the store that keeps the records. -/
theorem keeps_storeCall {p : StoreM α} {fails : ℕ → Option PyError} {Q : Except PyError α → Prop}
    (h : ∀ rows log, Recorded rows log → (∃ log', Recorded (outcome p fails rows).2 log') ∧
      Q (outcome p fails rows).1) : (storeCall mark p fails).Keeps Sound Q := by
  refine Thread.keeps_atomic (fun w hw => ?_)
  obtain ⟨log, hlog⟩ := hw.recorded
  obtain ⟨hrecorded, hQ⟩ := h w.rows log hlog
  exact ⟨⟨hrecorded, hw.held⟩, hQ⟩

theorem keeps_query {f : List Row → α} {fails : ℕ → Option PyError} :
    (storeCall mark (do let rows ← session fetchAll; return f rows) fails).Keeps Sound
      (fun _ => True) := by
  refine keeps_storeCall (fun rows log h => ⟨⟨log, ?_⟩, trivial⟩)
  rw [(outcome_query fails rows f).1]
  exact h

theorem keeps_upsert {new : NewPolicyBundle} {recordId : String} {now : Instant}
    {fails : ℕ → Option PyError} (hdigest : new.contentDigest ≠ "") :
    (storeCall mark (upsertPolicyBundleCandidate new recordId now) fails).Keeps Sound
      (fun _ => True) :=
  keeps_storeCall (fun _ log h => ⟨⟨log, h.upsert hdigest recordId now fails⟩, trivial⟩)

theorem keeps_activateRecord {bundleId contentDigest : String} {now : Instant}
    {fails : ℕ → Option PyError} :
    (storeCall mark (activatePolicyBundle bundleId contentDigest now) fails).Keeps Sound
      (fun _ => True) :=
  keeps_storeCall (fun _ _ h => ⟨⟨_, h.selects (fun _ => Recorded.activationTarget_mem)
    (activatePolicyBundle_selects fails bundleId contentDigest now)⟩, trivial⟩)

theorem keeps_rollbackRecord {now : Instant} {fails : ℕ → Option PyError} :
    (storeCall mark (rollbackPolicyBundle now) fails).Keeps Sound (fun _ => True) :=
  keeps_storeCall (fun _ _ h => ⟨⟨_, h.selects (fun _ => Recorded.rollbackTarget_mem)
    (rollbackPolicyBundle_selects fails _ now)⟩, trivial⟩)

theorem keeps_locked {f : PolicyProcess → α × PolicyProcess} {Q : Except PyError α → Prop}
    (h : ∀ process, Held process → Held (f process).2 ∧ Q (.ok (f process).1)) :
    (locked mark f).Keeps Sound Q :=
  Thread.keeps_atomic (fun w hw => ⟨⟨hw.recorded, (h w.process hw.held).1⟩,
    (h w.process hw.held).2⟩)

/-- A section that only looks at the process. -/
theorem keeps_look {f : PolicyProcess → α} {Q : Except PyError α → Prop}
    (h : ∀ process, Held process → Q (.ok (f process))) :
    (locked mark (fun process => (f process, process))).Keeps Sound Q :=
  keeps_locked (fun process hp => ⟨hp, h process hp⟩)

end Sections

/-! ## Operations -/

/-- The result is a bundle with a digest, if any. -/
def Yields (r : Except PyError PolicyBundle) : Prop :=
  ∀ bundle, r = .ok bundle → bundle.contentDigest ≠ ""

/-- The result is a bundle with a digest, if any. -/
def YieldsSome (r : Except PyError (Option PolicyBundle)) : Prop :=
  ∀ bundle, r = .ok (some bundle) → bundle.contentDigest ≠ ""

variable {io : Surroundings}

theorem checkLoaded_ok {record : PolicyBundleRow} {loaded bundle : PolicyBundle}
    (h : checkLoaded record loaded = .ok bundle) :
    bundle = loaded ∧ loaded.isValid = true ∧ loaded.contentDigest = record.contentDigest := by
  unfold checkLoaded at h
  split at h
  · exact nomatch h
  · split at h
    · exact nomatch h
    · cases h
      rename_i hvalid hdigest
      exact ⟨rfl, not_not.mp hvalid, not_not.mp hdigest⟩

theorem loadChecked_ok {record : PolicyBundleRow} {read : ℕ} {bundle : PolicyBundle}
    (h : (io.load read record.sourceJson >>= checkLoaded record) = .ok bundle) :
    io.load read record.sourceJson = .ok bundle ∧ bundle.isValid = true ∧
      bundle.contentDigest = record.contentDigest := by
  cases hload : io.load read record.sourceJson with
  | error e =>
    rw [hload] at h
    exact nomatch h
  | ok loaded =>
    rw [hload] at h
    obtain ⟨rfl, hvalid, hdigest⟩ := checkLoaded_ok h
    exact ⟨rfl, hvalid, hdigest⟩

theorem keeps_sync (hio : Digested io) (call read : ℕ) (force : Bool) :
    (io.sync call read force).Keeps Sound YieldsSome := by
  refine Thread.keeps_bind (Q := fun _ => True) ?_ (fun active _ => ?_) (fun _ _ _ h => nomatch h)
  · exact Thread.keeps_handle keeps_query (fun _ _ => trivial) (fun _ _ => trivial)
  cases active with
  | none => exact fun _ h => nomatch h
  | some record =>
    refine Thread.keeps_bind (Q := fun r => ∀ process, r = .ok process → Held process)
      (keeps_look (fun process hp => ?_)) (fun process hp => ?_) (fun _ _ _ h => nomatch h)
    · intro _ h
      cases h
      exact hp
    split
    · intro bundle h
      cases h
      exact (hp process rfl).bundle
    cases hload : io.load read record.sourceJson >>= checkLoaded record with
    | error e =>
      refine Thread.keeps_bind (Q := fun _ => True) (keeps_locked (fun process hp => ?_))
        (fun _ _ _ h => nomatch h) (fun _ _ _ h => nomatch h)
      exact ⟨⟨hp.bundle, hp.previous, hp.candidates⟩, trivial⟩
    | ok loaded =>
      have hloaded := hio.load read _ loaded (loadChecked_ok hload).1
      refine Thread.keeps_bind (Q := Yields) (keeps_look (fun process hp => ?_))
        (fun leaving hleaving => ?_) (fun _ _ _ h => nomatch h)
      · intro _ h
        cases h
        exact hp.bundle
      refine Thread.keeps_bind (Q := fun _ => True) (keeps_locked (fun process hp => ?_))
        (fun _ _ bundle h => ?_) (fun _ _ _ h => nomatch h)
      · exact ⟨hp.switch _ (hleaving leaving rfl) hloaded, trivial⟩
      · cases h
        exact hloaded

theorem keeps_getCandidate (hio : Digested io) (bundleId : String) :
    (io.getCandidate bundleId).Keeps Sound YieldsSome := by
  refine Thread.keeps_bind (Q := YieldsSome) (keeps_look (fun process hp => ?_))
    (fun cached hcached => ?_) (fun _ _ _ h => nomatch h)
  · exact fun bundle h => hp.cached (Except.ok.inj h)
  cases cached with
  | some bundle =>
    intro b h
    cases h
    exact hcached bundle rfl
  | none =>
    refine Thread.keeps_bind keeps_query (fun record _ => ?_) (fun _ _ _ h => nomatch h)
    cases record with
    | none => exact fun _ h => nomatch h
    | some record =>
      dsimp only
      cases hload : io.load 0 record.sourceJson with
      | error e => exact fun _ h => nomatch h
      | ok bundle =>
        have hbundle := hio.load 0 _ bundle hload
        have hdone : ∀ u : PUnit, (fun _ => pure (some bundle) : PUnit →
            LifecycleM (Option PolicyBundle)) u |>.Keeps Sound YieldsSome := by
          intro _ b h
          cases h
          exact hbundle
        dsimp only
        split
        · refine Thread.keeps_bind (Q := fun _ => True) (keeps_locked (fun process hp => ?_))
            (fun u _ => hdone u) (fun _ _ _ h => nomatch h)
          exact ⟨hp.remember _ hbundle, trivial⟩
        · exact hdone ⟨⟩

theorem keeps_findCandidate (hio : Digested io) (bundleId : String)
    {remembered : Option PolicyBundle}
    (h : ∀ bundle, remembered = some bundle → bundle.contentDigest ≠ "") :
    (io.findCandidate bundleId remembered).Keeps Sound Yields := by
  refine Thread.keeps_bind (Q := YieldsSome) (R := Yields) ?_ (fun candidate hcandidate => ?_)
    (fun _ _ _ h => nomatch h)
  · unfold Surroundings.rememberedOr
    cases hr : remembered.filter PolicyBundle.isValid with
    | some bundle =>
      intro b hb
      cases hb
      exact h bundle (Option.filter_eq_some_iff.mp hr).1
    | none => exact keeps_getCandidate hio bundleId
  · cases hc : candidate.filter PolicyBundle.isValid with
    | none => exact fun _ h => nomatch h
    | some bundle =>
      intro b hb
      cases hb
      refine hcandidate bundle ?_
      rw [(Option.filter_eq_some_iff.mp hc).1]

theorem keeps_sourceOf (io : Surroundings) (candidate : PolicyBundle) (remembered : SourceJson) :
    (io.sourceOf candidate remembered).Keeps Sound (fun _ => True) := by
  refine Thread.keeps_bind (Q := fun _ => True) (R := fun _ => True) ?_ (fun source _ => ?_)
    (fun _ _ => trivial)
  · unfold Surroundings.rememberedSource
    split
    · exact Thread.keeps_bind keeps_query (fun _ _ => trivial) (fun _ _ => trivial)
    · trivial
  · split <;> trivial

theorem keeps_activate (hio : Digested io) (bundleId : String) :
    (io.activate bundleId).Keeps Sound Yields := by
  refine Thread.keeps_bind (Q := fun r => ∀ process, r = .ok process → Held process)
    (keeps_look (fun process hp => ?_)) (fun process hp => ?_) (fun _ _ _ h => nomatch h)
  · intro _ h
    cases h
    exact hp
  refine Thread.keeps_bind (keeps_findCandidate hio bundleId
    (fun bundle hb => (hp process rfl).lookup hb)) (fun candidate hcandidate => ?_)
    (fun _ _ _ h => nomatch h)
  refine Thread.keeps_bind (keeps_sourceOf io candidate _) (fun source _ => ?_)
    (fun _ _ _ h => nomatch h)
  refine Thread.keeps_bind (keeps_upsert (hcandidate candidate rfl)) (fun _ _ => ?_)
    (fun _ _ _ h => nomatch h)
  refine Thread.keeps_bind keeps_activateRecord (fun activated _ => ?_) (fun _ _ _ h => nomatch h)
  refine Thread.keeps_bind (Q := fun _ => True) (keeps_locked (fun process hp => ?_))
    (fun _ _ bundle hb => ?_) (fun _ _ _ h => nomatch h)
  · have hadopt := hp.adopt (activated.generation.getD 0) (hcandidate candidate rfl)
    exact ⟨⟨hadopt.bundle, hadopt.previous, hadopt.candidates⟩, trivial⟩
  · cases hb
    exact hcandidate candidate rfl

theorem keeps_adoptRollback (hio : Digested io) (activated : PolicyBundleRow) :
    (io.adoptRollback activated).Keeps Sound Yields := by
  refine Thread.keeps_bind (keeps_sync hio 6 1 true) (fun synced hsynced => ?_)
    (fun _ _ _ h => nomatch h)
  cases synced with
  | some bundle =>
    intro b hb
    cases hb
    exact hsynced bundle rfl
  | none =>
    refine Thread.keeps_bind (Q := Yields) (fun bundle hload => hio.load 2 _ bundle hload)
      (fun loaded hloaded => ?_) (fun _ _ _ h => nomatch h)
    split
    · exact fun _ h => nomatch h
    · refine Thread.keeps_bind (Q := fun _ => True) (keeps_locked (fun process hp => ?_))
        (fun _ _ bundle hb => ?_) (fun _ _ _ h => nomatch h)
      · exact ⟨hp.adopt _ (hloaded loaded rfl), trivial⟩
      · cases hb
        exact hloaded loaded rfl

theorem keeps_rollback (hio : Digested io) : io.rollback.Keeps Sound Yields := by
  refine Thread.keeps_bind (Q := fun _ => True) (keeps_look (fun _ _ => trivial))
    (fun remembered _ => ?_) (fun _ _ _ h => nomatch h)
  refine Thread.keeps_bind keeps_query (fun previous _ => ?_) (fun _ _ _ h => nomatch h)
  cases previous with
  | some record =>
    exact Thread.keeps_bind keeps_rollbackRecord
      (fun activated _ => keeps_adoptRollback hio activated)
      (fun _ _ _ h => nomatch h)
  | none =>
    dsimp only
    split
    · exact fun _ h => nomatch h
    · exact keeps_activate hio _

theorem keeps_seed (hio : Digested io) {current : PolicyBundle}
    (hcurrent : current.contentDigest ≠ "") : (io.seed current).Keeps Sound Yields := by
  refine Thread.keeps_bind (Q := fun _ => True) trivial (fun root _ => ?_) (fun _ _ _ h => nomatch h)
  dsimp only
  split
  · exact fun _ h => nomatch h
  refine Thread.keeps_bind (keeps_upsert (hio.loadRoot 0 root)) (fun _ _ => ?_)
    (fun _ _ _ h => nomatch h)
  refine Thread.keeps_bind keeps_activateRecord (fun activated _ => ?_) (fun _ _ _ h => nomatch h)
  refine Thread.keeps_bind (Q := fun _ => True) (keeps_locked (fun process hp => ?_))
    (fun _ _ bundle hb => ?_) (fun _ _ _ h => nomatch h)
  · exact ⟨⟨hio.loadRoot 1 root, hp.previous_or hcurrent, hp.candidates⟩, trivial⟩
  · cases hb
    exact hio.loadRoot 1 root

theorem keeps_syncOrSeed (hio : Digested io) {current : PolicyBundle}
    (hcurrent : current.contentDigest ≠ "") : (io.syncOrSeed current).Keeps Sound Yields := by
  refine Thread.keeps_bind keeps_query (fun durable _ => ?_) (fun _ _ _ h => nomatch h)
  cases durable with
  | none => exact keeps_seed hio hcurrent
  | some record =>
    refine Thread.keeps_bind (keeps_sync hio 6 1 true) (fun synced hsynced => ?_)
      (fun _ _ _ h => nomatch h)
    cases synced with
    | some bundle =>
      intro b hb
      cases hb
      exact hsynced bundle rfl
    | none =>
      exact Thread.keeps_bind (Q := fun _ => True) (keeps_look (fun _ _ => trivial))
        (fun _ _ _ h => nomatch h) (fun _ _ _ h => nomatch h)

theorem keeps_ensureBootstrapped (hio : Digested io) :
    io.ensureBootstrapped.Keeps Sound Yields := by
  refine Thread.keeps_bind (Q := Yields) (keeps_look (fun process hp => ?_))
    (fun current hcurrent => ?_) (fun _ _ _ h => nomatch h)
  · intro _ h
    cases h
    exact hp.bundle
  have hmark : ∀ f : PolicyProcess → PolicyProcess, (∀ process, Held process → Held (f process)) →
      (locked none (fun process => ((), f process))).Keeps Sound (fun _ => True) :=
    fun f hf => keeps_locked (fun process hp => ⟨hf process hp, trivial⟩)
  refine Thread.keeps_handle (keeps_syncOrSeed hio (hcurrent current rfl)) (fun _ hb => hb)
    (fun e _ => ?_)
  refine Thread.keeps_bind (hmark _ (fun process hp => ⟨hp.bundle, hp.previous, hp.candidates⟩))
    (fun _ _ => ?_) (fun _ _ _ h => nomatch h)
  split
  · refine Thread.keeps_bind (hmark _ (fun process hp => ⟨hp.bundle, hp.previous, hp.candidates⟩))
      (fun _ _ bundle hb => ?_) (fun _ _ _ h => nomatch h)
    cases hb
    exact hcurrent current rfl
  · exact Thread.keeps_bind
      (hmark _ (fun process hp => ⟨hp.bundle, hp.previous, hp.candidates⟩))
      (fun _ _ _ h => nomatch h) (fun _ _ _ h => nomatch h)

theorem keeps_validateFromPath (hio : Digested io) (root : String)
    (source : Option PolicySource) : (io.validateFromPath root source).Keeps Sound Yields := by
  have hloaded := hio.loadRoot 0 root
  unfold Surroundings.validateFromPath
  dsimp only
  split
  · intro bundle hb
    cases hb
    exact hloaded
  refine Thread.keeps_bind (Q := fun _ => True) (keeps_locked (fun process hp => ?_))
    (fun _ _ => ?_) (fun _ _ _ h => nomatch h)
  · exact ⟨hp.remember _ hloaded, trivial⟩
  refine Thread.keeps_bind (keeps_upsert hloaded) (fun _ _ bundle hb => ?_)
    (fun _ _ _ h => nomatch h)
  cases hb
  exact hloaded

end ControlPlane.PolicyOperations
