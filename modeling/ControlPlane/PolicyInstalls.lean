/-
# The generations that a process installs

Threads of one process synchronise, activate and roll back, and their sections interleave.
Each install is of a generation that an earlier call of the store has given.  Two installs
in the order of their calls are in the order of their generations, and two that overtake
each other need not be.
-/
import ControlPlane.PolicyFidelity

namespace ControlPlane.PolicyInstalls

open Transaction Selection Threads PolicyHistory PolicyOperations PolicyFidelity

/-! ## The law of a section -/

/-- The generation that a thread knows from each of its calls. -/
abbrev Known := Slot → Option ℤ

/-- The largest generation never decreases, and grows only with a selecting call.  Only an
install changes what the process runs, to a bundle of the generation that the thread knows. -/
structure Lawful (known : Known) (mark : Option PolicyMark) (w w' : PolicyWorld) : Prop where
  grows : maxGeneration w.rows ≤ maxGeneration w'.rows
  stays : mark ≠ some (.learn .own) → maxGeneration w'.rows = maxGeneration w.rows
  installs : ∀ slot, mark = some (.install slot) →
    known slot = some w'.process.observedGeneration
  keeps : (∀ slot, mark ≠ some (.install slot)) →
    w'.process.bundle = w.process.bundle ∧
      w'.process.observedGeneration = w.process.observedGeneration

/-- A call of the store tells a thread the largest generation. -/
def Known.after (known : Known) (mark : Option PolicyMark) (w' : PolicyWorld) : Known :=
  match mark with
  | some (.learn slot) => Function.update known slot (some (maxGeneration w'.rows))
  | _ => known

/-- What is known of the sections of the lifecycle. -/
def generations : Thread.Tracker PolicyWorld PolicyMark Known where
  law := Lawful
  learn := Known.after

section Sections

variable {α : Type} {io : Surroundings} {known : Known} {mark : Option PolicyMark}
  {rows : List Row} {log : Log String}

/-- The active record has the largest generation. -/
theorem active_generation (h : Recorded rows log) {record : PolicyBundleRow}
    (hactive : selectPolicyBundle rows .active = some record) :
    record.generation.getD 0 = maxGeneration rows := by
  obtain ⟨hmem, hstatus⟩ := selectPolicyBundle_some hactive
  rw [h.generation record hmem, generation_of_current ((h.active_iff hmem).mp hstatus),
    h.maxGeneration_eq]
  rfl

/-- A selecting call never lowers the largest generation, and returns a record that has it. -/
theorem selects_generation (h : Recorded rows log) {target : PolicyBundleRow → Prop}
    {now : String} {k n : ℕ} {fails : ℕ → Option PyError}
    {out : Except PyError PolicyBundleRow × List Row}
    (hmem : ∀ b, target b → b ∈ policyBundles rows) (hout : Selects rows target now k n fails out) :
    maxGeneration rows ≤ maxGeneration out.2 ∧
      ∀ r, out.1 = .ok r → r.generation.getD 0 = maxGeneration out.2 := by
  constructor
  · rcases hout with ⟨-, hrows, -⟩ | ⟨b, -, hb, -, hrows, -⟩
    · rw [hrows]
    · have hnew := le_maxGeneration (g := maxGeneration rows + 1)
        (mem_activated (hmem b hb) now) rfl
      rw [hrows]
      omega
  · intro r hok
    have hact := h.selects_ok hmem hout hok
    exact active_generation hact.recorded hact.active

/-- A call of the store: the process stays as it is. -/
theorem tracks_storeCall {p : StoreM α} {fails : ℕ → Option PyError}
    {Q : Known → Except PyError α → Prop} (hmark : ∀ slot, mark ≠ some (.install slot))
    (h : ∀ rows log process, Recorded rows log →
      (∃ log', Recorded (outcome p fails rows).2 log') ∧
      maxGeneration rows ≤ maxGeneration (outcome p fails rows).2 ∧
      (mark ≠ some (.learn .own) →
        maxGeneration (outcome p fails rows).2 = maxGeneration rows) ∧
      Q (known.after mark ⟨(outcome p fails rows).2, process⟩) (outcome p fails rows).1) :
    (storeCall mark p fails).Tracks generations Sound Q known := by
  refine Thread.tracks_atomic (fun w hw => ?_)
  obtain ⟨log, hlog⟩ := hw.recorded
  obtain ⟨hrecorded, hgrows, hstays, hQ⟩ := h w.rows log w.process hlog
  refine ⟨⟨hrecorded, hw.held⟩, ⟨hgrows, hstays, ?_, fun _ => ⟨rfl, rfl⟩⟩, hQ⟩
  exact fun slot heq => absurd heq (hmark slot)

/-- A query. -/
theorem tracks_query {f : List Row → α} {fails : ℕ → Option PyError} :
    (storeCall none (do let rows ← session fetchAll; return f rows) fails).Tracks generations Sound
      (fun known' _ => known' = known) known := by
  refine tracks_storeCall (fun _ h => nomatch h) (fun rows log process h => ?_)
  rw [(outcome_query fails rows f).1]
  exact ⟨⟨log, h⟩, le_refl _, fun _ => rfl, rfl⟩

theorem tracks_upsert {new : NewPolicyBundle} {recordId : String} {now : Instant}
    {fails : ℕ → Option PyError} (hdigest : new.contentDigest ≠ "") :
    (storeCall none (upsertPolicyBundleCandidate new recordId now) fails).Tracks generations Sound
      (fun known' _ => known' = known) known := by
  refine tracks_storeCall (fun _ h => nomatch h) (fun rows log process h => ?_)
  have hafter := h.upsert hdigest recordId now fails
  have hsame : maxGeneration (outcome (upsertPolicyBundleCandidate new recordId now) fails rows).2
      = maxGeneration rows := hafter.maxGeneration_eq.trans h.maxGeneration_eq.symm
  exact ⟨⟨log, hafter⟩, le_of_eq hsame.symm, fun _ => hsame, rfl⟩

/-- The call that selects a record tells its generation. -/
theorem tracks_selects {p : StoreM PolicyBundleRow} {fails : ℕ → Option PyError}
    {target : List Row → PolicyBundleRow → Prop} {now : String} {k n : ℕ}
    (hmem : ∀ rows b, target rows b → b ∈ policyBundles rows)
    (hout : ∀ rows, Selects rows (target rows) now k n fails (outcome p fails rows)) :
    (storeCall (some (.learn .own)) p fails).Tracks generations Sound
      (fun known' r => ∀ record, r = .ok record →
        known' .own = some (record.generation.getD 0)) known := by
  refine tracks_storeCall (fun _ h => nomatch h) (fun rows log process h => ?_)
  obtain ⟨hgrows, hreturns⟩ := selects_generation h (hmem rows) (hout rows)
  refine ⟨⟨_, h.selects (hmem rows) (hout rows)⟩, hgrows, fun hne => absurd rfl hne, ?_⟩
  intro record hok
  rw [hreturns record hok]
  exact Function.update_self (Slot.own) (some (maxGeneration (outcome p fails rows).2)) known

/-- A section that installs what the thread knows. -/
theorem tracks_install {slot : Slot} {f : PolicyProcess → Unit × PolicyProcess}
    {Q : Known → Except PyError Unit → Prop} {generation : ℤ}
    (hknown : known slot = some generation)
    (hf : ∀ process, (f process).2.observedGeneration = generation)
    (hheld : ∀ process, Held process → Held (f process).2) (hQ : Q known (.ok ())) :
    (locked (some (.install slot)) f).Tracks generations Sound Q known := by
  refine Thread.tracks_atomic (fun w hw => ⟨⟨hw.recorded, hheld _ hw.held⟩,
    ⟨le_refl _, fun _ => rfl, ?_, fun hne => absurd rfl (hne slot)⟩, hQ⟩)
  intro slot' heq
  cases heq
  rw [hknown]
  exact congrArg some (hf w.process).symm

/-- A section that does not install. -/
theorem tracks_locked {f : PolicyProcess → α × PolicyProcess}
    {Q : Known → Except PyError α → Prop}
    (hf : ∀ process, (f process).2.bundle = process.bundle ∧
      (f process).2.observedGeneration = process.observedGeneration)
    (hheld : ∀ process, Held process → Held (f process).2 ∧ Q known (.ok (f process).1)) :
    (locked none f).Tracks generations Sound Q known :=
  Thread.tracks_atomic (fun w hw => ⟨⟨hw.recorded, (hheld _ hw.held).1⟩,
    ⟨le_refl _, fun _ => rfl, (fun _ h => nomatch h), fun _ => hf w.process⟩, (hheld _ hw.held).2⟩)

/-- A section that only looks at the process. -/
theorem tracks_look {f : PolicyProcess → α} {Q : Known → Except PyError α → Prop}
    (h : ∀ process, Held process → Q known (.ok (f process))) :
    (locked none (fun process => (f process, process))).Tracks generations Sound Q known :=
  tracks_locked (fun _ => ⟨rfl, rfl⟩) (fun process hp => ⟨hp, h process hp⟩)

end Sections

/-! ## The operations -/

section Operations

variable {io : Surroundings} {known : Known}

/-- The read of a synchronisation tells the generation of the active record. -/
theorem tracks_readActive (io : Surroundings) (call : ℕ) :
    (tryCatch (storeCall (some (.learn .sync)) getActivePolicyBundle (io.fails call))
      (fun _ => pure none) : LifecycleM (Option PolicyBundleRow)).Tracks generations Sound
      (fun known' r => known' .own = known .own ∧ ∀ record, r = .ok (some record) →
        known' .sync = some (record.generation.getD 0)) known := by
  refine Thread.tracks_handle (Q := fun known' r => known' .own = known .own ∧
    ∀ record, r = .ok (some record) → known' .sync = some (record.generation.getD 0)) ?_
    (fun _ _ h => h) (fun _ e h => ⟨h.1, fun _ h => nomatch h⟩)
  refine tracks_storeCall (fun _ h => nomatch h) (fun rows log process h => ?_)
  have hsame : (outcome getActivePolicyBundle (io.fails call) rows).2 = rows :=
    (outcome_query (io.fails call) rows (fun rows => selectPolicyBundle rows .active)).1
  refine ⟨⟨log, hsame.symm ▸ h⟩, le_of_eq (congrArg maxGeneration hsame.symm),
    fun _ => congrArg maxGeneration hsame, rfl, fun record hok => ?_⟩
  rcases (outcome_query (io.fails call) rows (fun rows => selectPolicyBundle rows .active)).2 with
    ⟨⟨e, herror⟩, -⟩ | ⟨hread, -⟩
  · exact nomatch hok.symm.trans herror
  · have hactive : selectPolicyBundle rows .active = some record :=
      Except.ok.inj (hread.symm.trans hok)
    show some (maxGeneration (outcome getActivePolicyBundle (io.fails call) rows).2) = _
    rw [hsame, active_generation h hactive]

/-- A synchronisation installs what its own read has told it. -/
theorem tracks_sync (hio : Digested io) (call read : ℕ) (force : Bool) :
    (io.sync call read force).Tracks generations Sound
      (fun known' _ => known' .own = known .own) known := by
  refine Thread.tracks_bind (tracks_readActive io call) (fun known₁ active hread => ?_)
    (fun _ _ h => h.1)
  obtain ⟨hown, hsync⟩ := hread
  cases active with
  | none => exact hown
  | some record =>
    refine Thread.tracks_bind (Q := fun known' _ => known' = known₁)
      (tracks_look (fun _ _ => rfl)) (fun known₂ current h₂ => ?_) (fun _ _ h => h ▸ hown)
    subst h₂
    split
    · exact hown
    cases hload : io.load read record.sourceJson >>= checkLoaded record with
    | error e =>
      refine Thread.tracks_bind (Q := fun known' _ => known' = known₂)
        (tracks_locked (fun _ => ⟨rfl, rfl⟩) (fun process hp => ⟨?_, rfl⟩))
        (fun _ _ h => h ▸ hown) (fun _ _ h => h ▸ hown)
      exact ⟨hp.bundle, hp.previous, hp.candidates⟩
    | ok loaded =>
      have hloaded := hio.load read _ loaded (loadChecked_ok hload).1
      refine Thread.tracks_bind (Q := fun known' r => known' = known₂ ∧ PolicyOperations.Yields r)
        (tracks_look (fun process hp => ⟨rfl, ?_⟩)) (fun known₃ leaving h₃ => ?_)
        (fun _ _ h => h.1 ▸ hown)
      · intro _ h
        cases h
        exact hp.bundle
      obtain ⟨rfl, hleaving⟩ := h₃
      refine Thread.tracks_bind (Q := fun known' _ => known' = known₃)
        (tracks_install (hsync record rfl) (fun _ => rfl)
          (fun process hp => hp.switch _ (hleaving leaving rfl) hloaded) rfl)
        (fun _ _ h => h ▸ hown) (fun _ _ h => h ▸ hown)

theorem tracks_getCandidate (hio : Digested io) (bundleId : String) :
    (io.getCandidate bundleId).Tracks generations Sound (fun known' _ => known' = known)
      known := by
  refine Thread.tracks_bind (Q := fun known' _ => known' = known) (tracks_look (fun _ _ => rfl))
    (fun known₁ cached h₁ => ?_) (fun _ _ h => h)
  subst h₁
  cases cached with
  | some bundle => rfl
  | none =>
    refine Thread.tracks_bind tracks_query (fun known₂ record h₂ => ?_) (fun _ _ h => h)
    subst h₂
    cases record with
    | none => rfl
    | some record =>
      dsimp only
      cases hload : io.load 0 record.sourceJson with
      | error e => rfl
      | ok bundle =>
        have hbundle := hio.load 0 _ bundle hload
        dsimp only
        split
        · refine Thread.tracks_bind (Q := fun known' _ => known' = known₂)
            (tracks_locked (fun _ => ⟨rfl, rfl⟩) (fun process hp => ⟨?_, rfl⟩))
            (fun _ _ h => h) (fun _ _ h => h)
          exact hp.remember _ hbundle
        · rfl

theorem tracks_findCandidate (hio : Digested io) (bundleId : String)
    (remembered : Option PolicyBundle) :
    (io.findCandidate bundleId remembered).Tracks generations Sound
      (fun known' _ => known' = known) known := by
  refine Thread.tracks_bind (Q := fun known' _ => known' = known) ?_ (fun known₁ candidate h₁ => ?_)
    (fun _ _ h => h)
  · unfold Surroundings.rememberedOr
    cases remembered.filter PolicyBundle.isValid with
    | some bundle => rfl
    | none => exact tracks_getCandidate hio bundleId
  · subst h₁
    cases candidate.filter PolicyBundle.isValid with
    | none => rfl
    | some bundle => rfl

theorem tracks_sourceOf (io : Surroundings) (candidate : PolicyBundle) (source : SourceJson) :
    (io.sourceOf candidate source).Tracks generations Sound (fun known' _ => known' = known)
      known := by
  refine Thread.tracks_bind (Q := fun known' _ => known' = known) ?_ (fun known₁ json h₁ => ?_)
    (fun _ _ h => h)
  · unfold Surroundings.rememberedSource
    split
    · exact Thread.tracks_bind tracks_query (fun _ _ h => h) (fun _ _ h => h)
    · rfl
  · subst h₁
    split <;> rfl

/-- An activation installs the generation that its own call has given. -/
theorem tracks_activate (hio : Digested io) (bundleId : String) :
    (io.activate bundleId).Tracks generations Sound (fun _ _ => True) known := by
  refine Thread.tracks_bind (Q := fun known' r => known' = known ∧
      ∀ process, r = .ok process → Held process) (tracks_look (fun process hp => ⟨rfl, ?_⟩))
    (fun known₁ process h₁ => ?_) (fun _ _ _ => trivial)
  · intro _ h
    cases h
    exact hp
  obtain ⟨-, hp⟩ := h₁
  refine Thread.tracks_bind ((tracks_findCandidate hio bundleId _).and_keeps
    (keeps_findCandidate hio bundleId (fun bundle hb => (hp process rfl).lookup hb)))
    (fun known₂ candidate h₂ => ?_) (fun _ _ _ => trivial)
  have hcandidate := h₂.2 candidate rfl
  refine Thread.tracks_bind (tracks_sourceOf io candidate _) (fun known₃ source _ => ?_)
    (fun _ _ _ => trivial)
  refine Thread.tracks_bind (tracks_upsert hcandidate) (fun known₄ _ _ => ?_)
    (fun _ _ _ => trivial)
  refine Thread.tracks_bind (tracks_selects (fun _ _ => Recorded.activationTarget_mem)
    (fun _ => activatePolicyBundle_selects _ _ _ _)) (fun known₅ activated h₅ => ?_)
    (fun _ _ _ => trivial)
  refine Thread.tracks_bind (Q := fun _ _ => True)
    (tracks_install (h₅ activated rfl) (fun _ => rfl) (fun process hp => ?_) trivial)
    (fun _ _ _ => trivial) (fun _ _ _ => trivial)
  have hadopt := hp.adopt (activated.generation.getD 0) hcandidate
  exact ⟨hadopt.bundle, hadopt.previous, hadopt.candidates⟩

theorem tracks_adoptRollback (hio : Digested io) {activated : PolicyBundleRow}
    (hown : known .own = some (activated.generation.getD 0)) :
    (io.adoptRollback activated).Tracks generations Sound (fun _ _ => True) known := by
  refine Thread.tracks_bind (tracks_sync hio 6 1 true) (fun known₁ synced h₁ => ?_)
    (fun _ _ _ => trivial)
  cases synced with
  | some bundle => trivial
  | none =>
    refine Thread.tracks_bind (Q := fun known' r => known' = known₁ ∧ PolicyOperations.Yields r)
      ⟨rfl, fun bundle hload => hio.load 2 _ bundle hload⟩ (fun known₂ loaded h₂ => ?_)
      (fun _ _ _ => trivial)
    obtain ⟨rfl, hloaded⟩ := h₂
    split
    · trivial
    · exact Thread.tracks_bind (Q := fun _ _ => True)
        (tracks_install (h₁.trans hown) (fun _ => rfl)
          (fun process hp => hp.adopt _ (hloaded loaded rfl)) trivial)
        (fun _ _ _ => trivial) (fun _ _ _ => trivial)

/-- A rollback installs the generation of its own call, or of the synchronisation after it. -/
theorem tracks_rollback (hio : Digested io) :
    io.rollback.Tracks generations Sound (fun _ _ => True) known := by
  refine Thread.tracks_bind (Q := fun _ _ => True) (tracks_look (fun _ _ => trivial))
    (fun known₁ remembered _ => ?_) (fun _ _ _ => trivial)
  refine Thread.tracks_bind tracks_query (fun known₂ previous _ => ?_) (fun _ _ _ => trivial)
  cases previous with
  | some record =>
    refine Thread.tracks_bind (tracks_selects (fun _ _ => Recorded.rollbackTarget_mem)
      (fun rows => rollbackPolicyBundle_selects _ rows _)) (fun known₃ activated h₃ => ?_)
      (fun _ _ _ => trivial)
    exact tracks_adoptRollback hio (h₃ activated rfl)
  | none =>
    dsimp only
    split
    · trivial
    · exact tracks_activate hio _

end Operations

/-! ## Interleavings -/

/-- A call of a thread. -/
inductive Call where
  | sync (force : Bool)
  | activate (bundleId : String)
  | rollback

/-- The operation of a call. -/
def Call.operation : Call → Operation
  | sync force => .sync force
  | activate bundleId => .activate bundleId
  | rollback => .rollback

/-- What is seen of an interleaving: how many activations and rollbacks the store has served,
how many it had served when a thread made its calls, and when the thread that installed last
made its own; and the installed generations, newest first. -/
structure Ledger where
  served : ℕ := 0
  seen : ℕ → Slot → ℕ := fun _ _ => 0
  behind : ℕ := 0
  installed : List ℤ := []

/-- The ledger after a section of a thread. -/
def Ledger.note (l : Ledger) (i : ℕ) (mark : Option PolicyMark) (w' : PolicyWorld) : Ledger :=
  match mark with
  | none => l
  | some (.learn .sync) =>
    { l with seen := Function.update l.seen i (Function.update (l.seen i) .sync l.served) }
  | some (.learn .own) =>
    { l with
      served := l.served + 1
      seen := Function.update l.seen i (Function.update (l.seen i) .own (l.served + 1)) }
  | some (.install slot) =>
    { l with
      behind := l.seen i slot
      installed := w'.process.observedGeneration :: l.installed }

/-- The threads of a process, with the ledger. -/
structure Interleaving where
  pool : Pool PolicyWorld PolicyMark PyError (Option PolicyBundle)
  ledger : Ledger := {}

namespace Interleaving

/-- Every thread is about to make its call. -/
def start (w : PolicyWorld) (calls : ℕ → Surroundings × Call) : Interleaving where
  pool := { world := w, threads := fun i => (calls i).2.operation.program (calls i).1 }

variable (s : Interleaving)

/-- A section of a thread runs. -/
def step (i : ℕ) : Interleaving where
  pool := s.pool.step i
  ledger := s.ledger.note i (s.pool.mark i) (s.pool.step i).world

/-- The threads run their sections in the order of a schedule. -/
def run (schedule : List ℕ) : Interleaving := schedule.foldl step s

/-- If the thread installs next, the store has not served an activation or a rollback between
its call and a later one, behind the last install. -/
def InOrder (i : ℕ) : Prop :=
  ∀ slot, s.pool.mark i = some (.install slot) → s.ledger.behind ≤ s.ledger.seen i slot

/-- Every install of the schedule is in order. -/
def InstallsInOrder : Interleaving → List ℕ → Prop
  | _, [] => True
  | s, i :: schedule => s.InOrder i ∧ InstallsInOrder (s.step i) schedule

end Interleaving

/-! ## The invariant -/

/-- The generations are those of a history `generation` that grows with the served calls, and
the process runs the one that was installed last, or still its first. -/
structure Consistent (first : ℤ) (s : Interleaving) (known : ℕ → Known) (generation : ℕ → ℤ) :
    Prop where
  tracked : Pool.Tracked generations Sound (fun _ _ => True) s.pool known
  monotone : ∀ v v', v ≤ v' → generation v ≤ generation v'
  now : maxGeneration s.pool.world.rows = generation s.ledger.served
  known : ∀ i slot g, known i slot = some g →
    s.ledger.seen i slot ≤ s.ledger.served ∧ g = generation (s.ledger.seen i slot)
  behind : s.ledger.behind ≤ s.ledger.served
  last : ∀ g ∈ s.ledger.installed.head?, g = generation s.ledger.behind
  sorted : s.ledger.installed.Pairwise (fun later earlier => earlier ≤ later)
  shown : s.pool.world.process.observedGeneration = s.ledger.installed.head?.getD first

namespace Consistent

variable {first : ℤ} {s : Interleaving} {known : ℕ → Known} {generation : ℕ → ℤ} {i : ℕ}

theorem keeps_program (hio : Digested io) (call : Call) {known : Known} :
    (call.operation.program io).Tracks generations Sound (fun _ _ => True) known := by
  cases call with
  | sync force => exact Thread.tracks_mono (tracks_sync hio 6 1 force) (fun _ _ _ => trivial)
  | activate bundleId =>
    exact Thread.tracks_bind (tracks_activate hio bundleId) (fun _ _ _ => trivial)
      (fun _ _ _ => trivial)
  | rollback =>
    exact Thread.tracks_bind (tracks_rollback hio) (fun _ _ _ => trivial) (fun _ _ _ => trivial)

/-- What a thread knows after its section, when only its own slots have changed. -/
theorem known_update {seen : ℕ → Slot → ℕ} {served : ℕ} {slot : Slot} {v : ℕ} {g : ℤ}
    {generation : ℕ → ℤ}
    (h : ∀ j slot g, known j slot = some g → seen j slot ≤ served ∧ g = generation (seen j slot))
    (hv : v ≤ served) (hg : g = generation v) :
    ∀ j slot' g', Function.update known i (Function.update (known i) slot (some g)) j slot'
        = some g' →
      Function.update seen i (Function.update (seen i) slot v) j slot' ≤ served ∧
        g' = generation (Function.update seen i (Function.update (seen i) slot v) j slot') := by
  intro j slot' g' hknown
  by_cases hj : j = i
  · subst hj
    rw [Function.update_self] at hknown ⊢
    by_cases hslot : slot' = slot
    · subst hslot
      rw [Function.update_self] at hknown ⊢
      exact ⟨hv, Option.some.inj hknown ▸ hg⟩
    · rw [Function.update_of_ne hslot] at hknown ⊢
      exact h j slot' g' hknown
  · rw [Function.update_of_ne hj] at hknown ⊢
    exact h j slot' g' hknown

/-- **Step lemma.** -/
theorem step (h : Consistent first s known generation) (horder : s.InOrder i) :
    ∃ known' generation', Consistent first (s.step i) known' generation' := by
  rcases h.tracked.step i with ⟨hmark, hpool⟩ | ⟨hlaw, htracked⟩
  · -- the thread has ended
    have hstep : s.step i = s := by
      unfold Interleaving.step
      rw [hmark, hpool]
      rfl
    exact ⟨known, generation, hstep.symm ▸ h⟩
  cases hmark : s.pool.mark i with
  | none =>
    rw [hmark] at hlaw htracked
    have hsame := hlaw.stays (fun h => nomatch h)
    refine ⟨known, generation, ?_⟩
    unfold Interleaving.step
    rw [hmark]
    refine ⟨?_, h.monotone, hsame.trans h.now, h.known, h.behind, h.last, h.sorted,
      (hlaw.keeps (fun _ h => nomatch h)).2.trans h.shown⟩
    rwa [show (generations.learn (known i) none (s.pool.step i).world) = known i from rfl,
      Function.update_eq_self] at htracked
  | some mark =>
    rw [hmark] at hlaw htracked
    cases mark with
    | install slot =>
      have hsame := hlaw.stays (fun h => nomatch h)
      have hknown := hlaw.installs slot rfl
      obtain ⟨hseen, hgen⟩ := h.known i slot _ hknown
      refine ⟨known, generation, ?_⟩
      unfold Interleaving.step
      rw [hmark]
      refine ⟨?_, h.monotone, hsame.trans h.now, h.known, hseen, ?_, ?_, rfl⟩
      · rwa [show (generations.learn (known i) (some (.install slot)) (s.pool.step i).world)
          = known i from rfl, Function.update_eq_self] at htracked
      · intro g hg
        cases hg
        exact hgen
      · refine List.pairwise_cons.mpr ⟨fun g hg => ?_, h.sorted⟩
        -- the newest of the installs before is in order with this one
        cases hinstalled : s.ledger.installed with
        | nil =>
          rw [hinstalled] at hg
          exact absurd hg List.not_mem_nil
        | cons newest rest =>
          have hnewest : newest ≤ (s.pool.step i).world.process.observedGeneration := by
            rw [h.last newest (by rw [hinstalled]; rfl), hgen]
            exact h.monotone _ _ (horder slot hmark)
          have hsorted := h.sorted
          rw [hinstalled] at hg hsorted
          rcases List.mem_cons.mp hg with rfl | hg
          · exact hnewest
          · exact le_trans (List.rel_of_pairwise_cons hsorted hg) hnewest
    | learn slot =>
      cases slot with
      | sync =>
        have hsame := hlaw.stays (fun h => nomatch h)
        refine ⟨Function.update known i (Function.update (known i) .sync
          (some (maxGeneration (s.pool.step i).world.rows))), generation, ?_⟩
        unfold Interleaving.step
        rw [hmark]
        refine ⟨htracked, h.monotone, hsame.trans h.now, ?_, h.behind, h.last, h.sorted,
          (hlaw.keeps (fun _ h => nomatch h)).2.trans h.shown⟩
        exact known_update h.known (le_refl _) (hsame.trans h.now)
      | own =>
        -- the history grows by the generation after the call
        obtain ⟨next, hold, hnew⟩ : ∃ next : ℕ → ℤ, (∀ v ≤ s.ledger.served, next v = generation v) ∧
            ∀ v, s.ledger.served < v → next v = maxGeneration (s.pool.step i).world.rows :=
          ⟨fun v => if v ≤ s.ledger.served then generation v
            else maxGeneration (s.pool.step i).world.rows, fun _ hv => if_pos hv,
            fun _ hv => if_neg (Nat.not_le_of_lt hv)⟩
        have hgrows := hlaw.grows
        rw [h.now] at hgrows
        refine ⟨Function.update known i (Function.update (known i) .own
          (some (maxGeneration (s.pool.step i).world.rows))), next, ?_⟩
        unfold Interleaving.step
        rw [hmark]
        refine ⟨htracked, ?_, (hnew _ (Nat.lt_succ_self _)).symm, ?_, Nat.le_succ_of_le h.behind,
          ?_, h.sorted, (hlaw.keeps (fun _ h => nomatch h)).2.trans h.shown⟩
        · intro v v' hv
          rcases Nat.lt_or_ge s.ledger.served v' with hv' | hv'
          · rw [hnew v' hv']
            rcases Nat.lt_or_ge s.ledger.served v with hlt | hle
            · rw [hnew v hlt]
            · rw [hold v hle]
              exact le_trans (h.monotone v _ hle) hgrows
          · rw [hold v (le_trans hv hv'), hold v' hv']
            exact h.monotone v v' hv
        · refine known_update (fun j slot g hg => ?_) (le_refl _) (hnew _ (Nat.lt_succ_self _)).symm
          obtain ⟨hseen, hgen⟩ := h.known j slot g hg
          exact ⟨Nat.le_succ_of_le hseen, hgen.trans (hold _ hseen).symm⟩
        · intro g hg
          rw [h.last g hg]
          exact (hold _ h.behind).symm

/-- **Run lemma.** -/
theorem run {schedule : List ℕ} (h : Consistent first s known generation)
    (horder : s.InstallsInOrder schedule) :
    ∃ known' generation', Consistent first (s.run schedule) known' generation' := by
  induction schedule generalizing s known generation with
  | nil => exact ⟨known, generation, h⟩
  | cons i schedule ih =>
    obtain ⟨known', generation', h'⟩ := h.step horder.1
    exact ih h' horder.2

theorem start {w : PolicyWorld} {calls : ℕ → Surroundings × Call} (hw : Sound w)
    (hio : ∀ i, Digested (calls i).1) :
    Consistent w.process.observedGeneration (.start w calls) (fun _ _ => none)
      (fun _ => maxGeneration w.rows) where
  tracked := ⟨hw, fun i => keeps_program (hio i) (calls i).2⟩
  monotone := fun _ _ _ => le_refl _
  now := rfl
  known := fun _ _ _ h => by cases h
  behind := le_refl _
  last := fun _ h => by cases h
  sorted := List.Pairwise.nil
  shown := rfl

end Consistent

/-- **A process never goes back to an older policy**, along every interleaving in which no
install overtakes one of a later call with an activation or a rollback in between.  The
installs are all that changes the generation that the process runs. -/
theorem installed_sorted (w : PolicyWorld) (calls : ℕ → Surroundings × Call) (schedule : List ℕ)
    (hw : Sound w) (hio : ∀ i, Digested (calls i).1)
    (horder : (Interleaving.start w calls).InstallsInOrder schedule) :
    ((Interleaving.start w calls).run schedule).ledger.installed.Pairwise
        (fun later earlier => earlier ≤ later) ∧
      ((Interleaving.start w calls).run schedule).pool.world.process.observedGeneration
        = ((Interleaving.start w calls).run schedule).ledger.installed.head?.getD
          w.process.observedGeneration := by
  obtain ⟨known, generation, h⟩ := (Consistent.start hw hio).run horder
  exact ⟨h.sorted, h.shown⟩

/-! ### A synchronisation that is overtaken -/

instance (s : Interleaving) (i : ℕ) : Decidable (s.InOrder i) :=
  decidable_of_iff ((s.pool.mark i = some (.install .own) → s.ledger.behind ≤ s.ledger.seen i .own) ∧
    (s.pool.mark i = some (.install .sync) → s.ledger.behind ≤ s.ledger.seen i .sync)) (by
      constructor
      · rintro ⟨hown, hsync⟩ slot
        cases slot
        · exact hown
        · exact hsync
      · exact fun h => ⟨h .own, h .sync⟩)

instance decidableInstallsInOrder :
    (s : Interleaving) → (schedule : List ℕ) → Decidable (s.InstallsInOrder schedule)
  | _, [] => isTrue trivial
  | s, i :: schedule =>
    have := decidableInstallsInOrder (s.step i) schedule
    inferInstanceAs (Decidable (_ ∧ _))

/-- A bundle whose files are in a directory. -/
def sourced (path : String) : NewPolicyBundle :=
  { validated ("d" ++ path) with sourceJson := [("path", .str path)] }

/-- The files of a directory never change. -/
def steady : Surroundings :=
  { reading (fun _ => "d1") with
    load := fun _ source => .ok (loadedBundle ("d" ++
      match source.lookup "path" with
      | some (.str path) => path
      | _ => "")) }

/-- The store has gone from the first directory to the second, and the process has not seen it. -/
def behindStore : PolicyWorld where
  rows := (replay .pool [.upsert (sourced "1") "r1", .activate "bundle" "d1",
    .upsert (sourced "2") "r2", .activate "bundle" "d2"]).1
  process := { bundle := loadedBundle "d1", observedGeneration := 1 }

/-- One thread synchronises, and the others roll back. -/
def syncAndRollback (i : ℕ) : Surroundings × Call :=
  (steady, if i = 0 then .sync false else .rollback)

theorem digested_steady : Digested steady where
  load := by
    intro read source bundle hload
    cases hload
    exact fun hempty => nomatch (String.append_eq_empty_iff.mp hempty).1
  loadRoot := fun _ _ => (by decide : "d1" ≠ "")

theorem sound_behindStore : Sound behindStore := by
  refine ⟨⟨_, (history_replay (by decide +kernel) (by decide +kernel)).recorded⟩, by decide, ?_, ?_⟩
  · intro bundle h
    exact nomatch h
  · intro id bundle h
    exact nomatch h

/-- The synchronisation runs before the rollback. -/
theorem installed_sorted_sequential :
    ((Interleaving.start behindStore syncAndRollback).run
        [0, 0, 0, 0, 1, 1, 1, 1, 1, 1, 1]).ledger.installed.Pairwise
        (fun later earlier => earlier ≤ later) ∧
      ((Interleaving.start behindStore syncAndRollback).run
          [0, 0, 0, 0, 1, 1, 1, 1, 1, 1, 1]).pool.world.process.observedGeneration
        = ((Interleaving.start behindStore syncAndRollback).run
          [0, 0, 0, 0, 1, 1, 1, 1, 1, 1, 1]).ledger.installed.head?.getD
            behindStore.process.observedGeneration :=
  installed_sorted behindStore syncAndRollback [0, 0, 0, 0, 1, 1, 1, 1, 1, 1, 1]
    sound_behindStore (fun _ => digested_steady) (by decide +kernel)

/-- The synchronisation has read the active record when the rollback runs, and installs it
afterwards: the process is left with the bundle that was rolled back. -/
theorem sync_goes_back :
    ((Interleaving.start behindStore syncAndRollback).run
      [0, 1, 1, 1, 1, 1, 1, 1, 0, 0, 0]).ledger.installed = [2, 3] ∧
    ¬ ((Interleaving.start behindStore syncAndRollback).run
      [0, 1, 1, 1, 1, 1, 1, 1, 0, 0, 0]).ledger.installed.Pairwise
        (fun later earlier => earlier ≤ later) ∧
    ((Interleaving.start behindStore syncAndRollback).run
      [0, 1, 1, 1, 1, 1, 1, 1, 0, 0, 0]).pool.world.process.bundle.contentDigest = "d2" ∧
    activeDigest ((Interleaving.start behindStore syncAndRollback).run
      [0, 1, 1, 1, 1, 1, 1, 1, 0, 0, 0]).pool.world.rows = some "d1" := by
  decide +kernel

end ControlPlane.PolicyInstalls
