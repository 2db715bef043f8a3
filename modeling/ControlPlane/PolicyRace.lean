/-
# Racing policy activations

Any number of activations and rollbacks run against one store at READ COMMITTED.  Each reads
the largest generation, retires the active bundle and promotes its own with the generation
after the largest one; nothing keeps another activation from committing in between.
-/
import ControlPlane.Store.PolicyRules
import ControlPlane.Store.MoveRules
import Mathlib.Data.List.Pairwise

namespace ControlPlane.PolicyRace

open Transaction

/-! ## The competition -/

theorem stamp_le_maxGeneration (rows : List Row) (r : Row) (s : ℤ) (hr : r ∈ rows)
    (hs : r.policyBundle?.bind PolicyBundleRow.generation = some s) : s ≤ maxGeneration rows := by
  obtain ⟨b, hb, hgeneration⟩ := Option.bind_eq_some_iff.mp hs
  exact le_maxGeneration (List.mem_filterMap.mpr ⟨r, hr, hb⟩) hgeneration

/-- The bundles compete for being active; the generation is their stamp. -/
def bundles : Contest Row Unit where
  home _ := ()
  chosen
    | .policyBundle r => if r.status = .active then some () else none
    | _ => none
  stamp r := r.policyBundle?.bind PolicyBundleRow.generation
  largest := maxGeneration
  le_largest := stamp_le_maxGeneration
  stamped := true

/-! ## The calls -/

/-- A call that makes a bundle active. -/
inductive Call where
  | activate (bundleId contentDigest : String) (now : Instant)
  | rollback (now : Instant)

/-- The method that is called. -/
def Call.code : Call → StoreM PolicyBundleRow
  | activate bundleId contentDigest now => activatePolicyBundle bundleId contentDigest now
  | rollback now => rollbackPolicyBundle now

/-- The record that a call promotes after its reads, newest first. -/
def Call.target : Call → List (List Row) → Option PolicyBundleRow
  | activate bundleId contentDigest _, [_, rows] => activationTarget rows bundleId contentDigest
  | rollback _, [_, rows, first] =>
    (selectPolicyBundle first .previous).bind (fun previous =>
      activationTarget rows previous.bundleId previous.contentDigest)
  | _, _ => none

/-- The key that a call promotes, with its group. -/
def Call.plan (call : Call) (reads : List (List Row)) : Option (RowKey × Unit) :=
  (call.target reads).map (fun target => (.policyBundle target.recordId, ()))

theorem retires_retireActive (recordId now : String) :
    bundles.Retires schema (retireActive recordId now) (.policyBundle recordId) () where
  reaches := by
    intro r hchosen hkey
    cases r with
    | policyBundle b =>
      have hactive : b.status = .active := by
        by_contra hne
        have hnone : bundles.chosen (.policyBundle b) = none := if_neg hne
        rw [hnone] at hchosen
        exact nomatch hchosen
      exact decide_eq_true ⟨hactive, fun hid => hkey (congrArg RowKey.policyBundle hid)⟩
    | _ => exact nomatch hchosen
  retires := by
    intro r hguard
    cases r with
    | policyBundle b =>
      obtain ⟨-, hne⟩ := of_decide_eq_true hguard
      exact ⟨fun hkey => hne (RowKey.policyBundle.inj hkey), _, rfl, rfl, rfl, rfl, rfl⟩
    | _ => exact nomatch hguard

theorem promotes_makeActive (recordId now : String) (generation : ℤ) :
    bundles.Promotes schema (makeActive recordId (generation + 1) now) (.policyBundle recordId)
      generation := by
  intro r hguard
  cases r with
  | policyBundle b =>
    have hid : b.recordId = recordId := of_decide_eq_true hguard
    exact ⟨congrArg RowKey.policyBundle hid, _, rfl, rfl, rfl, .inr rfl, .inr rfl⟩
  | _ => exact nomatch hguard

/-- An activation in a session that has read before. -/
theorem obeys_activateInSession {plan : List (List Row) → Option (RowKey × Unit)}
    {reads : List (List Row)} {bundleId contentDigest now : String}
    (hplan : ∀ rows rows', plan (rows' :: rows :: reads)
      = (activationTarget rows bundleId contentDigest).map
        (fun target => (.policyBundle target.recordId, ()))) :
    (activateInSession bundleId contentDigest now).Obeys (bundles.monitor schema plan)
      (fun phase r => ∀ a, r = .ok a → (bundles.monitor schema plan).allows phase .commit)
      (.reading reads) := by
  refine Prog.obeys_bind (Q := fun phase r => ∀ rows, r = .ok rows →
    phase = .reading (rows :: reads)) ?_ ?_ (fun _ _ _ _ h => nomatch h)
  · refine obeys_fetchAll trivial ?_ (fun _ _ _ _ h => nomatch h)
    rintro rows _ ⟨⟩
    rfl
  intro phase rows hphase
  obtain rfl := hphase rows rfl
  cases htarget : activationTarget rows bundleId contentDigest with
  | none => exact fun a h => nomatch h
  | some target =>
    dsimp only
    split
    · exact fun a h => nomatch h
    refine Prog.obeys_bind (Q := fun phase r => ∀ rows', r = .ok rows' →
      phase = .reading (rows' :: rows :: reads)) ?_ ?_ (fun _ _ _ _ h => nomatch h)
    · refine obeys_fetchAll trivial ?_ (fun _ _ _ _ h => nomatch h)
      rintro rows' _ ⟨⟩
      rfl
    intro phase rows' hphase
    obtain rfl := hphase rows' rfl
    have htakes : plan (rows' :: rows :: reads) = some (.policyBundle target.recordId, ()) := by
      rw [hplan, htarget]
      rfl
    obtain ⟨hallows, hnext⟩ := Contest.begins_of_plan schema htakes
      ⟨rows, List.mem_cons_of_mem _ List.mem_cons_self, .policyBundle target,
        mem_policyBundles.mp (activationTarget_mem htarget), rfl, rfl⟩
      (retires_retireActive target.recordId now)
    refine Prog.obeys_bind (Q := fun phase r => ∀ count, r = .ok count →
        phase = .retiring (.policyBundle target.recordId) () (rows' :: rows :: reads))
      (obeys_execute hallows (fun rows count _ _ => hnext rows) (fun _ _ _ _ h => nomatch h)) ?_
      (fun _ _ _ _ h => nomatch h)
    intro phase count hphase
    obtain rfl := hphase count rfl
    refine Prog.obeys_bind (Q := fun phase r => ∀ count, r = .ok count →
        phase = .promoting (.policyBundle target.recordId) () (rows' :: rows :: reads))
      (obeys_execute (promotes_makeActive target.recordId now (maxGeneration rows'))
        (fun _ _ _ _ => rfl) (fun _ _ _ _ h => nomatch h)) ?_ (fun _ _ _ _ h => nomatch h)
    intro phase count hphase
    obtain rfl := hphase count rfl
    refine Prog.obeys_bind (Q := fun phase r => ∀ written, r = .ok written →
        phase = .promoting (.policyBundle target.recordId) () (rows' :: rows :: reads))
      (obeys_fetchAll trivial (fun _ _ _ => rfl) (fun _ _ _ _ h => nomatch h)) ?_
      (fun _ _ _ _ h => nomatch h)
    intro phase written hphase
    obtain rfl := hphase written rfl
    cases findPolicyRecord written target.recordId with
    | none => exact fun a h => nomatch h
    | some r => exact fun a _ => trivial

/-- **A call keeps to its plan.** -/
theorem Call.obeys (call : Call) :
    call.code.Obeys (bundles.monitor schema call.plan) (fun _ _ => True) (.reading []) := by
  have hclosed : ∀ {body : StoreM PolicyBundleRow},
      body.Obeys (bundles.monitor schema call.plan) (fun phase r => ∀ a, r = .ok a →
        (bundles.monitor schema call.plan).allows phase .commit) (.reading []) →
      (session (do let r ← body; commit; return r)).Obeys (bundles.monitor schema call.plan)
        (fun _ _ => True) (.reading []) := by
    intro body hbody
    refine Prog.obeys_mono (obeys_contest_session ?_) (fun _ _ _ => trivial)
    refine Prog.obeys_bind hbody (fun phase a hphase => ?_) (fun _ _ _ _ h => nomatch h)
    refine Prog.obeys_bind (Q := fun phase r => r = .ok () → phase = .reading [])
      (obeys_commit (hphase a rfl) (fun rows _ => ?_) (fun _ _ _ h => nomatch h)) ?_
      (fun _ _ _ _ h => nomatch h)
    · cases phase <;> rfl
    · intro phase u hphase
      obtain rfl := hphase rfl
      exact fun _ _ => trivial
  cases call with
  | activate bundleId contentDigest now =>
    refine hclosed (obeys_activateInSession (fun rows rows' => ?_))
    rfl
  | rollback now =>
    refine hclosed ?_
    refine Prog.obeys_bind (Q := fun phase r => ∀ rows, r = .ok rows →
      phase = .reading [rows]) ?_ ?_ (fun _ _ _ _ h => nomatch h)
    · refine obeys_fetchAll trivial ?_ (fun _ _ _ _ h => nomatch h)
      rintro rows _ ⟨⟩
      rfl
    intro phase rows hphase
    obtain rfl := hphase rows rfl
    cases hprevious : selectPolicyBundle rows .previous with
    | none => exact fun a h => nomatch h
    | some previous =>
      refine obeys_activateInSession (fun first second => ?_)
      have htarget : (rollback now).target [second, first, rows]
          = activationTarget first previous.bundleId previous.contentDigest := by
        unfold target
        dsimp only
        rw [hprevious]
        rfl
      exact congrArg _ htarget

/-! ## Runs -/

/-- At most one bundle is active. -/
def OneActive (rows : List Row) : Prop :=
  ((policyBundles rows).filter (fun r => r.status = .active)).length ≤ 1

/-- No two bundles share a generation. -/
def DistinctGenerations (rows : List Row) : Prop :=
  ((policyBundles rows).filterMap PolicyBundleRow.generation).Nodup

instance (rows : List Row) : Decidable (OneActive rows) := Nat.decLe _ _

instance (rows : List Row) : Decidable (DistinctGenerations rows) :=
  inferInstanceAs (Decidable (List.Nodup _))

/-- A watched state of the system. -/
abbrev World :=
  Watched RowKey Row PyError PolicyBundleRow (Phase RowKey Row Unit) (Takeovers RowKey Unit)

/-- The system before its first move. -/
def start (rows : List Row) (calls : ℕ → Call) : World :=
  .start schema rows (fun n => (calls n).code) (fun _ => .reading []) {}

/-- What is watched: the phase of each call, and the activations that have been committed. -/
def watch (calls : ℕ → Call) :
    Watch Row PyError (Phase RowKey Row Unit) (Takeovers RowKey Unit) :=
  bundles.watch schema (fun n => (calls n).plan)

/-- The committed rows after some moves. -/
def committedAfter (rows : List Row) (calls : ℕ → Call) (moves : List (Move PyError)) :
    List Row :=
  committedRows ((start rows calls).run schema (watch calls) moves).state.cells

theorem bundles_chosen {r : Row} {group : Unit} :
    bundles.chosen r = some group ↔ ∃ b, r = .policyBundle b ∧ b.status = .active := by
  cases r with
  | policyBundle b =>
    by_cases hactive : b.status = .active
    · exact iff_of_true (if_pos hactive) ⟨b, rfl, hactive⟩
    · refine iff_of_false (fun h => ?_) ?_
      · have hnone : bundles.chosen (.policyBundle b) = none := if_neg hactive
        rw [hnone] at h
        exact nomatch h
      · rintro ⟨_, ⟨⟩, hactive'⟩
        exact hactive hactive'
  | _ => exact iff_of_false (fun h => nomatch h) (by rintro ⟨b, h, -⟩; exact nomatch h)

theorem bundles_stamp {r : Row} {s : ℤ} :
    bundles.stamp r = some s ↔ ∃ b, r = .policyBundle b ∧ b.generation = some s := by
  cases r with
  | policyBundle b =>
    refine ⟨fun h => ⟨b, rfl, h⟩, ?_⟩
    rintro ⟨_, ⟨⟩, h⟩
    exact h
  | _ => exact iff_of_false (fun h => nomatch h) (by rintro ⟨b, h, -⟩; exact nomatch h)

theorem eq_of_length_le_one {α : Type} {l : List α} (h : l.length ≤ 1) {a b : α} (ha : a ∈ l)
    (hb : b ∈ l) : a = b := by
  match l, h with
  | [], _ => exact nomatch ha
  | [c], _ => rw [List.mem_singleton.mp ha, List.mem_singleton.mp hb]

theorem length_le_one_of_eq {α : Type} {l : List α} (hnodup : l.Nodup)
    (h : ∀ a ∈ l, ∀ b ∈ l, a = b) : l.length ≤ 1 := by
  match l, hnodup with
  | [], _ => exact Nat.zero_le 1
  | [_], _ => exact Nat.le_refl 1
  | a :: b :: rest, hnodup =>
    have hab : a = b := h a List.mem_cons_self b (List.mem_cons_of_mem _ List.mem_cons_self)
    exact absurd (hab ▸ List.mem_cons_self) (List.nodup_cons.mp hnodup).1

/-- A store with one active bundle and distinct generations is fair. -/
theorem fair_bundles {rows : List Row} (hnodup : (rows.map Row.key).Nodup)
    (hactive : OneActive rows) (hgenerations : DistinctGenerations rows) :
    bundles.Fair schema rows where
  nodup := hnodup
  sole := by
    intro r hr r' hr' group h h'
    obtain ⟨b, rfl, hb⟩ := bundles_chosen.mp h
    obtain ⟨b', rfl, hb'⟩ := bundles_chosen.mp h'
    have heq : b = b' := eq_of_length_le_one hactive
      (List.mem_filter.mpr ⟨mem_policyBundles.mpr hr, decide_eq_true hb⟩)
      (List.mem_filter.mpr ⟨mem_policyBundles.mpr hr', decide_eq_true hb'⟩)
    rw [heq]
  distinct _ := by
    intro r hr r' hr' s h h'
    obtain ⟨b, rfl, hb⟩ := bundles_stamp.mp h
    obtain ⟨b', rfl, hb'⟩ := bundles_stamp.mp h'
    by_contra hne
    have hsymm : Std.Symm (fun a a' : PolicyBundleRow => ∀ s, a.generation = some s →
        ∀ s', a'.generation = some s' → s ≠ s') :=
      ⟨fun a a' h s hs s' hs' heq => h s' hs' s hs heq.symm⟩
    have hdiffer := (List.pairwise_filterMap.mp hgenerations).forall (mem_policyBundles.mpr hr)
      (mem_policyBundles.mpr hr') (fun heq => hne (by rw [heq]))
    exact hdiffer s hb s hb' rfl

/-- **When racing activations keep the order.**  For every interleaving of any number of
activations and rollbacks: if no call commits its promotion when another record has been
promoted since the call last read, then in every committed state at most one bundle is active
and no two bundles share a generation. -/
theorem one_active_bundle_of_inTime (rows : List Row) (hnodup : (rows.map Row.key).Nodup)
    (hactive : OneActive rows) (hgenerations : DistinctGenerations rows) (calls : ℕ → Call)
    (moves : List (Move PyError))
    (htime : (start rows calls).Meets schema (watch calls) (Contest.InTime schema) moves) :
    OneActive (committedAfter rows calls moves) ∧
      DistinctGenerations (committedAfter rows calls moves) := by
  have hfair := fair_bundles hnodup hactive hgenerations
  have hcode := fun n => (calls n).obeys
  have horderly := Contest.Orderly.run hfair hcode htime
  have hkeys : ((committedAfter rows calls moves).map Row.key).Nodup :=
    (Contest.sound_of_reachable hnodup hcode horderly.reached).nodup_committedRows
  have hrows : (policyBundles (committedAfter rows calls moves)).Nodup := by
    refine List.Nodup.filterMap ?_ hkeys.of_map
    intro r r' b hb hb'
    cases r <;> cases r' <;> cases hb <;> cases hb'
    rfl
  refine ⟨length_le_one_of_eq (hrows.filter _) ?_, ?_⟩
  · intro b hb b' hb'
    obtain ⟨hb, hstatus⟩ := List.mem_filter.mp hb
    obtain ⟨hb', hstatus'⟩ := List.mem_filter.mp hb'
    have hchosen : bundles.chosen (.policyBundle b) = some () :=
      bundles_chosen.mpr ⟨b, rfl, of_decide_eq_true hstatus⟩
    have hchosen' : bundles.chosen (.policyBundle b') = some () :=
      bundles_chosen.mpr ⟨b', rfl, of_decide_eq_true hstatus'⟩
    exact Row.policyBundle.inj (horderly.eq_of_chosen hnodup hcode (mem_policyBundles.mp hb)
      (mem_policyBundles.mp hb') hchosen hchosen')
  · refine List.pairwise_filterMap.mpr (hrows.imp_of_mem ?_)
    intro b b' hb hb' hne g hg g' hg' hsame
    subst hsame
    exact hne (Row.policyBundle.inj (horderly.eq_of_stamp rfl hnodup hcode (mem_policyBundles.mp hb)
      (mem_policyBundles.mp hb') (bundles_stamp.mpr ⟨b, rfl, hg⟩) (bundles_stamp.mpr ⟨b', rfl, hg'⟩)))

/-! ## Two activations -/

/-- A bundle that has been registered and not been activated yet. -/
def registeredBundle (recordId bundleId : String) : PolicyBundleRow where
  recordId := recordId
  bundleId := bundleId
  contentDigest := "sha256:" ++ bundleId
  gitRevision := "main"
  status := .candidate
  generation := none
  sourceType := "git"
  sourceJson := []
  validationStatus := "ok"
  error := none
  loadedAt := Timestamp.isoformat 0
  createdAt := Timestamp.isoformat 0
  updatedAt := Timestamp.isoformat 0
  activatedAt := none

/-- A store with two registered bundles. -/
def twoBundles : List Row :=
  [.policyBundle (registeredBundle "r1" "finance"), .policyBundle (registeredBundle "r2" "health")]

/-- Two replicas activate different bundles. -/
def twoActivations : ℕ → Call
  | 0 => .activate "finance" "sha256:finance" 1
  | _ => .activate "health" "sha256:health" 1

/-- The calls go on in the given order, and nothing fails. -/
def inOrder (order : List ℕ) : List (Move PyError) := order.map (fun n => { call := n })

/-- One activation after the other. -/
theorem one_active_bundle_of_inTime_serial :
    OneActive (committedAfter twoBundles twoActivations
      (inOrder (List.replicate 11 0 ++ List.replicate 12 1))) ∧
    DistinctGenerations (committedAfter twoBundles twoActivations
      (inOrder (List.replicate 11 0 ++ List.replicate 12 1))) :=
  one_active_bundle_of_inTime twoBundles (by decide +kernel) (by decide +kernel) (by decide +kernel)
    twoActivations _ (by decide +kernel)

/-- Both replicas have written before the first one commits: neither sees the other's
promotion, and both bundles are active with one generation. -/
theorem racing_bundle_activations :
    OneActive twoBundles ∧ DistinctGenerations twoBundles ∧
    ¬ OneActive (committedAfter twoBundles twoActivations
      (inOrder (List.replicate 8 0 ++ List.replicate 8 1 ++ [0, 1]))) ∧
    ¬ DistinctGenerations (committedAfter twoBundles twoActivations
      (inOrder (List.replicate 8 0 ++ List.replicate 8 1 ++ [0, 1]))) := by
  decide +kernel

end ControlPlane.PolicyRace
