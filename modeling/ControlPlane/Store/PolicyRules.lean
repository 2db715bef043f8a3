/-
# What the policy calls leave in the store

Each call either leaves the rows as they are or has one effect: a record is refreshed, a
record is added, or the selection switches to a record.  Which statements fail decides
between the two.
-/
import ControlPlane.Store.Policies
import ControlPlane.Store.SerialRules

namespace ControlPlane

open Transaction

variable {rows : List Row}

/-! ## The table of policy bundles -/

@[simp] theorem policyBundles_nil : policyBundles [] = [] := rfl

@[simp] theorem policyBundles_append (rows rows' : List Row) :
    policyBundles (rows ++ rows') = policyBundles rows ++ policyBundles rows' :=
  List.filterMap_append

@[simp] theorem policyBundles_cons (row : Row) (rows : List Row) :
    policyBundles (row :: rows) = row.policyBundle?.toList ++ policyBundles rows := by
  cases row <;> rfl

theorem mem_policyBundles {b : PolicyBundleRow} :
    b ∈ policyBundles rows ↔ Row.policyBundle b ∈ rows := by
  induction rows with
  | nil => simp only [policyBundles_nil, List.not_mem_nil]
  | cons row rows ih =>
    rw [policyBundles_cons, List.mem_append, ih, List.mem_cons]
    cases row <;> simp [eq_comm]

/-- An update of the policy bundles, as a map of the table. -/
def updatedBundle (guard : PolicyBundleRow → Bool) (set : PolicyBundleRow → PolicyBundleRow)
    (b : PolicyBundleRow) : PolicyBundleRow := if guard b then set b else b

theorem policyBundles_apply {c : Change Row} {guard : PolicyBundleRow → Bool}
    {set : PolicyBundleRow → PolicyBundleRow}
    (hguard : ∀ row, c.guard row = row.policyBundle?.any guard)
    (hset : ∀ b, c.set (.policyBundle b) = some (.policyBundle (set b))) :
    policyBundles (c.apply rows) = (policyBundles rows).map (updatedBundle guard set) := by
  have hcons : ∀ row : Row, policyBundles (c.apply [row])
      = (policyBundles [row]).map (updatedBundle guard set) := by
    intro row
    unfold Change.apply
    rw [List.filterMap_cons, hguard]
    cases row with
    | policyBundle b =>
      by_cases h : guard b = true
      · simp [hset, updatedBundle, h]
      · simp [updatedBundle, h]
    | _ => rfl
  induction rows with
  | nil => rfl
  | cons row rows ih =>
    have hsplit : c.apply (row :: rows) = c.apply [row] ++ c.apply rows := by
      unfold Change.apply
      rw [← List.filterMap_append, List.singleton_append]
    have htable : policyBundles (row :: rows) = policyBundles [row] ++ policyBundles rows := by
      rw [← policyBundles_append, List.singleton_append]
    rw [hsplit, htable, policyBundles_append, List.map_append, ih, hcons]

/-- A record after it was refreshed. -/
def PolicyBundleRow.refreshed (new : NewPolicyBundle) (now : String) (b : PolicyBundleRow) :
    PolicyBundleRow :=
  { b with
    gitRevision := new.gitRevision, sourceType := new.sourceType, sourceJson := new.sourceJson
    validationStatus := new.validationStatus, error := new.error, loadedAt := new.loadedAt
    updatedAt := now }

/-- A record after it was activated. -/
def PolicyBundleRow.activated (generation : ℤ) (now : String) (b : PolicyBundleRow) :
    PolicyBundleRow :=
  { b with
    status := .active, generation := some generation, updatedAt := now, activatedAt := some now }

/-- A record after another one was activated. -/
def PolicyBundleRow.retired (now : String) (b : PolicyBundleRow) : PolicyBundleRow :=
  updatedBundle (fun b => b.status = .active)
    (fun b => { b with status := .previous, updatedAt := now }) b

/-- The table after a bundle was registered again. -/
def refreshRecord (new : NewPolicyBundle) (recordId now : String) :
    PolicyBundleRow → PolicyBundleRow :=
  updatedBundle (fun b => b.recordId = recordId) (·.refreshed new now)

theorem policyBundles_refresh (new : NewPolicyBundle) (recordId now : String) :
    policyBundles ((refreshPolicyBundle new recordId now).apply rows)
      = (policyBundles rows).map (refreshRecord new recordId now) :=
  policyBundles_apply (fun row => by cases row <;> rfl) (fun _ => rfl)

/-- Registering again keeps the key, the status and the generation. -/
theorem refreshRecord_same (new : NewPolicyBundle) (recordId now : String) (b : PolicyBundleRow) :
    (refreshRecord new recordId now b).recordId = b.recordId ∧
      (refreshRecord new recordId now b).bundleId = b.bundleId ∧
      (refreshRecord new recordId now b).contentDigest = b.contentDigest ∧
      (refreshRecord new recordId now b).status = b.status ∧
      (refreshRecord new recordId now b).generation = b.generation := by
  unfold refreshRecord updatedBundle
  split <;> exact ⟨rfl, rfl, rfl, rfl, rfl⟩

/-- The rows after the selection switched to a record. -/
def switchTo (recordId now : String) (rows : List Row) : List Row :=
  (makeActive recordId (maxGeneration rows + 1) now).apply
    ((retireActive recordId now).apply rows)

/-- A record after the selection switched. -/
def PolicyBundleRow.switched (recordId : String) (generation : ℤ) (now : String)
    (b : PolicyBundleRow) : PolicyBundleRow :=
  if b.recordId = recordId then b.activated generation now else b.retired now

theorem policyBundles_switchTo (recordId now : String) :
    policyBundles (switchTo recordId now rows)
      = (policyBundles rows).map (·.switched recordId (maxGeneration rows + 1) now) := by
  have hmake : ∀ rows', policyBundles ((makeActive recordId (maxGeneration rows + 1) now).apply
      rows') = (policyBundles rows').map (updatedBundle (fun b => b.recordId = recordId)
        (·.activated (maxGeneration rows + 1) now)) :=
    fun _ => policyBundles_apply (fun row => by cases row <;> rfl) (fun _ => rfl)
  have hretire : policyBundles ((retireActive recordId now).apply rows)
      = (policyBundles rows).map (updatedBundle
          (fun b => b.status = .active ∧ b.recordId ≠ recordId)
          (fun b => { b with status := .previous, updatedAt := now })) :=
    policyBundles_apply (fun row => by cases row <;> rfl) (fun _ => rfl)
  unfold switchTo
  rw [hmake, hretire, List.map_map]
  refine List.map_congr_left (fun b _ => ?_)
  unfold PolicyBundleRow.switched PolicyBundleRow.retired updatedBundle
  by_cases hid : b.recordId = recordId <;> by_cases hs : b.status = .active <;>
    simp [hid, hs]

/-! ## Queries -/

theorem findPolicyBundle_some {bundleId contentDigest : String} {b : PolicyBundleRow}
    (h : findPolicyBundle rows bundleId contentDigest = some b) :
    b ∈ policyBundles rows ∧ b.bundleId = bundleId ∧ b.contentDigest = contentDigest := by
  unfold findPolicyBundle at h
  have hkey := List.find?_some h
  exact ⟨List.mem_of_find?_eq_some h, of_decide_eq_true hkey⟩

theorem mem_of_head?_insertionSort {l : List PolicyBundleRow} {p : PolicyBundleRow → Bool}
    {r : PolicyBundleRow → PolicyBundleRow → Prop} [DecidableRel r] {b : PolicyBundleRow}
    (h : ((l.filter p).insertionSort r).head? = some b) : b ∈ l ∧ p b = true := by
  have hmem := (List.mem_insertionSort r).mp (List.mem_of_head? h)
  exact List.mem_filter.mp hmem

theorem selectPolicyBundle_some {status : PolicyStatus} {b : PolicyBundleRow}
    (h : selectPolicyBundle rows status = some b) : b ∈ policyBundles rows ∧ b.status = status := by
  obtain ⟨hmem, hs⟩ := mem_of_head?_insertionSort h
  exact ⟨hmem, of_decide_eq_true hs⟩

theorem PolicyBundleRow.newerFirst_total (a b : PolicyBundleRow) :
    a.newerFirst b = true ∨ b.newerFirst a = true := by
  have hstring := String.le_total a.updatedAt b.updatedAt
  unfold newerFirst
  cases a.generation with
  | none => cases b.generation with
    | none => exact (hstring.symm.imp decide_eq_true decide_eq_true)
    | some y => exact Or.inr rfl
  | some x => cases b.generation with
    | none => exact Or.inl rfl
    | some y =>
      rcases lt_trichotomy x y with h | rfl | h
      · exact Or.inr (decide_eq_true (Or.inl h))
      · exact (hstring.symm.imp (fun h => decide_eq_true (Or.inr ⟨rfl, h⟩))
          (fun h => decide_eq_true (Or.inr ⟨rfl, h⟩)))
      · exact Or.inl (decide_eq_true (Or.inl h))

theorem PolicyBundleRow.newerFirst_trans {a b c : PolicyBundleRow}
    (hab : a.newerFirst b = true) (hbc : b.newerFirst c = true) : a.newerFirst c = true := by
  have hstring : b.updatedAt ≤ a.updatedAt → c.updatedAt ≤ b.updatedAt →
      c.updatedAt ≤ a.updatedAt := fun h h' => String.le_trans h' h
  unfold newerFirst at *
  cases ha : a.generation <;> cases hb : b.generation <;> cases hc : c.generation <;>
    simp only [ha, hb, hc, decide_eq_true_eq, Bool.false_eq_true] at hab hbc ⊢
  · exact hstring hab hbc
  · rcases hab with hab | ⟨rfl, hab⟩ <;> rcases hbc with hbc | ⟨rfl, hbc⟩
    · exact Or.inl (lt_trans hbc hab)
    · exact Or.inl hab
    · exact Or.inl hbc
    · exact Or.inr ⟨rfl, hstring hab hbc⟩

/-- Of two bundles one comes first. -/
instance : Std.Total (fun a b : PolicyBundleRow => a.newerFirst b = true) where
  total := PolicyBundleRow.newerFirst_total

/-- The order of the bundles is transitive. -/
instance : IsTrans PolicyBundleRow (fun a b => a.newerFirst b = true) where
  trans _ _ _ := PolicyBundleRow.newerFirst_trans

/-- The selected record is the newest one with the status. -/
theorem selectPolicyBundle_newest {status : PolicyStatus} {b : PolicyBundleRow}
    (h : selectPolicyBundle rows status = some b) :
    ∀ b' ∈ policyBundles rows, b'.status = status → b' = b ∨ b.newerFirst b' = true := by
  intro b' hb' hs
  have hsorted := List.pairwise_insertionSort (fun a b : PolicyBundleRow => a.newerFirst b = true)
    ((policyBundles rows).filter (fun r => r.status = status))
  have hmem : b' ∈ ((policyBundles rows).filter (fun r => r.status = status)).insertionSort
      (fun a b => a.newerFirst b = true) :=
    (List.mem_insertionSort _).mpr (List.mem_filter.mpr ⟨hb', decide_eq_true hs⟩)
  obtain ⟨rest, hrest⟩ := List.head?_eq_some_iff.mp h
  rw [hrest] at hsorted hmem
  rcases List.mem_cons.mp hmem with heq | hmem
  · exact Or.inl heq
  · exact Or.inr (List.rel_of_pairwise_cons hsorted hmem)

theorem selectPolicyBundle_none {status : PolicyStatus} (h : selectPolicyBundle rows status = none) :
    ∀ b ∈ policyBundles rows, b.status ≠ status := by
  intro b hb hs
  have hnil := List.head?_eq_none_iff.mp h
  have hmem : b ∈ ((policyBundles rows).filter (fun r => r.status = status)).insertionSort
      (fun a b => a.newerFirst b = true) :=
    (List.mem_insertionSort _).mpr (List.mem_filter.mpr ⟨hb, decide_eq_true hs⟩)
  rw [hnil] at hmem
  exact absurd hmem List.not_mem_nil

theorem activationTarget_mem {bundleId contentDigest : String} {b : PolicyBundleRow}
    (h : activationTarget rows bundleId contentDigest = some b) : b ∈ policyBundles rows := by
  unfold activationTarget at h
  split at h
  · exact (findPolicyBundle_some h).1
  · exact (mem_of_head?_insertionSort h).1

theorem findPolicyRecord_some {recordId : String} {b : PolicyBundleRow}
    (h : findPolicyRecord rows recordId = some b) :
    b ∈ policyBundles rows ∧ b.recordId = recordId := by
  unfold findPolicyRecord at h
  have hid := List.find?_some h
  exact ⟨List.mem_of_find?_eq_some h, of_decide_eq_true hid⟩

/-- A record that is there can be read back. -/
theorem exists_findPolicyRecord {b : PolicyBundleRow} (h : b ∈ policyBundles rows) :
    ∃ r, findPolicyRecord rows b.recordId = some r := by
  refine Option.isSome_iff_exists.mp ?_
  unfold findPolicyRecord
  rw [List.find?_isSome]
  exact ⟨b, h, decide_eq_true rfl⟩

/-! ## Switching -/

section Switch

variable {b : PolicyBundleRow} {now : String}

/-- No generation is larger than the maximum. -/
theorem le_maxGeneration {g : ℤ} (hb : b ∈ policyBundles rows) (hg : b.generation = some g) :
    g ≤ maxGeneration rows := by
  have hmem : g ∈ (policyBundles rows).filterMap PolicyBundleRow.generation :=
    List.mem_filterMap.mpr ⟨b, hb, hg⟩
  unfold maxGeneration
  cases hmax : ((policyBundles rows).filterMap PolicyBundleRow.generation).max? with
  | none =>
    rw [List.max?_eq_none_iff.mp hmax] at hmem
    exact absurd hmem List.not_mem_nil
  | some m => exact (List.max?_eq_some_iff.mp hmax).2 g hmem

/-- After a switch the record with the id is the activated one, if ids are unique. -/
theorem eq_activated {r : PolicyBundleRow}
    (hids : ((policyBundles rows).map PolicyBundleRow.recordId).Nodup)
    (hb : b ∈ policyBundles rows) (hr : r ∈ policyBundles (switchTo b.recordId now rows))
    (hid : r.recordId = b.recordId) : r = b.activated (maxGeneration rows + 1) now := by
  rw [policyBundles_switchTo] at hr
  obtain ⟨a, ha, rfl⟩ := List.mem_map.mp hr
  unfold PolicyBundleRow.switched at hid ⊢
  by_cases heq : a.recordId = b.recordId
  · rw [if_pos heq, List.inj_on_of_nodup_map hids ha hb heq]
  · rw [if_neg heq] at hid
    unfold PolicyBundleRow.retired updatedBundle at hid
    split at hid <;> exact absurd hid heq

/-- After a switch only the target is active. -/
theorem recordId_of_active {r : PolicyBundleRow}
    (hr : r ∈ policyBundles (switchTo b.recordId now rows)) (hactive : r.status = .active) :
    r.recordId = b.recordId := by
  rw [policyBundles_switchTo] at hr
  obtain ⟨a, -, rfl⟩ := List.mem_map.mp hr
  unfold PolicyBundleRow.switched at hactive ⊢
  by_cases heq : a.recordId = b.recordId
  · rw [if_pos heq]
    exact heq
  · rw [if_neg heq] at hactive
    unfold PolicyBundleRow.retired updatedBundle at hactive
    split at hactive
    · exact nomatch hactive
    · rename_i hna
      exact absurd (decide_eq_true hactive) hna

theorem mem_activated (hb : b ∈ policyBundles rows) (now : String) :
    b.activated (maxGeneration rows + 1) now ∈ policyBundles (switchTo b.recordId now rows) := by
  rw [policyBundles_switchTo]
  exact List.mem_map.mpr ⟨b, hb, if_pos rfl⟩

/-- **After a switch the target is the active record**, with a new generation. -/
theorem selectActive_switchTo (hids : ((policyBundles rows).map PolicyBundleRow.recordId).Nodup)
    (hb : b ∈ policyBundles rows) (now : String) :
    selectPolicyBundle (switchTo b.recordId now rows) .active
      = some (b.activated (maxGeneration rows + 1) now) := by
  cases hselect : selectPolicyBundle (switchTo b.recordId now rows) .active with
  | none => exact absurd rfl (selectPolicyBundle_none hselect _ (mem_activated hb now))
  | some r =>
    obtain ⟨hmem, hactive⟩ := selectPolicyBundle_some hselect
    rw [eq_activated hids hb hmem (recordId_of_active hmem hactive)]

end Switch

/-! ## The programs -/

variable {bundleId contentDigest : String} {target existing : PolicyBundleRow}

theorem writes_readBack {recordId : String} {r : PolicyBundleRow}
    (h : findPolicyRecord rows recordId = some r) :
    (readBack recordId).Writes schema rows 1 rows r := by
  refine Prog.writes_bind (n := 1) (m := 0) writes_fetchAll ?_
  rw [h]
  exact Prog.writes_done r

/-- The record that an activation answers with. -/
def Switched (rows : List Row) (recordId now : String) (r : PolicyBundleRow) : Prop :=
  findPolicyRecord (switchTo recordId now rows) recordId = some r

theorem exists_switched (h : target ∈ policyBundles rows) (now : String) :
    ∃ r, Switched rows target.recordId now r :=
  exists_findPolicyRecord (b := target.activated (maxGeneration rows + 1) now)
    (mem_activated h now)

theorem writes_activateInSession {now : String} {r : PolicyBundleRow}
    (htarget : activationTarget rows bundleId contentDigest = some target)
    (hvalid : target.validationStatus = "ok") (hr : Switched rows target.recordId now r) :
    (activateInSession bundleId contentDigest now).Writes schema rows 5
      (switchTo target.recordId now rows) r := by
  refine Prog.writes_bind (n := 1) (m := 4) writes_fetchAll ?_
  rw [htarget]
  dsimp only
  rw [if_neg (not_not_intro hvalid)]
  refine Prog.writes_bind (n := 1) (m := 3) writes_fetchAll ?_
  refine Prog.writes_bind (n := 1) (m := 2) (writes_execute _) ?_
  refine Prog.writes_bind (n := 1) (m := 1) (writes_execute _) ?_
  exact writes_readBack hr

/-- An activation becomes durable with the commit after its five statements. -/
theorem executes_activatePolicyBundle {now : Instant} {r : PolicyBundleRow}
    (htarget : activationTarget rows bundleId contentDigest = some target)
    (hvalid : target.validationStatus = "ok")
    (hr : Switched rows target.recordId (Timestamp.isoformat now) r) :
    (activatePolicyBundle bundleId contentDigest now).Executes schema rows 8
      (fun i => if i ≤ 5 then rows
        else switchTo target.recordId (Timestamp.isoformat now) rows) r :=
  executes_committing (writes_activateInSession htarget hvalid hr)

/-- A rollback reads the previous record before it activates. -/
theorem executes_rollbackPolicyBundle {now : Instant} {previous r : PolicyBundleRow}
    (hprevious : selectPolicyBundle rows .previous = some previous)
    (htarget : activationTarget rows previous.bundleId previous.contentDigest = some target)
    (hvalid : target.validationStatus = "ok")
    (hr : Switched rows target.recordId (Timestamp.isoformat now) r) :
    (rollbackPolicyBundle now).Executes schema rows 9
      (fun i => if i ≤ 6 then rows
        else switchTo target.recordId (Timestamp.isoformat now) rows) r := by
  have hbody : (rollbackInSession (Timestamp.isoformat now)).Writes schema rows 6
      (switchTo target.recordId (Timestamp.isoformat now) rows) r := by
    refine Prog.writes_bind (n := 1) (m := 5) writes_fetchAll ?_
    rw [hprevious]
    exact writes_activateInSession htarget hvalid hr
  exact executes_committing hbody

/-! ## Calls that raise -/

/-- The program only raises, and leaves the rows as they are. -/
def Refuses (rows : List Row) {α : Type} (p : StoreM α) : Prop :=
  p.Keeps schema (· = rows) (fun r => ∃ e, r = .error e)

theorem refuses_throw {α : Type} (e : PyError) : Refuses rows (throw e : StoreM α) := ⟨e, rfl⟩

/-- Reading does not change what follows. -/
theorem refuses_fetch {α : Type} {f : List Row → StoreM α} (h : Refuses rows (f rows)) :
    Refuses rows (fetchAll >>= f) := by
  refine Prog.keeps_bind keeps_fetchAll (fun rows' hrows => ?_) (fun e _ => ⟨e, rfl⟩)
  rw [hrows rows' rfl]
  exact h

theorem refuses_committing {α : Type} {body : StoreM α} (h : Refuses rows body) :
    Refuses rows (session (do let a ← body; commit; return a)) := by
  refine keeps_session (Prog.keeps_bind h (fun a ha => ?_) (fun e _ => ⟨e, rfl⟩))
    (fun e => ⟨e, rfl⟩)
  obtain ⟨e, he⟩ := ha
  exact nomatch he

/-- An activation refuses a bundle that is not there or not valid. -/
theorem refuses_activateInSession {now : String}
    (h : ∀ target, activationTarget rows bundleId contentDigest = some target →
      target.validationStatus ≠ "ok") :
    Refuses rows (activateInSession bundleId contentDigest now) := by
  refine refuses_fetch ?_
  cases htarget : activationTarget rows bundleId contentDigest with
  | none => exact refuses_throw _
  | some target =>
    dsimp only
    rw [if_pos (h target htarget)]
    exact refuses_throw _

/-- A rollback refuses when there is no previous record, or when it is not valid. -/
theorem refuses_rollbackInSession {now : String}
    (h : ∀ previous target, selectPolicyBundle rows .previous = some previous →
      activationTarget rows previous.bundleId previous.contentDigest = some target →
      target.validationStatus ≠ "ok") : Refuses rows (rollbackInSession now) := by
  refine refuses_fetch ?_
  cases hprevious : selectPolicyBundle rows .previous with
  | none => exact refuses_throw _
  | some previous => exact refuses_activateInSession (fun target => h previous target hprevious)

/-! ## Registering -/

variable {new : NewPolicyBundle} {recordId : String} {now : Instant}

/-- Registering again refreshes the record. -/
theorem executes_refresh (recordId : String) {r : PolicyBundleRow}
    (hexisting : findPolicyBundle rows new.bundleId new.contentDigest = some existing)
    (hr : findPolicyRecord ((refreshPolicyBundle new existing.recordId
      (Timestamp.isoformat now)).apply rows) existing.recordId = some r) :
    (upsertPolicyBundleCandidate new recordId now).Executes schema rows 8
      (fun i => if i ≤ 5 then rows else
        (refreshPolicyBundle new existing.recordId (Timestamp.isoformat now)).apply rows) r := by
  refine Prog.executes_bind_read (n := 3) (m := 5) (k := 2)
    (executes_session executes_fetchAll) ?_
  rw [hexisting]
  exact executes_committing
    (Prog.writes_bind (n := 1) (m := 1) (writes_execute _) (writes_readBack hr))

/-- Registering for the first time adds a record. -/
theorem executes_register {r : PolicyBundleRow}
    (hnone : findPolicyBundle rows new.bundleId new.contentDigest = none)
    (hadmits : schema.admits rows
      (.policyBundle (new.row recordId (Timestamp.isoformat now))) = true)
    (hr : findPolicyRecord (rows ++ [.policyBundle (new.row recordId
      (Timestamp.isoformat now))]) recordId = some r) :
    (upsertPolicyBundleCandidate new recordId now).Executes schema rows 8
      (fun i => if i ≤ 5 then rows else
        rows ++ [.policyBundle (new.row recordId (Timestamp.isoformat now))]) r := by
  refine Prog.executes_bind_read (n := 3) (m := 5) (k := 2)
    (executes_session executes_fetchAll) ?_
  rw [hnone]
  exact executes_committing
    (Prog.writes_bind (n := 1) (m := 1) (writes_insertRow hadmits) (writes_readBack hr))

/-! ## Outcomes -/

variable (fails : ℕ → Option PyError)

theorem outcome_refuses {α : Type} {p : StoreM α} (h : Refuses rows p) :
    (∃ e, (outcome p fails rows).1 = .error e) ∧ (outcome p fails rows).2 = rows := by
  obtain ⟨herror, hrows, -⟩ := h.run fails (σ := .ofRows rows) rfl rfl
  exact ⟨herror, hrows⟩

/-- Registering under a record id that is taken raises, and changes nothing. -/
theorem refused_register {new : NewPolicyBundle} {recordId : String} {now : Instant}
    (hnone : findPolicyBundle rows new.bundleId new.contentDigest = none)
    (hadmits : ¬ schema.admits rows
      (.policyBundle (new.row recordId (Timestamp.isoformat now))) = true) :
    (∃ e, (outcome (upsertPolicyBundleCandidate new recordId now) fails rows).1 = .error e) ∧
      (outcome (upsertPolicyBundleCandidate new recordId now) fails rows).2 = rows := by
  have hkeeps : (upsertPolicyBundleCandidate new recordId now).Keeps schema (· = rows)
      (fun _ => True) := by
    refine Prog.keeps_bind (keeps_session keeps_fetchAll (fun _ _ h => nomatch h))
      (fun rows' hrows => ?_) (fun _ _ => trivial)
    rw [hrows rows' rfl, hnone]
    refine keeps_session (Prog.keeps_bind (Q := fun _ => True) ?_ (fun a _ => ?_)
      (fun _ _ => trivial)) (fun _ => trivial)
    · refine Prog.keeps_bind (keeps_insert (fun rows₁ h hadm => ?_)) (fun _ _ => ?_)
        (fun _ _ => trivial)
      · exact absurd (h ▸ hadm) hadmits
      · refine Prog.keeps_bind keeps_fetchAll (fun rows₂ _ => ?_) (fun _ _ => trivial)
        cases findPolicyRecord rows₂ recordId <;> trivial
    · exact Prog.keeps_bind keeps_commit (fun _ _ => trivial) (fun _ _ => trivial)
  refine ⟨?_, (hkeeps.run fails (σ := .ofRows rows) rfl rfl).2.1⟩
  match hrun : (upsertPolicyBundleCandidate new recordId now).run schema fails (.ofRows rows) with
  | (.error e, σ) => exact ⟨e, congrArg Prod.fst hrun⟩
  | (.ok r, σ) =>
    -- a success would have inserted the row
    obtain ⟨rows', σ₁, hread, hrest⟩ := Prog.run_bind_eq_ok.mp hrun
    obtain ⟨hrows', hcurrent⟩ := run_session_fetchAll_ok hread
    rw [hrows'] at hrest
    rw [show findPolicyBundle (Session.ofRows rows).current new.bundleId new.contentDigest = none
      from hnone] at hrest
    obtain ⟨σ₂, hbody, -⟩ := run_session_ok hrest
    obtain ⟨_, σ₃, hupsert, -⟩ := Prog.run_bind_eq_ok.mp hbody
    obtain ⟨_, σ₄, hinsert, -⟩ := Prog.run_bind_eq_ok.mp hupsert
    have hadm := (run_insert_ok hinsert).1
    rw [hcurrent] at hadm
    exact absurd hadm hadmits

/-- An outcome of a call that selects a target, of whose `n` statements the one number `k` is the
commit: it raises and changes nothing, because there is no target or a statement up to the
commit has failed, or it switches to a target; it raises all the same when a statement behind
the commit has failed. -/
def Selects (rows : List Row) (target : PolicyBundleRow → Prop) (now : String) (k n : ℕ)
    (fails : ℕ → Option PyError) (out : Except PyError PolicyBundleRow × List Row) : Prop :=
  ((∃ e, out.1 = .error e) ∧ out.2 = rows ∧
    ((∀ b, ¬ target b) ∨ ¬ Prog.Succeeds fails (k + 1))) ∨
  ∃ b r, target b ∧ Switched rows b.recordId now r ∧ out.2 = switchTo b.recordId now rows ∧
    (out.1 = .ok r ∧ Prog.Succeeds fails n ∨
      (∃ e, out.1 = .error e) ∧ Prog.Succeeds fails (k + 1) ∧ ¬ Prog.Succeeds fails n)

theorem selects_of_executes {target : PolicyBundleRow → Prop} {now : String} {k n : ℕ}
    {p : StoreM PolicyBundleRow} (hk : k < n) (hmem : ∀ b, target b → b ∈ policyBundles rows)
    (hexec : ∀ b r, target b → Switched rows b.recordId now r →
      p.Executes schema rows n (fun i => if i ≤ k then rows else switchTo b.recordId now rows) r)
    (hrefuses : (∀ b, ¬ target b) → Refuses rows p) :
    Selects rows target now k n fails (outcome p fails rows) := by
  by_cases h : ∃ b, target b
  · obtain ⟨b, hb⟩ := h
    obtain ⟨r, hr⟩ := exists_switched (hmem b hb) now
    rcases (hexec b r hb hr).run_cases hk fails with
      ⟨hok, hc, hall⟩ | ⟨herror, hn, ⟨hc, hi⟩ | ⟨hc, hi⟩⟩
    · exact Or.inr ⟨b, r, hb, hr, hc, Or.inl ⟨hok, hall⟩⟩
    · exact Or.inl ⟨herror, hc, Or.inr hi⟩
    · exact Or.inr ⟨b, r, hb, hr, hc, Or.inr ⟨herror, hi, hn⟩⟩
  · have hnone : ∀ b, ¬ target b := fun b hb => h ⟨b, hb⟩
    obtain ⟨herror, hrows⟩ := outcome_refuses fails (hrefuses hnone)
    exact Or.inl ⟨herror, hrows, Or.inl hnone⟩

/-- The valid record that an activation is for. -/
def ActivationTarget (rows : List Row) (bundleId contentDigest : String)
    (b : PolicyBundleRow) : Prop :=
  activationTarget rows bundleId contentDigest = some b ∧ b.validationStatus = "ok"

/-- The valid record that a rollback goes back to. -/
def RollbackTarget (rows : List Row) (b : PolicyBundleRow) : Prop :=
  ∃ previous, selectPolicyBundle rows .previous = some previous ∧
    ActivationTarget rows previous.bundleId previous.contentDigest b

/-- **Activation.** -/
theorem activatePolicyBundle_selects (bundleId contentDigest : String) (now : Instant) :
    Selects rows (ActivationTarget rows bundleId contentDigest) (Timestamp.isoformat now) 5 8 fails
      (outcome (activatePolicyBundle bundleId contentDigest now) fails rows) := by
  refine selects_of_executes fails (by decide) (fun b hb => activationTarget_mem hb.1)
    (fun b r hb hr => executes_activatePolicyBundle hb.1 hb.2 hr) (fun hnone => ?_)
  exact refuses_committing (refuses_activateInSession (fun b hb hvalid => hnone b ⟨hb, hvalid⟩))

/-- **Rollback.** -/
theorem rollbackPolicyBundle_selects (rows : List Row) (now : Instant) :
    Selects rows (RollbackTarget rows) (Timestamp.isoformat now) 6 9 fails
      (outcome (rollbackPolicyBundle now) fails rows) := by
  refine selects_of_executes (n := 9) fails (by decide) ?_ ?_ (fun hnone => ?_)
  · rintro b ⟨previous, -, hb, -⟩
    exact activationTarget_mem hb
  · rintro b r ⟨previous, hprevious, hb, hvalid⟩ hr
    exact executes_rollbackPolicyBundle hprevious hb hvalid hr
  · refine refuses_committing (refuses_rollbackInSession (fun previous b hprevious hb hvalid => ?_))
    exact hnone b ⟨previous, hprevious, hb, hvalid⟩

/-- The rows after a bundle was registered. -/
def registered (new : NewPolicyBundle) (recordId now : String) (rows : List Row) : List Row :=
  match findPolicyBundle rows new.bundleId new.contentDigest with
  | some existing => (refreshPolicyBundle new existing.recordId now).apply rows
  | none => rows ++ [.policyBundle (new.row recordId now)]

/-- The bundle is registered already, or the record id is not taken. -/
def Registrable (bundleId contentDigest recordId : String) (rows : List Row) : Prop :=
  findPolicyBundle rows bundleId contentDigest = none →
    ∀ b ∈ policyBundles rows, b.recordId ≠ recordId

theorem admits_policyBundle {r : PolicyBundleRow} :
    schema.admits rows (.policyBundle r) = true ↔
      ∀ b ∈ policyBundles rows, b.recordId ≠ r.recordId := by
  rw [admits_iff]
  constructor
  · rintro ⟨hkey, -⟩ b hb hid
    refine hkey (List.mem_map.mpr ⟨_, mem_policyBundles.mp hb, ?_⟩)
    exact congrArg RowKey.policyBundle hid
  · refine fun h => ⟨fun hkey => ?_, rfl⟩
    obtain ⟨row, hrow, hid⟩ := List.mem_map.mp hkey
    cases row with
    | policyBundle b => exact h b (mem_policyBundles.mpr hrow) (RowKey.policyBundle.inj hid)
    | _ => exact nomatch hid

/-- An outcome of a registration, whose commit is statement 5 of 8. -/
def Registers (rows : List Row) (new : NewPolicyBundle) (recordId now : String)
    (fails : ℕ → Option PyError) (out : Except PyError PolicyBundleRow × List Row) : Prop :=
  ((∃ e, out.1 = .error e) ∧ out.2 = rows ∧
    (¬ Registrable new.bundleId new.contentDigest recordId rows ∨ ¬ Prog.Succeeds fails 6)) ∨
  Registrable new.bundleId new.contentDigest recordId rows ∧ out.2 = registered new recordId now rows ∧
    ((∃ r, out.1 = .ok r) ∧ Prog.Succeeds fails 8 ∨
      (∃ e, out.1 = .error e) ∧ Prog.Succeeds fails 6 ∧ ¬ Prog.Succeeds fails 8)

theorem registers_of_executes {new : NewPolicyBundle} {recordId now : String}
    {p : StoreM PolicyBundleRow} {r : PolicyBundleRow}
    (hok : Registrable new.bundleId new.contentDigest recordId rows)
    (h : p.Executes schema rows 8 (fun i => if i ≤ 5 then rows
      else registered new recordId now rows) r) :
    Registers rows new recordId now fails (outcome p fails rows) := by
  rcases h.run_cases (by decide) fails with
    ⟨hres, hc, hall⟩ | ⟨herror, hn, ⟨hc, hi⟩ | ⟨hc, hi⟩⟩
  · exact Or.inr ⟨hok, hc, Or.inl ⟨⟨r, hres⟩, hall⟩⟩
  · exact Or.inl ⟨herror, hc, Or.inr hi⟩
  · exact Or.inr ⟨hok, hc, Or.inr ⟨herror, hi, hn⟩⟩

/-- **Registration** refreshes the record of a bundle or adds one; it raises when the record id
is taken. -/
theorem upsertPolicyBundleCandidate_registers (new : NewPolicyBundle) (recordId : String)
    (now : Instant) :
    Registers rows new recordId (Timestamp.isoformat now) fails
      (outcome (upsertPolicyBundleCandidate new recordId now) fails rows) := by
  cases hfind : findPolicyBundle rows new.bundleId new.contentDigest with
  | some existing =>
    have hrows : registered new recordId (Timestamp.isoformat now) rows
        = (refreshPolicyBundle new existing.recordId (Timestamp.isoformat now)).apply rows := by
      unfold registered
      rw [hfind]
    have hmem : existing.refreshed new (Timestamp.isoformat now) ∈ policyBundles
        ((refreshPolicyBundle new existing.recordId (Timestamp.isoformat now)).apply rows) := by
      rw [policyBundles_refresh]
      exact List.mem_map.mpr ⟨existing, (findPolicyBundle_some hfind).1,
        if_pos (decide_eq_true rfl)⟩
    obtain ⟨r, hr⟩ := exists_findPolicyRecord
      (b := existing.refreshed new (Timestamp.isoformat now)) hmem
    refine registers_of_executes fails (fun hnone => ?_) (hrows ▸ executes_refresh recordId hfind hr)
    rw [hfind] at hnone
    exact nomatch hnone
  | none =>
    have hrows : registered new recordId (Timestamp.isoformat now) rows
        = rows ++ [.policyBundle (new.row recordId (Timestamp.isoformat now))] := by
      unfold registered
      rw [hfind]
    by_cases hadmits : schema.admits rows
        (.policyBundle (new.row recordId (Timestamp.isoformat now))) = true
    · have hmem : new.row recordId (Timestamp.isoformat now) ∈ policyBundles
          (rows ++ [.policyBundle (new.row recordId (Timestamp.isoformat now))]) := by
        rw [policyBundles_append]
        exact List.mem_append_right _ List.mem_cons_self
      obtain ⟨r, hr⟩ := exists_findPolicyRecord (b := new.row recordId (Timestamp.isoformat now))
        hmem
      exact registers_of_executes fails (fun _ => admits_policyBundle.mp hadmits)
        (hrows ▸ executes_register hfind hadmits hr)
    · obtain ⟨herror, hkept⟩ := refused_register fails hfind hadmits
      exact Or.inl ⟨herror, hkept, Or.inl (fun h => hadmits (admits_policyBundle.mpr (h hfind)))⟩

/-- Registration refreshes the record of a bundle, adds one, or changes nothing. -/
theorem upsertPolicyBundleCandidate_outcome (new : NewPolicyBundle) (recordId : String)
    (now : Instant) :
    (outcome (upsertPolicyBundleCandidate new recordId now) fails rows).2 = rows ∨
    (∃ existing, findPolicyBundle rows new.bundleId new.contentDigest = some existing ∧
      (outcome (upsertPolicyBundleCandidate new recordId now) fails rows).2
        = (refreshPolicyBundle new existing.recordId (Timestamp.isoformat now)).apply rows) ∨
    findPolicyBundle rows new.bundleId new.contentDigest = none ∧
      schema.admits rows (.policyBundle (new.row recordId (Timestamp.isoformat now))) = true ∧
      (outcome (upsertPolicyBundleCandidate new recordId now) fails rows).2
        = rows ++ [.policyBundle (new.row recordId (Timestamp.isoformat now))] := by
  rcases upsertPolicyBundleCandidate_registers fails new recordId now with
    ⟨-, hrows, -⟩ | ⟨hok, hrows, -⟩
  · exact Or.inl hrows
  · unfold registered at hrows
    cases hfind : findPolicyBundle rows new.bundleId new.contentDigest with
    | some existing =>
      rw [hfind] at hrows
      exact Or.inr (Or.inl ⟨existing, rfl, hrows⟩)
    | none =>
      rw [hfind] at hrows
      exact Or.inr (Or.inr ⟨rfl, admits_policyBundle.mpr (hok hfind), hrows⟩)

/-- The selection: the id of every record with its status and its generation. -/
def selectionOf (rows : List Row) : List (String × PolicyStatus × Option ℤ) :=
  (policyBundles rows).map (fun b => (b.recordId, b.status, b.generation))

/-- Registering adds a candidate to the selection, if anything. -/
theorem selectionOf_registered (new : NewPolicyBundle) (recordId now : String)
    (rows : List Row) :
    ∃ added, selectionOf (registered new recordId now rows) = selectionOf rows ++ added ∧
      ∀ s ∈ added, s.2.1 = .candidate := by
  unfold registered
  cases findPolicyBundle rows new.bundleId new.contentDigest with
  | some existing =>
    refine ⟨[], ?_, fun _ h => absurd h List.not_mem_nil⟩
    unfold selectionOf
    rw [policyBundles_refresh, List.map_map, List.append_nil]
    refine List.map_congr_left (fun b _ => ?_)
    obtain ⟨hid, -, -, hstatus, hgen⟩ := refreshRecord_same new existing.recordId now b
    show (_, _, _) = (_, _, _)
    rw [hid, hstatus, hgen]
  | none =>
    refine ⟨[(recordId, .candidate, none)], ?_, ?_⟩
    · unfold selectionOf
      rw [policyBundles_append, List.map_append]
      rfl
    · intro s hs
      rw [List.mem_singleton.mp hs]

/-- A valid bundle that was registered can be activated. -/
theorem exists_activationTarget_registered {new : NewPolicyBundle} (recordId now : String)
    (rows : List Row) (hdigest : new.contentDigest ≠ "") (hvalid : new.validationStatus = "ok") :
    ∃ b, ActivationTarget (registered new recordId now rows) new.bundleId new.contentDigest b := by
  unfold ActivationTarget activationTarget
  rw [if_pos hdigest]
  cases hfind : findPolicyBundle rows new.bundleId new.contentDigest with
  | some existing =>
    have hkey : ∀ b : PolicyBundleRow,
        decide ((refreshRecord new existing.recordId now b).bundleId = new.bundleId ∧
          (refreshRecord new existing.recordId now b).contentDigest = new.contentDigest)
        = decide (b.bundleId = new.bundleId ∧ b.contentDigest = new.contentDigest) := by
      intro b
      obtain ⟨-, hbundle, hsame, -⟩ := refreshRecord_same new existing.recordId now b
      rw [hbundle, hsame]
    refine ⟨refreshRecord new existing.recordId now existing, ?_, ?_⟩
    · unfold registered findPolicyBundle at *
      rw [hfind]
      dsimp only
      rw [policyBundles_refresh, List.find?_map]
      have hcomp : (fun r : PolicyBundleRow => decide (r.bundleId = new.bundleId ∧
          r.contentDigest = new.contentDigest)) ∘ refreshRecord new existing.recordId now
          = fun r => decide (r.bundleId = new.bundleId ∧ r.contentDigest = new.contentDigest) :=
        funext hkey
      rw [hcomp, hfind]
      rfl
    · unfold refreshRecord updatedBundle
      rw [if_pos (decide_eq_true rfl)]
      exact hvalid
  | none =>
    refine ⟨new.row recordId now, ?_, hvalid⟩
    unfold registered findPolicyBundle at *
    rw [hfind]
    dsimp only
    rw [policyBundles_append, List.find?_append, hfind, Option.none_or]
    show List.find? _ [new.row recordId now] = _
    rw [List.find?_singleton, if_pos (decide_eq_true ⟨rfl, rfl⟩)]

/-- A switch is seen in the selection, also when a bundle was registered before it. -/
theorem selectionOf_switchTo_ne {rows rows' : List Row} {b : PolicyBundleRow} {now : String}
    {new added : List (String × PolicyStatus × Option ℤ)}
    (hreg : selectionOf rows' = selectionOf rows ++ new) (hb : b ∈ policyBundles rows')
    (hadded : ∀ s ∈ added, s.2.1 = .candidate) :
    selectionOf (switchTo b.recordId now rows') ≠ selectionOf rows ++ added := by
  intro heq
  have hmem : (b.recordId, PolicyStatus.active, some (maxGeneration rows' + 1))
      ∈ selectionOf (switchTo b.recordId now rows') :=
    List.mem_map.mpr ⟨_, mem_activated hb now, rfl⟩
  rw [heq] at hmem
  rcases List.mem_append.mp hmem with hold | hnew
  · -- no record before has the new generation
    have hold' : (b.recordId, PolicyStatus.active, some (maxGeneration rows' + 1))
        ∈ selectionOf rows' := by
      rw [hreg]
      exact List.mem_append_left _ hold
    obtain ⟨a, ha, hsame⟩ := List.mem_map.mp hold'
    have hgen : a.generation = some (maxGeneration rows' + 1) :=
      congrArg (fun s => s.2.2) hsame
    have hle := le_maxGeneration ha hgen
    omega
  · exact nomatch hadded _ hnew

/-- **Reading** changes nothing, and raises when one of its three statements fails. -/
theorem outcome_query {α : Type} (rows : List Row) (f : List Row → α) :
    (outcome (do let rows ← session fetchAll; return f rows) fails rows).2 = rows ∧
      ((∃ e, (outcome (do let rows ← session fetchAll; return f rows) fails rows).1 = .error e) ∧
          (∃ i < 3, fails i ≠ none) ∨
        (outcome (do let rows ← session fetchAll; return f rows) fails rows).1 = .ok (f rows) ∧
          ∀ i < 3, fails i = none) := by
  have hexec : (do let rows ← session fetchAll; return f rows : StoreM α).Executes schema rows 3
      (fun _ => rows) (f rows) := Prog.executes_map (executes_session executes_fetchAll) f
  rcases hexec.run_committed fails with ⟨hall, hok, hc⟩ | ⟨i, hi, hfail, -, herror, hc⟩
  · exact ⟨hc, Or.inr ⟨hok, hall⟩⟩
  · exact ⟨hc, Or.inl ⟨herror, i, hi, hfail⟩⟩

end ControlPlane
