/-
# The retention purge

`purge_retained` expires the stale approvals, selects the oldest decisions created before
the cutoff, counts what refers to them and deletes it all in one transaction.  What it
selects is compared with the instants that the timestamps denote, what it leaves is one
filter of the rows, and what it reports are the numbers of the rows that the filter drops
(`purgeRetained_exact`).  The assumptions on the rows hold in every store that the methods
leave (`consistent_committedRows`).
-/
import ControlPlane.Store.SerialRules
import ControlPlane.TenantIsolation
import ControlPlane.TimestampOrder
import Mathlib.Data.List.Sort

open Transaction

namespace ControlPlane.Retention

/-! ## What a purge leaves -/

/-- The row is one of the decisions with the given ids, or an approval or an audit row that
refers to one of them. -/
def belongsTo (ids : List String) : Row → Bool
  | .decision d => d.decisionId ∈ ids
  | .approval a => a.decisionId ∈ ids
  | .auditMeta m => m.decisionId ∈ ids
  | _ => false

/-- The rows after stale approvals expired at the given instant. -/
def expiredRows (now : Instant) (rows : List Row) : List Row :=
  (expireStaleChange (Timestamp.isoformat now)).apply rows

/-- The rows without the decisions with the given ids and without what refers to them. -/
def keptRows (ids : List String) (rows : List Row) : List Row :=
  rows.filter fun row => ! belongsTo ids row

/-- The decisions that a purge selects. -/
def selected (retentionDays limit : ℤ) (cutoff : String) (rows : List Row) : List DecisionRow :=
  if retentionDays ≤ 0 then []
  else
    (((decisions rows).filter (fun d => d.createdAt < cutoff)).insertionSort
      (fun a b => a.createdAt ≤ b.createdAt)).take limit.toNat

/-- The ids of the selected decisions. -/
def selectedIds (retentionDays limit : ℤ) (cutoff : String) (rows : List Row) : List String :=
  (selected retentionDays limit cutoff rows).map DecisionRow.decisionId

/-- What a purge reports. -/
def report (retentionDays limit : ℤ) (dryRun : Bool) (cutoff : String) (now : Instant)
    (rows : List Row) : RetentionPurgeResult where
  retentionDays := retentionDays
  cutoff := cutoff
  dryRun := dryRun
  expiredApprovals := rows.countP (expireStaleChange (Timestamp.isoformat now)).guard
  deletedAuditMeta := (auditMetas rows).countP
    (fun r => r.decisionId ∈ selectedIds retentionDays limit cutoff rows)
  deletedApprovals := (approvals rows).countP
    (fun r => r.decisionId ∈ selectedIds retentionDays limit cutoff rows)
  deletedDecisions := (selectedIds retentionDays limit cutoff rows).length

/-- The rows that a purge leaves. -/
def purgedRows (retentionDays limit : ℤ) (dryRun : Bool) (cutoff : String) (now : Instant)
    (rows : List Row) : List Row :=
  if dryRun then expiredRows now rows
  else keptRows (selectedIds retentionDays limit cutoff rows) (expiredRows now rows)

/-! ## Deleting -/

theorem apply_eq_filter {c : Change Row} (hset : ∀ row, c.set row = none) (rows : List Row) :
    c.apply rows = rows.filter fun row => ! c.guard row := by
  unfold Change.apply
  rw [← List.filterMap_eq_filter]
  refine List.filterMap_congr fun row _ => ?_
  cases hguard : c.guard row
  · simp [Option.guard, hguard]
  · simp [Option.guard, hguard, hset]

/-- The three deletions together. -/
theorem apply_deletions (ids : List String) (rows : List Row) :
    (deleteDecisions ids).apply ((deleteApprovals ids).apply ((deleteAuditMeta ids).apply rows)) =
      keptRows ids rows := by
  rw [apply_eq_filter (fun _ => rfl), apply_eq_filter (fun _ => rfl),
    apply_eq_filter (fun _ => rfl), List.filter_filter, List.filter_filter]
  refine List.filter_congr fun row _ => ?_
  unfold belongsTo
  cases row with
  | approval a => simp [deleteDecisions, deleteApprovals, deleteAuditMeta, Row.decisionRef]
  | auditMeta m => simp [deleteDecisions, deleteApprovals, deleteAuditMeta, Row.decisionRef]
  | decision d => simp [deleteDecisions, deleteApprovals, deleteAuditMeta]
  | capability c => simp [deleteDecisions, deleteApprovals, deleteAuditMeta, Row.decisionRef]
  | policyBundle b => simp [deleteDecisions, deleteApprovals, deleteAuditMeta, Row.decisionRef]
  | proposal p => simp [deleteDecisions, deleteApprovals, deleteAuditMeta, Row.decisionRef]

theorem keptRows_nil (rows : List Row) : keptRows [] rows = rows := by
  unfold keptRows
  rw [List.filter_eq_self]
  intro row _
  cases row <;> simp [belongsTo]

/-- Expiring changes no decision and no audit row, and keeps what each approval refers to. -/
theorem decisions_expiredRows (now : Instant) (rows : List Row) :
    decisions (expiredRows now rows) = decisions rows := decisions_update

theorem auditMetas_expiredRows (now : Instant) (rows : List Row) :
    auditMetas (expiredRows now rows) = auditMetas rows := auditMetas_update

theorem countP_approvals_expiredRows (now : Instant) (rows : List Row) (p : String → Bool) :
    (approvals (expiredRows now rows)).countP (fun a => p a.decisionId) =
      (approvals rows).countP (fun a => p a.decisionId) := by
  unfold expiredRows expireStaleChange
  rw [approvals_update, List.countP_map]
  congr 1
  funext a
  simp only [Function.comp_apply, updatedApproval]
  split <;> rfl

/-! ## The transaction -/

theorem writes_expireStale (now : Instant) (rows : List Row) :
    (expireStale now false).Writes schema rows 1 (expiredRows now rows)
      (rows.countP (expireStaleChange (Timestamp.isoformat now)).guard) := by
  refine Prog.writes_bind (n := 1) (m := 0) (writes_execute _) ?_
  exact Prog.writes_done _

theorem writes_deleteRetained (dryRun : Bool) (ids : List String) (rows : List Row) :
    (deleteRetained dryRun ids).Writes schema rows (if dryRun then 0 else 3)
      (if dryRun then rows else keptRows ids rows) () := by
  unfold deleteRetained
  cases dryRun with
  | true => exact Prog.writes_done ()
  | false =>
      rw [← apply_deletions]
      refine Prog.writes_bind (n := 1) (m := 2) (writes_execute _) ?_
      refine Prog.writes_bind (n := 1) (m := 1) (writes_execute _) ?_
      refine Prog.writes_bind (n := 1) (m := 0) (writes_execute _) ?_
      exact Prog.writes_done ()

theorem purgeable_expiredRows (cutoff : String) (limit : ℕ) (now : Instant) (rows : List Row) :
    purgeable cutoff limit (expiredRows now rows) = purgeable cutoff limit rows := by
  unfold purgeable
  rw [decisions_expiredRows]

/-- The body of the transaction, in every branch. -/
theorem writes_purgeInTransaction (retentionDays limit : ℤ) (dryRun : Bool) (cutoff : String)
    (now : Instant) (rows : List Row) :
    ∃ n, (purgeInTransaction retentionDays dryRun limit cutoff now).Writes schema rows n
      (purgedRows retentionDays limit dryRun cutoff now rows)
      (report retentionDays limit dryRun cutoff now rows) := by
  unfold purgeInTransaction
  by_cases hdays : retentionDays ≤ 0
  · -- only the stale approvals expire
    have hids : selectedIds retentionDays limit cutoff rows = [] := by
      unfold selectedIds selected
      rw [if_pos hdays]
      rfl
    have hrows : purgedRows retentionDays limit dryRun cutoff now rows = expiredRows now rows := by
      unfold purgedRows
      rw [hids, keptRows_nil, ite_self]
    have hreport : report retentionDays limit dryRun cutoff now rows =
        { retentionDays := retentionDays, cutoff := cutoff, dryRun := dryRun
          expiredApprovals := rows.countP (expireStaleChange (Timestamp.isoformat now)).guard } := by
      unfold report
      rw [hids]
      simp
    rw [hrows, hreport]
    refine ⟨1, Prog.writes_bind (n := 1) (m := 0) (writes_expireStale now rows) ?_⟩
    simp only [hdays, if_true]
    exact Prog.writes_done _
  · have hids : purgeable cutoff limit.toNat (expiredRows now rows) =
        selectedIds retentionDays limit cutoff rows := by
      rw [purgeable_expiredRows]
      unfold purgeable selectedIds selected
      rw [if_neg hdays]
    by_cases hnone : selectedIds retentionDays limit cutoff rows = []
    · -- nothing is old enough
      have hrows : purgedRows retentionDays limit dryRun cutoff now rows =
          expiredRows now rows := by
        unfold purgedRows
        rw [hnone, keptRows_nil, ite_self]
      have hreport : report retentionDays limit dryRun cutoff now rows =
          { retentionDays := retentionDays, cutoff := cutoff, dryRun := dryRun
            expiredApprovals :=
              rows.countP (expireStaleChange (Timestamp.isoformat now)).guard } := by
        unfold report
        rw [hnone]
        simp
      rw [hrows, hreport]
      refine ⟨2, Prog.writes_bind (n := 1) (m := 1) (writes_expireStale now rows) ?_⟩
      simp only [hdays, if_false]
      refine Prog.writes_bind (n := 1) (m := 0) writes_fetchAll ?_
      rw [hids, hnone]
      simp only [if_true]
      exact Prog.writes_done _
    · refine ⟨1 + (1 + (1 + (1 + ((if dryRun then 0 else 3) + 0)))),
        Prog.writes_bind (writes_expireStale now rows) ?_⟩
      simp only [hdays, if_false]
      refine Prog.writes_bind writes_fetchAll ?_
      rw [hids]
      simp only [hnone, if_false]
      refine Prog.writes_bind writes_fetchAll ?_
      refine Prog.writes_bind writes_fetchAll ?_
      refine Prog.writes_bind (writes_deleteRetained dryRun _ _) ?_
      have hreport : report retentionDays limit dryRun cutoff now rows =
          { retentionDays := retentionDays, cutoff := cutoff, dryRun := dryRun
            expiredApprovals := rows.countP (expireStaleChange (Timestamp.isoformat now)).guard
            deletedAuditMeta := (auditMetas (expiredRows now rows)).countP
              (fun r => r.decisionId ∈ selectedIds retentionDays limit cutoff rows)
            deletedApprovals := (approvals (expiredRows now rows)).countP
              (fun r => r.decisionId ∈ selectedIds retentionDays limit cutoff rows)
            deletedDecisions := (selectedIds retentionDays limit cutoff rows).length } := by
        rw [auditMetas_expiredRows, countP_approvals_expiredRows now rows
          (fun id => decide (id ∈ selectedIds retentionDays limit cutoff rows))]
        rfl
      rw [hreport]
      exact Prog.writes_done _

/-! ## Which decisions are selected -/

/-- The decision was created before the cutoff. -/
def olderThan (cutoff : Instant) (d : DecisionRow) : Bool :=
  (Timestamp.parseIso d.createdAt).any fun created => created < cutoff

/-- The keys of the rows differ, and the decisions carry the texts of datetimes. -/
structure Consistent (rows : List Row) : Prop where
  keys : (rows.map Row.key).Nodup
  created : ∀ d ∈ decisions rows,
    ∃ t, Timestamp.IsDatetime t ∧ d.createdAt = Timestamp.isoformat t

/-- The decisions are the oldest ones among those created before the cutoff, and as many of
them as the limit permits. -/
structure Oldest (cutoff : Instant) (limit : ℕ) (rows : List Row) (chosen : List DecisionRow) :
    Prop where
  nodup : (chosen.map DecisionRow.decisionId).Nodup
  stored : ∀ d ∈ chosen, d ∈ decisions rows
  older : ∀ d ∈ chosen, olderThan cutoff d = true
  length : chosen.length = min limit ((decisions rows).countP (olderThan cutoff))
  first : ∀ d ∈ chosen, ∀ d' ∈ decisions rows, d' ∉ chosen → ∀ t t',
    Timestamp.parseIso d.createdAt = some t → Timestamp.parseIso d'.createdAt = some t' → t ≤ t'

section Selection

variable {rows : List Row} {cutoff : Instant} {limit : ℕ}

/-- The ids of the decisions are keys. -/
theorem nodup_decisionIds (hkeys : (rows.map Row.key).Nodup) :
    ((decisions rows).map DecisionRow.decisionId).Nodup := by
  have hids : (decisions rows).map DecisionRow.decisionId
      = (rows.map Row.key).filterMap
        (fun key => match key with | .decision id => some id | _ => none) := by
    unfold decisions
    rw [List.map_filterMap, List.filterMap_map]
    exact List.filterMap_congr (fun row _ => by cases row <;> rfl)
  rw [hids]
  refine hkeys.filterMap ?_
  intro a b id ha hb
  cases a <;> cases ha
  cases b <;> cases hb
  rfl

/-- The comparison in SQL picks the decisions created before the cutoff. -/
theorem createdAt_lt (hrows : Consistent rows) (hcutoff : Timestamp.IsDatetime cutoff)
    {d : DecisionRow} (hd : d ∈ decisions rows) :
    decide (d.createdAt < Timestamp.isoformat cutoff) = olderThan cutoff d := by
  obtain ⟨t, ht, hcreated⟩ := hrows.created d hd
  unfold olderThan
  rw [hcreated, Timestamp.parseIso_isoformat_self ht, Option.any_some]
  exact decide_eq_decide.mpr (Timestamp.isoformat_lt_iff ht hcutoff)

theorem filter_createdAt (hrows : Consistent rows) (hcutoff : Timestamp.IsDatetime cutoff) :
    (decisions rows).filter (fun d => d.createdAt < Timestamp.isoformat cutoff) =
      (decisions rows).filter (olderThan cutoff) :=
  List.filter_congr fun _ hd => createdAt_lt hrows hcutoff hd

/-- The start of the sorted list has the oldest ones. -/
theorem oldest_take (hrows : Consistent rows) :
    Oldest cutoff limit rows ((((decisions rows).filter (olderThan cutoff)).insertionSort
      (fun a b => a.createdAt ≤ b.createdAt)).take limit) := by
  have hperm := List.perm_insertionSort (fun a b : DecisionRow => a.createdAt ≤ b.createdAt)
    ((decisions rows).filter (olderThan cutoff))
  have hsorted := List.pairwise_insertionSort
    (fun a b : DecisionRow => a.createdAt ≤ b.createdAt)
    ((decisions rows).filter (olderThan cutoff))
  obtain ⟨sorted, hdef⟩ : ∃ sorted, ((decisions rows).filter (olderThan cutoff)).insertionSort
    (fun a b => a.createdAt ≤ b.createdAt) = sorted := ⟨_, rfl⟩
  rw [hdef] at hperm hsorted ⊢
  have hmem : ∀ d, d ∈ sorted ↔ d ∈ decisions rows ∧ olderThan cutoff d = true := by
    intro d
    rw [hperm.mem_iff, List.mem_filter]
  have hids : (sorted.map DecisionRow.decisionId).Nodup := by
    rw [(hperm.map DecisionRow.decisionId).nodup_iff]
    exact (nodup_decisionIds hrows.keys).sublist (List.filter_sublist.map _)
  constructor
  · exact hids.sublist ((List.take_sublist limit sorted).map _)
  · intro d hd
    exact ((hmem d).mp (List.mem_of_mem_take hd)).1
  · intro d hd
    exact ((hmem d).mp (List.mem_of_mem_take hd)).2
  · rw [List.length_take, hperm.length_eq, List.countP_eq_length_filter]
  · intro d hd d' hd' hnot t t' ht ht'
    have hold := ((hmem d).mp (List.mem_of_mem_take hd)).2
    unfold olderThan at hold
    rw [ht, Option.any_some, decide_eq_true_eq] at hold
    by_cases hold' : olderThan cutoff d' = true
    · -- the other one stands behind the cut
      have hdrop : d' ∈ sorted.drop limit := by
        have hsplit := (hmem d').mpr ⟨hd', hold'⟩
        rw [← List.take_append_drop limit sorted] at hsplit
        exact (List.mem_append.mp hsplit).resolve_left hnot
      rw [← List.take_append_drop limit sorted] at hsorted
      have hle : d.createdAt ≤ d'.createdAt :=
        (List.pairwise_append.mp hsorted).2.2 d hd d' hdrop
      obtain ⟨u, hu, hcreated⟩ := hrows.created d ((hmem d).mp (List.mem_of_mem_take hd)).1
      obtain ⟨u', hu', hcreated'⟩ := hrows.created d' hd'
      rw [hcreated, Timestamp.parseIso_isoformat_self hu] at ht
      rw [hcreated', Timestamp.parseIso_isoformat_self hu'] at ht'
      rw [hcreated, hcreated', Timestamp.isoformat_le_iff hu hu'] at hle
      rw [← Option.some.inj ht, ← Option.some.inj ht']
      exact hle
    · unfold olderThan at hold'
      rw [ht', Option.any_some, decide_eq_true_eq] at hold'
      exact le_of_lt (lt_of_lt_of_le hold (not_lt.mp hold'))

/-- A purge selects the oldest decisions. -/
theorem oldest_selected (hrows : Consistent rows) (hcutoff : Timestamp.IsDatetime cutoff)
    {retentionDays : ℤ} (hdays : 0 < retentionDays) (limit : ℤ) :
    Oldest cutoff limit.toNat rows
      (selected retentionDays limit (Timestamp.isoformat cutoff) rows) := by
  unfold selected
  rw [if_neg (by omega), filter_createdAt hrows hcutoff]
  exact oldest_take hrows

/-- The ids stand for the decisions they were read from. -/
theorem mem_of_decisionId (hrows : Consistent rows) {chosen : List DecisionRow}
    (hstored : ∀ d ∈ chosen, d ∈ decisions rows) {d : DecisionRow} (hd : d ∈ decisions rows) :
    d.decisionId ∈ chosen.map DecisionRow.decisionId ↔ d ∈ chosen := by
  constructor
  · intro h
    obtain ⟨d', hd', hid⟩ := List.mem_map.mp h
    have heq : d' = d :=
      List.inj_on_of_nodup_map (nodup_decisionIds hrows.keys) (hstored d' hd') hd hid
    rw [← heq]
    exact hd'
  · exact fun h => List.mem_map_of_mem h

end Selection

/-! ## What is gone -/

/-- The numbers of the report are those of the rows that are gone. -/
structure Counts (rows rows' : List Row) (result : RetentionPurgeResult) : Prop where
  decisions : (decisions rows').length + result.deletedDecisions = (decisions rows).length
  approvals : (approvals rows').length + result.deletedApprovals = (approvals rows).length
  auditMeta : (auditMetas rows').length + result.deletedAuditMeta = (auditMetas rows).length

theorem decisions_keptRows (ids : List String) (rows : List Row) :
    decisions (keptRows ids rows) =
      (decisions rows).filter (fun d => ! (d.decisionId ∈ ids : Bool)) := by
  unfold decisions keptRows
  rw [List.filterMap_filter, List.filter_filterMap]
  refine List.filterMap_congr fun row _ => ?_
  cases row <;> simp [belongsTo, Row.decision?, Option.filter]

theorem approvals_keptRows (ids : List String) (rows : List Row) :
    approvals (keptRows ids rows) =
      (approvals rows).filter (fun a => ! (a.decisionId ∈ ids : Bool)) := by
  unfold approvals keptRows
  rw [List.filterMap_filter, List.filter_filterMap]
  refine List.filterMap_congr fun row _ => ?_
  cases row <;> simp [belongsTo, Row.approval?, Option.filter]

theorem auditMetas_keptRows (ids : List String) (rows : List Row) :
    auditMetas (keptRows ids rows) =
      (auditMetas rows).filter (fun m => ! (m.decisionId ∈ ids : Bool)) := by
  unfold auditMetas keptRows
  rw [List.filterMap_filter, List.filter_filterMap]
  refine List.filterMap_congr fun row _ => ?_
  cases row <;> simp [belongsTo, Row.auditMeta?, Option.filter]

/-- What a filter drops is what the opposite test counts. -/
theorem length_filter_not {α : Type} (p : α → Bool) (l : List α) :
    (l.filter fun a => ! p a).length + l.countP p = l.length := by
  rw [← List.countP_eq_length_filter, Nat.add_comm, List.length_eq_countP_add_countP p]
  congr 1
  exact List.countP_congr fun a _ => by simp

/-- As many decisions have one of the ids as were chosen. -/
theorem countP_chosen {rows : List Row} (hrows : Consistent rows) {chosen : List DecisionRow}
    (hnodup : (chosen.map DecisionRow.decisionId).Nodup)
    (hstored : ∀ d ∈ chosen, d ∈ decisions rows) :
    (decisions rows).countP (fun d => d.decisionId ∈ chosen.map DecisionRow.decisionId) =
      chosen.length := by
  rw [List.countP_eq_length_filter]
  have hperm : ((decisions rows).filter
      (fun d => d.decisionId ∈ chosen.map DecisionRow.decisionId)).Perm chosen := by
    rw [List.perm_ext_iff_of_nodup
      ((nodup_decisionIds hrows.keys).of_map.filter _) hnodup.of_map]
    intro d
    rw [List.mem_filter, decide_eq_true_eq]
    constructor
    · rintro ⟨hd, hid⟩
      exact (mem_of_decisionId hrows hstored hd).mp hid
    · exact fun h => ⟨hstored d h, List.mem_map_of_mem h⟩
  exact hperm.length_eq

/-- What is chosen is stored, and no decision is chosen twice. -/
theorem selected_stored {rows : List Row} (hrows : Consistent rows) {cutoff : Instant}
    (hcutoff : Timestamp.IsDatetime cutoff) (retentionDays limit : ℤ) :
    ((selected retentionDays limit (Timestamp.isoformat cutoff) rows).map
        DecisionRow.decisionId).Nodup ∧
      ∀ d ∈ selected retentionDays limit (Timestamp.isoformat cutoff) rows,
        d ∈ decisions rows := by
  by_cases hdays : 0 < retentionDays
  · have hold := oldest_selected hrows hcutoff hdays limit
    exact ⟨hold.nodup, hold.stored⟩
  · unfold selected
    rw [if_pos (by omega)]
    exact ⟨List.nodup_nil, fun d hd => absurd hd List.not_mem_nil⟩

/-- **The report counts what is deleted.** -/
theorem counts_report {rows : List Row} (hrows : Consistent rows) {cutoff : Instant}
    (hcutoff : Timestamp.IsDatetime cutoff) (retentionDays limit : ℤ) (dryRun : Bool)
    (now : Instant) :
    Counts rows
      (purgedRows retentionDays limit false (Timestamp.isoformat cutoff) now rows)
      (report retentionDays limit dryRun (Timestamp.isoformat cutoff) now rows) := by
  obtain ⟨hnodup, hstored⟩ := selected_stored hrows hcutoff retentionDays limit
  have hpurged : purgedRows retentionDays limit false (Timestamp.isoformat cutoff) now rows =
      keptRows (selectedIds retentionDays limit (Timestamp.isoformat cutoff) rows)
        (expiredRows now rows) := rfl
  rw [hpurged]
  constructor
  · rw [decisions_keptRows, decisions_expiredRows]
    have hcount := countP_chosen hrows hnodup hstored
    have hlength : (report retentionDays limit dryRun (Timestamp.isoformat cutoff) now
        rows).deletedDecisions = (decisions rows).countP
          (fun d => d.decisionId ∈ selectedIds retentionDays limit
            (Timestamp.isoformat cutoff) rows) := by
      show (List.map _ _).length = _
      rw [List.length_map]
      exact hcount.symm
    rw [hlength]
    exact length_filter_not _ _
  · have hcount := countP_approvals_expiredRows now rows
      (fun id => decide (id ∈ selectedIds retentionDays limit (Timestamp.isoformat cutoff) rows))
    have hlength : (approvals (expiredRows now rows)).length = (approvals rows).length := by
      unfold expiredRows expireStaleChange
      rw [approvals_update, List.length_map]
    rw [approvals_keptRows, ← hlength]
    show _ + (approvals rows).countP _ = _
    rw [← hcount]
    exact length_filter_not _ _
  · rw [auditMetas_keptRows, auditMetas_expiredRows]
    exact length_filter_not _ _

/-- A report of nothing: nothing was older than the cutoff. -/
theorem none_older {rows : List Row} (hrows : Consistent rows) {cutoff : Instant}
    (hcutoff : Timestamp.IsDatetime cutoff) {retentionDays limit : ℤ} (hdays : 0 < retentionDays)
    (hlimit : 1 ≤ limit) {dryRun : Bool} {now : Instant}
    (hnone : (report retentionDays limit dryRun (Timestamp.isoformat cutoff) now
      rows).deletedDecisions = 0) :
    ∀ d ∈ decisions rows, olderThan cutoff d = false := by
  have hlength := (oldest_selected hrows hcutoff hdays limit).length
  have hzero : (selected retentionDays limit (Timestamp.isoformat cutoff) rows).length = 0 := by
    rw [← hnone]
    show _ = (List.map _ _).length
    rw [List.length_map]
  have hcount : (decisions rows).countP (olderThan cutoff) = 0 := by
    rw [hzero] at hlength
    omega
  intro d hd
  exact Bool.eq_false_iff.mpr (List.countP_eq_zero.mp hcount d hd)

theorem keys_expiredRows (now : Instant) (rows : List Row) :
    (expiredRows now rows).map Row.key = rows.map Row.key := keys_update (fun _ => rfl)

/-- The rows that a purge leaves are consistent again. -/
theorem consistent_purgedRows {rows : List Row} (hrows : Consistent rows)
    (retentionDays limit : ℤ) (dryRun : Bool) (cutoff : String) (now : Instant) :
    Consistent (purgedRows retentionDays limit dryRun cutoff now rows) := by
  have hexpired : Consistent (expiredRows now rows) := by
    constructor
    · rw [keys_expiredRows]
      exact hrows.keys
    · rw [decisions_expiredRows]
      exact hrows.created
  unfold purgedRows
  cases dryRun with
  | true => exact hexpired
  | false =>
      constructor
      · exact hexpired.keys.sublist (List.filter_sublist.map _)
      · intro d hd
        have hd' : d ∈ decisions (keptRows (selectedIds retentionDays limit cutoff rows)
          (expiredRows now rows)) := hd
        rw [decisions_keptRows] at hd'
        exact hexpired.created d (List.mem_filter.mp hd').1

/-! ## The stores that calls leave -/

/-- A decision carries the text of a datetime. -/
def Timed (r : Row) : Prop :=
  ∀ d, r.decision? = some d → ∃ t, Timestamp.IsDatetime t ∧ d.createdAt = Timestamp.isoformat t

/-- A statement of the store's methods, issued while the clock shows datetimes. -/
def Dated (s : Stmt Row) : Prop :=
  TenantIsolation.Issued s ∧ ∀ row, s = .insert row → Timed row

/-- What a dated statement does to a row. -/
inductive TimedEdit : Option Row → Option Row → Prop
  | insert (r : Row) : Timed r → TimedEdit none (some r)
  | update (r r' : Row) : r'.key = r.key → (Timed r → Timed r') → TimedEdit (some r) (some r')
  | delete (r : Row) : TimedEdit (some r) none

theorem timed_of_none {r : Row} (h : r.decision? = none) : Timed r := by
  intro d hd
  rw [h] at hd
  cases hd

theorem timedEdit_update {guard : ApprovalRow → Bool} {set : ApprovalRow → ApprovalRow}
    (hid : ∀ a, (set a).approvalId = a.approvalId) (r : Row)
    (h : (updateApprovals guard set).guard r = true) :
    TimedEdit (some r) ((updateApprovals guard set).set r) := by
  cases r with
  | approval a =>
      exact .update _ _ (congrArg RowKey.approval (hid a)) (fun _ => timed_of_none rfl)
  | _ => exact absurd h Bool.false_ne_true

theorem Dated.follows {s : Stmt Row} (h : Dated s) : Follows TimedEdit s := by
  obtain ⟨hissued, hinsert⟩ := h
  cases hissued with
  | select => trivial
  | commit => trivial
  | rollback => trivial
  | step => trivial
  | insertDecision new decisionId now => exact .insert _ (hinsert _ rfl)
  | insertApproval decisionId ttlSeconds approvalId now hdated => exact .insert _ (hinsert _ rfl)
  | insertOther row _ hrow => exact .insert _ (hinsert _ rfl)
  | expireStale now => exact timedEdit_update (fun _ => rfl)
  | expire approvalId now => exact timedEdit_update (fun _ => rfl)
  | resolve approvalId status reviewer comment now => exact timedEdit_update (fun _ => rfl)
  | consume approvalId now => exact timedEdit_update (fun _ => rfl)
  | deleteAuditMeta ids => exact fun r _ => .delete r
  | deleteApprovals ids => exact fun r _ => .delete r
  | deleteDecisions ids => exact fun r _ => .delete r
  | changeOther c hguard hkey =>
      intro r hr
      obtain ⟨hnone, -⟩ := hguard r hr
      cases hset : c.set r with
      | none => exact .delete r
      | some r' =>
          have hsame := hkey r r' hset
          refine .update r r' hsame (fun _ => timed_of_none ?_)
          cases r' with
          | decision d' =>
              cases r with
              | decision d => exact absurd hnone (Option.some_ne_none d)
              | _ => cases hsame
          | _ => rfl

/-- **The store stays consistent**, however the methods interleave and fail. -/
theorem consistent_committedRows {α : Type} {old : List Row} (hold : Consistent old)
    {code : ℕ → StoreM α} (hcode : ∀ n, (code n).Issues Dated) {σ : State RowKey Row PyError α}
    (hreach : Transaction.Reachable schema old code σ) : Consistent (committedRows σ.cells) := by
  have hkey : ∀ (_ : ℕ) r r', TimedEdit (some r) (some r') → schema.key r' = schema.key r := by
    rintro - r r' hedit
    cases hedit with
    | update _ _ hkey _ => exact hkey
  have hsound : SoundCells schema Timed (fun _ => TimedEdit) σ.cells :=
    (hreach.sound hkey hold.keys
      (fun r hr d hd => hold.created d (List.mem_filterMap.mpr ⟨r, hr, hd⟩))
      (fun n => (hcode n).mono (fun _ hs => hs.follows))).2
  refine ⟨hsound.nodup_committedRows, fun d hd => ?_⟩
  obtain ⟨cell, hcell, hnewest⟩ := List.mem_filterMap.mp ((mem_decisions _).mp hd)
  obtain ⟨v, hv, hrow⟩ := mem_of_newest hnewest
  have hall : ∀ v ∈ cell.trail, ∀ r, v.row = some r → Timed r := by
    refine (hsound.sound cell hcell).trail.all_rows (fun _ hr => hr) ?_ ?_
    · rintro - r hedit
      cases hedit with
      | insert _ htimed => exact htimed
    · rintro - r r' hedit htimed
      cases hedit with
      | update _ _ _ hkeep => exact hkeep htimed
  exact hall v (cell.committed_suffix.subset hv) _ hrow d rfl

/-! ## The calls -/

/-- The instant before which decisions are old. -/
def cutoffAt (retentionDays : ℤ) (clock : ℕ → Instant) : Instant :=
  clock 0 - Timestamp.days (max retentionDays 0)

/-- The arguments with which a purge begins: a permitted limit, and a cutoff that is a date. -/
def Permitted (retentionDays limit : ℤ) (clock : ℕ → Instant) : Prop :=
  (1 ≤ limit ∧ limit ≤ 50000) ∧ Timestamp.IsDatetime (cutoffAt retentionDays clock)

/-- A call whose commit is its statement number `k` has its effect exactly if it gets past the
commit, and returns if nothing fails. -/
def PurgesTo (o : Except PyError RetentionPurgeResult × List Row) (fails : ℕ → Option PyError)
    (k : ℕ) (rows rows' : List Row) (result : RetentionPurgeResult) : Prop :=
  Prog.Succeeds fails (k + 3) ∧ o = (.ok result, rows') ∨
    (∃ e, o.1 = .error e) ∧
      (o.2 = rows ∧ ¬ Prog.Succeeds fails (k + 1) ∨
        o.2 = rows' ∧ Prog.Succeeds fails (k + 1) ∧ ¬ Prog.Succeeds fails (k + 3))

theorem purgesTo_purgeRetained {retentionDays limit : ℤ} {clock : ℕ → Instant}
    (hargs : Permitted retentionDays limit clock) (dryRun : Bool) (rows : List Row) :
    ∃ k, ∀ fails, PurgesTo (outcome (purgeRetained retentionDays dryRun limit clock) fails rows)
      fails k rows
      (purgedRows retentionDays limit dryRun
        (Timestamp.isoformat (cutoffAt retentionDays clock)) (clock 1) rows)
      (report retentionDays limit dryRun
        (Timestamp.isoformat (cutoffAt retentionDays clock)) (clock 1) rows) := by
  obtain ⟨⟨hmin, hmax⟩, hdate⟩ := hargs
  have hdate' : Timestamp.IsDatetime (clock 0 - Timestamp.days (max retentionDays 0)) := hdate
  obtain ⟨k, hwrites⟩ := writes_purgeInTransaction retentionDays limit dryRun
    (Timestamp.isoformat (cutoffAt retentionDays clock)) (clock 1) rows
  have hcall : purgeRetained retentionDays dryRun limit clock =
      transaction (purgeInTransaction retentionDays dryRun limit
        (Timestamp.isoformat (cutoffAt retentionDays clock)) (clock 1)) := by
    unfold purgeRetained
    rw [if_neg (by omega), if_neg (not_not.mpr hdate')]
    rfl
  refine ⟨k, fun fails => ?_⟩
  rw [hcall]
  rcases (executes_transaction hwrites).run_cases (by omega) fails with
    ⟨hok, hrows, hall⟩ | ⟨herror, hnot, hrows⟩
  · exact Or.inl ⟨hall, Prod.ext hok hrows⟩
  · refine Or.inr ⟨herror, hrows.imp_right ?_⟩
    exact fun h => ⟨h.1, h.2, hnot⟩

/-- Other arguments are refused before the store is touched. -/
theorem refuses_purgeRetained {retentionDays limit : ℤ} {clock : ℕ → Instant}
    (hargs : ¬ Permitted retentionDays limit clock) (dryRun : Bool) (fails : ℕ → Option PyError)
    (rows : List Row) :
    ∃ e, outcome (purgeRetained retentionDays dryRun limit clock) fails rows = (.error e, rows) := by
  unfold purgeRetained
  by_cases hlimit : limit < 1 ∨ 50000 < limit
  · rw [if_pos hlimit]
    exact ⟨_, rfl⟩
  · have hdate : ¬ Timestamp.IsDatetime (clock 0 - Timestamp.days (max retentionDays 0)) :=
      fun hdate => hargs ⟨by omega, hdate⟩
    rw [if_neg hlimit, if_pos hdate]
    exact ⟨_, rfl⟩

/-- The rows after a number of purges, one after another, none of which fails. -/
def afterPurges (retentionDays limit : ℤ) (clocks : ℕ → ℕ → Instant) (rows : List Row) :
    ℕ → List Row
  | 0 => rows
  | n + 1 => (outcome (purgeRetained retentionDays false limit (clocks n)) (fun _ => none)
      (afterPurges retentionDays limit clocks rows n)).2

theorem outcome_purgeRetained {retentionDays limit : ℤ} {clock : ℕ → Instant}
    (hargs : Permitted retentionDays limit clock) (dryRun : Bool) (rows : List Row) :
    outcome (purgeRetained retentionDays dryRun limit clock) (fun _ => none) rows =
      (.ok (report retentionDays limit dryRun
          (Timestamp.isoformat (cutoffAt retentionDays clock)) (clock 1) rows),
        purgedRows retentionDays limit dryRun
          (Timestamp.isoformat (cutoffAt retentionDays clock)) (clock 1) rows) := by
  obtain ⟨k, hpurges⟩ := purgesTo_purgeRetained hargs dryRun rows
  have hnone : ∀ n, Prog.Succeeds (fun _ => (none : Option PyError)) n := fun n i _ => rfl
  rcases hpurges (fun _ => none) with ⟨-, ho⟩ | ⟨-, ⟨-, hnot⟩ | ⟨-, -, hnot⟩⟩
  · exact ho
  · exact absurd (hnone _) hnot
  · exact absurd (hnone _) hnot

/-- Every purge that reports something leaves fewer decisions, so one reports nothing. -/
theorem exists_empty_report {retentionDays limit : ℤ} {clocks : ℕ → ℕ → Instant}
    (hargs : ∀ i, Permitted retentionDays limit (clocks i)) {rows : List Row}
    (hrows : Consistent rows) :
    (∀ n, Consistent (afterPurges retentionDays limit clocks rows n)) ∧
    ∃ i ≤ (decisions rows).length,
      (report retentionDays limit false (Timestamp.isoformat (cutoffAt retentionDays (clocks i)))
        (clocks i 1) (afterPurges retentionDays limit clocks rows i)).deletedDecisions = 0 := by
  have hstep : ∀ n, afterPurges retentionDays limit clocks rows (n + 1) =
      purgedRows retentionDays limit false
        (Timestamp.isoformat (cutoffAt retentionDays (clocks n))) (clocks n 1)
        (afterPurges retentionDays limit clocks rows n) := by
    intro n
    show (outcome _ _ _).2 = _
    rw [outcome_purgeRetained (hargs n)]
  have hconsistent : ∀ n, Consistent (afterPurges retentionDays limit clocks rows n) := by
    intro n
    induction n with
    | zero => exact hrows
    | succ n ih =>
        rw [hstep]
        exact consistent_purgedRows ih _ _ _ _ _
  refine ⟨hconsistent, ?_⟩
  by_contra hnone
  push Not at hnone
  -- each of the first runs takes away at least one decision
  have hfewer : ∀ n ≤ (decisions rows).length + 1,
      (decisions (afterPurges retentionDays limit clocks rows n)).length + n ≤
        (decisions rows).length := by
    intro n hn
    induction n with
    | zero => exact Nat.le_refl _
    | succ n ih =>
        have hcounts := (counts_report (hconsistent n) (hargs n).2 retentionDays limit false
          (clocks n 1)).decisions
        have hpos := hnone n (by omega)
        have hbefore := ih (by omega)
        rw [hstep]
        omega
  have hlast := hfewer ((decisions rows).length + 1) (Nat.le_refl _)
  omega

/-- **Retention purge is exact.**  A commit that fails has no effect; one that succeeds while its
reply is lost (`Transaction.Answers`) is not among the failures of a serial run. -/
theorem purgeRetained_exact {rows : List Row} (hrows : Consistent rows)
    (retentionDays limit : ℤ) :
    (∀ clock, Permitted retentionDays limit clock →
      ∃ chosen result,
        (retentionDays ≤ 0 → chosen = []) ∧
        (0 < retentionDays →
          Oldest (cutoffAt retentionDays clock) limit.toNat rows chosen ∧
          (result.deletedDecisions = 0 →
            ∀ d ∈ decisions rows, olderThan (cutoffAt retentionDays clock) d = false)) ∧
        (∀ d ∈ decisions rows,
          belongsTo (chosen.map DecisionRow.decisionId) (.decision d) = true ↔ d ∈ chosen) ∧
        Counts rows
          (keptRows (chosen.map DecisionRow.decisionId) (expiredRows (clock 1) rows)) result ∧
        (∃ k, ∀ fails, PurgesTo
          (outcome (purgeRetained retentionDays false limit clock) fails rows) fails k rows
          (keptRows (chosen.map DecisionRow.decisionId) (expiredRows (clock 1) rows)) result) ∧
        (∃ k, ∀ fails, PurgesTo
          (outcome (purgeRetained retentionDays true limit clock) fails rows) fails k rows
          (expiredRows (clock 1) rows) { result with dryRun := true })) ∧
    (∀ now, (expiredRows now rows).map Row.key = rows.map Row.key ∧
      decisions (expiredRows now rows) = decisions rows ∧
      auditMetas (expiredRows now rows) = auditMetas rows) ∧
    (∀ clock, ¬ Permitted retentionDays limit clock → ∀ dryRun fails,
      ∃ e, outcome (purgeRetained retentionDays dryRun limit clock) fails rows =
        (.error e, rows)) ∧
    (∀ clocks : ℕ → ℕ → Instant, (∀ i, Permitted retentionDays limit (clocks i)) →
      0 < retentionDays → ∃ i ≤ (decisions rows).length, ∃ result,
        outcome (purgeRetained retentionDays false limit (clocks i)) (fun _ => none)
            (afterPurges retentionDays limit clocks rows i) =
          (.ok result, afterPurges retentionDays limit clocks rows (i + 1)) ∧
        result.deletedDecisions = 0 ∧
        ∀ d ∈ decisions (afterPurges retentionDays limit clocks rows (i + 1)),
          olderThan (cutoffAt retentionDays (clocks i)) d = false) := by
  refine ⟨fun clock hargs => ?_, fun now => ?_, fun clock hargs dryRun fails => ?_,
    fun clocks hargs hdays => ?_⟩
  · obtain ⟨hnodup, hstored⟩ := selected_stored hrows hargs.2 retentionDays limit
    refine ⟨selected retentionDays limit (Timestamp.isoformat (cutoffAt retentionDays clock)) rows,
      report retentionDays limit false (Timestamp.isoformat (cutoffAt retentionDays clock))
        (clock 1) rows, ?_, ?_, ?_, ?_, ?_, ?_⟩
    · intro hdays
      unfold selected
      rw [if_pos hdays]
    · intro hdays
      refine ⟨oldest_selected hrows hargs.2 hdays limit, fun hnone => ?_⟩
      exact none_older hrows hargs.2 hdays hargs.1.1 hnone
    · intro d hd
      have hbelongs : belongsTo ((selected retentionDays limit
          (Timestamp.isoformat (cutoffAt retentionDays clock)) rows).map DecisionRow.decisionId)
          (.decision d) = true ↔ d.decisionId ∈ (selected retentionDays limit
          (Timestamp.isoformat (cutoffAt retentionDays clock)) rows).map
            DecisionRow.decisionId := decide_eq_true_iff
      exact hbelongs.trans (mem_of_decisionId hrows hstored hd)
    · exact counts_report hrows hargs.2 retentionDays limit false (clock 1)
    · exact purgesTo_purgeRetained hargs false rows
    · exact purgesTo_purgeRetained hargs true rows
  · exact ⟨keys_expiredRows now rows, decisions_expiredRows now rows,
      auditMetas_expiredRows now rows⟩
  · exact refuses_purgeRetained hargs dryRun fails rows
  · obtain ⟨hconsistent, i, hi, hnone⟩ := exists_empty_report hargs hrows
    have hafter := outcome_purgeRetained (hargs i) false
      (afterPurges retentionDays limit clocks rows i)
    have hstep : afterPurges retentionDays limit clocks rows (i + 1) =
        (outcome (purgeRetained retentionDays false limit (clocks i)) (fun _ => none)
          (afterPurges retentionDays limit clocks rows i)).2 := rfl
    refine ⟨i, hi, _, by rw [hstep, hafter], hnone, ?_⟩
    intro d hd
    rw [hstep, hafter] at hd
    have hd' : d ∈ decisions (keptRows _ (expiredRows (clocks i 1)
      (afterPurges retentionDays limit clocks rows i))) := hd
    rw [decisions_keptRows, decisions_expiredRows] at hd'
    exact none_older (hconsistent i) (hargs i).2 hdays (hargs i).1.1 hnone d
      (List.mem_filter.mp hd').1

/-- A store with one decision, and a clock ten days later. -/
theorem consistent_openDecision : Consistent [.decision ApprovalLifecycle.openDecision] := by
  constructor
  · decide
  · intro d hd
    rw [List.mem_singleton.mp hd]
    exact ⟨0, by decide, rfl⟩

/-- A purge of the decisions that are older than a week deletes the one. -/
theorem purgeRetained_exact_week :
    ∃ result : RetentionPurgeResult,
      outcome (purgeRetained 7 false 5000 fun _ => Timestamp.days 10) (fun _ => none)
        [.decision ApprovalLifecycle.openDecision] = (.ok result, []) ∧
      result.deletedDecisions = 1 := by
  have hargs : Permitted 7 5000 (fun _ => Timestamp.days 10) := by
    refine ⟨by decide, ?_⟩
    decide
  obtain ⟨hpurge, -⟩ := purgeRetained_exact consistent_openDecision 7 5000
  obtain ⟨chosen, result, -, hold, -, hcounts, ⟨k, hreal⟩, -⟩ := hpurge _ hargs
  obtain ⟨holdest, -⟩ := hold (by decide)
  have hone : chosen.length = 1 := holdest.length.trans (by decide)
  obtain ⟨d, rfl⟩ := List.length_eq_one_iff.mp hone
  have hd : d = ApprovalLifecycle.openDecision :=
    List.mem_singleton.mp (holdest.stored d List.mem_cons_self)
  subst hd
  rcases hreal (fun _ => none) with ⟨-, ho⟩ | ⟨-, ⟨-, hnot⟩ | ⟨-, -, hnot⟩⟩
  · refine ⟨result, ho, ?_⟩
    have hnumber := hcounts.decisions
    have hnone : (decisions (keptRows (List.map DecisionRow.decisionId
        [ApprovalLifecycle.openDecision]) (expiredRows (Timestamp.days 10)
          [.decision ApprovalLifecycle.openDecision]))).length = 0 := rfl
    rw [hnone, Nat.zero_add] at hnumber
    exact hnumber
  · exact absurd (fun _ _ => rfl) hnot
  · exact absurd (fun _ _ => rfl) hnot

/-- **A purge with a large limit deletes nothing.**  It raises while a decision is older. -/
theorem purgeRetained_refuses_limit :
    outcome (purgeRetained 7 false 60000 fun _ => Timestamp.days 10) (fun _ => none)
        [.decision ApprovalLifecycle.openDecision] =
      (.error (.valueError "limit must be between 1 and 50000"),
        [.decision ApprovalLifecycle.openDecision]) ∧
    olderThan (cutoffAt 7 fun _ => Timestamp.days 10) ApprovalLifecycle.openDecision = true := by
  constructor
  · rfl
  · decide

end ControlPlane.Retention
