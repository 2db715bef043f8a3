/-
# What the execution digests depend on (`app/capability_service.py`)

`resolve_execution_capability_digests` reads the active contracts of the stripped tenant, of all
tenants when that is empty, and no more than 500 tools, the last updated first.  For a tenant
whose name is not blank and has no surrounding blanks, and as long as no more than 500 tools are
active, the digests are a function of the contents of the tenant's active contracts, and a tool
that the agent may use shows in the digest of the tools.  Beyond, they are not
(`resolve_depends_iff`).
-/
import ControlPlane.CapabilitySync
import ControlPlane.Redemption

namespace ControlPlane

open Transaction

variable (py : PyRuntime) (sha256 : String → String)

/-! ## The digest of the selected tools -/

section Selected

variable {listed : List String} {tools tools' : List CapabilityContractRow} {x : String}

/-- The agent may use the tool: its contract lists it, or lists nothing. -/
def MayUse (listed : List String) (x : String) : Prop := listed = [] ∨ x ∈ listed

/-- The only tool of its name counts, unless its digest is empty. -/
theorem toolDigest_of_only {t : CapabilityContractRow} (ht : t ∈ tools)
    (honly : ∀ t' ∈ tools, t'.name = t.name → t' = t) (hne : t.contentDigest ≠ "") :
    toolDigest tools t.name = some t.contentDigest := by
  unfold toolDigest
  rw [Option.map_eq_some_iff]
  have hmem : t ∈ (tools.filter (fun t => t.contentDigest ≠ "")).reverse :=
    List.mem_reverse.mpr (List.mem_filter.mpr ⟨ht, decide_eq_true hne⟩)
  cases hfind : (tools.filter (fun t => t.contentDigest ≠ "")).reverse.find?
      (fun t' => t'.name = t.name) with
  | none =>
    have hnot := List.find?_eq_none.mp hfind t hmem
    exact absurd (decide_eq_true rfl) hnot
  | some t' =>
    have hmem' := List.mem_reverse.mp (List.mem_of_find?_eq_some hfind)
    have hname := List.find?_some hfind
    exact ⟨t', rfl, congrArg _ (honly t' (List.mem_filter.mp hmem').1 (of_decide_eq_true hname))⟩

/-- Among tools with distinct names the digest of a name does not depend on the order. -/
theorem toolDigest_eq_some (hnames : (tools.map CapabilityContractRow.name).Nodup)
    {digest : String} : toolDigest tools x = some digest ↔
      ∃ t ∈ tools, t.name = x ∧ t.contentDigest = digest ∧ digest ≠ "" := by
  unfold toolDigest
  rw [Option.map_eq_some_iff]
  constructor
  · rintro ⟨t, hfind, rfl⟩
    have hmem := List.mem_reverse.mp (List.mem_of_find?_eq_some hfind)
    obtain ⟨ht, hne⟩ := List.mem_filter.mp hmem
    have hname := List.find?_some hfind
    exact ⟨t, ht, of_decide_eq_true hname, rfl, of_decide_eq_true hne⟩
  · rintro ⟨t, ht, rfl, rfl, hne⟩
    exact Option.map_eq_some_iff.mp (toolDigest_of_only ht
      (fun t' ht' hname => List.inj_on_of_nodup_map hnames ht' ht hname) hne)

theorem mem_names_of_toolDigest {digest : String} (h : toolDigest tools x = some digest) :
    x ∈ tools.map CapabilityContractRow.name := by
  obtain ⟨t, hfind, -⟩ := Option.map_eq_some_iff.mp h
  have hmem := List.mem_reverse.mp (List.mem_of_find?_eq_some hfind)
  have hname := List.find?_some hfind
  exact List.mem_map.mpr ⟨t, (List.mem_filter.mp hmem).1, of_decide_eq_true hname⟩

theorem mem_selectedTools {v : Json.Value} : (x, v) ∈ selectedTools listed tools ↔
    MayUse listed x ∧ ∃ digest, toolDigest tools x = some digest ∧ v = .str digest := by
  unfold selectedTools MayUse
  dsimp only
  rw [List.mem_filterMap]
  constructor
  · rintro ⟨name, hname, hsome⟩
    obtain ⟨digest, hdigest, hpair⟩ := Option.map_eq_some_iff.mp hsome
    obtain ⟨rfl, rfl⟩ := Prod.mk.inj hpair
    rw [List.mem_dedup, List.mem_insertionSort] at hname
    refine ⟨?_, digest, hdigest, rfl⟩
    by_cases hlisted : listed = []
    · exact Or.inl hlisted
    · rw [if_pos hlisted] at hname
      exact Or.inr hname
  · rintro ⟨huse, digest, hdigest, rfl⟩
    refine ⟨x, ?_, Option.map_eq_some_iff.mpr ⟨digest, hdigest, rfl⟩⟩
    rw [List.mem_dedup, List.mem_insertionSort]
    by_cases hlisted : listed = []
    · rw [if_neg (not_not.mpr hlisted)]
      exact mem_names_of_toolDigest hdigest
    · rw [if_pos hlisted]
      exact huse.resolve_left hlisted

/-- The names of the selected tools go up. -/
theorem pairwise_selectedTools :
    (selectedTools listed tools).Pairwise (fun a b => a.1 < b.1) := by
  unfold selectedTools
  dsimp only
  rw [List.pairwise_filterMap]
  generalize (if listed ≠ [] then listed else tools.map CapabilityContractRow.name) = names
  have hle : ((names.insertionSort (· ≤ ·)).dedup).Pairwise (· ≤ ·) :=
    (List.pairwise_insertionSort (· ≤ ·) names).sublist (List.dedup_sublist _)
  refine (hle.and (List.nodup_dedup _)).imp ?_
  rintro name name' ⟨hle, hne⟩ a ha b hb
  obtain ⟨digest, -, rfl⟩ := Option.map_eq_some_iff.mp ha
  obtain ⟨digest', -, rfl⟩ := Option.map_eq_some_iff.mp hb
  exact lt_of_le_of_ne hle hne

/-- The selected tools are determined by the digests of the tools that the agent may use. -/
theorem selectedTools_eq_iff : selectedTools listed tools = selectedTools listed tools' ↔
    ∀ x, MayUse listed x → toolDigest tools x = toolDigest tools' x := by
  have hmem : ∀ {tools : List CapabilityContractRow} {x digest : String}, MayUse listed x →
      ((x, .str digest) ∈ selectedTools listed tools ↔ toolDigest tools x = some digest) := by
    intro tools x digest huse
    rw [mem_selectedTools]
    constructor
    · rintro ⟨-, digest', hdigest, hv⟩
      rw [Json.Value.str.inj hv]
      exact hdigest
    · exact fun h => ⟨huse, digest, h, rfl⟩
  constructor
  · intro heq x huse
    refine Option.ext (fun digest => ?_)
    rw [← hmem huse, heq, hmem huse]
  · intro heq
    have hnodup : ∀ tools, (selectedTools listed tools).Nodup :=
      fun tools => pairwise_selectedTools.imp (fun h hab => absurd (congrArg Prod.fst hab) h.ne)
    refine ((List.perm_ext_iff_of_nodup (hnodup tools) (hnodup tools')).mpr ?_).eq_of_pairwise ?_
      pairwise_selectedTools pairwise_selectedTools
    · rintro ⟨x, v⟩
      rw [mem_selectedTools, mem_selectedTools]
      refine and_congr_right (fun huse => ?_)
      rw [heq x huse]
    · exact fun a b _ _ hab hba => absurd hba hab.not_gt

/-- **The digest of the tools determines the selected ones.** -/
theorem toolsDigest_eq_iff (hsha : Function.Injective sha256) {selected selected' :
    List (String × Json.Value)} (h : selected.Pairwise (fun a b => a.1 < b.1))
    (h' : selected'.Pairwise (fun a b => a.1 < b.1)) :
    (if selected = [] then "" else canonicalDigest py sha256 selected)
      = (if selected' = [] then "" else canonicalDigest py sha256 selected') ↔
    selected = selected' := by
  have hne : ∀ payload, canonicalDigest py sha256 payload ≠ "" := by
    intro payload heq
    have hlist := congrArg String.toList heq
    rw [canonicalDigest, String.toList_append] at hlist
    cases hlist
  have hsorted : ∀ {l : List (String × Json.Value)}, l.Pairwise (fun a b => a.1 < b.1) →
      Json.sortKeys l = l :=
    fun hl => (hl.imp (fun hab => hab.le)).insertionSort_eq
  constructor
  · intro heq
    by_cases hnil : selected = []
    · by_cases hnil' : selected' = []
      · rw [hnil, hnil']
      · rw [if_pos hnil, if_neg hnil'] at heq
        exact absurd heq.symm (hne _)
    · by_cases hnil' : selected' = []
      · rw [if_neg hnil, if_pos hnil'] at heq
        exact absurd heq (hne _)
      · rw [if_neg hnil, if_neg hnil', canonicalDigest, canonicalDigest, hsorted h, hsorted h',
          String.append_right_inj] at heq
        exact Json.Value.obj.inj (Json.dumps_injective py.floats (hsha heq))
  · rintro rfl
    rfl

end Selected

/-! ## The contracts of a tenant -/

/-- The name, kind, digest and capabilities of a contract. -/
def CapabilityContractRow.content (c : CapabilityContractRow) :
    String × String × String × List (String × Json.Value) :=
  (c.kind, c.name, c.contentDigest, c.capabilities)

/-- The contents of a tenant's active contracts. -/
def activeContents (tenant : String) (rows : List Row) :
    Set (String × String × String × List (String × Json.Value)) :=
  {content | ∃ c ∈ capabilities rows, c.status = .active ∧ c.tenantId = tenant ∧
    c.content = content}

/-- A state of the store with at most one active contract for each kind, name and tenant. -/
structure Consistent (rows : List Row) : Prop where
  keys : (rows.map Row.key).Nodup
  oneActive : ∀ group, (activeOf group rows).length ≤ 1

/-- The active tools of a tenant. -/
def activeTools (tenant : String) (rows : List Row) : List CapabilityContractRow :=
  (capabilities rows).filter (fun c => c.kind = "tool" ∧ c.status = .active ∧ c.tenantId = tenant)

/-- The active contract of an agent of a tenant. -/
def agentContract (agent tenant : String) (rows : List Row) : Option CapabilityContractRow :=
  if agent = "" then none else (activeOf ("agent", agent, tenant) rows).head?

/-- The tools that the contract lists. -/
def listedTools (agent tenant : String) (rows : List Row) : List String :=
  (agentContract agent tenant rows).elim [] (toolNames py)

/-- The digest of a tenant's active tool. -/
def digestAt (tenant name : String) (rows : List Row) : Option String :=
  ((activeOf ("tool", name, tenant) rows).head?).map CapabilityContractRow.contentDigest

section Tenant

variable {rows rows' : List Row} {tenant : String} {c c' t : CapabilityContractRow}

theorem mem_activeOf {group : String × String × String} :
    c ∈ activeOf group rows ↔ c ∈ capabilities rows ∧ c.group = group ∧ c.status = .active := by
  unfold activeOf
  rw [List.mem_filter, mem_contractsOf, decide_eq_true_eq, and_assoc]

theorem mem_activeTools : t ∈ activeTools tenant rows ↔
    t ∈ capabilities rows ∧ t.kind = "tool" ∧ t.status = .active ∧ t.tenantId = tenant := by
  unfold activeTools
  rw [List.mem_filter, decide_eq_true_eq]

/-- Two active contracts of one group are one. -/
theorem Consistent.eq_of_group (h : Consistent rows) (hc : c ∈ capabilities rows)
    (hc' : c' ∈ capabilities rows) (hactive : c.status = .active) (hactive' : c'.status = .active)
    (hgroup : c.group = c'.group) : c = c' := by
  have hmem : c ∈ activeOf c'.group rows := mem_activeOf.mpr ⟨hc, hgroup, hactive⟩
  have hmem' : c' ∈ activeOf c'.group rows := mem_activeOf.mpr ⟨hc', rfl, hactive'⟩
  obtain ⟨a, ha⟩ : ∃ a, activeOf c'.group rows = [a] :=
    List.length_eq_one_iff.mp (le_antisymm (h.oneActive _) (List.length_pos_of_mem hmem))
  rw [ha, List.mem_singleton] at hmem hmem'
  rw [hmem, hmem']

theorem Consistent.head?_activeOf (h : Consistent rows) {group : String × String × String} :
    (activeOf group rows).head? = some c ↔
      c ∈ capabilities rows ∧ c.group = group ∧ c.status = .active := by
  rw [← mem_activeOf]
  constructor
  · exact List.mem_of_head?
  · intro hmem
    obtain ⟨a, ha⟩ : ∃ a, activeOf group rows = [a] :=
      List.length_eq_one_iff.mp (le_antisymm (h.oneActive _) (List.length_pos_of_mem hmem))
    rw [ha, List.mem_singleton] at hmem
    rw [ha, hmem]
    rfl

/-- The active tools of a tenant have distinct names. -/
theorem Consistent.nodup_names (h : Consistent rows) :
    ((activeTools tenant rows).map CapabilityContractRow.name).Nodup := by
  refine List.Nodup.map_on ?_ (((nodup_contractIds h.keys).of_map _).filter _)
  intro a ha b hb hname
  obtain ⟨ha, hkind, hactive, htenant⟩ := mem_activeTools.mp ha
  obtain ⟨hb, hkind', hactive', htenant'⟩ := mem_activeTools.mp hb
  refine h.eq_of_group ha hb hactive hactive' ?_
  unfold CapabilityContractRow.group
  rw [hkind, hkind', hname, htenant, htenant']

/-- The digest of a tool counts unless it is empty. -/
theorem Consistent.toolDigest_eq (h : Consistent rows) (x : String) :
    toolDigest (activeTools tenant rows) x = (digestAt tenant x rows).filter (fun d => d ≠ "") := by
  refine Option.ext (fun digest => ?_)
  rw [toolDigest_eq_some h.nodup_names, Option.filter_eq_some_iff, digestAt,
    Option.map_eq_some_iff]
  constructor
  · rintro ⟨t, ht, rfl, rfl, hne⟩
    obtain ⟨hmem, hkind, hactive, htenant⟩ := mem_activeTools.mp ht
    refine ⟨⟨t, h.head?_activeOf.mpr ⟨hmem, ?_, hactive⟩, rfl⟩, decide_eq_true hne⟩
    rw [CapabilityContractRow.group, hkind, htenant]
  · rintro ⟨⟨t, hhead, rfl⟩, hne⟩
    obtain ⟨hmem, hgroup, hactive⟩ := h.head?_activeOf.mp hhead
    obtain ⟨hkind, hrest⟩ := Prod.mk.inj hgroup
    obtain ⟨hname, htenant⟩ := Prod.mk.inj hrest
    exact ⟨t, mem_activeTools.mpr ⟨hmem, hkind, hactive, htenant⟩, hname, rfl,
      of_decide_eq_true hne⟩

/-- A contract has one of the same content among the same contents. -/
theorem exists_sameContent (hsame : activeContents tenant rows' = activeContents tenant rows)
    (hc : c ∈ capabilities rows) (hactive : c.status = .active) (htenant : c.tenantId = tenant) :
    ∃ c' ∈ capabilities rows', c'.status = .active ∧ c'.tenantId = tenant ∧
      c'.content = c.content := by
  have hmem : c.content ∈ activeContents tenant rows := ⟨c, hc, hactive, htenant, rfl⟩
  rw [← hsame] at hmem
  exact hmem

/-- The contents determine the active contract of each kind and name up to its dates. -/
theorem content_head?_activeOf (h : Consistent rows) (h' : Consistent rows')
    (hsame : activeContents tenant rows' = activeContents tenant rows) (kind name : String) :
    ((activeOf (kind, name, tenant) rows').head?).map CapabilityContractRow.content
      = ((activeOf (kind, name, tenant) rows).head?).map CapabilityContractRow.content := by
  have hhalf : ∀ {rows rows' : List Row}, Consistent rows → Consistent rows' →
      activeContents tenant rows' = activeContents tenant rows → ∀ content,
      ((activeOf (kind, name, tenant) rows).head?).map CapabilityContractRow.content
          = some content →
        ((activeOf (kind, name, tenant) rows').head?).map CapabilityContractRow.content
          = some content := by
    intro rows rows' h h' hsame content hcontent
    obtain ⟨c, hhead, rfl⟩ := Option.map_eq_some_iff.mp hcontent
    obtain ⟨hmem, hgroup, hactive⟩ := h.head?_activeOf.mp hhead
    obtain ⟨hkind, hrest⟩ := Prod.mk.inj hgroup
    obtain ⟨hname, htenant⟩ := Prod.mk.inj hrest
    obtain ⟨c', hmem', hactive', htenant', hcontent'⟩ :=
      exists_sameContent hsame hmem hactive htenant
    refine Option.map_eq_some_iff.mpr ⟨c', h'.head?_activeOf.mpr ⟨hmem', ?_, hactive'⟩, hcontent'⟩
    obtain ⟨hkind', hrest'⟩ := Prod.mk.inj hcontent'
    rw [CapabilityContractRow.group, hkind', (Prod.mk.inj hrest').1, htenant', hkind, hname]
  exact Option.ext (fun content =>
    ⟨hhalf h' h hsame.symm content, hhalf h h' hsame content⟩)

theorem digestAt_congr (h : Consistent rows) (h' : Consistent rows')
    (hsame : activeContents tenant rows' = activeContents tenant rows) (x : String) :
    digestAt tenant x rows' = digestAt tenant x rows := by
  have hcontent := content_head?_activeOf h h' hsame "tool" x
  have hdigest := congrArg (Option.map (fun content => content.2.2.1)) hcontent
  rw [Option.map_map, Option.map_map] at hdigest
  exact hdigest

/-- A name is active when it has a digest. -/
theorem Consistent.mem_names (h : Consistent rows) {x : String} :
    x ∈ (activeTools tenant rows).map CapabilityContractRow.name ↔
      digestAt tenant x rows ≠ none := by
  rw [List.mem_map, digestAt, Ne, Option.map_eq_none_iff, ← Ne, Option.ne_none_iff_exists']
  constructor
  · rintro ⟨t, ht, rfl⟩
    obtain ⟨hmem, hkind, hactive, htenant⟩ := mem_activeTools.mp ht
    refine ⟨t, h.head?_activeOf.mpr ⟨hmem, ?_, hactive⟩⟩
    rw [CapabilityContractRow.group, hkind, htenant]
  · rintro ⟨t, hhead⟩
    obtain ⟨hmem, hgroup, hactive⟩ := h.head?_activeOf.mp hhead
    obtain ⟨hkind, hrest⟩ := Prod.mk.inj hgroup
    obtain ⟨hname, htenant⟩ := Prod.mk.inj hrest
    exact ⟨t, mem_activeTools.mpr ⟨hmem, hkind, hactive, htenant⟩, hname⟩

/-- Fewer names are fewer tools. -/
theorem length_activeTools_le (h : Consistent rows)
    (hsub : ∀ x, digestAt tenant x rows ≠ none → digestAt tenant x rows' ≠ none)
    (h' : Consistent rows') :
    (activeTools tenant rows).length ≤ (activeTools tenant rows').length := by
  have hnodup : ((activeTools tenant rows).map CapabilityContractRow.name).Nodup := h.nodup_names
  have hperm : ((activeTools tenant rows).map CapabilityContractRow.name).Subperm
      ((activeTools tenant rows').map CapabilityContractRow.name) :=
    hnodup.subperm (fun x hx => h'.mem_names.mpr (hsub x (h.mem_names.mp hx)))
  have hle := hperm.length_le
  rw [List.length_map, List.length_map] at hle
  exact hle

end Tenant

/-! ## What is read -/

/-- The result of `resolve_execution_capability_digests` in a state of the store. -/
def resolved (agent tenantId : String) (rows : List Row) : Except PyError (String × String) :=
  answer (resolveExecutionCapabilityDigests py sha256 agent tenantId) rows

/-- The contracts that the queries return. -/
def agentPage (agent tenantId : String) (rows : List Row) : Option CapabilityContractRow :=
  if strip agent = "" then none
  else (selectContracts (agentFilter (strip agent) (strip tenantId)) 1 0 rows).head?

/-- The page of the active tools. -/
def toolPage (tenantId : String) (rows : List Row) : List CapabilityContractRow :=
  selectContracts (toolFilter (strip tenantId)) 500 0 rows

section Pages

variable {agent tenantId : String} {rows rows' : List Row}

theorem answer_listCapabilityContracts (f : ContractFilter) (limit offset : ℤ)
    {β : Type} (k : CapabilityContractPage → StoreM β) (rows : List Row) :
    answer (listCapabilityContracts f limit offset >>= k) rows
      = ((k { items := selectContracts f (max 1 (min limit 500)).toNat (max 0 offset).toNat rows
              total := ((capabilities rows).filter f.admits).length
              limit := (max 1 (min limit 500)).toNat
              offset := (max 0 offset).toNat }).run schema (fun _ => none)
          { committed := rows, current := rows, time := 4 }).1 := by
  have hexecutes : (listCapabilityContracts f limit offset).Executes schema rows 4
      (fun _ => rows) _ := executes_listCapabilityContracts f limit offset
  have hrun := (hexecutes (fun _ => none) 0).1 (fun _ _ => rfl)
  unfold answer outcome
  dsimp only
  rw [Session.ofRows, Prog.run_bind_ok hrun]

/-- The digests are those of the two pages. -/
theorem resolved_eq : resolved py sha256 agent tenantId rows
    = .ok (capabilityDigests py sha256 (agentPage agent tenantId rows)
      (toolPage tenantId rows)) := by
  unfold resolved resolveExecutionCapabilityDigests findAgentContract agentPage
  by_cases hagent : strip agent = ""
  · rw [if_pos hagent, if_pos hagent]
    show answer (listCapabilityContracts (toolFilter (strip tenantId)) 500 0 >>= fun page =>
      pure (capabilityDigests py sha256 none page.items)) rows = _
    rw [answer_listCapabilityContracts]
    rfl
  · rw [if_neg hagent, if_neg hagent]
    show answer (listCapabilityContracts (agentFilter (strip agent) (strip tenantId)) 1 0
      >>= fun page => listCapabilityContracts (toolFilter (strip tenantId)) 500 0 >>= fun page' =>
        pure (capabilityDigests py sha256 page.items.head? page'.items)) rows = _
    rw [answer_listCapabilityContracts]
    have hexecutes : (listCapabilityContracts (toolFilter (strip tenantId)) 500 0).Executes schema
        rows 4 (fun _ => rows) _ := executes_listCapabilityContracts _ _ _
    have hrun := (hexecutes (fun _ => none) 4).1 (fun _ _ => rfl)
    rw [Prog.run_bind_ok hrun]
    rfl

/-- The name of a tenant: not blank, and without surrounding blanks. -/
def NamesTenant (tenantId : String) : Prop := strip tenantId = tenantId ∧ tenantId ≠ ""

theorem admits_toolFilter (htenant : NamesTenant tenantId) :
    (capabilities rows).filter (toolFilter (strip tenantId)).admits
      = activeTools tenantId rows := by
  unfold activeTools
  refine List.filter_congr (fun c _ => ?_)
  rw [htenant.1]
  simp [toolFilter, ContractFilter.admits, htenant.2, Bool.and_assoc]

theorem admits_agentFilter (htenant : NamesTenant tenantId) (hagent : strip agent ≠ "") :
    (capabilities rows).filter (agentFilter (strip agent) (strip tenantId)).admits
      = activeOf ("agent", strip agent, tenantId) rows := by
  unfold activeOf contractsOf
  rw [List.filter_filter]
  refine List.filter_congr (fun c _ => ?_)
  have hkind : ("agent" : String) ≠ "" := by decide
  rw [htenant.1, Bool.eq_iff_iff]
  simp only [agentFilter, ContractFilter.admits, htenant.2, hagent, hkind, if_false,
    Option.all_some, CapabilityContractRow.group, Prod.mk.injEq, Bool.and_eq_true,
    Bool.or_eq_true, decide_eq_true_eq, false_or]
  constructor
  · rintro ⟨⟨⟨hagents, hactive⟩, hname⟩, hsame⟩
    exact ⟨hactive, hagents, hname, hsame⟩
  · rintro ⟨hactive, hagents, hname, hsame⟩
    exact ⟨⟨⟨hagents, hactive⟩, hname⟩, hsame⟩

/-- The query for the agent returns its active contract. -/
theorem agentPage_eq (h : Consistent rows) (htenant : NamesTenant tenantId) :
    agentPage agent tenantId rows = agentContract (strip agent) tenantId rows := by
  unfold agentPage agentContract
  by_cases hagent : strip agent = ""
  · rw [if_pos hagent, if_pos hagent]
  · rw [if_neg hagent, if_neg hagent]
    unfold selectContracts
    rw [admits_agentFilter htenant hagent]
    match hlist : activeOf ("agent", strip agent, tenantId) rows with
    | [] => rfl
    | [c] => rfl
    | c :: c' :: l =>
      have hone := h.oneActive ("agent", strip agent, tenantId)
      rw [hlist] at hone
      exact absurd hone (by simp)

/-- The query for the tools returns some of the active ones, all when they are no more
than 500. -/
theorem toolPage_subset (htenant : NamesTenant tenantId) :
    ∀ t ∈ toolPage tenantId rows, t ∈ activeTools tenantId rows := by
  intro t ht
  unfold toolPage selectContracts at ht
  rw [admits_toolFilter htenant, List.drop_zero] at ht
  exact (List.mem_insertionSort _).mp (List.mem_of_mem_take ht)

theorem toolPage_perm (htenant : NamesTenant tenantId)
    (hmost : (activeTools tenantId rows).length ≤ 500) :
    (toolPage tenantId rows).Perm (activeTools tenantId rows) := by
  unfold toolPage selectContracts
  rw [admits_toolFilter htenant, List.drop_zero, List.take_of_length_le]
  · exact List.perm_insertionSort _ _
  · rw [List.length_insertionSort]
    exact hmost

theorem nodup_toolPage (h : Consistent rows) (htenant : NamesTenant tenantId) :
    ((toolPage tenantId rows).map CapabilityContractRow.name).Nodup := by
  unfold toolPage selectContracts
  rw [admits_toolFilter htenant, List.drop_zero]
  have hsorted : (((activeTools tenantId rows).insertionSort
      (fun a b => b.updatedAt ≤ a.updatedAt)).map CapabilityContractRow.name).Nodup :=
    ((List.perm_insertionSort _ _).map _).nodup_iff.mpr h.nodup_names
  exact hsorted.sublist ((List.take_sublist _ _).map _)

/-- A tool of the page has its digest. -/
theorem toolDigest_toolPage_le (h : Consistent rows) (htenant : NamesTenant tenantId)
    {x digest : String} (hdigest : toolDigest (toolPage tenantId rows) x = some digest) :
    toolDigest (activeTools tenantId rows) x = some digest := by
  obtain ⟨t, ht, hx⟩ := (toolDigest_eq_some (nodup_toolPage h htenant)).mp hdigest
  exact (toolDigest_eq_some h.nodup_names).mpr ⟨t, toolPage_subset htenant t ht, hx⟩

theorem toolDigest_toolPage (h : Consistent rows) (htenant : NamesTenant tenantId)
    (hmost : (activeTools tenantId rows).length ≤ 500) (x : String) :
    toolDigest (toolPage tenantId rows) x = toolDigest (activeTools tenantId rows) x := by
  refine Option.ext (fun digest => ⟨toolDigest_toolPage_le h htenant, ?_⟩)
  intro hdigest
  obtain ⟨t, ht, hx⟩ := (toolDigest_eq_some h.nodup_names).mp hdigest
  exact (toolDigest_eq_some (nodup_toolPage h htenant)).mpr
    ⟨t, (toolPage_perm htenant hmost).mem_iff.mpr ht, hx⟩

/-- Two results agree on the tools when the listings agree and the pages agree on the tools that
the agent may use. -/
theorem toolsDigest_resolved_iff (hsha : Function.Injective sha256)
    (hlisted : (agentPage agent tenantId rows).elim [] (toolNames py)
      = (agentPage agent tenantId rows').elim [] (toolNames py)) :
    (resolved py sha256 agent tenantId rows).map Prod.snd
      = (resolved py sha256 agent tenantId rows').map Prod.snd ↔
    ∀ x, MayUse ((agentPage agent tenantId rows).elim [] (toolNames py)) x →
      toolDigest (toolPage tenantId rows) x = toolDigest (toolPage tenantId rows') x := by
  rw [resolved_eq, resolved_eq]
  show Except.ok (capabilityDigests py sha256 _ _).2 = Except.ok (capabilityDigests py sha256 _ _).2
    ↔ _
  rw [Except.ok.injEq]
  unfold capabilityDigests
  dsimp only
  rw [← hlisted, toolsDigest_eq_iff py sha256 hsha pairwise_selectedTools pairwise_selectedTools,
    selectedTools_eq_iff]

end Pages

/-! ## Stable digests -/

/-- The digests are the same in every consistent state with these contents of the tenant's
active contracts. -/
def Stable (agent tenantId : String) (rows : List Row) : Prop :=
  ∀ rows', Consistent rows' → activeContents tenantId rows' = activeContents tenantId rows →
    resolved py sha256 agent tenantId rows' = resolved py sha256 agent tenantId rows

/-- No active tool of the tenant that the agent may use has a digest. -/
def NoUsableTool (agent tenantId : String) (rows : List Row) : Prop :=
  ∀ x, MayUse (listedTools py (strip agent) tenantId rows) x →
    toolDigest (activeTools tenantId rows) x = none

section Stable

variable {agent tenantId : String} {rows rows' : List Row}

theorem agentContract_congr (agent : String) (h : Consistent rows) (h' : Consistent rows')
    (hsame : activeContents tenantId rows' = activeContents tenantId rows) :
    (agentContract (strip agent) tenantId rows').map CapabilityContractRow.content
      = (agentContract (strip agent) tenantId rows).map CapabilityContractRow.content := by
  unfold agentContract
  by_cases hagent : strip agent = ""
  · rw [if_pos hagent, if_pos hagent]
  · rw [if_neg hagent, if_neg hagent]
    exact content_head?_activeOf h h' hsame "agent" (strip agent)

/-- The content of a contract determines its listing and its digest. -/
theorem listing_congr {contract contract' : Option CapabilityContractRow}
    (h : contract'.map CapabilityContractRow.content
      = contract.map CapabilityContractRow.content) :
    contract'.elim [] (toolNames py) = contract.elim [] (toolNames py) ∧
      contract'.elim "" CapabilityContractRow.contentDigest
        = contract.elim "" CapabilityContractRow.contentDigest := by
  cases contract with
  | none =>
    rw [Option.map_none, Option.map_eq_none_iff] at h
    rw [h]
    exact ⟨rfl, rfl⟩
  | some c =>
    obtain ⟨c', rfl, hcontent⟩ := Option.map_eq_some_iff.mp h
    simp only [CapabilityContractRow.content, Prod.mk.injEq] at hcontent
    obtain ⟨-, -, hdigest, hcaps⟩ := hcontent
    refine ⟨?_, hdigest⟩
    show toolNames py c' = toolNames py c
    unfold toolNames
    rw [hcaps]

/-- Results are equal when they agree on the agent's contract and on the usable tools. -/
theorem resolved_congr (hcontract : (agentPage agent tenantId rows').map
      CapabilityContractRow.content
      = (agentPage agent tenantId rows).map CapabilityContractRow.content)
    (htools : ∀ x, MayUse ((agentPage agent tenantId rows).elim [] (toolNames py)) x →
      toolDigest (toolPage tenantId rows') x = toolDigest (toolPage tenantId rows) x) :
    resolved py sha256 agent tenantId rows' = resolved py sha256 agent tenantId rows := by
  obtain ⟨hlisted, hdigest⟩ := listing_congr py hcontract
  rw [resolved_eq, resolved_eq]
  refine congrArg Except.ok ?_
  unfold capabilityDigests
  dsimp only
  rw [hlisted, hdigest, selectedTools_eq_iff.mpr htools]

/-- **When the digests are stable.** -/
theorem stable_of_few (h : Consistent rows) (htenant : NamesTenant tenantId)
    (hfew : (activeTools tenantId rows).length ≤ 500 ∨ NoUsableTool py agent tenantId rows) :
    Stable py sha256 agent tenantId rows := by
  intro rows' h' hsame
  have hcontract := agentContract_congr agent h h' hsame
  have hlisted := (listing_congr py hcontract).1
  have htools : ∀ x, toolDigest (activeTools tenantId rows') x
      = toolDigest (activeTools tenantId rows) x := by
    intro x
    rw [h'.toolDigest_eq, h.toolDigest_eq, digestAt_congr h h' hsame]
  refine resolved_congr py sha256 ?_ ?_
  · rw [agentPage_eq h htenant, agentPage_eq h' htenant]
    exact hcontract
  · intro x huse
    rw [agentPage_eq h htenant] at huse
    rcases hfew with hmost | hnone
    · have hmost' : (activeTools tenantId rows').length ≤ 500 := by
        refine le_trans (length_activeTools_le h' (fun y hy => ?_) h) hmost
        rw [digestAt_congr h h' hsame] at hy
        exact hy
      rw [toolDigest_toolPage h htenant hmost, toolDigest_toolPage h' htenant hmost', htools]
    · have hactive := hnone x huse
      have hpage : toolDigest (toolPage tenantId rows) x = none := by
        refine Option.eq_none_iff_forall_ne_some.mpr (fun digest hdigest => ?_)
        rw [toolDigest_toolPage_le h htenant hdigest] at hactive
        cases hactive
      have hpage' : toolDigest (toolPage tenantId rows') x = none := by
        refine Option.eq_none_iff_forall_ne_some.mpr (fun digest hdigest => ?_)
        have hsome := toolDigest_toolPage_le h' htenant hdigest
        rw [htools, hactive] at hsome
        cases hsome
      rw [hpage, hpage']

end Stable

/-! ## Other dates -/

/-- A contract with another date of its last update. -/
def CapabilityContractRow.stamped (updatedAt : CapabilityContractRow → String)
    (c : CapabilityContractRow) : CapabilityContractRow :=
  { c with updatedAt := updatedAt c }

/-- The contracts with other dates of their last update. -/
def restamp (updatedAt : CapabilityContractRow → String) (rows : List Row) : List Row :=
  rows.map (onContracts (CapabilityContractRow.stamped updatedAt))

section Restamp

variable {updatedAt : CapabilityContractRow → String} {rows : List Row} {tenant : String}

theorem keys_restamp : (restamp updatedAt rows).map Row.key = rows.map Row.key := by
  unfold restamp
  rw [List.map_map]
  exact List.map_congr_left (fun row _ => by cases row <;> rfl)

theorem capabilities_restamp : capabilities (restamp updatedAt rows)
    = (capabilities rows).map (CapabilityContractRow.stamped updatedAt) :=
  capabilities_map _

theorem activeOf_restamp {group : String × String × String} :
    activeOf group (restamp updatedAt rows)
      = (activeOf group rows).map (CapabilityContractRow.stamped updatedAt) := by
  unfold activeOf restamp
  rw [contractsOf_map (f := CapabilityContractRow.stamped updatedAt) (fun _ => rfl),
    List.filter_map]
  rfl

theorem activeTools_restamp : activeTools tenant (restamp updatedAt rows)
    = (activeTools tenant rows).map (CapabilityContractRow.stamped updatedAt) := by
  unfold activeTools
  rw [capabilities_restamp, List.filter_map]
  rfl

theorem Consistent.restamp (h : Consistent rows) : Consistent (restamp updatedAt rows) where
  keys := by
    rw [keys_restamp]
    exact h.keys
  oneActive group := by
    rw [activeOf_restamp, List.length_map]
    exact h.oneActive group

theorem activeContents_restamp :
    activeContents tenant (restamp updatedAt rows) = activeContents tenant rows := by
  ext content
  unfold activeContents
  rw [capabilities_restamp]
  constructor
  · rintro ⟨c', hc', hactive, htenant, hcontent⟩
    obtain ⟨c, hc, rfl⟩ := List.mem_map.mp hc'
    exact ⟨c, hc, hactive, htenant, hcontent⟩
  · rintro ⟨c, hc, hactive, htenant, hcontent⟩
    exact ⟨_, List.mem_map_of_mem hc, hactive, htenant, hcontent⟩

end Restamp

/-! ## The window of the query -/

section Window

variable {l : List CapabilityContractRow} {c : CapabilityContractRow} {n : ℕ}

/-- The contract that was updated last comes first. -/
theorem head?_of_newest (hc : c ∈ l) (hnewest : ∀ b ∈ l, b ≠ c → b.updatedAt < c.updatedAt) :
    (l.insertionSort (fun a b => b.updatedAt ≤ a.updatedAt)).head? = some c := by
  have hsorted := List.pairwise_insertionSort
    (fun a b : CapabilityContractRow => b.updatedAt ≤ a.updatedAt) l
  have hmem : c ∈ l.insertionSort (fun a b => b.updatedAt ≤ a.updatedAt) :=
    (List.mem_insertionSort _).mpr hc
  cases hlist : l.insertionSort (fun a b => b.updatedAt ≤ a.updatedAt) with
  | nil =>
    rw [hlist] at hmem
    cases hmem
  | cons b rest =>
    rw [hlist] at hmem hsorted
    have hb : b ∈ l := (List.mem_insertionSort _).mp (hlist ▸ List.mem_cons_self)
    by_cases hbc : b = c
    · rw [hbc]
      rfl
    · have hrest := (List.mem_cons.mp hmem).resolve_left (Ne.symm hbc)
      have hle := (List.pairwise_cons.mp hsorted).1 c hrest
      exact absurd (hnewest b hb hbc) (not_lt_of_ge hle)

/-- The contract that was updated first is outside of a window that is too small. -/
theorem not_mem_take_of_oldest (hnodup : l.Nodup)
    (holdest : ∀ b ∈ l, b ≠ c → c.updatedAt < b.updatedAt) (hn : n < l.length) :
    c ∉ (l.insertionSort (fun a b => b.updatedAt ≤ a.updatedAt)).take n := by
  intro hmem
  have hsorted := List.pairwise_insertionSort
    (fun a b : CapabilityContractRow => b.updatedAt ≤ a.updatedAt) l
  have hnodup' := (List.perm_insertionSort
    (fun a b : CapabilityContractRow => b.updatedAt ≤ a.updatedAt) l).nodup_iff.mpr hnodup
  rw [← List.take_append_drop n (l.insertionSort (fun a b => b.updatedAt ≤ a.updatedAt))]
    at hsorted hnodup'
  have hpos : 0 < ((l.insertionSort
      (fun a b : CapabilityContractRow => b.updatedAt ≤ a.updatedAt)).drop n).length := by
    rw [List.length_drop, List.length_insertionSort]
    omega
  obtain ⟨b, hb⟩ := List.exists_mem_of_length_pos hpos
  have hne : b ≠ c := by
    rintro rfl
    exact (List.nodup_append.mp hnodup').2.2 b hmem b hb rfl
  have hle := (List.pairwise_append.mp hsorted).2.2 c hmem b hb
  have hbl : b ∈ l := (List.mem_insertionSort _).mp (List.mem_of_mem_drop hb)
  exact absurd (holdest b hbl hne) (not_lt_of_ge hle)

end Window

/-! ## Unstable digests -/

section Unstable

variable {agent tenantId : String} {rows : List Row}

theorem mem_take_of_head? {α : Type} {l : List α} {a : α} {n : ℕ} (hn : 0 < n)
    (h : l.head? = some a) : a ∈ l.take n := by
  cases l with
  | nil => cases h
  | cons b l =>
    cases h
    rw [List.take_cons hn]
    exact List.mem_cons_self

/-- Beyond the window a tool shows or not by its date. -/
theorem few_of_stable (hsha : Function.Injective sha256) (h : Consistent rows)
    (htenant : NamesTenant tenantId) (hstable : Stable py sha256 agent tenantId rows) :
    (activeTools tenantId rows).length ≤ 500 ∨ NoUsableTool py agent tenantId rows := by
  by_contra hnot
  obtain ⟨hmany, husable⟩ := not_or.mp hnot
  unfold NoUsableTool at husable
  push Not at hmany husable
  obtain ⟨x, huse, hsome⟩ := husable
  obtain ⟨digest, hdigest⟩ := Option.ne_none_iff_exists'.mp hsome
  obtain ⟨t, ht, rfl, rfl, hne⟩ := (toolDigest_eq_some h.nodup_names).mp hdigest
  have hkind := (mem_activeTools.mp ht).2.1
  -- the tool as the last one updated, and as the first one
  have hpage : ∀ updatedAt, (agentPage agent tenantId (restamp updatedAt rows)).elim []
      (toolNames py) = listedTools py (strip agent) tenantId rows := by
    intro updatedAt
    rw [agentPage_eq h.restamp htenant]
    exact (listing_congr py (agentContract_congr agent h h.restamp activeContents_restamp)).1
  have hmem : ∀ updatedAt, t.stamped updatedAt ∈ activeTools tenantId (restamp updatedAt rows) := by
    intro updatedAt
    rw [activeTools_restamp]
    exact List.mem_map_of_mem ht
  have hother : ∀ updatedAt, ∀ b ∈ activeTools tenantId (restamp updatedAt rows),
      b ≠ t.stamped updatedAt → b.name ≠ t.name := by
    intro updatedAt b hb hne hname
    exact hne (List.inj_on_of_nodup_map h.restamp.nodup_names hb (hmem updatedAt) hname)
  have hstamp : ∀ updatedAt, ∀ b ∈ activeTools tenantId (restamp updatedAt rows),
      ∃ c, c.name = b.name ∧ b.updatedAt = updatedAt c := by
    intro updatedAt b hb
    rw [activeTools_restamp] at hb
    obtain ⟨c, -, rfl⟩ := List.mem_map.mp hb
    exact ⟨c, rfl, rfl⟩
  have hzero : ("0" : String) < "1" := by decide
  let last : CapabilityContractRow → String := fun c => if c.name = t.name then "1" else "0"
  let first : CapabilityContractRow → String := fun c => if c.name = t.name then "0" else "1"
  have hlast : toolDigest (toolPage tenantId (restamp last rows)) t.name
      = some t.contentDigest := by
    refine (toolDigest_eq_some (nodup_toolPage h.restamp htenant)).mpr
      ⟨t.stamped last, ?_, rfl, rfl, hne⟩
    unfold toolPage selectContracts
    rw [admits_toolFilter htenant, List.drop_zero]
    refine mem_take_of_head? (by decide) (head?_of_newest (hmem last) ?_)
    intro b hb hbt
    obtain ⟨c, hc, hdate⟩ := hstamp last b hb
    have hname := hother last b hb hbt
    rw [hdate]
    show (if c.name = t.name then "1" else "0") < (if t.name = t.name then "1" else "0")
    rw [hc, if_neg hname, if_pos rfl]
    exact hzero
  have hfirst : toolDigest (toolPage tenantId (restamp first rows)) t.name = none := by
    refine Option.eq_none_iff_forall_ne_some.mpr (fun digest hdigest => ?_)
    obtain ⟨t', ht', hname, -⟩ :=
      (toolDigest_eq_some (nodup_toolPage h.restamp htenant)).mp hdigest
    have hsame : t' = t.stamped first := by
      by_contra hne
      exact hother first t' (toolPage_subset htenant t' ht') hne hname
    rw [hsame] at ht'
    unfold toolPage selectContracts at ht'
    rw [admits_toolFilter htenant, List.drop_zero] at ht'
    refine not_mem_take_of_oldest (h.restamp.nodup_names.of_map _) ?_ ?_ ht'
    · intro b hb hbt
      obtain ⟨c, hc, hdate⟩ := hstamp first b hb
      have hname := hother first b hb hbt
      rw [hdate]
      show (if t.name = t.name then "0" else "1") < (if c.name = t.name then "0" else "1")
      rw [hc, if_neg hname, if_pos rfl]
      exact hzero
    · rw [activeTools_restamp, List.length_map]
      exact hmany
  have hequal : resolved py sha256 agent tenantId (restamp last rows)
      = resolved py sha256 agent tenantId (restamp first rows) :=
    (hstable _ h.restamp activeContents_restamp).trans
      (hstable _ h.restamp activeContents_restamp).symm
  have htools := (toolsDigest_resolved_iff py sha256 hsha ((hpage last).trans (hpage first).symm)).mp
    (congrArg (Except.map Prod.snd) hequal) t.name ((hpage last).symm ▸ huse)
  rw [hlast, hfirst] at htools
  cases htools

/-! ### Contracts of another tenant -/

/-- The rows without the contracts of the other tenants. -/
def ofTenant (tenant : String) (rows : List Row) : List Row :=
  rows.filter (fun row => row.capability?.all (fun c => c.tenantId = tenant))

/-- An active contract, updated at the date `"1"`. -/
def foreignContract (contractId kind name tenantId digest : String) : CapabilityContractRow where
  contractId := contractId
  kind := kind
  name := name
  tenantId := tenantId
  status := .active
  version := ""
  contentDigest := digest
  capabilities := []
  source := "filesystem"
  createdAt := "1"
  updatedAt := "1"
  activatedAt := none

/-- The contracts of a tenant, updated at the date `"0"`, and one of another tenant. -/
def withForeign (tenant : String) (foreign : CapabilityContractRow) (rows : List Row) :
    List Row :=
  restamp (fun _ => "0") (ofTenant tenant rows) ++ [.capability foreign]

theorem capabilities_ofTenant (tenant : String) : capabilities (ofTenant tenant rows)
    = (capabilities rows).filter (fun c => c.tenantId = tenant) := by
  unfold capabilities ofTenant
  rw [List.filterMap_filter, List.filter_filterMap]
  refine List.filterMap_congr (fun row _ => ?_)
  cases row with
  | capability c =>
    show (if decide (c.tenantId = tenant) = true then some c else none)
      = (some c).filter (fun c => decide (c.tenantId = tenant))
    rw [Option.filter_some]
  | _ => rfl

variable {foreign : CapabilityContractRow}

theorem capabilities_withForeign : capabilities (withForeign tenantId foreign rows)
    = ((capabilities rows).filter (fun c => c.tenantId = tenantId)).map
        (CapabilityContractRow.stamped (fun _ => "0")) ++ [foreign] := by
  unfold withForeign
  rw [capabilities_append, capabilities_restamp, capabilities_ofTenant]
  rfl

theorem consistent_withForeign (h : Consistent rows)
    (hid : foreign.contractId ∉ (capabilities rows).map CapabilityContractRow.contractId)
    (htenant : foreign.tenantId ≠ tenantId) : Consistent (withForeign tenantId foreign rows) where
  keys := by
    unfold withForeign
    rw [List.map_append, keys_restamp]
    have hfree : (Row.capability foreign).key ∉ (ofTenant tenantId rows).map Row.key := by
      intro hmem
      obtain ⟨row, hrow, hkey⟩ := List.mem_map.mp hmem
      cases row with
      | capability c =>
        refine hid (List.mem_map.mpr ⟨c, ?_, RowKey.capability.inj hkey⟩)
        exact List.mem_filterMap.mpr ⟨_, (List.mem_filter.mp hrow).1, rfl⟩
      | _ => cases hkey
    have hconcat := (h.keys.sublist (List.filter_sublist.map _)).concat hfree
    rw [List.concat_eq_append] at hconcat
    exact hconcat
  oneActive group := by
    have hown : (activeOf group (restamp (fun _ => "0") (ofTenant tenantId rows))).length ≤ 1 := by
      rw [activeOf_restamp, List.length_map]
      refine le_trans ?_ (h.oneActive group)
      unfold activeOf contractsOf
      rw [capabilities_ofTenant]
      exact ((List.filter_sublist.filter _).filter _).length_le
    unfold activeOf withForeign
    rw [contractsOf_append, List.filter_append, List.length_append]
    by_cases hgroup : foreign.group = group
    · have hnone : activeOf group (restamp (fun _ => "0") (ofTenant tenantId rows)) = [] := by
        refine List.eq_nil_iff_forall_not_mem.mpr (fun c hc => ?_)
        obtain ⟨hmem, hcgroup, -⟩ := mem_activeOf.mp hc
        rw [capabilities_restamp, capabilities_ofTenant] at hmem
        obtain ⟨c', hc', rfl⟩ := List.mem_map.mp hmem
        have htenant' : c'.tenantId = tenantId := of_decide_eq_true (List.mem_filter.mp hc').2
        have hsame : c'.tenantId = foreign.tenantId :=
          congrArg (fun g => g.2.2) (hcgroup.trans hgroup.symm)
        exact htenant (hsame.symm.trans htenant')
      unfold activeOf at hnone
      rw [hnone, if_pos hgroup, List.length_nil, Nat.zero_add]
      exact List.length_filter_le _ _
    · rw [if_neg hgroup]
      exact hown

theorem activeContents_withForeign (htenant : foreign.tenantId ≠ tenantId) :
    activeContents tenantId (withForeign tenantId foreign rows) = activeContents tenantId rows := by
  ext content
  unfold activeContents
  rw [capabilities_withForeign]
  constructor
  · rintro ⟨c', hc', hactive, hc'tenant, hcontent⟩
    rcases List.mem_append.mp hc' with hmem | hmem
    · obtain ⟨c, hc, rfl⟩ := List.mem_map.mp hmem
      exact ⟨c, (List.mem_filter.mp hc).1, hactive, hc'tenant, hcontent⟩
    · rw [List.mem_singleton.mp hmem] at hc'tenant
      exact absurd hc'tenant htenant
  · rintro ⟨c, hc, hactive, hctenant, hcontent⟩
    refine ⟨c.stamped (fun _ => "0"), List.mem_append_left _ (List.mem_map_of_mem ?_), hactive,
      hctenant, hcontent⟩
    exact List.mem_filter.mpr ⟨hc, decide_eq_true hctenant⟩

/-- A query that admits the contract of the other tenant returns it first. -/
theorem head?_withForeign {f : ContractFilter} (hadmits : f.admits foreign = true)
    (hdate : foreign.updatedAt = "1") :
    (((capabilities (withForeign tenantId foreign rows)).filter f.admits).insertionSort
      (fun a b => b.updatedAt ≤ a.updatedAt)).head? = some foreign := by
  refine head?_of_newest ?_ ?_
  · rw [capabilities_withForeign]
    exact List.mem_filter.mpr ⟨List.mem_append_right _ List.mem_cons_self, hadmits⟩
  · intro b hb hne
    rw [capabilities_withForeign] at hb
    rcases List.mem_append.mp (List.mem_filter.mp hb).1 with hmem | hmem
    · obtain ⟨c, -, rfl⟩ := List.mem_map.mp hmem
      rw [hdate]
      show ("0" : String) < "1"
      decide
    · exact absurd (List.mem_singleton.mp hmem) hne

theorem exists_fresh (l : List String) : ∃ s, s ∉ l := by
  obtain ⟨n, hn⟩ : ∃ n, ∀ s ∈ l, s.length < n := by
    induction l with
    | nil => exact ⟨0, fun s hs => by cases hs⟩
    | cons s l ih =>
      obtain ⟨n, hn⟩ := ih
      refine ⟨max n (s.length + 1), fun s' hs' => ?_⟩
      rcases List.mem_cons.mp hs' with rfl | hs'
      · omega
      · have := hn s' hs'
        omega
  refine ⟨String.ofList (List.replicate n 'a'), fun hmem => ?_⟩
  have hlt := hn _ hmem
  rw [String.length_ofList, List.length_replicate] at hlt
  exact absurd hlt (lt_irrefl n)

/-- The tenant that a query is restricted to. -/
def queryTenant (tenantId : String) : Option String :=
  if strip tenantId = "" then none else some (strip tenantId)

/-- A text that names no tenant is a query about the contracts of another one. -/
theorem exists_otherTenant (hnot : ¬ NamesTenant tenantId) :
    ∃ other, other ≠ tenantId ∧ ∀ t, queryTenant tenantId = some t → other = t := by
  unfold queryTenant
  by_cases hblank : strip tenantId = ""
  · rw [if_pos hblank]
    refine ⟨tenantId ++ "x", fun heq => ?_, fun t ht => by cases ht⟩
    have hlength := congrArg String.length heq
    rw [String.length_append] at hlength
    have hone : ("x" : String).length = 1 := rfl
    omega
  · rw [if_neg hblank]
    refine ⟨strip tenantId, fun heq => hnot ⟨heq, ?_⟩, fun t ht => Option.some.inj ht⟩
    rw [← heq]
    exact hblank

variable {other : String}

theorem admits_of_fields {f : ContractFilter} {c : CapabilityContractRow} (hkind : c.kind = f.kind)
    (hstatus : f.status = some c.status) (hname : f.name = "" ∨ c.name = f.name)
    (htenant : ∀ t, f.tenantId = some t → c.tenantId = t) : f.admits c = true := by
  have hname' : (decide (f.name = "") || decide (c.name = f.name)) = true := by
    rw [Bool.or_eq_true, decide_eq_true_eq, decide_eq_true_eq]
    exact hname
  have htenant' : f.tenantId.all (fun t => decide (c.tenantId = t)) = true := by
    rw [Option.all_eq_true]
    exact fun t ht => decide_eq_true (htenant t ht)
  unfold ContractFilter.admits
  rw [hstatus, Option.all_some, decide_eq_true hkind, decide_eq_true (rfl : c.status = c.status),
    hname', htenant', Bool.or_true]
  rfl

theorem admits_foreignTool (hother : ∀ t, queryTenant tenantId = some t → other = t)
    (contractId name digest : String) : (toolFilter (strip tenantId)).admits
      (foreignContract contractId "tool" name other digest) = true :=
  admits_of_fields rfl rfl (Or.inl rfl) hother

theorem admits_foreignAgent (hother : ∀ t, queryTenant tenantId = some t → other = t)
    (contractId digest : String) : (agentFilter (strip agent) (strip tenantId)).admits
      (foreignContract contractId "agent" (strip agent) other digest) = true :=
  admits_of_fields rfl rfl (Or.inr rfl) hother

/-- Stable digests do not depend on the digest of a contract of another tenant. -/
theorem resolved_withForeign (h : Consistent rows) (hne : other ≠ tenantId)
    (hstable : Stable py sha256 agent tenantId rows) {contractId : String}
    (hid : contractId ∉ (capabilities rows).map CapabilityContractRow.contractId)
    (kind name digest digest' : String) :
    resolved py sha256 agent tenantId (withForeign tenantId
        (foreignContract contractId kind name other digest) rows)
      = resolved py sha256 agent tenantId (withForeign tenantId
        (foreignContract contractId kind name other digest') rows) := by
  have hsame : ∀ digest, resolved py sha256 agent tenantId (withForeign tenantId
      (foreignContract contractId kind name other digest) rows)
      = resolved py sha256 agent tenantId rows :=
    fun digest => hstable _ (consistent_withForeign h hid hne) (activeContents_withForeign hne)
  rw [hsame, hsame]

/-- A tool of a new name shows. -/
theorem toolDigest_withForeign (hother : ∀ t, queryTenant tenantId = some t → other = t)
    {contractId name digest : String}
    (hname : name ∉ (capabilities rows).map CapabilityContractRow.name) (hne : digest ≠ "") :
    toolDigest (toolPage tenantId (withForeign tenantId
      (foreignContract contractId "tool" name other digest) rows)) name = some digest := by
  refine toolDigest_of_only (t := foreignContract contractId "tool" name other digest) ?_ ?_ hne
  · unfold toolPage selectContracts
    rw [List.drop_zero]
    exact mem_take_of_head? (by decide)
      (head?_withForeign (admits_foreignTool hother contractId name digest) rfl)
  · intro t' ht' hname'
    unfold toolPage selectContracts at ht'
    have hmem := (List.mem_insertionSort _).mp
      (List.mem_of_mem_drop (List.mem_of_mem_take ht'))
    rw [capabilities_withForeign] at hmem
    rcases List.mem_append.mp (List.mem_filter.mp hmem).1 with hmem | hmem
    · obtain ⟨c, hc, rfl⟩ := List.mem_map.mp hmem
      exact absurd (List.mem_map.mpr ⟨c, (List.mem_filter.mp hc).1, hname'⟩) hname
    · exact List.mem_singleton.mp hmem

/-- A contract of the agent shows. -/
theorem agentPage_withForeign (hother : ∀ t, queryTenant tenantId = some t → other = t)
    (hagent : strip agent ≠ "") (contractId digest : String) :
    agentPage agent tenantId (withForeign tenantId
      (foreignContract contractId "agent" (strip agent) other digest) rows)
      = some (foreignContract contractId "agent" (strip agent) other digest) := by
  unfold agentPage selectContracts
  rw [if_neg hagent, List.drop_zero, List.head?_take, if_neg (by decide)]
  exact head?_withForeign (admits_foreignAgent hother contractId digest) rfl

/-- **For a text that names no tenant, the contracts of other tenants count.** -/
theorem namesTenant_of_stable (hsha : Function.Injective sha256) (h : Consistent rows)
    (hstable : Stable py sha256 agent tenantId rows) : NamesTenant tenantId := by
  by_contra hnot
  obtain ⟨other, htenant, hother⟩ := exists_otherTenant hnot
  obtain ⟨contractId, hid⟩ := exists_fresh
    ((capabilities rows).map CapabilityContractRow.contractId)
  have hab : ("a" : String) ≠ "b" := by decide
  by_cases hagent : strip agent = ""
  · -- a tool of a name that the tenant has not
    obtain ⟨name, hname⟩ := exists_fresh ((capabilities rows).map CapabilityContractRow.name)
    have hequal := resolved_withForeign py sha256 h htenant hstable hid "tool" name "a" "b"
    have hnone : ∀ rows, agentPage agent tenantId rows = none := fun rows => if_pos hagent
    have htools := (toolsDigest_resolved_iff py sha256 hsha (by rw [hnone, hnone])).mp
      (congrArg (Except.map Prod.snd) hequal) name (by rw [hnone]; exact Or.inl rfl)
    rw [toolDigest_withForeign hother hname (by decide),
      toolDigest_withForeign hother hname (by decide)] at htools
    exact hab (Option.some.inj htools)
  · -- a contract of the agent
    have hequal := resolved_withForeign py sha256 h htenant hstable hid "agent" (strip agent)
      "a" "b"
    rw [resolved_eq, resolved_eq, agentPage_withForeign hother hagent,
      agentPage_withForeign hother hagent] at hequal
    exact hab (congrArg Prod.fst (Except.ok.inj hequal))

end Unstable

/-! ## Changes of a tool -/

/-- A tool contract that the agent may use is added, changed or retired, and nothing else. -/
structure ToolChange (agent tenantId x : String) (rows rows' : List Row) : Prop where
  contract : (agentContract (strip agent) tenantId rows').map CapabilityContractRow.content
    = (agentContract (strip agent) tenantId rows).map CapabilityContractRow.content
  others : ∀ y, y ≠ x → digestAt tenantId y rows' = digestAt tenantId y rows
  changed : digestAt tenantId x rows' ≠ digestAt tenantId x rows
  usable : MayUse (listedTools py (strip agent) tenantId rows) x

section Change

variable {agent tenantId x : String} {rows rows' : List Row}

theorem ToolChange.listed (change : ToolChange py agent tenantId x rows rows') :
    listedTools py (strip agent) tenantId rows' = listedTools py (strip agent) tenantId rows :=
  (listing_congr py change.contract).1

theorem ToolChange.symm (change : ToolChange py agent tenantId x rows rows') :
    ToolChange py agent tenantId x rows' rows where
  contract := change.contract.symm
  others y hy := (change.others y hy).symm
  changed := change.changed.symm
  usable := by
    rw [change.listed]
    exact change.usable

theorem ToolChange.toolDigest_eq (change : ToolChange py agent tenantId x rows rows')
    (h : Consistent rows) (h' : Consistent rows') {y : String} (hy : y ≠ x) :
    toolDigest (activeTools tenantId rows') y = toolDigest (activeTools tenantId rows) y := by
  rw [h.toolDigest_eq, h'.toolDigest_eq, change.others y hy]

theorem ToolChange.pages (change : ToolChange py agent tenantId x rows rows')
    (h : Consistent rows) (h' : Consistent rows') (htenant : NamesTenant tenantId) :
    (agentPage agent tenantId rows').elim [] (toolNames py)
      = listedTools py (strip agent) tenantId rows ∧
    (agentPage agent tenantId rows).elim [] (toolNames py)
      = listedTools py (strip agent) tenantId rows := by
  rw [agentPage_eq h htenant, agentPage_eq h' htenant]
  exact ⟨change.listed, rfl⟩

/-- A page of a tenant without a usable tool has no usable tool. -/
theorem NoUsableTool.page (hnone : NoUsableTool py agent tenantId rows) (h : Consistent rows)
    (htenant : NamesTenant tenantId) {y : String}
    (huse : MayUse (listedTools py (strip agent) tenantId rows) y) :
    toolDigest (toolPage tenantId rows) y = none := by
  refine Option.eq_none_iff_forall_ne_some.mpr (fun digest hdigest => ?_)
  have hactive := hnone y huse
  rw [toolDigest_toolPage_le h htenant hdigest] at hactive
  cases hactive

/-- A change that shows does not go beyond the window. -/
theorem ToolChange.few (change : ToolChange py agent tenantId x rows rows')
    (hsha : Function.Injective sha256) (h : Consistent rows) (h' : Consistent rows')
    (htenant : NamesTenant tenantId)
    (hshows : (resolved py sha256 agent tenantId rows').map Prod.snd
      ≠ (resolved py sha256 agent tenantId rows).map Prod.snd)
    (hfew : (activeTools tenantId rows).length ≤ 500 ∨ NoUsableTool py agent tenantId rows)
    (hfew' : (activeTools tenantId rows').length ≤ 500 ∨ NoUsableTool py agent tenantId rows') :
    (activeTools tenantId rows).length ≤ 500 := by
  rcases hfew with hmost | hnone
  · exact hmost
  by_cases hvisible : toolDigest (activeTools tenantId rows') x = none
  · -- no usable tool on either side
    have hnone' : NoUsableTool py agent tenantId rows' := by
      intro y huse
      by_cases hy : y = x
      · rw [hy]
        exact hvisible
      · rw [change.toolDigest_eq py h h' hy]
        rw [change.listed] at huse
        exact hnone y huse
    obtain ⟨hlisted', hlisted⟩ := change.pages py h h' htenant
    refine absurd ((toolsDigest_resolved_iff py sha256 hsha (hlisted'.trans hlisted.symm)).mpr ?_)
      hshows
    intro y huse
    rw [hlisted'] at huse
    rw [hnone.page py h htenant huse, hnone'.page py h' htenant (change.listed.symm ▸ huse)]
  · have hmost' : (activeTools tenantId rows').length ≤ 500 := by
      rcases hfew' with hmost' | hnone'
      · exact hmost'
      · exact absurd (hnone' x (change.symm py).usable) hvisible
    refine le_trans (length_activeTools_le h (fun y hy => ?_) h') hmost'
    by_cases hyx : y = x
    · rw [h'.toolDigest_eq] at hvisible
      rw [hyx]
      intro hdigest
      rw [hdigest] at hvisible
      exact hvisible rfl
    · rw [change.others y hyx]
      exact hy

/-- **When a change of a usable tool shows**, with stable digests before and after. -/
theorem ToolChange.shows_iff (change : ToolChange py agent tenantId x rows rows')
    (hsha : Function.Injective sha256) (h : Consistent rows) (h' : Consistent rows') :
    (Stable py sha256 agent tenantId rows ∧ Stable py sha256 agent tenantId rows' ∧
      (resolved py sha256 agent tenantId rows').map Prod.snd
        ≠ (resolved py sha256 agent tenantId rows).map Prod.snd) ↔
    NamesTenant tenantId ∧ (activeTools tenantId rows).length ≤ 500 ∧
      (activeTools tenantId rows').length ≤ 500 ∧
      ∃ digest, digest ≠ "" ∧
        (digestAt tenantId x rows = some digest ∨ digestAt tenantId x rows' = some digest) := by
  constructor
  · rintro ⟨hstable, hstable', hshows⟩
    have htenant := namesTenant_of_stable py sha256 hsha h hstable
    have hfew := few_of_stable py sha256 hsha h htenant hstable
    have hfew' := few_of_stable py sha256 hsha h' htenant hstable'
    have hmost := change.few py sha256 hsha h h' htenant hshows hfew hfew'
    have hmost' := (change.symm py).few py sha256 hsha h' h htenant hshows.symm hfew' hfew
    refine ⟨htenant, hmost, hmost', ?_⟩
    by_contra hempty
    push Not at hempty
    obtain ⟨hlisted', hlisted⟩ := change.pages py h h' htenant
    refine hshows ((toolsDigest_resolved_iff py sha256 hsha
      (hlisted'.trans hlisted.symm)).mpr ?_)
    intro y _
    rw [toolDigest_toolPage h htenant hmost, toolDigest_toolPage h' htenant hmost']
    by_cases hy : y = x
    · have hfilter : ∀ rows, (∀ digest, digest ≠ "" → digestAt tenantId x rows ≠ some digest) →
          (digestAt tenantId x rows).filter (fun d => d ≠ "") = none := by
        intro rows hnot
        refine Option.eq_none_iff_forall_ne_some.mpr (fun digest hdigest => ?_)
        obtain ⟨hsome, hne⟩ := Option.filter_eq_some_iff.mp hdigest
        exact hnot digest (of_decide_eq_true hne) hsome
      rw [hy, h.toolDigest_eq, h'.toolDigest_eq, hfilter rows (fun d hd => (hempty d hd).1),
        hfilter rows' (fun d hd => (hempty d hd).2)]
    · exact change.toolDigest_eq py h h' hy
  · rintro ⟨htenant, hmost, hmost', digest, hne, hdigest⟩
    refine ⟨stable_of_few py sha256 h htenant (Or.inl hmost),
      stable_of_few py sha256 h' htenant (Or.inl hmost'), fun hequal => ?_⟩
    obtain ⟨hlisted', hlisted⟩ := change.pages py h h' htenant
    have htools := (toolsDigest_resolved_iff py sha256 hsha (hlisted'.trans hlisted.symm)).mp hequal x
      (hlisted'.symm ▸ change.usable)
    rw [toolDigest_toolPage h htenant hmost, toolDigest_toolPage h' htenant hmost',
      h.toolDigest_eq, h'.toolDigest_eq] at htools
    have hkeeps : ∀ o : Option String, o = some digest →
        o.filter (fun d => d ≠ "") = some digest :=
      fun o ho => Option.filter_eq_some_iff.mpr ⟨ho, decide_eq_true hne⟩
    rcases hdigest with hdigest | hdigest
    · rw [hkeeps _ hdigest] at htools
      exact change.changed ((Option.filter_eq_some_iff.mp htools).1.trans hdigest.symm)
    · rw [hkeeps _ hdigest] at htools
      exact change.changed (hdigest.trans (Option.filter_eq_some_iff.mp htools.symm).1.symm)

/-- **What the execution digests depend on.**

* They are a function of the contents of the tenant's active contracts exactly when the text
  names a tenant, and no more than 500 of its tools are active or none that the agent may use
  has a digest.
* A tool contract that the agent may use and that is added, changed or retired shows in the
  tools' digest, with stable digests before and after, exactly when the text names a tenant, no
  more than 500 tools are active before and after, and the contract has a digest before or
  after. -/
theorem resolve_depends_iff (hsha : Function.Injective sha256) (agent tenantId : String)
    (rows : List Row) (h : Consistent rows) :
    (Stable py sha256 agent tenantId rows ↔ NamesTenant tenantId ∧
      ((activeTools tenantId rows).length ≤ 500 ∨ NoUsableTool py agent tenantId rows)) ∧
    ∀ x rows', Consistent rows' → ToolChange py agent tenantId x rows rows' →
      ((Stable py sha256 agent tenantId rows ∧ Stable py sha256 agent tenantId rows' ∧
        (resolved py sha256 agent tenantId rows').map Prod.snd
          ≠ (resolved py sha256 agent tenantId rows).map Prod.snd) ↔
      NamesTenant tenantId ∧ (activeTools tenantId rows).length ≤ 500 ∧
        (activeTools tenantId rows').length ≤ 500 ∧
        ∃ digest, digest ≠ "" ∧ (digestAt tenantId x rows = some digest ∨
          digestAt tenantId x rows' = some digest)) := by
  constructor
  · constructor
    · intro hstable
      have htenant := namesTenant_of_stable py sha256 hsha h hstable
      exact ⟨htenant, few_of_stable py sha256 hsha h htenant hstable⟩
    · rintro ⟨htenant, hfew⟩
      exact stable_of_few py sha256 h htenant hfew
  · exact fun x rows' h' change => change.shows_iff py sha256 hsha h h'

/-- An active tool with its number for a name. -/
def numberedTool (status : ContractStatus) (n : ℕ) : CapabilityContractRow where
  contractId := String.ofList (List.replicate n 'a')
  kind := "tool"
  name := String.ofList (List.replicate n 'a')
  tenantId := "platform"
  status := status
  version := "v1"
  contentDigest := "sha256:v1"
  capabilities := []
  source := "filesystem"
  createdAt := "0"
  updatedAt := "0"
  activatedAt := none

/-- Contracts that share no group are consistent. -/
theorem consistent_of_unique {rows : List Row} (hkeys : (rows.map Row.key).Nodup)
    (hunique : ∀ c ∈ capabilities rows, ∀ c' ∈ capabilities rows, c.group = c'.group → c = c') :
    Consistent rows where
  keys := hkeys
  oneActive group := by
    have hnodup : (activeOf group rows).Nodup :=
      (((nodup_contractIds hkeys).of_map _).filter _).filter _
    match hlist : activeOf group rows with
    | [] => exact Nat.zero_le _
    | [c] => exact le_rfl
    | c :: c' :: l =>
      have hc : c ∈ activeOf group rows := hlist ▸ List.mem_cons_self
      have hc' : c' ∈ activeOf group rows :=
        hlist ▸ List.mem_cons_of_mem _ List.mem_cons_self
      obtain ⟨hmem, hgroup, -⟩ := mem_activeOf.mp hc
      obtain ⟨hmem', hgroup', -⟩ := mem_activeOf.mp hc'
      rw [hlist, hunique c hmem c' hmem' (hgroup.trans hgroup'.symm)] at hnodup
      exact absurd List.mem_cons_self (List.nodup_cons.mp hnodup).1

theorem consistent_single (c : CapabilityContractRow) : Consistent [.capability c] where
  keys := List.nodup_singleton _
  oneActive _ := (List.length_filter_le _ _).trans (List.length_filter_le _ [c])

/-- The only tool of a tenant is retired. -/
theorem resolve_depends_iff_retired :
    (Stable .ascii id "" "platform" [.capability (numberedTool .active 1)] ↔
      NamesTenant "platform" ∧
      ((activeTools "platform" [.capability (numberedTool .active 1)]).length ≤ 500 ∨
        NoUsableTool .ascii "" "platform" [.capability (numberedTool .active 1)])) ∧
    ((Stable .ascii id "" "platform" [.capability (numberedTool .active 1)] ∧
      Stable .ascii id "" "platform" [.capability (numberedTool .retired 1)] ∧
      (resolved .ascii id "" "platform" [.capability (numberedTool .retired 1)]).map Prod.snd
        ≠ (resolved .ascii id "" "platform" [.capability (numberedTool .active 1)]).map Prod.snd) ↔
    NamesTenant "platform" ∧
      (activeTools "platform" [.capability (numberedTool .active 1)]).length ≤ 500 ∧
      (activeTools "platform" [.capability (numberedTool .retired 1)]).length ≤ 500 ∧
      ∃ digest, digest ≠ "" ∧
        (digestAt "platform" "a" [.capability (numberedTool .active 1)] = some digest ∨
          digestAt "platform" "a" [.capability (numberedTool .retired 1)] = some digest)) := by
  obtain ⟨hstable, hchange⟩ := resolve_depends_iff .ascii id Function.injective_id "" "platform"
    [.capability (numberedTool .active 1)] (consistent_single _)
  refine ⟨hstable, hchange "a" _ (consistent_single _) ⟨rfl, ?_, by decide, Or.inl rfl⟩⟩
  intro y hy
  have hname : ∀ status, (numberedTool status 1).group ≠ ("tool", y, "platform") := by
    intro status hgroup
    exact hy (Prod.mk.inj (Prod.mk.inj hgroup).2).1.symm
  have hnone : ∀ status, digestAt "platform" y [.capability (numberedTool status 1)] = none := by
    intro status
    have hgroup : contractsOf ("tool", y, "platform") [.capability (numberedTool status 1)] = [] :=
      List.filter_eq_nil_iff.mpr (fun c hc => by
        rw [List.mem_singleton.mp hc, decide_eq_true_eq]
        exact hname status)
    rw [digestAt, activeOf, hgroup]
    rfl
  rw [hnone, hnone]

/-- A tenant with 501 active tools. -/
def manyTools : List Row :=
  (List.range 501).map (fun n => .capability (numberedTool .active n))

theorem capabilities_map_capability {α : Type} (f : α → CapabilityContractRow) (l : List α) :
    capabilities (l.map (fun a => Row.capability (f a))) = l.map f := by
  unfold capabilities
  rw [List.filterMap_map]
  exact congrFun List.filterMap_eq_map' l

/-- The digests of a tenant with 501 active tools depend on the dates of their updates. -/
theorem resolve_not_stable_many : Consistent manyTools ∧
    ¬ (∀ rows, Consistent rows →
      activeContents "platform" rows = activeContents "platform" manyTools →
      resolved .ascii id "" "platform" rows = resolved .ascii id "" "platform" manyTools) := by
  have hname : ∀ m n, String.ofList (List.replicate m 'a') = String.ofList (List.replicate n 'a') →
      m = n := by
    intro m n heq
    have hlength := congrArg String.length heq
    rw [String.length_ofList, String.length_ofList, List.length_replicate,
      List.length_replicate] at hlength
    exact hlength
  have hcapabilities : capabilities manyTools = (List.range 501).map (numberedTool .active) :=
    capabilities_map_capability _ _
  have hkeys : (manyTools.map Row.key).Nodup := by
    unfold manyTools
    rw [List.map_map]
    exact List.nodup_range.map (fun m n heq => hname m n (RowKey.capability.inj heq))
  have hconsistent : Consistent manyTools := by
    refine consistent_of_unique hkeys (fun c hc c' hc' hgroup => ?_)
    rw [hcapabilities] at hc hc'
    obtain ⟨m, -, rfl⟩ := List.mem_map.mp hc
    obtain ⟨n, -, rfl⟩ := List.mem_map.mp hc'
    rw [hname m n (congrArg (fun g => g.2.1) hgroup)]
  have htools : activeTools "platform" manyTools = (List.range 501).map (numberedTool .active) := by
    unfold activeTools
    rw [hcapabilities]
    refine List.filter_eq_self.mpr (fun c hc => ?_)
    obtain ⟨n, -, rfl⟩ := List.mem_map.mp hc
    rfl
  refine ⟨hconsistent, fun hstable => ?_⟩
  rcases few_of_stable .ascii id Function.injective_id hconsistent
    ⟨by decide, by decide⟩ hstable with hmost | hnone
  · rw [htools, List.length_map, List.length_range] at hmost
    omega
  · have hdigest := hnone "" (Or.inl rfl)
    rw [Option.eq_none_iff_forall_ne_some] at hdigest
    refine hdigest "sha256:v1" ((toolDigest_eq_some hconsistent.nodup_names).mpr
      ⟨numberedTool .active 0, ?_, rfl, rfl, by decide⟩)
    rw [htools]
    exact List.mem_map_of_mem (List.mem_range.mpr (by omega))

end Change

end ControlPlane
