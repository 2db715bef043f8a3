/-
# The content digest of a policy root (`app/policy_bundle.py`)

The digest is taken over the ten policy files in a fixed order, each as its path and its
bytes, closed by NUL bytes.  A missing file is hashed as an empty one, and the bytes of a
file may hold the NUL byte and the path of a neighbour.
-/
import ControlPlane.Framing
import ControlPlane.Request

namespace ControlPlane.BundleDigest

/-- The content of a file. -/
abbrev Bytes := List UInt8

/-- A policy root: the bytes of each file that is present, by its relative path. -/
abbrev PolicyRoot := String → Option Bytes

/-- `_POLICY_YAML_RELATIVE`. -/
def policyYamlRelative : List String :=
  ["policy-packs/packs.yaml", "quota/policies.yaml", "registry/models.yaml",
    "sovereign/residency.yaml", "agents/agents.yaml", "tools/tools.yaml", "cost/policies.yaml",
    "cost/pricing.yaml", "risk/rules.yaml", "classification/tenants.yaml"]

/-- `encode("utf-8")` of a path of ASCII characters. -/
def encodePath (path : String) : Bytes := path.toList.map (fun c => UInt8.ofNat c.toNat)

/-- What is hashed of each file: its path and its bytes, none for a missing file. -/
def hashedFiles (root : PolicyRoot) : List (Bytes × Bytes) :=
  policyYamlRelative.map (fun f => (encodePath f, (root f).getD []))

/-- `_content_digest`. -/
def contentDigest (sha256 : Bytes → String) (root : PolicyRoot) : String :=
  sha256 (Framing.framed 0 (hashedFiles root))

/-! ## Loading -/

/-- The parsers of the engines.  Each reads one file, which may be missing, and gives the
configuration or raises. -/
structure Parsers where
  parsePacks : Option Bytes → Option PackConfig
  parseQuota : Option Bytes → Option (Dict Entry)
  parseRegistry : Option Bytes → Option (Dict Entry)
  parseResidency : Option Bytes → Option ResidencyConfig
  parseAgents : Option Bytes → Option (Dict Entry)
  parseTools : Option Bytes → Option (Dict Entry)
  parseCost : Option Bytes → Option CostPolicies
  parseRisk : Option Bytes → Option RiskRules

/-- The configurations that `PolicyBundle.load` reads from a root, `none` when it fails. -/
def load (parsers : Parsers) (root : PolicyRoot) : Option PolicyConfig := do
  let packs ← parsers.parsePacks (root "policy-packs/packs.yaml")
  let quotaPolicies ← parsers.parseQuota (root "quota/policies.yaml")
  let registry ← parsers.parseRegistry (root "registry/models.yaml")
  let residency ← parsers.parseResidency (root "sovereign/residency.yaml")
  let agents ← parsers.parseAgents (root "agents/agents.yaml")
  let tools ← parsers.parseTools (root "tools/tools.yaml")
  let costPolicies ← parsers.parseCost (root "cost/policies.yaml")
  let riskRules ← parsers.parseRisk (root "risk/rules.yaml")
  return { packs := packs, quotaPolicies := quotaPolicies, registry := registry,
           residency := residency, agents := agents, tools := tools,
           costPolicies := costPolicies, riskRules := riskRules }

/-- Every root with the digest of this one has its files, and loads as it does. -/
def Identifies (sha256 : Bytes → String) (parsers : Parsers) (root : PolicyRoot) : Prop :=
  ∀ root' : PolicyRoot, contentDigest sha256 root' = contentDigest sha256 root →
    (∀ f ∈ policyYamlRelative, root' f = root f) ∧ load parsers root' = load parsers root

/-! ## What is hashed -/

variable {sha256 : Bytes → String} {parsers : Parsers} {root root' : PolicyRoot}

theorem policyYamlRelative_nodup : policyYamlRelative.Nodup := by decide

theorem names_hashedFiles (root : PolicyRoot) :
    (hashedFiles root).map Prod.fst = policyYamlRelative.map encodePath := by
  unfold hashedFiles
  rw [List.map_map]
  rfl

/-- No path holds a NUL byte. -/
theorem nul_not_mem (root : PolicyRoot) : ∀ p ∈ hashedFiles root, (0 : UInt8) ∉ p.1 := by
  have hpaths : ∀ f ∈ policyYamlRelative, (0 : UInt8) ∉ encodePath f := by decide
  intro p hp
  obtain ⟨f, hf, rfl⟩ := List.mem_map.mp hp
  exact hpaths f hf

/-- Loading reads the hashed files only. -/
theorem load_congr (h : ∀ f ∈ policyYamlRelative, root' f = root f) :
    load parsers root' = load parsers root := by
  unfold load
  rw [h "policy-packs/packs.yaml" (by decide), h "quota/policies.yaml" (by decide),
    h "registry/models.yaml" (by decide), h "sovereign/residency.yaml" (by decide),
    h "agents/agents.yaml" (by decide), h "tools/tools.yaml" (by decide),
    h "cost/policies.yaml" (by decide), h "risk/rules.yaml" (by decide)]

/-- Different names are looked up one by one. -/
theorem map_lookup_zip {names : List String} {contents : List Bytes} (hnodup : names.Nodup)
    (hlength : names.length = contents.length) :
    names.map (fun f => (names.zip contents).lookup f) = contents.map some := by
  induction names generalizing contents with
  | nil =>
    rw [List.length_nil] at hlength
    rw [List.length_eq_zero_iff.mp hlength.symm]
    rfl
  | cons name names ih =>
    obtain ⟨c, contents, rfl⟩ : ∃ c cs, contents = c :: cs := by
      cases contents with
      | nil => simp at hlength
      | cons c cs => exact ⟨c, cs, rfl⟩
    rw [List.nodup_cons] at hnodup
    rw [List.zip_cons_cons, List.map_cons, List.map_cons, List.lookup_cons_self]
    congr 1
    rw [← ih hnodup.2 (by simpa using hlength)]
    refine List.map_congr_left (fun f hf => ?_)
    have hne : (f == name) = false := by
      rw [beq_eq_false_iff_ne]
      rintro rfl
      exact hnodup.1 hf
    rw [List.lookup_cons, hne]

/-- Any contents are those of a root. -/
theorem exists_root {items : List (Bytes × Bytes)}
    (h : items.map Prod.fst = policyYamlRelative.map encodePath) :
    ∃ root', hashedFiles root' = items := by
  have hlength : policyYamlRelative.length = (items.map Prod.snd).length := by
    have := congrArg List.length h
    simpa using this.symm
  refine ⟨fun f => (policyYamlRelative.zip (items.map Prod.snd)).lookup f, ?_⟩
  have hcontents := congrArg (List.map (Option.getD · []))
    (map_lookup_zip policyYamlRelative_nodup hlength)
  rw [List.map_map, List.map_map] at hcontents
  have hzip : ∀ (e : String → Bytes) (c : String → Bytes) (l : List String),
      l.map (fun f => (e f, c f)) = (l.map e).zip (l.map c) := by
    intro e c l
    rw [List.zip_map', List.map_congr_left]
    exact fun _ _ => rfl
  unfold hashedFiles
  rw [hzip, ← h]
  have hsome : (items.map Prod.snd).map ((Option.getD · []) ∘ some) = items.map Prod.snd :=
    List.map_id _
  rw [hsome] at hcontents
  have hall : policyYamlRelative.map (fun f =>
      ((policyYamlRelative.zip (items.map Prod.snd)).lookup f).getD []) = items.map Prod.snd :=
    hcontents
  rw [hall]
  exact (List.zip_of_prod rfl rfl).symm

/-- **When the digest identifies the root**: exactly when every file is present and not empty,
and no file shows the frame of its own path or of the path that follows. -/
theorem identifies_iff (hsha : Function.Injective sha256) (parsers : Parsers)
    (root : PolicyRoot) :
    Identifies sha256 parsers root ↔
      (∀ f ∈ policyYamlRelative, ∃ bytes, root f = some bytes ∧ bytes ≠ []) ∧
      Framing.Apart 0 (hashedFiles root) := by
  constructor
  · intro h
    constructor
    · intro f hf
      by_contra hmissing
      -- a missing file and an empty one are hashed alike
      let other : PolicyRoot := fun g =>
        if g = f then (if root f = none then some [] else none) else root g
      have hempty : (root f).getD [] = [] := by
        cases hroot : root f with
        | none => rfl
        | some bytes =>
          by_contra hne
          exact hmissing ⟨bytes, hroot, hne⟩
      have hsame : hashedFiles other = hashedFiles root := by
        refine List.map_congr_left (fun g _ => ?_)
        by_cases hg : g = f
        · rw [hg, hempty]
          show (encodePath f, Option.getD (if f = f then _ else _) []) = _
          rw [if_pos rfl]
          split <;> rfl
        · show (encodePath g, Option.getD (if g = f then _ else _) []) = _
          rw [if_neg hg]
      have heq := (h other (congrArg (fun items => sha256 (Framing.framed 0 items)) hsame)).1 f hf
      have hother : other f = if root f = none then some [] else none := if_pos rfl
      rw [hother] at heq
      split at heq
      · rename_i hnone
        rw [hnone] at heq
        cases heq
      · rename_i hsome
        exact hsome heq.symm
    · rw [← Framing.contents_unique_iff (nul_not_mem root)]
      intro items hnames htext
      obtain ⟨root', rfl⟩ := exists_root (hnames.trans (names_hashedFiles root))
      have hfiles := (h root' (congrArg sha256 htext)).1
      exact List.map_congr_left (fun f hf => by rw [hfiles f hf])
  · rintro ⟨hpresent, hapart⟩ root' hdigest
    have hitems := Framing.eq_of_framed_eq (nul_not_mem root) hapart
      ((names_hashedFiles root').trans (names_hashedFiles root).symm) (hsha hdigest)
    have hfiles : ∀ f ∈ policyYamlRelative, root' f = root f := by
      intro f hf
      have hcontent := (Prod.mk.inj (List.map_inj_left.mp hitems f hf)).2
      obtain ⟨bytes, hroot, hne⟩ := hpresent f hf
      rw [hroot, Option.getD_some] at hcontent
      rw [hroot]
      cases hroot' : root' f with
      | none =>
        rw [hroot', Option.getD_none] at hcontent
        exact absurd hcontent.symm hne
      | some bytes' =>
        rw [hroot', Option.getD_some] at hcontent
        rw [hcontent]
    exact ⟨hfiles, load_congr hfiles⟩

/-! ## A root and its twin -/

/-- A stand-in for the digest: the bytes as characters. -/
def latinDigest (bytes : Bytes) : String := String.ofList (bytes.map Char.ofUInt8)

theorem latinDigest_injective : Function.Injective latinDigest := by
  intro a b h
  refine List.map_injective_iff.mpr (fun x y hxy => ?_) (String.ofList_injective h)
  have hval : x.toUInt32 = y.toUInt32 := congrArg Char.val hxy
  have hnat := congrArg UInt32.toNat hval
  rw [UInt8.toNat_toUInt32, UInt8.toNat_toUInt32] at hnat
  exact UInt8.toNat_inj.mp hnat

/-- Parsers that read every file that is there as an empty configuration. -/
def plainParsers : Parsers where
  parsePacks := Option.map (fun _ => {})
  parseQuota := Option.map (fun _ _ => none)
  parseRegistry := Option.map (fun _ _ => none)
  parseResidency := Option.map (fun _ => {})
  parseAgents := Option.map (fun _ _ => none)
  parseTools := Option.map (fun _ _ => none)
  parseCost := Option.map (fun _ => {})
  parseRisk := Option.map (fun _ => {})

/-- A root with a comment in every file. -/
def commentRoot : PolicyRoot := fun _ => some [35]

theorem identifies_iff_comment : Identifies latinDigest plainParsers commentRoot ↔
    (∀ f ∈ policyYamlRelative, ∃ bytes, commentRoot f = some bytes ∧ bytes ≠ []) ∧
    Framing.Apart 0 (hashedFiles commentRoot) :=
  identifies_iff latinDigest_injective plainParsers commentRoot

/-- A root without its pack file has the digest of the root where the file is empty; the
former cannot be loaded and the latter can. -/
theorem not_identifies_missing : Function.Injective latinDigest ∧
    ¬ Identifies latinDigest plainParsers
      (fun f => if f = "policy-packs/packs.yaml" then none else some [35]) := by
  refine ⟨latinDigest_injective, fun h => ?_⟩
  obtain ⟨hfiles, -⟩ := h (fun f => if f = "policy-packs/packs.yaml" then some [] else some [35]) rfl
  have hpacks := hfiles "policy-packs/packs.yaml" (by decide)
  revert hpacks
  decide

end ControlPlane.BundleDigest
