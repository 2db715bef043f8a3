/-
# What a registry signature binds (`governance/registry/signing.py`)

A registry entry is signed over the text of the model name and of four of its fields,
joined by `|`.  A field may hold that character itself, and then the signature of the entry
is also the signature of an entry with other fields.
-/
import ControlPlane.Framing
import ControlPlane.Governance.Registry

namespace ControlPlane.Registry

variable (py : PyRuntime) (env : EngineEnv)

/-- The texts that are signed: the model name and the fields of `CANONICAL_FIELDS`. -/
def signedTexts (model : String) (entry : Entry) : List String :=
  model :: canonicalFields.map (text py entry)

/-- The signature of one pair is never accepted for a pair with other signed texts. -/
def Binds (model : String) (entry : Entry) : Prop :=
  ∀ model' entry', signedTexts py model' entry' ≠ signedTexts py model entry →
    entry' "attestation_signature" = some (.str (signEntry py env model entry)) →
    verifyEntrySignature py env model' entry' ≠ .ok true

/-- What a hexadecimal digest looks like: it is ASCII text, not empty, and has no white space
at its ends. -/
def IsHexText (s : String) : Prop := IsAscii s ∧ s ≠ "" ∧ strip s = s

variable {py env}

theorem canonicalPayload_toList (model : String) (entry : Entry) :
    (canonicalPayload py model entry).toList
      = ['|'].intercalate ((signedTexts py model entry).map String.toList) := by
  unfold canonicalPayload
  rw [String.toList_intercalate]
  rfl

/-- The text of a field that holds a string. -/
theorem text_str {entry : Entry} {key s : String} (h : entry key = some (.str s)) :
    text py entry key = s := by
  unfold text Dict.getD
  rw [h]
  rfl

/-- A stored signature is compared with the signature of the pair. -/
theorem verifyEntrySignature_iff (hhex : ∀ m, IsHexText (env.hmacSha256 (strip env.signingKey) m))
    (model model' : String) (entry entry' : Entry)
    (hstored : entry' "attestation_signature" = some (.str (signEntry py env model entry))) :
    verifyEntrySignature py env model' entry' = .ok true
      ↔ signEntry py env model entry = signEntry py env model' entry' := by
  have hsign : IsHexText (signEntry py env model entry) := hhex _
  have hsign' : IsHexText (signEntry py env model' entry') := hhex _
  have htext : storedSignature py entry' = signEntry py env model entry := by
    unfold storedSignature
    rw [text_str hstored]
    exact hsign.2.2
  unfold verifyEntrySignature compareDigest
  rw [htext, if_neg hsign.2.1, if_pos ⟨hsign.1, hsign'.1⟩, Except.ok.injEq, decide_eq_true_eq]

/-- An entry with given signed fields and a given signature. -/
def forgedEntry (revision artifactDigest riskTier license signature : String) : Entry :=
  Dict.ofList [("revision", .str revision), ("artifact_digest", .str artifactDigest),
    ("risk_tier", .str riskTier), ("license", .str license),
    ("attestation_signature", .str signature)]

/-- **When a signature binds what it signs**: exactly when neither the model name nor a
signed field holds the separator. -/
theorem binds_iff (hhmac : Function.Injective (env.hmacSha256 (strip env.signingKey)))
    (hhex : ∀ m, IsHexText (env.hmacSha256 (strip env.signingKey) m)) (model : String)
    (entry : Entry) :
    Binds py env model entry ↔ ∀ s ∈ signedTexts py model entry, '|' ∉ s.toList := by
  have hsame : ∀ model' entry', signEntry py env model entry = signEntry py env model' entry' ↔
      ['|'].intercalate ((signedTexts py model' entry').map String.toList)
        = ['|'].intercalate ((signedTexts py model entry).map String.toList) := by
    intro model' entry'
    rw [← canonicalPayload_toList, ← canonicalPayload_toList, String.toList_inj, eq_comm]
    exact hhmac.eq_iff
  have htwo : 2 ≤ ((signedTexts py model entry).map String.toList).length := by
    simp [signedTexts, canonicalFields]
  have hunique := Framing.parts_unique_iff '|' htwo
  rw [List.forall_mem_map] at hunique
  rw [← hunique]
  constructor
  · intro h parts hlength hjoin
    by_contra hne
    -- five other parts with the same text are the fields of a forged entry
    have hfive : parts.length = 5 := by
      rw [hlength]
      rfl
    match parts, hfive with
    | [m, rev, dig, risk, lic], _ =>
      have hforged : signedTexts py (String.ofList m) (forgedEntry (String.ofList rev)
          (String.ofList dig) (String.ofList risk) (String.ofList lic)
          (signEntry py env model entry))
          = [m, rev, dig, risk, lic].map String.ofList := rfl
      have htexts : ([m, rev, dig, risk, lic].map String.ofList).map String.toList
          = [m, rev, dig, risk, lic] := by simp
      refine h (String.ofList m) (forgedEntry (String.ofList rev) (String.ofList dig)
        (String.ofList risk)
        (String.ofList lic) (signEntry py env model entry)) ?_ rfl ?_
      · intro heq
        rw [hforged] at heq
        exact hne (htexts.symm.trans (congrArg (List.map String.toList) heq))
      · rw [verifyEntrySignature_iff hhex model _ entry _ rfl, hsame, hforged, htexts]
        exact hjoin
  · intro h model' entry' hdiffer hstored hverified
    rw [verifyEntrySignature_iff hhex model model' entry entry' hstored, hsame] at hverified
    have hparts := h ((signedTexts py model' entry').map String.toList)
      (by simp [signedTexts]) hverified
    exact hdiffer (List.map_injective_iff.mpr (fun _ _ hs => String.toList_inj.mp hs) hparts)

/-! ## A forged entry -/

/-- A stand-in for the keyed digest: every character is spelled as a run of one letter. -/
def spelledDigest (message : String) : String :=
  String.ofList ('c' :: message.toList.flatMap (fun c => List.replicate c.toNat 'a' ++ ['b']))

theorem spelledDigest_injective : Function.Injective spelledDigest := by
  intro m m' h
  have hchars := (List.cons.inj (String.ofList_injective h)).2
  have hlist : ∀ l l' : List Char,
      l.flatMap (fun c => List.replicate c.toNat 'a' ++ ['b'])
        = l'.flatMap (fun c => List.replicate c.toNat 'a' ++ ['b']) → l = l' := by
    intro l
    induction l with
    | nil =>
      intro l' hl
      cases l' with
      | nil => rfl
      | cons c' l' => simp at hl
    | cons c l ih =>
      intro l' hl
      cases l' with
      | nil => simp at hl
      | cons c' l' =>
        have hrun : ∀ n, 'b' ∉ List.replicate n 'a' := fun n hb => by
          have := List.eq_of_mem_replicate hb
          revert this
          decide
        rw [List.flatMap_cons, List.flatMap_cons, List.append_assoc, List.append_assoc,
          List.singleton_append, List.singleton_append] at hl
        rcases Framing.mark_split (hrun c.toNat) hl with ⟨hc, htail⟩ | ⟨t, hc, -⟩
        · have hnat : c'.toNat = c.toNat := by
            have := congrArg List.length hc
            simpa using this
          rw [Char.toNat_inj.mp hnat, ih l' htail.symm]
        · exact absurd (hc ▸ by simp : 'b' ∈ List.replicate c'.toNat 'a') (hrun c'.toNat)
  exact String.toList_inj.mp (hlist _ _ hchars)

theorem spelledDigest_hexText (m : String) : IsHexText (spelledDigest m) := by
  have hmem : ∀ c ∈ (spelledDigest m).toList, c = 'c' ∨ c = 'a' ∨ c = 'b' := by
    intro c hc
    rw [spelledDigest, String.toList_ofList, List.mem_cons, List.mem_flatMap] at hc
    rcases hc with rfl | ⟨d, -, hd⟩
    · exact Or.inl rfl
    · rcases List.mem_append.mp hd with hd | hd
      · exact Or.inr (Or.inl (List.eq_of_mem_replicate hd))
      · exact Or.inr (Or.inr (List.mem_singleton.mp hd))
  have hspace : ∀ c ∈ (spelledDigest m).toList, isSpace c = false := by
    intro c hc
    rcases hmem c hc with rfl | rfl | rfl <;> decide
  refine ⟨?_, ?_, ?_⟩
  · intro c hc
    rcases hmem c hc with rfl | rfl | rfl <;> decide
  · intro h
    have := congrArg String.toList h
    simp [spelledDigest] at this
  · have hchars : stripChars (spelledDigest m).toList = (spelledDigest m).toList := by
      have hdrop : (spelledDigest m).toList.dropWhile isSpace = (spelledDigest m).toList := by
        rw [List.dropWhile_eq_self_iff]
        intro hl
        rw [hspace _ (List.getElem_mem hl)]
        exact Bool.false_ne_true
      rw [stripChars, hdrop, List.rdropWhile_eq_self_iff]
      intro hl
      rw [hspace _ (List.getLast_mem hl)]
      exact Bool.false_ne_true
    rw [strip, hchars, String.ofList_toList]

/-- The settings of a registry that signs with the stand-in. -/
def spelledEnv : EngineEnv := { hmacSha256 := fun _ m => spelledDigest m }

/-- A plain entry is bound by its signature. -/
theorem binds_iff_plain : Binds .ascii spelledEnv "llama" (forgedEntry "v1" "sha256:1" "low" "mit" "")
    ↔ ∀ s ∈ signedTexts .ascii "llama" (forgedEntry "v1" "sha256:1" "low" "mit" ""),
      '|' ∉ s.toList :=
  @binds_iff .ascii spelledEnv spelledDigest_injective spelledDigest_hexText "llama"
    (forgedEntry "v1" "sha256:1" "low" "mit" "")

/-- The signature of revision `v1|sha256:1` with digest `2` is accepted for revision `v1` with
digest `sha256:1|2`. -/
theorem not_binds_separator : Function.Injective spelledDigest ∧
    ¬ Binds .ascii spelledEnv "llama" (forgedEntry "v1|sha256:1" "2" "low" "mit" "") := by
  refine ⟨spelledDigest_injective, fun h => ?_⟩
  refine h "llama" (forgedEntry "v1" "sha256:1|2" "low" "mit" (signEntry .ascii spelledEnv "llama"
    (forgedEntry "v1|sha256:1" "2" "low" "mit" ""))) (by decide) rfl ?_
  rw [@verifyEntrySignature_iff .ascii spelledEnv spelledDigest_hexText "llama" "llama" _ _ rfl]
  have hpayload : canonicalPayload .ascii "llama" (forgedEntry "v1|sha256:1" "2" "low" "mit" "")
      = canonicalPayload .ascii "llama" (forgedEntry "v1" "sha256:1|2" "low" "mit"
        (signEntry .ascii spelledEnv "llama" (forgedEntry "v1|sha256:1" "2" "low" "mit" ""))) := by
    decide
  exact congrArg spelledDigest hpayload

end ControlPlane.Registry
