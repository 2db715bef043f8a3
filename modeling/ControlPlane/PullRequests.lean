/-
# One pull request for a proposal

Any number of calls of `create_draft_pull_request` for one proposal run at the same time,
lose answers and are cut off.  What every request of a call guarantees to the others is that
the branch and the open pull request stay and that a file is only replaced by the call's own
text (`Guarantee`); relying on that, a call returns the one pull request with both files in
place, and a call that runs alone returns (`one_pull_request`).
-/
import ControlPlane.GitOpsProvider

namespace ControlPlane.GitOps

open GitHub RemoteCalls
open Remediation (GitOpsPullRequestRequest)

/-! ## What a request does to a repository -/

section Serving

variable {gh : Host} {owner : String} {w : Repository} {r : Request}

/-- The branch exists with a commit that the repository knows. -/
def Based (base : String) (w : Repository) : Prop :=
  ∃ commit, w.heads base = some commit ∧ commit.sha ≠ "" ∧ commit ∈ w.commits

/-- What a request changes in a repository. -/
inductive Change (gh : Host) (w : Repository) : Request → Repository → Prop
  | nothing (r : Request) : Change gh w r w
  | branch {ref sha b : String} {commit : Commit} : branchOfRef ref = some b →
      w.heads b = none → commit ∈ w.commits →
      Change gh w (.createRef ref sha)
        { w with heads := Function.update w.heads b (some commit) }
  | file {path message content b : String} {sha : Option String} {commit : Commit} :
      w.heads b = some commit →
      Change gh w (.putContents path message content b sha)
        (w.advance b (gh.writeFile w commit path content))
  | pull {title body head base : String} {draft : Bool} : w.openPulls head base = [] →
      Change gh w (.createPull title body head base draft)
        { w with pulls := w.pulls ++ [gh.newPull w title body head base draft] }

theorem change_serve : Change gh w r (gh.serve owner w r).2 := by
  cases r with
  | listPulls state head base => exact .nothing _
  | getRef b =>
      simp only [Host.serve]
      split <;> exact .nothing _
  | createRef ref sha =>
      simp only [Host.serve]
      split
      · exact .nothing _
      · rename_i b hb
        split
        · rename_i commit hnone hfind
          exact .branch hb hnone (List.mem_of_find?_eq_some hfind)
        · exact .nothing _
  | getContents path ref =>
      simp only [Host.serve]
      split <;> exact .nothing _
  | putContents path message content b sha =>
      simp only [Host.serve]
      split
      · exact .nothing _
      · rename_i commit hcommit
        split
        · exact .file hcommit
        · exact .nothing _
  | createPull title body head base draft =>
      simp only [Host.serve]
      split
      · exact .nothing _
      · rename_i hfree
        rw [not_or, not_or, not_not] at hfree
        exact .pull hfree.2.2

variable {w' : Repository}

/-- Branches stay. -/
theorem Change.heads (h : Change gh w r w') {branch : String} (hb : w.heads branch ≠ none) :
    w'.heads branch ≠ none := by
  cases h with
  | nothing r => exact hb
  | @branch ref sha b commit href hnone hmem =>
      have hne : branch ≠ b := by
        rintro rfl
        exact hb hnone
      show Function.update w.heads b (some commit) branch ≠ _
      rw [Function.update_of_ne hne]
      exact hb
  | @file path message content b sha commit hcommit =>
      show Function.update w.heads b _ branch ≠ _
      by_cases hne : branch = b
      · rw [hne, Function.update_self]
        exact Option.some_ne_none _
      · rw [Function.update_of_ne hne]
        exact hb
  | pull hfree => exact hb

theorem heads_advance (w : Repository) (branch : String) (commit : Commit) :
    (w.advance branch commit).heads branch = some commit := Function.update_self _ _ _

/-- The file at the head of a branch after a file was written there. -/
theorem fileAt_advance (w : Repository) (branch : String) (commit : Commit)
    (path content path' : String) :
    (w.advance branch (gh.writeFile w commit path content)).fileAt branch path' =
      Function.update commit.files path (some content) path' := by
  show (Function.update w.heads branch _ branch).bind _ = _
  rw [Function.update_self]
  rfl

/-- A file on a branch stays, or somebody writes it. -/
theorem Change.fileAt (h : Change gh w r w') {branch : String} (hb : w.heads branch ≠ none)
    (path : String) :
    w'.fileAt branch path = w.fileAt branch path ∨
      ∃ message content sha, r = .putContents path message content branch sha ∧
        w'.fileAt branch path = some content := by
  cases h with
  | nothing r => exact Or.inl rfl
  | @branch ref sha b commit href hnone hmem =>
      left
      -- a branch that is created did not exist
      have hne : branch ≠ b := by
        rintro rfl
        exact hb hnone
      show (Function.update w.heads b (some commit) branch).bind _ = _
      rw [Function.update_of_ne hne]
      rfl
  | @file p message content b sha commit hcommit =>
      by_cases hne : branch = b
      · subst hne
        by_cases hpath : path = p
        · subst hpath
          refine Or.inr ⟨message, content, sha, rfl, ?_⟩
          rw [fileAt_advance, Function.update_self]
        · left
          rw [fileAt_advance, Function.update_of_ne hpath]
          unfold Repository.fileAt
          rw [hcommit]
          rfl
      · left
        show (Function.update w.heads b _ branch).bind _ = _
        rw [Function.update_of_ne hne]
        rfl
  | pull hfree => exact Or.inl rfl

/-- The pull requests stay, or one is opened where there is none open. -/
theorem Change.pulls (h : Change gh w r w') :
    w'.pulls = w.pulls ∨
      ∃ pull, w'.pulls = w.pulls ++ [pull] ∧ w.openPulls pull.head pull.base = [] := by
  cases h with
  | nothing r => exact Or.inl rfl
  | branch href hnone hmem => exact Or.inl rfl
  | file hcommit => exact Or.inl rfl
  | pull hfree => exact Or.inr ⟨_, rfl, hfree⟩

/-- The base of pull requests stays. -/
theorem Change.based (h : Change gh w r w') {base : String} (hbase : Based base w) :
    Based base w' := by
  obtain ⟨commit, hhead, hsha, hmem⟩ := hbase
  cases h with
  | nothing r => exact ⟨commit, hhead, hsha, hmem⟩
  | @branch ref sha b other href hnone _ =>
      -- the base exists, so it is not the branch that is created
      have hne : base ≠ b := by
        rintro rfl
        rw [hnone] at hhead
        cases hhead
      refine ⟨commit, ?_, hsha, hmem⟩
      show Function.update w.heads b (some other) base = some commit
      rw [Function.update_of_ne hne]
      exact hhead
  | @file path message content b sha other hother =>
      by_cases hne : base = b
      · subst hne
        exact ⟨gh.writeFile w other path content, Function.update_self _ _ _, gh.newSha_ne _,
          List.mem_cons_self⟩
      · refine ⟨commit, ?_, hsha, List.mem_cons_of_mem _ hmem⟩
        show Function.update w.heads b _ base = some commit
        rw [Function.update_of_ne hne]
        exact hhead
  | pull hfree => exact ⟨commit, hhead, hsha, hmem⟩

/-- Open pull requests stay open. -/
theorem Change.openPulls_subset (h : Change gh w r w') (head base : String) :
    w.openPulls head base ⊆ w'.openPulls head base := by
  intro pull hpull
  unfold Repository.openPulls at hpull ⊢
  rcases h.pulls with hsame | ⟨new, hnew, -⟩
  · rw [hsame]
    exact hpull
  · rw [hnew, List.filter_append]
    exact List.mem_append_left _ hpull

/-- One open pull request does not become two. -/
theorem Change.openPulls_length (h : Change gh w r w') {head base : String}
    (hone : (w.openPulls head base).length ≤ 1) :
    (w'.openPulls head base).length ≤ 1 := by
  rcases h.pulls with hsame | ⟨new, hnew, hfree⟩
  · unfold Repository.openPulls at hone ⊢
    rw [hsame]
    exact hone
  · unfold Repository.openPulls at hone ⊢
    rw [hnew, List.filter_append, List.length_append]
    by_cases hmatch : new.head = head ∧ new.base = base
    · obtain ⟨rfl, rfl⟩ := hmatch
      unfold Repository.openPulls at hfree
      rw [hfree, List.length_nil, Nat.zero_add]
      exact List.length_filter_le _ [new]
    · have hnone : [new].filter
          (fun pull => pull.isOpen ∧ pull.head = head ∧ pull.base = base) = [] := by
        rw [List.filter_eq_nil_iff]
        intro pull hpull
        rw [List.mem_singleton.mp hpull, decide_eq_true_eq]
        exact fun hall => hmatch hall.2
      rw [hnone, List.length_nil, Nat.add_zero]
      exact hone

/-! ## What a response shows -/

theorem serve_getRef_none {branch : String} (h : w.heads branch = none) :
    gh.serve owner w (.getRef branch) = (gh.failure 404, w) := by
  simp only [Host.serve, h]

theorem serve_getRef_some {branch : String} {commit : Commit}
    (h : w.heads branch = some commit) : gh.serve owner w (.getRef branch) =
      (found 200 (.obj [("object", .obj [("sha", .str commit.sha)])]), w) := by
  simp only [Host.serve, h]

theorem found_statusCode (statusCode : ℕ) (json : Json.Value) :
    (found statusCode json).statusCode = statusCode := rfl

theorem failure_statusCode (statusCode : ℕ) :
    (gh.failure statusCode).statusCode = statusCode := rfl

theorem branchOfRef_heads (branch : String) :
    branchOfRef ("refs/heads/" ++ branch) = some branch := by
  have hprefix : "refs/heads/".toList.length = 11 := rfl
  unfold branchOfRef
  rw [String.toList_append, ← hprefix, List.take_left, List.drop_left, if_pos rfl,
    String.ofList_toList]

/-- A branch that was created exists, and so does one that could not be created again. -/
theorem serve_createRef (branch sha : String) :
    400 ≤ (gh.serve owner w (.createRef ("refs/heads/" ++ branch) sha)).1.statusCode ∨
      (gh.serve owner w (.createRef ("refs/heads/" ++ branch) sha)).2.heads branch ≠ none := by
  simp only [Host.serve, branchOfRef_heads]
  split
  · rename_i commit _ _
    right
    show Function.update w.heads branch (some commit) branch ≠ none
    rw [Function.update_self]
    exact Option.some_ne_none _
  · left
    show 400 ≤ 422
    omega

/-- A file that was written is at the head of its branch. -/
theorem serve_putContents (path message content branch : String) (sha : Option String) :
    400 ≤ (gh.serve owner w (.putContents path message content branch sha)).1.statusCode ∨
      ∃ commit, (gh.serve owner w (.putContents path message content branch sha)).2 =
        w.advance branch (gh.writeFile w commit path content) := by
  simp only [Host.serve]
  split
  · left
    show 400 ≤ 404
    omega
  · rename_i commit _
    split
    · exact Or.inr ⟨commit, rfl⟩
    · left
      show 400 ≤ (if sha = none then 422 else 409)
      split <;> omega

/-- A pull request that was created is open, and the response describes it. -/
theorem serve_createPull (title body head base : String) (draft : Bool) :
    400 ≤ (gh.serve owner w (.createPull title body head base draft)).1.statusCode ∨
      ∃ pull ∈ (gh.serve owner w (.createPull title body head base draft)).2.openPulls head base,
        ∃ w', (gh.serve owner w (.createPull title body head base draft)).1 =
          found 201 (gh.pullJson w' pull) := by
  simp only [Host.serve]
  split
  · left
    show 400 ≤ 422
    omega
  · right
    refine ⟨gh.newPull w title body head base draft, ?_, _, rfl⟩
    unfold Repository.openPulls
    rw [List.filter_append]
    refine List.mem_append_right _ (List.mem_filter.mpr ⟨List.mem_singleton_self _, ?_⟩)
    exact decide_eq_true ⟨rfl, rfl, rfl⟩

end Serving

/-! ## What calls guarantee to each other -/

/-- The scenes of a repository. -/
abbrev Moment := Scene Repository Request

/-- The text that a call writes to one of its two paths. -/
def textOf (py : PyRuntime) (request : GitOpsPullRequestRequest) (path : String) : String :=
  if path = manifestPath request.proposalId then renderRemediationManifest py request
  else renderNote request

/-- Client `m` is client `n`, or it has sent a request after `n` has sent one. -/
def Overlaps (log : List (ℕ × Request)) (m n : ℕ) : Prop :=
  m = n ∨ ∃ later r earlier r', log = later ++ (n, r) :: earlier ∧ (m, r') ∈ later

theorem Overlaps.append {log : List (ℕ × Request)} {m n : ℕ} (h : Overlaps log m n)
    (later : List (ℕ × Request)) : Overlaps (later ++ log) m n := by
  rcases h with rfl | ⟨l, r, earlier, r', rfl, hmem⟩
  · exact Or.inl rfl
  · refine Or.inr ⟨later ++ l, r, earlier, r', ?_, List.mem_append_right _ hmem⟩
    rw [List.append_assoc]

theorem overlaps_of_later {log later : List (ℕ × Request)} {m n : ℕ} {r r' : Request}
    (hn : (n, r) ∈ log) (hm : (m, r') ∈ later) : Overlaps (later ++ log) m n := by
  obtain ⟨l, earlier, rfl⟩ := List.append_of_mem hn
  refine Or.inr ⟨later ++ l, r, earlier, r', ?_, List.mem_append_left _ hm⟩
  rw [List.append_assoc]

section Calls

variable (py : PyRuntime) (gh : Host) (provider : GitHubPullRequestProvider)
  (requests : ℕ → GitOpsPullRequestRequest) (id : String)

/-- What others may do in the repository: they leave the branch and its pull request alone. -/
structure Elsewhere (w w' : Repository) : Prop where
  head : w'.heads (branchName id) = w.heads (branchName id)
  pulls : w'.openPulls (branchName id) provider.baseBranch =
    w.openPulls (branchName id) provider.baseBranch
  based : Based provider.baseBranch w → Based provider.baseBranch w'

/-- What stays from one moment to a later one. -/
structure Evolves (s s' : Moment) : Prop where
  branch : s.world.heads (branchName id) ≠ none → s'.world.heads (branchName id) ≠ none
  pulls : s.world.openPulls (branchName id) provider.baseBranch ⊆
    s'.world.openPulls (branchName id) provider.baseBranch
  unique : (s.world.openPulls (branchName id) provider.baseBranch).length ≤ 1 →
    (s'.world.openPulls (branchName id) provider.baseBranch).length ≤ 1
  based : Based provider.baseBranch s.world → Based provider.baseBranch s'.world
  /-- the log grows, and a file only changes to the text of a call in the new part -/
  later : ∃ later, s'.log = later ++ s.log ∧ (s.world.heads (branchName id) ≠ none →
    ∀ path, s'.world.fileAt (branchName id) path = s.world.fileAt (branchName id) path ∨
      ∃ m r, (m, r) ∈ later ∧
        s'.world.fileAt (branchName id) path = some (textOf py (requests m) path))

variable {py gh provider requests id}

theorem Evolves.refl (s : Moment) : Evolves py provider requests id s s :=
  ⟨fun h => h, fun _ h => h, fun h => h, fun h => h, [], rfl, fun _ _ => Or.inl rfl⟩

theorem Evolves.trans {s s' s'' : Moment} (h : Evolves py provider requests id s s')
    (h' : Evolves py provider requests id s' s'') : Evolves py provider requests id s s'' := by
  obtain ⟨later, hlog, hfiles⟩ := h.later
  obtain ⟨later', hlog', hfiles'⟩ := h'.later
  refine ⟨fun hb => h'.branch (h.branch hb), fun _ hp => h'.pulls (h.pulls hp),
    fun hone => h'.unique (h.unique hone), fun hbase => h'.based (h.based hbase),
    later' ++ later, by rw [hlog', hlog, List.append_assoc], fun hb path => ?_⟩
  rcases hfiles' (h.branch hb) path with hsame | ⟨m, r, hm, hfile⟩
  · rw [hsame]
    rcases hfiles hb path with hsame' | ⟨m, r, hm, hfile⟩
    · exact Or.inl hsame'
    · exact Or.inr ⟨m, r, List.mem_append_right _ hm, hfile⟩
  · exact Or.inr ⟨m, r, List.mem_append_left _ hm, hfile⟩

theorem evolves_elsewhere {s : Moment} {w : Repository} (h : Elsewhere provider id s.world w) :
    Evolves py provider requests id s { s with world := w } := by
  refine ⟨fun hb => ?_, fun p hp => ?_, fun hone => ?_, h.based, [], rfl, fun _ path => ?_⟩
  · show w.heads _ ≠ none
    rw [h.head]
    exact hb
  · show p ∈ w.openPulls _ _
    rw [h.pulls]
    exact hp
  · show (w.openPulls _ _).length ≤ 1
    rw [h.pulls]
    exact hone
  · left
    show (w.heads _).bind _ = _
    rw [h.head]
    rfl

/-- While a client waits, the repository evolves. -/
theorem evolves_rely {n : ℕ} {s s' : Moment}
    (h : Rely (Elsewhere provider id) (fun _ => Evolves py provider requests id) n s s') :
    Evolves py provider requests id s s' := by
  induction h with
  | refl => exact Evolves.refl _
  | tail _ hstep ih =>
      cases hstep with
      | client _ hG => exact ih.trans hG
      | elsewhere henv => exact ih.trans (evolves_elsewhere henv)

theorem change_of_answers {w w' : Repository} {r : Request} {a : Except ProviderError Response}
    (h : Answers (gh.server provider.owner) w r a w') : Change gh w r w' := by
  cases h with
  | served => exact change_serve
  | lost e => exact change_serve
  | dropped e => exact .nothing _
  | refused answer _ => exact .nothing _

/-- A request that writes nothing to the branch but the client's own text. -/
def Own (py : PyRuntime) (requests : ℕ → GitOpsPullRequestRequest) (id : String) (n : ℕ)
    (r : Request) : Prop :=
  ∀ path message content sha, r = .putContents path message content (branchName id) sha →
    content = textOf py (requests n) path

theorem evolves_answers {n : ℕ} {s : Moment} {w : Repository} {r : Request}
    {a : Except ProviderError Response} (hown : Own py requests id n r)
    (h : Answers (gh.server provider.owner) s.world r a w) :
    Evolves py provider requests id s ⟨w, (n, r) :: s.log⟩ := by
  have hchange := change_of_answers h
  refine ⟨hchange.heads, hchange.openPulls_subset _ _, hchange.openPulls_length,
    hchange.based, [(n, r)], rfl, fun hb path => ?_⟩
  rcases hchange.fileAt hb path with hsame | ⟨message, content, sha, hr, hfile⟩
  · exact Or.inl hsame
  · refine Or.inr ⟨n, r, List.mem_singleton_self _, ?_⟩
    rw [← hown path message content sha hr]
    exact hfile

/-! ## Assertions -/

/-- An assertion that holds on once it holds. -/
def Stable (py : PyRuntime) (provider : GitHubPullRequestProvider)
    (requests : ℕ → GitOpsPullRequestRequest) (id : String) (A : Moment → Prop) : Prop :=
  ∀ s s', Evolves py provider requests id s s' → A s → A s'

theorem Stable.and {A B : Moment → Prop} (hA : Stable py provider requests id A)
    (hB : Stable py provider requests id B) : Stable py provider requests id (fun s => A s ∧ B s) :=
  fun s s' h hs => ⟨hA s s' h hs.1, hB s s' h hs.2⟩

/-- There is at most one open pull request. -/
def Unique (provider : GitHubPullRequestProvider) (id : String) (s : Moment) : Prop :=
  (s.world.openPulls (branchName id) provider.baseBranch).length ≤ 1

/-- The branch of the proposal is there. -/
def Branched (id : String) (s : Moment) : Prop := s.world.heads (branchName id) ≠ none

/-- The value describes an open pull request. -/
def Known (gh : Host) (provider : GitHubPullRequestProvider) (id : String) (value : Json.Value)
    (s : Moment) : Prop :=
  ∃ pull ∈ s.world.openPulls (branchName id) provider.baseBranch, ∃ w, value = gh.pullJson w pull

/-- The file has the text of the client, or of one that has sent a request since. -/
def Wrote (py : PyRuntime) (requests : ℕ → GitOpsPullRequestRequest) (id : String) (n : ℕ)
    (path : String) (s : Moment) : Prop :=
  Branched id s ∧ (∃ r, (n, r) ∈ s.log) ∧ ∃ m, Overlaps s.log m n ∧
    s.world.fileAt (branchName id) path = some (textOf py (requests m) path)

theorem stable_unique : Stable py provider requests id (Unique provider id) := fun _ _ h => h.unique

theorem stable_branched : Stable py provider requests id (Branched id) := fun _ _ h => h.branch

theorem stable_known (value : Json.Value) :
    Stable py provider requests id (Known gh provider id value) := by
  rintro s s' h ⟨pull, hpull, w, hvalue⟩
  exact ⟨pull, h.pulls hpull, w, hvalue⟩

theorem stable_wrote (n : ℕ) (path : String) :
    Stable py provider requests id (Wrote py requests id n path) := by
  rintro s s' h ⟨hb, ⟨r, hr⟩, m, hm, hfile⟩
  obtain ⟨later, hlog, hfiles⟩ := h.later
  refine ⟨h.branch hb, ⟨r, ?_⟩, ?_⟩
  · rw [hlog]
    exact List.mem_append_right _ hr
  · rw [hlog]
    rcases hfiles hb path with hsame | ⟨m', r', hm', hfile'⟩
    · exact ⟨m, hm.append later, hsame.trans hfile⟩
    · exact ⟨m', overlaps_of_later hr hm', hfile'⟩

/-! ## The requests of a call -/

/-- The client keeps to the guarantee, and `P` holds when it returns. -/
def Gives (py : PyRuntime) (gh : Host) (provider : GitHubPullRequestProvider)
    (requests : ℕ → GitOpsPullRequestRequest) (id : String) (n : ℕ) {α : Type}
    (P : α → Moment → Prop) (p : ClientM α) (s : Moment) : Prop :=
  Safe (gh.server provider.owner) n
    (Rely (Elsewhere provider id) (fun _ => Evolves py provider requests id) n)
    (Evolves py provider requests id) (fun result s => ∀ a, result = .ok a → P a s) p s

variable {n : ℕ} {α β : Type} {A : Moment → Prop} {s : Moment}

theorem gives_return {P : α → Moment → Prop} {a : α} (h : P a s) :
    Gives py gh provider requests id n P (pure a) s := by
  intro b hb
  cases hb
  exact h

theorem gives_throw {P : α → Moment → Prop} (e : ProviderError) :
    Gives py gh provider requests id n P (throw e) s := by
  intro b hb
  cases hb

theorem gives_bind {P : α → Moment → Prop} {Q : β → Moment → Prop} {p : ClientM α}
    {f : α → ClientM β} (hp : Gives py gh provider requests id n P p s)
    (hf : ∀ a s, P a s → Gives py gh provider requests id n Q (f a) s) :
    Gives py gh provider requests id n Q (p >>= f) s := by
  refine safe_bind (safe_mono (fun result s h => ?_) hp)
  cases result with
  | ok a => exact hf a s (h a rfl)
  | error e =>
      intro b hb
      cases hb

/-- One request, and what its response shows. -/
theorem gives_call (hA : Stable py provider requests id A) {r : Request}
    (hown : Own py requests id n r) {B : Response → Moment → Prop}
    (hB : ∀ s response w, A s →
      Answers (gh.server provider.owner) s.world r
        (.ok response : Except ProviderError Response) w →
      B response ⟨w, (n, r) :: s.log⟩) (hs : A s) :
    Gives py gh provider requests id n (fun response s => A s ∧ B response s) (Client.call r) s := by
  refine safe_call (A := A) (fun s s' h => hA s s' (evolves_rely h)) (fun s hs a w ha => ?_) hs
  have hevolves := evolves_answers hown ha
  refine ⟨hevolves, fun response hresponse => ⟨hA _ _ hevolves hs, ?_⟩⟩
  rw [hresponse] at ha
  exact hB s response w hs ha

/-- Reading writes nothing. -/
theorem own_of_reads {r : Request} (h : ∀ path message content b sha,
    r ≠ .putContents path message content b sha) : Own py requests id n r :=
  fun path message content sha hr => absurd hr (h path message content _ sha)

/-- The listing that the provider asks for. -/
theorem filter_lists (w : Repository) (owner head base : String) :
    w.pulls.filter (lists owner "open" (s!"{owner}:{head}") base) = w.openPulls head base := by
  unfold Repository.openPulls
  refine List.filter_congr fun pull _ => ?_
  unfold lists
  rw [decide_eq_decide]
  have hhead : s!"{owner}:{head}" = s!"{owner}:{pull.head}" ↔ pull.head = head := by
    constructor
    · intro h
      have htail : head = pull.head := (String.append_right_inj _).mp h
      exact htail.symm
    · rintro rfl
      rfl
  rw [hhead]
  constructor
  · exact fun h => ⟨h.1 rfl, h.2.1, h.2.2.symm⟩
  · exact fun h => ⟨fun _ => h.1, h.2.1, h.2.2.symm⟩

theorem pullJson_obj (w : Repository) (pull : PullRequest) :
    ∃ fields, gh.pullJson w pull = .obj fields := ⟨_, rfl⟩

theorem gives_findOpenPullRequest (hA : Stable py provider requests id A) (hs : A s) :
    Gives py gh provider requests id n
      (fun existing s => A s ∧ ∀ value, existing = some value → Known gh provider id value s)
      (provider.findOpenPullRequest (branchName id)) s := by
  refine gives_bind (gives_call hA (own_of_reads (by simp))
    (B := fun response s => 400 ≤ response.statusCode ∨ ∃ pulls ⊆ s.world.openPulls
      (branchName id) provider.baseBranch, ∃ w,
        response.json = .arr (pulls.map (gh.pullJson w))) ?_ hs) ?_
  · intro s response w hs ha
    cases ha with
    | served =>
        right
        refine ⟨_, fun _ h => h, s.world, ?_⟩
        show Json.Value.arr ((s.world.pulls.filter _).map _) = _
        rw [filter_lists]
        rfl
    | refused _ hrefused => exact Or.inl hrefused
  · rintro response s ⟨hs, hresponse⟩
    by_cases herror : 400 ≤ response.statusCode
    · rw [if_pos herror]
      exact gives_throw _
    · rw [if_neg herror]
      -- the first item of the list is taken
      obtain ⟨pulls, hopen, w, hjson⟩ := hresponse.resolve_left herror
      cases pulls with
      | nil =>
          rw [hjson]
          refine gives_return ⟨hs, fun value hvalue => ?_⟩
          cases hvalue
      | cons pull pulls =>
          obtain ⟨fields, hfields⟩ := @pullJson_obj gh w pull
          rw [hjson, List.map_cons, hfields]
          refine gives_return ⟨hs, fun value hvalue => ?_⟩
          rw [← Option.some.inj hvalue, ← hfields]
          exact ⟨pull, hopen List.mem_cons_self, w, rfl⟩

/-- Reading a field ends at once. -/
theorem gives_getOr (hs : A s) (value : Json.Value) (key : String) (default : Json.Value) :
    Gives py gh provider requests id n (fun _ s => A s) (getOr value key default) s := by
  unfold getOr
  cases value with
  | obj fields => exact gives_return hs
  | _ => exact gives_throw _

theorem gives_defaultBranchSha (hA : Stable py provider requests id A) (hs : A s) :
    Gives py gh provider requests id n (fun _ s => A s) (provider.defaultBranchSha py) s := by
  refine gives_bind (gives_call hA (own_of_reads (by simp)) (B := fun _ _ => True)
    (fun _ _ _ _ _ => trivial) hs) ?_
  rintro response s ⟨hs, -⟩
  by_cases herror : 400 ≤ response.statusCode
  · rw [if_pos herror]
    exact gives_throw _
  · rw [if_neg herror]
    refine gives_bind (gives_getOr hs _ _ _) fun object s hs => ?_
    refine gives_bind (gives_getOr hs _ _ _) fun sha s hs => ?_
    by_cases hsha : jsonTruthy sha = true
    · rw [if_pos hsha]
      exact gives_return hs
    · rw [if_neg hsha]
      exact gives_throw _

/-- The branch exists when the provider goes on. -/
theorem gives_ensureBranch (hA : Stable py provider requests id A) (hs : A s) (sha : String) :
    Gives py gh provider requests id n (fun _ s => A s ∧ Branched id s)
      (GitHubPullRequestProvider.ensureBranch (branchName id) sha) s := by
  refine gives_bind (gives_call hA (own_of_reads (by simp))
    (B := fun response s => response.statusCode = 200 → Branched id s) ?_ hs) ?_
  · intro s response w hs ha hfound
    cases ha with
    | served =>
        intro hnone
        -- served: a branch that is missing is answered with 404
        have hnone' : s.world.heads (branchName id) = none := by
          by_contra hsome
          exact absurd hnone (change_serve.heads hsome)
        have hcode : (gh.serve provider.owner s.world (.getRef (branchName id))).1.statusCode =
            200 := hfound
        rw [serve_getRef_none hnone'] at hcode
        have hmissing : (404 : ℕ) = 200 := hcode
        omega
    | refused _ hrefused =>
        have hcode : 400 ≤ response.statusCode := hrefused
        omega
  · rintro existing s ⟨hs, hexisting⟩
    by_cases hfound : existing.statusCode = 200
    · rw [if_pos hfound]
      exact gives_return ⟨hs, hexisting hfound⟩
    · rw [if_neg hfound]
      refine gives_bind (gives_call hA (own_of_reads (by simp))
        (B := fun response s => ¬ 400 ≤ response.statusCode → Branched id s) ?_ hs) ?_
      · intro s response w hs ha hcreated
        cases ha with
        | served => exact (serve_createRef (branchName id) sha).resolve_left hcreated
        | refused _ hrefused => exact absurd hrefused hcreated
      · rintro response s ⟨hs, hresponse⟩
        by_cases herror : 400 ≤ response.statusCode
        · rw [if_pos herror]
          exact gives_throw _
        · rw [if_neg herror]
          exact gives_return ⟨hs, hresponse herror⟩

theorem gives_currentSha (hs : A s) (current : Response) :
    Gives py gh provider requests id n (fun _ s => A s)
      (GitHubPullRequestProvider.currentSha py current) s := by
  unfold GitHubPullRequestProvider.currentSha
  by_cases hfound : current.statusCode = 200
  · rw [if_pos hfound]
    exact gives_bind (gives_getOr hs _ _ _) fun sha s hs => gives_return hs
  · rw [if_neg hfound]
    exact gives_return hs

/-- The file has been written when the provider goes on. -/
theorem gives_putFile (hA : Stable py provider requests id A) (hs : A s) {path content : String}
    (hcontent : content = textOf py (requests n) path) (message : String) :
    Gives py gh provider requests id n (fun _ s => A s ∧ Wrote py requests id n path s)
      (GitHubPullRequestProvider.putFile py path content (branchName id) message) s := by
  refine gives_bind (gives_call hA (own_of_reads (by simp)) (B := fun _ _ => True)
    (fun _ _ _ _ _ => trivial) hs) ?_
  rintro current s ⟨hs, -⟩
  refine gives_bind (gives_currentSha hs current) fun sha s hs => ?_
  -- the only file that a call writes is its own text
  have hown : Own py requests id n
      (.putContents path message content (branchName id) sha) := by
    intro path' message' content' sha' heq
    cases heq
    exact hcontent
  refine gives_bind (gives_call hA hown
    (B := fun response s => ¬ 400 ≤ response.statusCode → Wrote py requests id n path s)
    ?_ hs) ?_
  · intro s response w hs ha hwritten
    cases ha with
    | served =>
        obtain ⟨commit, hadvance⟩ := (serve_putContents path message content (branchName id)
          sha).resolve_left hwritten
        refine ⟨?_, ⟨_, List.mem_cons_self⟩, n, Or.inl rfl, ?_⟩
        · show ((gh.server provider.owner).serve s.world _).2.heads _ ≠ none
          rw [show ((gh.server provider.owner).serve s.world _).2 = _ from hadvance,
            heads_advance]
          exact Option.some_ne_none _
        · show ((gh.server provider.owner).serve s.world _).2.fileAt _ _ = _
          rw [show ((gh.server provider.owner).serve s.world _).2 = _ from hadvance,
            fileAt_advance, Function.update_self, hcontent]
    | refused _ hrefused => exact absurd hrefused hwritten
  · rintro response s ⟨hs, hresponse⟩
    by_cases herror : 400 ≤ response.statusCode
    · rw [if_pos herror]
      exact gives_throw _
    · rw [if_neg herror]
      exact gives_return ⟨hs, hresponse herror⟩

/-- The pull request that was opened or found again is open. -/
theorem gives_createPullRequest (hA : Stable py provider requests id A) (hs : A s)
    (title body : String) :
    Gives py gh provider requests id n (fun pull s => A s ∧ Known gh provider id pull s)
      (provider.createPullRequest title body (branchName id)) s := by
  have hopened : ∀ (response : Response) (s : Moment), A s →
      (400 ≤ response.statusCode ∨ Known gh provider id response.json s) →
      Gives py gh provider requests id n (fun pull s => A s ∧ Known gh provider id pull s)
        (GitHubPullRequestProvider.openedPullRequest response) s := by
    intro response s hs hresponse
    unfold GitHubPullRequestProvider.openedPullRequest
    by_cases herror : 400 ≤ response.statusCode
    · rw [if_pos herror]
      exact gives_throw _
    · rw [if_neg herror]
      have hknown := hresponse.resolve_left herror
      have hdescribes := hknown
      obtain ⟨pull, -, w, hjson⟩ := hdescribes
      obtain ⟨fields, hfields⟩ := @pullJson_obj gh w pull
      rw [hjson, hfields] at hknown ⊢
      exact gives_return ⟨hs, hknown⟩
  refine gives_bind (gives_call hA (own_of_reads (by simp))
    (B := fun response s => 400 ≤ response.statusCode ∨ Known gh provider id response.json s)
    ?_ hs) ?_
  · intro s response w hs ha
    cases ha with
    | served =>
        rcases @serve_createPull gh provider.owner s.world title body (branchName id)
          provider.baseBranch provider.draft with herror | ⟨pull, hopen, w, hresponse⟩
        · exact Or.inl herror
        · refine Or.inr ⟨pull, hopen, w, ?_⟩
          show ((gh.serve provider.owner s.world _).1).json = _
          rw [hresponse]
          rfl
    | refused _ hrefused => exact Or.inl hrefused
  · rintro response s ⟨hs, hresponse⟩
    -- a duplicate is looked up again
    by_cases hagain : response.statusCode = 422
    · rw [if_pos hagain]
      refine gives_bind (gives_findOpenPullRequest hA hs) ?_
      rintro existing s ⟨hs, hexisting⟩
      cases existing with
      | some value => exact gives_return ⟨hs, hexisting value rfl⟩
      | none => exact hopened response s hs (Or.inl (by omega))
    · rw [if_neg hagain]
      exact hopened response s hs hresponse

/-- The result for a pull request names it. -/
theorem resultOf_pullJson (w : Repository) (pull : PullRequest) (created : Bool)
    (detail missing : String) : ∃ headSha,
    provider.resultOf py (gh.pullJson w pull) created detail missing = pure {
      prUrl := some (gh.htmlUrl pull.number), provider := "github", draft := pull.draft
      created := created, detail := detail, headSha := headSha } := by
  have hurl := gh.htmlUrl_ne pull.number
  have hhtml : getOr (gh.pullJson w pull) "html_url" (.str "") =
      pure (.str (gh.htmlUrl pull.number)) := by
    simp [getOr, Host.pullJson, List.lookup_cons, jsonTruthy, hurl]
  have hhead : getOr (gh.pullJson w pull) "head" (.obj []) =
      pure (.obj [("ref", .str pull.head), ("sha", w.headSha pull.head)]) := by
    simp [getOr, Host.pullJson, List.lookup_cons, jsonTruthy]
  have hsha : getOr (.obj [("ref", .str pull.head), ("sha", w.headSha pull.head)]) "sha"
      (.str "") = pure (if jsonTruthy (w.headSha pull.head) then w.headSha pull.head
        else .str "") := by
    simp [getOr, List.lookup_cons]
  refine ⟨py.strJson (if jsonTruthy (w.headSha pull.head) then w.headSha pull.head
    else .str ""), ?_⟩
  unfold GitHubPullRequestProvider.resultOf
  rw [hhtml, hhead]
  simp only [Client.pure_eq, Client.bind_ok]
  rw [hsha, if_neg (show ¬ py.strJson (.str (gh.htmlUrl pull.number)) = "" from hurl)]
  rfl

/-! ## The whole call -/

/-- The result names the one open pull request, and both files are there, each with the text of
this call or of one that overlaps with it. -/
def Delivered (py : PyRuntime) (gh : Host) (provider : GitHubPullRequestProvider)
    (requests : ℕ → GitOpsPullRequestRequest) (id : String) (n : ℕ)
    (result : GitOpsPullRequestResult) (s : Moment) : Prop :=
  (∃ pull, s.world.openPulls (branchName id) provider.baseBranch = [pull] ∧
    result.prUrl = some (gh.htmlUrl pull.number)) ∧
  ∀ path ∈ [manifestPath id, notePath id], ∃ m, Overlaps s.log m n ∧
    s.world.fileAt (branchName id) path = some (textOf py (requests m) path)

theorem gives_resultOf {value : Json.Value} (hunique : Unique provider id s)
    (hmanifest : Wrote py requests id n (manifestPath id) s)
    (hnote : Wrote py requests id n (notePath id) s) (hknown : Known gh provider id value s)
    (created : Bool) (detail missing : String) :
    Gives py gh provider requests id n (Delivered py gh provider requests id n)
      (provider.resultOf py value created detail missing) s := by
  obtain ⟨pull, hopen, w, rfl⟩ := hknown
  obtain ⟨headSha, hresult⟩ := @resultOf_pullJson py gh provider w pull created detail
    missing
  rw [hresult]
  refine gives_return ⟨⟨pull, ?_, rfl⟩, fun path hpath => ?_⟩
  · obtain ⟨only, honly⟩ := List.length_eq_one_iff.mp
      (Nat.le_antisymm hunique (List.length_pos_of_mem hopen))
    rw [honly] at hopen ⊢
    rw [List.mem_singleton.mp hopen]
  · rcases List.mem_pair.mp hpath with rfl | rfl
    · exact hmanifest.2.2
    · exact hnote.2.2

theorem manifestPath_ne_notePath (id : String) : notePath id ≠ manifestPath id := by
  intro h
  have hname : "/README.md" = "/values.patch.yaml" := (String.append_right_inj _).mp h
  exact absurd hname (by decide)

/-- **A call delivers.** -/
theorem gives_createDraftPullRequest (hid : (requests n).proposalId = id)
    (hs : Unique provider id s) :
    Gives py gh provider requests id n (Delivered py gh provider requests id n)
      (provider.createDraftPullRequest py (requests n)) s := by
  have hmanifest : renderRemediationManifest py (requests n) =
      textOf py (requests n) (manifestPath id) := by
    unfold textOf
    rw [hid, if_pos rfl]
  have hnote : renderNote (requests n) = textOf py (requests n) (notePath id) := by
    unfold textOf
    rw [hid, if_neg (manifestPath_ne_notePath id)]
  have hbody : Gives py gh provider requests id n (Delivered py gh provider requests id n)
      (provider.requestPullRequest py (requests n)) s := by
    unfold GitHubPullRequestProvider.requestPullRequest
    rw [hid]
    refine gives_bind (gives_findOpenPullRequest stable_unique hs) ?_
    intro existing s hs
    -- what was found stays true through the rest of the call
    have hfound : Stable py provider requests id (fun s =>
        Unique provider id s ∧ ∀ value, existing = some value → Known gh provider id value s) :=
      stable_unique.and fun s s' h hs value hvalue => stable_known value s s' h (hs value hvalue)
    refine gives_bind (gives_defaultBranchSha hfound hs) fun sha s hs => ?_
    refine gives_bind (gives_ensureBranch hfound hs sha) fun _ s hs => ?_
    refine gives_bind (gives_putFile (hfound.and stable_branched) hs hmanifest _)
      fun _ s hs => ?_
    refine gives_bind (gives_putFile ((hfound.and stable_branched).and (stable_wrote n _)) hs
      hnote _) fun _ s hs => ?_
    obtain ⟨⟨⟨⟨hunique, hexisting⟩, hbranched⟩, hwrote⟩, hwrote'⟩ := hs
    cases existing with
    | some value => exact gives_resultOf hunique hwrote hwrote' (hexisting value rfl) _ _ _
    | none =>
        refine gives_bind (gives_createPullRequest
          (stable_unique.and ((stable_wrote n _).and (stable_wrote n _)))
          ⟨hunique, hwrote, hwrote'⟩ _ _) ?_
        rintro pull s ⟨⟨hunique, hwrote, hwrote'⟩, hknown⟩
        exact gives_resultOf hunique hwrote hwrote' hknown _ _ _
  refine safe_handle (safe_mono (fun result s h => ?_) hbody)
  cases result with
  | ok a => exact h
  | error e => exact gives_throw _

/-! ## A call alone -/

variable {w : Repository}

theorem run_bind_call {r : Request} {response : Response} {w' : Repository}
    (h : gh.serve provider.owner w r = (response, w')) (f : Response → ClientM α) :
    ((Client.call r : ClientM Response) >>= f).run (gh.server provider.owner) w =
      (f response).run (gh.server provider.owner) w' := by
  have hcall : (Client.call r : ClientM Response).run (gh.server provider.owner) w =
      (.ok response, w') := by
    show ((Except.ok (gh.serve provider.owner w r).1, (gh.serve provider.owner w r).2) :
      Except ProviderError Response × Repository) = _
    rw [h]
  exact run_bind_ok hcall

theorem run_findOpenPullRequest (head : String) :
    (provider.findOpenPullRequest head).run (gh.server provider.owner) w =
      (.ok ((w.openPulls head provider.baseBranch).head?.map (gh.pullJson w)), w) := by
  have hserve : gh.serve provider.owner w
      (.listPulls "open" s!"{provider.owner}:{head}" provider.baseBranch) =
      (found 200 (.arr ((w.openPulls head provider.baseBranch).map (gh.pullJson w))), w) := by
    simp only [Host.serve, filter_lists]
  unfold GitHubPullRequestProvider.findOpenPullRequest
  rw [run_bind_call hserve, found_statusCode,
    if_neg (show ¬ 400 ≤ _ by omega)]
  cases w.openPulls head provider.baseBranch with
  | nil => rfl
  | cons pull pulls => rfl

theorem run_defaultBranchSha (hbase : Based provider.baseBranch w) : ∃ commit ∈ w.commits,
    (provider.defaultBranchSha py).run (gh.server provider.owner) w = (.ok commit.sha, w) := by
  obtain ⟨commit, hhead, hsha, hmem⟩ := hbase
  have hobject : getOr (.obj [("object", .obj [("sha", .str commit.sha)])]) "object" (.obj []) =
      pure (.obj [("sha", .str commit.sha)]) := rfl
  have hfield : getOr (.obj [("sha", .str commit.sha)]) "sha" (.str "") =
      pure (.str commit.sha) := by
    simp [getOr, jsonTruthy, hsha]
  refine ⟨commit, hmem, ?_⟩
  unfold GitHubPullRequestProvider.defaultBranchSha
  rw [run_bind_call (serve_getRef_some hhead), found_statusCode,
    if_neg (show ¬ 400 ≤ _ by omega)]
  show ((getOr (.obj [("object", .obj [("sha", .str commit.sha)])]) "object" (.obj []) >>= _ :
    ClientM String)).run _ w = _
  rw [hobject, Client.pure_eq, Client.bind_ok, hfield, Client.pure_eq, Client.bind_ok,
    if_pos (by simp [jsonTruthy, hsha])]
  rfl

/-- What a call needs of the repository to go on. -/
structure Fit (provider : GitHubPullRequestProvider) (id : String) (w : Repository) : Prop where
  based : Based provider.baseBranch w
  branch : w.heads (branchName id) ≠ none

theorem run_ensureBranch (hbase : Based provider.baseBranch w) {commit : Commit}
    (hcommit : commit ∈ w.commits) : ∃ w', Fit provider id w' ∧ w'.pulls = w.pulls ∧
      (GitHubPullRequestProvider.ensureBranch (branchName id) commit.sha).run
        (gh.server provider.owner) w = (.ok (), w') := by
  unfold GitHubPullRequestProvider.ensureBranch
  by_cases hnone : w.heads (branchName id) = none
  · -- the commit of the base is known, so the branch can be created at it
    obtain ⟨known, hknown⟩ : ∃ known, w.commits.find? (fun c => c.sha = commit.sha) =
        some known := Option.isSome_iff_exists.mp
      (List.find?_isSome.mpr ⟨commit, hcommit, decide_eq_true rfl⟩)
    have hcreated : gh.serve provider.owner w
        (.createRef ("refs/heads/" ++ branchName id) commit.sha) =
        (found 201 (.obj [("ref", .str ("refs/heads/" ++ branchName id))]),
          { w with heads := Function.update w.heads (branchName id) (some known) }) := by
      simp only [Host.serve, branchOfRef_heads, hnone, hknown]
    have hbased := (@change_serve gh provider.owner w
      (.createRef ("refs/heads/" ++ branchName id) commit.sha)).based hbase
    rw [hcreated] at hbased
    rw [run_bind_call (serve_getRef_none hnone),
      failure_statusCode, if_neg (show ¬ 404 = 200 by omega),
      run_bind_call hcreated, found_statusCode,
    if_neg (show ¬ 400 ≤ _ by omega)]
    refine ⟨_, ⟨hbased, ?_⟩, rfl, rfl⟩
    show Function.update w.heads (branchName id) (some known) (branchName id) ≠ none
    rw [Function.update_self]
    exact Option.some_ne_none _
  · obtain ⟨head, hhead⟩ := Option.ne_none_iff_exists'.mp hnone
    rw [run_bind_call (serve_getRef_some hhead), found_statusCode, if_pos rfl]
    exact ⟨w, ⟨hbase, hnone⟩, rfl, rfl⟩

/-- The provider sends the sha of the blob that it is about to replace. -/
theorem currentSha_getContents {commit : Commit} {branch : String}
    (hcommit : w.heads branch = some commit) (path : String) : ∃ response,
    gh.serve provider.owner w (.getContents path branch) = (response, w) ∧
      GitHubPullRequestProvider.currentSha py response =
        pure ((commit.files path).map gh.blobSha) := by
  have hfile : w.fileAt branch path = commit.files path := by
    unfold Repository.fileAt
    rw [hcommit]
    rfl
  simp only [Host.serve, hfile]
  cases commit.files path with
  | none => exact ⟨_, rfl, rfl⟩
  | some text =>
      refine ⟨_, rfl, ?_⟩
      have hblob : getOr (.obj [("sha", .str (gh.blobSha text))]) "sha" .null =
          pure (.str (gh.blobSha text)) := by
        simp [getOr, jsonTruthy, gh.blobSha_ne]
      show (getOr (.obj [("sha", .str (gh.blobSha text))]) "sha" .null >>= _ :
        ClientM (Option String)) = _
      rw [hblob, Client.pure_eq, Client.bind_ok, if_pos (by simp [jsonTruthy, gh.blobSha_ne])]
      rfl

theorem run_putFile (hfit : Fit provider id w) (path content message : String) :
    ∃ w', Fit provider id w' ∧ w'.pulls = w.pulls ∧
      (GitHubPullRequestProvider.putFile py path content (branchName id) message).run
        (gh.server provider.owner) w = (.ok (), w') := by
  obtain ⟨commit, hcommit⟩ := Option.ne_none_iff_exists'.mp hfit.branch
  obtain ⟨response, hread, hsha⟩ := @currentSha_getContents py gh provider w commit
    (branchName id) hcommit path
  have hwritten : gh.serve provider.owner w
      (.putContents path message content (branchName id) ((commit.files path).map gh.blobSha)) =
      (found 200 (.obj [("content", .obj [("path", .str path)])]),
        w.advance (branchName id) (gh.writeFile w commit path content)) := by
    simp only [Host.serve, hcommit, if_true]
  have hbased := (@change_serve gh provider.owner w (.putContents path message content
    (branchName id) ((commit.files path).map gh.blobSha))).based hfit.based
  rw [hwritten] at hbased
  unfold GitHubPullRequestProvider.putFile
  rw [run_bind_call hread, hsha, Client.pure_eq, Client.bind_ok, run_bind_call hwritten,
    found_statusCode,
    if_neg (show ¬ 400 ≤ _ by omega)]
  refine ⟨_, ⟨hbased, ?_⟩, rfl, rfl⟩
  rw [heads_advance]
  exact Option.some_ne_none _

theorem run_createPullRequest (hfit : Fit provider id w)
    (hfree : w.openPulls (branchName id) provider.baseBranch = []) (title body : String) :
    ∃ pull w' w'', (provider.createPullRequest title body (branchName id)).run
      (gh.server provider.owner) w = (.ok (gh.pullJson w'' pull), w') := by
  obtain ⟨commit, hbase, -⟩ := hfit.based
  -- both branches are there and no pull request is open
  have hok : ¬ (w.heads (branchName id) = none ∨ w.heads provider.baseBranch = none ∨
      w.openPulls (branchName id) provider.baseBranch ≠ []) := by
    rw [not_or, not_or, not_not]
    refine ⟨hfit.branch, ?_, hfree⟩
    rw [hbase]
    exact Option.some_ne_none _
  obtain ⟨w', hserve⟩ : ∃ w', gh.serve provider.owner w
      (.createPull title body (branchName id) provider.baseBranch provider.draft) =
      (found 201 (gh.pullJson w' (gh.newPull w title body (branchName id) provider.baseBranch
        provider.draft)), w') := by
    simp only [Host.serve, hok, if_false]
    exact ⟨_, rfl⟩
  refine ⟨gh.newPull w title body (branchName id) provider.baseBranch provider.draft, w', w', ?_⟩
  unfold GitHubPullRequestProvider.createPullRequest
  rw [run_bind_call hserve, found_statusCode, if_neg (show ¬ 201 = 422 by omega)]
  rfl

theorem run_resultOf (w' : Repository) (pull : PullRequest) (created : Bool)
    (detail missing : String) : ∃ result,
    (provider.resultOf py (gh.pullJson w pull) created detail missing).run
      (gh.server provider.owner) w' = (.ok result, w') := by
  obtain ⟨headSha, hresult⟩ := @resultOf_pullJson py gh provider w pull created detail
    missing
  rw [hresult]
  exact ⟨_, rfl⟩

/-- **A call that runs alone returns.** -/
theorem run_createDraftPullRequest (request : GitOpsPullRequestRequest)
    (hbase : Based provider.baseBranch w) : ∃ result w',
    (provider.createDraftPullRequest py request).run (gh.server provider.owner) w =
      (.ok result, w') := by
  have hbody : ∃ result w', (provider.requestPullRequest py request).run
      (gh.server provider.owner) w = (.ok result, w') := by
    obtain ⟨commit, hcommit, hsha⟩ := @run_defaultBranchSha py gh provider w hbase
    obtain ⟨w₁, hfit₁, hpulls₁, hrun₁⟩ := @run_ensureBranch gh provider
      request.proposalId w hbase commit hcommit
    obtain ⟨w₂, hfit₂, hpulls₂, hrun₂⟩ := @run_putFile py gh provider _ w₁ hfit₁
      (manifestPath request.proposalId) (renderRemediationManifest py request)
      s!"fix: remediation manifest for {request.proposalId}"
    obtain ⟨w₃, hfit₃, hpulls₃, hrun₃⟩ := @run_putFile py gh provider _ w₂ hfit₂
      (notePath request.proposalId) (renderNote request)
      s!"docs: remediation note for {request.proposalId}"
    unfold GitHubPullRequestProvider.requestPullRequest
    rw [run_bind_ok (run_findOpenPullRequest _), run_bind_ok hsha, run_bind_ok hrun₁,
      run_bind_ok hrun₂, run_bind_ok hrun₃]
    cases hopen : w.openPulls (branchName request.proposalId) provider.baseBranch with
    | cons pull pulls =>
        obtain ⟨result, hresult⟩ := @run_resultOf py gh provider w w₃ pull false
          "reused existing open pull request" "existing pull request missing html_url"
        exact ⟨result, w₃, hresult⟩
    | nil =>
        -- branch and files open no pull request
        have hfree : w₃.openPulls (branchName request.proposalId) provider.baseBranch = [] := by
          unfold Repository.openPulls at hopen ⊢
          rw [hpulls₃, hpulls₂, hpulls₁]
          exact hopen
        obtain ⟨pull, w₄, w', hrun₄⟩ := @run_createPullRequest gh provider _ w₃ hfit₃ hfree
          request.title request.body
        obtain ⟨result, hresult⟩ := @run_resultOf py gh provider w' w₄ pull true
          "draft pull request created" "GitHub pull request missing html_url"
        exact ⟨result, w₄, (run_bind_ok hrun₄).trans hresult⟩
  obtain ⟨result, w', hrun⟩ := hbody
  exact ⟨result, w', run_handle_ok hrun⟩

end Calls

/-! ## Any number of calls -/

/-- Calls that have not begun, in a repository. -/
def begin (py : PyRuntime) (provider : GitHubPullRequestProvider)
    (requests : ℕ → GitOpsPullRequestRequest) (start : Repository) :
    Net Repository Request Response ProviderError GitOpsPullRequestResult where
  world := start
  log := []
  clients n := provider.createDraftPullRequest py (requests n)

/-- **One pull request for a proposal.**  In every state that any number of calls reach, with
answers lost, requests refused and calls cut off anywhere, there is at most one open pull
request; whenever a call returns, its result names that pull request and both files are on the
branch with the text of this call or of one that overlaps with it; and the run of a call that has
not begun, alone and with every request served, returns such a result. -/
theorem one_pull_request (py : PyRuntime) (gh : Host) (provider : GitHubPullRequestProvider)
    {id : String} {requests : ℕ → GitOpsPullRequestRequest}
    (hid : ∀ n, (requests n).proposalId = id) {start : Repository}
    (hunique : (start.openPulls (branchName id) provider.baseBranch).length ≤ 1)
    (hbased : Based provider.baseBranch start)
    {σ : Net Repository Request Response ProviderError GitOpsPullRequestResult}
    (hreach : Reaches (gh.server provider.owner) (Elsewhere provider id)
      (begin py provider requests start) σ) :
    (σ.world.openPulls (branchName id) provider.baseBranch).length ≤ 1 ∧
    (∀ n σ' result, StepBy (gh.server provider.owner) n σ σ' →
      σ'.clients n = .done (.ok result) →
      Delivered py gh provider requests id n result σ'.toScene) ∧
    ∀ n, σ.clients n = provider.createDraftPullRequest py (requests n) → ∃ result w,
      (provider.createDraftPullRequest py (requests n)).run (gh.server provider.owner) σ.world
        = (.ok result, w) ∧
      Delivered py gh provider requests id n result ⟨w, ((provider.createDraftPullRequest py
        (requests n)).sent (gh.server provider.owner) σ.world).map (n, ·) ++ σ.log⟩ := by
  have hsafe : ∀ n, Gives py gh provider requests id n (Delivered py gh provider requests id n)
      ((begin py provider requests start).clients n)
      (begin py provider requests start).toScene :=
    fun n => gives_createDraftPullRequest (hid n) hunique
  have hends : ∀ τ, Reaches (gh.server provider.owner) (Elsewhere provider id)
      (begin py provider requests start) τ → ∀ n τ' result,
      StepBy (gh.server provider.owner) n τ τ' → τ'.clients n = .done (.ok result) →
      Delivered py gh provider requests id n result τ'.toScene :=
    fun τ hτ n τ' result hstep hdone => hτ.ends hsafe hstep hdone result rfl
  have hkeeps : Unique provider id σ.toScene ∧ Based provider.baseBranch σ.world := by
    refine hreach.keeps (I := fun s => Unique provider id s ∧ Based provider.baseBranch s.world)
      hsafe ?_ ?_ ⟨hunique, hbased⟩
    · exact fun _ s s' h hs => ⟨h.unique hs.1, h.based hs.2⟩
    · intro s w h hs
      have hevolves := @evolves_elsewhere py provider requests id s w h
      exact ⟨hevolves.unique hs.1, hevolves.based hs.2⟩
  refine ⟨hkeeps.1, hends σ hreach, fun n hn => ?_⟩
  obtain ⟨result, w, hrun⟩ := @run_createDraftPullRequest py gh provider σ.world (requests n)
    hkeeps.2
  obtain ⟨σ', hsteps, hdone, hscene⟩ := @reaches_run _ _ _ _ _ (gh.server provider.owner) n _ σ hn
  rw [hrun] at hdone hscene
  refine ⟨result, w, hrun, ?_⟩
  rw [← hscene]
  -- the last request of the call is what delivers
  rcases Relation.ReflTransGen.cases_tail hsteps with heq | ⟨τ, hτ, hlast⟩
  · subst heq
    rw [hn] at hdone
    cases hdone
  · exact hends τ (hreach.trans (reaches_of_steps hτ)) n σ' result hlast hdone

/-- A host that counts. -/
def countingHost : Host where
  newSha commits := String.ofList ('c' :: Nat.toDigits 10 commits.length)
  blobSha content := String.ofList ('b' :: content.toList)
  newNumber pulls := pulls.length + 1
  htmlUrl number := String.ofList ("https://github.com/acme/platform/pull/".toList ++
    Nat.toDigits 10 number)
  errorText _ := "Not Found"
  newSha_ne commits h := by
    have hlist := congrArg String.toList h
    rw [String.toList_ofList] at hlist
    cases hlist
  blobSha_ne content h := by
    have hlist := congrArg String.toList h
    rw [String.toList_ofList] at hlist
    cases hlist
  htmlUrl_ne number h := by
    have hlist := congrArg String.toList h
    rw [String.toList_ofList] at hlist
    exact absurd (List.append_eq_nil_iff.mp hlist).1 (by decide)

/-- A repository with one commit on its main branch. -/
def freshRepository : Repository where
  heads branch := if branch = "main" then some ⟨"c0", fun _ => none⟩ else none
  commits := [⟨"c0", fun _ => none⟩]
  pulls := []

/-- A request for the proposal `p`. -/
def pullModelRequest : GitOpsPullRequestRequest where
  proposalId := "p"
  title := "fix: drift"
  body := "body"
  tenantId := "platform"
  remediationKind := "pull_model"
  selectedAction := { kind := .pullModel, title := "Pull", description := "" }

/-- The first call. -/
def firstCall : Client Request Response ProviderError GitOpsPullRequestResult :=
  (⟨"acme", "main", true⟩ : GitHubPullRequestProvider).createDraftPullRequest .ascii
    pullModelRequest

/-- The first call, alone in a fresh repository, opens the pull request and returns it. -/
theorem one_pull_request_fresh : ∃ result w,
    firstCall.run (countingHost.server "acme") freshRepository = (.ok result, w) ∧
    Delivered .ascii countingHost ⟨"acme", "main", true⟩ (fun _ => pullModelRequest) "p" 0
      result ⟨w, (firstCall.sent (countingHost.server "acme") freshRepository).map (0, ·)⟩ := by
  have hunique : (freshRepository.openPulls (branchName "p") "main").length ≤ 1 := by decide
  have hbased : Based "main" freshRepository := ⟨_, rfl, by decide, List.mem_cons_self⟩
  obtain ⟨result, w, hrun, hdelivered⟩ := (one_pull_request .ascii countingHost
    ⟨"acme", "main", true⟩ (fun _ => rfl) hunique hbased .refl).2.2 0 rfl
  refine ⟨result, w, hrun, ?_⟩
  have hlog := List.append_nil
    ((firstCall.sent (countingHost.server "acme") freshRepository).map (Prod.mk 0))
  exact hlog ▸ hdelivered

end ControlPlane.GitOps
