/-
# The pull requests of a repository at GitHub

The part of GitHub's API that the GitOps provider calls: the branches of one repository with
the files at their heads, and its pull requests.  The base64 text in which a file travels is
read as the text it encodes, and a commit's message is not kept.

There is at most one open pull request for a head and a base, a second one is refused, as is
a second branch of one name, and a file is only replaced by who names the blob it has.
-/
import ControlPlane.Json
import ControlPlane.RemoteCalls

namespace ControlPlane.GitHub

/-! ## Repositories -/

/-- A commit, with the texts of the files it has. -/
structure Commit where
  sha : String
  files : String → Option String

/-- A pull request. -/
structure PullRequest where
  number : ℕ
  title : String
  body : String
  head : String
  base : String
  draft : Bool
  isOpen : Bool

/-- A repository: its branches, its commits and its pull requests. -/
structure Repository where
  /-- the commit that a branch points to -/
  heads : String → Option Commit
  commits : List Commit
  pulls : List PullRequest

/-- The names that GitHub gives to what it stores, and the texts of its error responses. -/
structure Host where
  newSha : List Commit → String
  blobSha : String → String
  newNumber : List PullRequest → ℕ
  htmlUrl : ℕ → String
  errorText : ℕ → String
  newSha_ne : ∀ commits, newSha commits ≠ ""
  blobSha_ne : ∀ content, blobSha content ≠ ""
  htmlUrl_ne : ∀ number, htmlUrl number ≠ ""

/-! ## Requests and responses -/

/-- A request to the API. -/
inductive Request where
  /-- `GET /pulls` -/
  | listPulls (state head base : String)
  /-- `GET /git/ref/heads/…` -/
  | getRef (branch : String)
  /-- `POST /git/refs` -/
  | createRef (ref sha : String)
  /-- `GET /contents/…` -/
  | getContents (path ref : String)
  /-- `PUT /contents/…` -/
  | putContents (path message content branch : String) (sha : Option String)
  /-- `POST /pulls` -/
  | createPull (title body head base : String) (draft : Bool)

/-- What is read of a response. -/
structure Response where
  statusCode : ℕ
  text : String
  json : Json.Value

variable (gh : Host)

/-- A response with a body. -/
def found (statusCode : ℕ) (json : Json.Value) : Response := ⟨statusCode, "", json⟩

/-- A response without one that is read. -/
def Host.failure (statusCode : ℕ) : Response := ⟨statusCode, gh.errorText statusCode, .null⟩

/-- The name of a branch in a ref. -/
def branchOfRef (ref : String) : Option String :=
  if ref.toList.take 11 = "refs/heads/".toList then some (String.ofList (ref.toList.drop 11))
  else none

/-- The pull requests that a listing asks for; a head is named with the owner in front. -/
def lists (owner state head base : String) (pull : PullRequest) : Bool :=
  (state = "open" → pull.isOpen) ∧ head = s!"{owner}:{pull.head}" ∧ base = pull.base

/-- The sha of the commit that a branch points to. -/
def Repository.headSha (w : Repository) (branch : String) : Json.Value :=
  ((w.heads branch).map fun commit => .str commit.sha).getD .null

/-- A pull request as the API shows it. -/
def Host.pullJson (w : Repository) (pull : PullRequest) : Json.Value :=
  .obj [("number", .int pull.number), ("html_url", .str (gh.htmlUrl pull.number)),
    ("title", .str pull.title), ("draft", .bool pull.draft),
    ("head", .obj [("ref", .str pull.head), ("sha", w.headSha pull.head)])]

/-- The file with the given path on a branch. -/
def Repository.fileAt (w : Repository) (branch path : String) : Option String :=
  (w.heads branch).bind fun commit => commit.files path

/-- The open pull requests from one branch to another. -/
def Repository.openPulls (w : Repository) (head base : String) : List PullRequest :=
  w.pulls.filter fun pull => pull.isOpen ∧ pull.head = head ∧ pull.base = base

/-- The branch points to another commit from now on. -/
def Repository.advance (w : Repository) (branch : String) (commit : Commit) : Repository :=
  { w with
    heads := Function.update w.heads branch (some commit)
    commits := commit :: w.commits }

/-- The commit that a file is written with. -/
def Host.writeFile (w : Repository) (commit : Commit) (path content : String) : Commit where
  sha := gh.newSha w.commits
  files := Function.update commit.files path (some content)

/-- The pull request that is opened next. -/
def Host.newPull (w : Repository) (title body head base : String) (draft : Bool) :
    PullRequest where
  number := gh.newNumber w.pulls
  title := title
  body := body
  head := head
  base := base
  draft := draft
  isOpen := true

/-- What GitHub does with a request to a repository of the owner. -/
def Host.serve (owner : String) (w : Repository) : Request → Response × Repository
  | .listPulls state head base =>
    (found 200 (.arr ((w.pulls.filter (lists owner state head base)).map (gh.pullJson w))), w)
  | .getRef branch =>
    match w.heads branch with
    | some commit => (found 200 (.obj [("object", .obj [("sha", .str commit.sha)])]), w)
    | none => (gh.failure 404, w)
  | .createRef ref sha =>
    match branchOfRef ref with
    | none => (gh.failure 422, w)
    | some branch =>
      match w.heads branch, w.commits.find? (fun commit => commit.sha = sha) with
      | none, some commit =>
        (found 201 (.obj [("ref", .str ref)]),
          { w with heads := Function.update w.heads branch (some commit) })
      | _, _ => (gh.failure 422, w)
  | .getContents path ref =>
    match w.fileAt ref path with
    | some content => (found 200 (.obj [("sha", .str (gh.blobSha content))]), w)
    | none => (gh.failure 404, w)
  | .putContents path _ content branch sha =>
    match w.heads branch with
    | none => (gh.failure 404, w)
    | some commit =>
      if (commit.files path).map gh.blobSha = sha then
        (found 200 (.obj [("content", .obj [("path", .str path)])]),
          w.advance branch (gh.writeFile w commit path content))
      else (gh.failure (if sha = none then 422 else 409), w)
  | .createPull title body head base draft =>
    if w.heads head = none ∨ w.heads base = none ∨ w.openPulls head base ≠ [] then
      (gh.failure 422, w)
    else
      let w' := { w with pulls := w.pulls ++ [gh.newPull w title body head base draft] }
      (found 201 (gh.pullJson w' (gh.newPull w title body head base draft)), w')

/-- GitHub as a server; a refusal has the status of an error. -/
def Host.server (owner : String) : RemoteCalls.Server Repository Request Response where
  serve := gh.serve owner
  isRefusal response := 400 ≤ response.statusCode

end ControlPlane.GitHub
