import LocalCI.FileTree.Copy
import LocalCI.Git
import LocalCI.Settings

/-! Publishing a folder to a branch. The branch holds exactly the files of the folder afterwards, and
a folder that changes nothing makes no commit. -/
namespace LocalCI

/-- What was published: whether the branch changed, and the commit it is at. -/
structure Published where
  branch : String
  changed : Bool
  commit : Option String := none
deriving DecidableEq, Repr

structure Publisher where
  repository : Location
  remote : String := "origin"
  token : Option String := none
  authorName : String := Settings.defaultAuthorName
  authorEmail : String := Settings.defaultAuthorEmail
deriving DecidableEq, Repr

namespace Publisher

/-- A token that is empty counts as none. -/
def secret? (p : Publisher) : Option String := p.token.filter (· ≠ "")

/-- Hides the token. -/
def redact (p : Publisher) (text : String) : String :=
  match p.secret? with
  | some token => Text.replaceAll token "***" text
  | none => text

/-- Puts the token into a web address in place of the user that is named there. -/
def withToken (p : Publisher) (url : String) : String :=
  match p.secret?, Text.after? "https://" url with
  | some token, some rest =>
    let host := ((Text.cut? '@' rest).map Prod.snd).getD rest
    "https://x-access-token:" ++ token ++ "@" ++ host
  | _, _ => url

/-- The folder and the branch a publish is about, for its errors. -/
def fail {α : Type} (d : Deploy) (reason : String) : Act α :=
  throw (.publish ⟨d.folder, d.branch, reason⟩)

def errorLine (err : Option String) : String := Text.lastLine (err.getD "")

/-- Runs git and takes every failure for a failed publish. -/
def git (p : Publisher) (d : Deploy) (dir : Location) (args : List String) : Act Finished := do
  let env := (← get).env.set "GIT_TERMINAL_PROMPT" "0"
  let done ← tryCatch (Git.run args (some (Location.text dir)) (some env)) fun f =>
    if f.isMissing then fail d "git command not found" else throw f
  if done.code ≠ 0 then
    let command := args.headD ""
    fail d (p.redact s!"git {command} failed: {errorLine done.err}")
  return done

/-- The address a remote stands for: an address stands for itself, a path that exists for its real
place, and anything else is a name that git knows. -/
def remoteAddress (p : Publisher) (d : Deploy) : Act String := do
  if Text.contains p.remote "://" || Text.startsWith p.remote "git@" then return p.remote
  let candidate := (Path.ofLocation p.repository).child p.remote
  if ← Act.pathExists candidate then
    return Location.text (← Act.resolve candidate)
  tryCatch (Git.remoteUrl p.remote (some (Location.text p.repository))) fun f =>
    match f with
    | .commandFailed _ _ err => fail d s!"unknown remote '{p.remote}': {errorLine err}"
    | f => if f.isMissing then fail d "git command not found" else throw f

def remoteUrl (p : Publisher) (d : Deploy) : Act String := do
  return p.withToken (← p.remoteAddress d)

/-- Names the commit that was built, if there is one. -/
def commitMessage (p : Publisher) (branch : String) : Act String := do
  let head ← Git.run ["rev-parse", "--verify", "--quiet", "HEAD"]
    (some (Location.text p.repository)) none
  let commit := Text.strip head.out
  return if head.code = 0 && commit ≠ "" then s!"Deploying to {branch} from @ {commit}"
    else s!"Deploying to {branch}"

def worktreeName (number : Nat) : String := s!"actrun-publish-{number}"

/-- The first number, from a given one on, whose name is not taken. -/
def freeNumber (taken : List String) (first : Nat) : Nat :=
  ((List.range' first (taken.length + 1)).find? fun number =>
    !taken.contains (worktreeName number)).getD first

/-- Makes a directory that was not there; gives the path to it. -/
def makeWorktree : Act Location := do
  let m ← get
  match m.files.enter m.temp with
  | .error why =>
    throw (.refused why.refusal (Location.text (m.temp ++ [worktreeName (m.temps + 1)])))
  | .ok holder =>
    let taken := (m.files.entriesAt holder).map Prod.fst
    let number := freeNumber taken (m.temps + 1)
    let path := m.temp ++ [worktreeName number]
    if Node.pathLimit < (Location.text path).utf8ByteSize then
      throw (.refused .nameTooLong (Location.text path))
    match m.tempRefusal with
    | some how => throw (.refused how (Location.text path))
    | none =>
      let place := holder ++ [worktreeName number]
      set { m with temps := number, files := Node.put Node.emptyDir place m.files }
      return path

/-- Removes a directory with all that is in it; what is no directory stays. -/
def removeTree (path : Location) (m : Machine) : Machine :=
  match m.files.enter path.dropLast with
  | .error _ => m
  | .ok holder =>
    let place := holder ++ path.getLast?.toList
    if ((m.files.get? place).map Node.isDir).getD false then
      { m with files := m.files.remove place }
    else m

/-- Looks at an entry of the worktree and removes it, unless it is the repository. A link to a name
that is too long cannot be looked at. -/
def clearEntry (worktree place : Location) (name : String) : Act Unit := do
  if name ≠ Node.repositoryName then
    let _ ← Act.pathIsDir (Path.ofLocation (worktree ++ [name]))
    modify fun m => { m with files := m.files.remove (place ++ [name]) }

/-- Removes everything from the worktree but its own repository, one entry after another. -/
def clear (worktree place : Location) : Act Unit := do
  let entries := (← get).files.entriesAt place
  entries.forM fun e => clearEntry worktree place e.1

/-- Copies a folder into the worktree. -/
def copyInto (worktree place source folder : Location) : Act Unit := do
  let m ← get
  if Node.holdsItself folder place then throw (.copyFailed [Node.endless source worktree])
  let copied := m.files.copyOf folder source worktree (.dir (m.files.entriesAt folder))
  let entries := m.files.entriesAt place ++ (copied.result.map Node.entries).getD []
  set { m with files := Node.put (.dir entries) place m.files }
  if !copied.failures.isEmpty then throw (.copyFailed copied.failures)

/-- Makes the worktree a copy of the source, its own repository apart. -/
def replaceTree (worktree source : Location) : Act Unit := do
  let place ← Act.enter worktree
  clear worktree place
  copyInto worktree place source (← Act.enter source)

/-- The commit command; an empty commit is made only to create a branch. -/
def commitCommand (p : Publisher) (message : String) (allowEmpty : Bool) : List String :=
  ["-c", s!"user.name={p.authorName}", "-c", s!"user.email={p.authorEmail}",
    "-c", "commit.gpgsign=false", "commit", "--quiet", "-m", message] ++
  if allowEmpty then ["--allow-empty"] else []

def headCommit (p : Publisher) (d : Deploy) (worktree : Location) : Act String := do
  return Text.strip (← p.git d worktree ["rev-parse", "HEAD"]).out

/-- Brings the worktree to the branch; tells whether the branch is new. -/
def checkOut (p : Publisher) (d : Deploy) (worktree : Location) (url : String) : Act Bool := do
  let heads ← p.git d worktree ["ls-remote", "--heads", url, d.branch]
  if Text.isBlankText heads.out then
    let _ ← p.git d worktree ["init", "--quiet"]
    let _ ← p.git d worktree ["symbolic-ref", "HEAD", s!"refs/heads/{d.branch}"]
    return true
  else
    let _ ← p.git d worktree ["clone", "--quiet", "--depth", "1", "--branch", d.branch, url, "."]
    return false

def publishIn (p : Publisher) (d : Deploy) (source worktree : Location) (url : String) :
    Act Published := do
  let isNew ← p.checkOut d worktree url
  replaceTree worktree source
  let _ ← p.git d worktree ["add", "--all"]
  let message ← p.commitMessage d.branch
  let unchanged := Text.isBlankText (← p.git d worktree ["status", "--porcelain"]).out
  if unchanged && !isNew then
    return ⟨d.branch, false, some (← p.headCommit d worktree)⟩
  let _ ← p.git d worktree (p.commitCommand message unchanged)
  let _ ← p.git d worktree ["push", "--quiet", url, s!"HEAD:refs/heads/{d.branch}"]
  return ⟨d.branch, true, some (← p.headCommit d worktree)⟩

/-- Publishes from a temporary worktree, which is removed whatever happens. -/
def publish (p : Publisher) (d : Deploy) : Act Published := do
  let source ← Act.resolve ((Path.ofLocation p.repository).child d.folder)
  if !(← Act.pathIsDir (Path.ofLocation source)) then
    fail d s!"source folder not found: {Location.text source}"
  let url ← p.remoteUrl d
  let worktree ← makeWorktree
  (p.publishIn d source worktree url).ensuring (removeTree worktree)

end Publisher
end LocalCI
