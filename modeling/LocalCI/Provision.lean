import LocalCI.Execution

/-! Providing the toolchain a job asks for, before its steps run. -/
namespace LocalCI

/-- What installs a toolchain. -/
inductive Installer where
  /-- Installs a Rust channel through rustup. -/
  | rust
  | custom (body : Toolchain → Routine Installed)

namespace Installer

/-- Fails for the given reason. -/
def failing (reason : String) (details : Entries) : Installer :=
  .custom fun t => .fail (.provision ⟨t.name, t.channel, reason, details⟩)

/-- Starts a program if one is given, and sets variables. -/
def scripted (command : Option (List String)) (exports : Env) (version : Option String) :
    Installer :=
  .custom fun t =>
    let finish : Routine Installed := .exporting exports ⟨t.name, t.channel, version, t.override⟩
    match command with
    | none => finish
    | some args =>
      .look fun c _ => .launch args (some c.workspace.text) (some c.env) fun ended =>
        match ended with
        | .ok _ => finish
        | .error f => .fail f

def label : Installer → String
  | .rust => "rust"
  | .custom _ => "custom"

instance : Repr Installer := ⟨fun i _ => repr i.label⟩

end Installer

abbrev Installers := List (String × Installer)

namespace Installers

def builtin : Installers := [("rust", .rust)]

def find? (installers : Installers) (name : String) : Option Installer :=
  (List.find? (fun i => i.1 = name) installers).map Prod.snd

/-- Installers are known by their names in lower case. -/
def register (installers : Installers) (name : String) (i : Installer) : Installers :=
  Named.put (Text.lower name) i installers

end Installers

namespace Path

/-- The home directory that a tilde stands for, alone or before the name of a user. -/
def home? (env : Env) (accounts : Accounts) (tilde : String) : Option String :=
  if tilde = "~" then (env.get? "HOME").or accounts.own
  else accounts.homes.lookup (String.ofList (tilde.toList.drop 1))

/-- Replaces a leading tilde by the home directory it stands for. -/
def expandHome (env : Env) (accounts : Accounts) (p : Path) : Except Fault Path :=
  match p.parts with
  | first :: rest =>
    if p.isAbsolute || !Text.startsWith first "~" then .ok p
    else match home? env accounts first with
      | some home =>
        if Text.startsWith home "~" then .error .homeUnknown
        else
          let base := ofString (if home.toList.all (· = '/') then "/" else home)
          .ok { base with parts := base.parts ++ rest }
      | none => .error .homeUnknown
  | [] => .ok p

end Path

namespace Provision

def runCommand (args : List String) : JobAct Finished := do
  let c ← JobAct.context
  JobAct.onMachine (Act.launch args (some c.workspace.text) (some c.env))

def setVariable (name value : String) : JobAct Unit :=
  modify fun s => { s with context := { s.context with env := s.context.env.set name value } }

def rustupHint : String := "Install rustup (https://rustup.rs) or fix PATH."

/-- The directory in which rustup puts its programs. -/
def cargoBin (machineEnv : Env) (accounts : Accounts) (env : Env) : Except Fault String := do
  let home ← match env.nonEmpty? "CARGO_HOME" with
    | some dir => pure dir
    | none => do
      let home ← (Path.ofString (env.getD "HOME" "~")).expandHome machineEnv accounts
      pure (home.child ".cargo").text
  return ((Path.ofString home).child "bin").text

/-- A search path with the directory in front, unless it is in it already. -/
def searchPath (dir path : String) : String :=
  if (Text.split ':' path).contains dir then path
  else if path = "" then dir else dir ++ ":" ++ path

/-- Puts the directory of rustup's programs on the search path if it exists. -/
def addCargoBin : JobAct Unit := do
  let s ← get
  let dir ← Attempt.ofExcept (cargoBin s.machine.env s.machine.accounts s.context.env)
  let path := s.context.env.getD "PATH" ""
  let present ← Attempt.ofExcept (s.machine.pathIsDir (Path.ofString dir))
  if present && !(Text.split ':' path).contains dir then
    setVariable "PATH" (searchPath dir path)

def installCommand (t : Toolchain) : List String :=
  ["rustup", "toolchain", "install", t.channel, "--no-self-update"] ++
  match t.profile with
  | some p => if p = "" then [] else ["--profile", p]
  | none => []

/-- The installed version in one line, if the compiler tells it. -/
def probeVersion (channel : String) : JobAct (Option String) :=
  tryCatch
    (do
      let probe ← runCommand ["rustc", "+" ++ channel, "--version"]
      return if probe.code = 0 && !Text.isBlankText probe.out
        then some (" ".intercalate (Text.words probe.out)) else none)
    fun f => if f.isMissing then return none else throw f

/-- What went wrong, from the error output or else the output. -/
def failureReason (f : Finished) : String :=
  match f.err with
  | some e => Text.lastLine (if e = "" then f.out else e)
  | none => Text.lastLine f.out

def installRust (t : Toolchain) : JobAct Installed := do
  addCargoBin
  let command := installCommand t
  let done ← tryCatch (runCommand command) fun f =>
    if f.isMissing then
      throw (.provision ⟨t.name, t.channel, "rustup not found",
        [(.text "hint", .text rustupHint)]⟩)
    else throw f
  if done.code ≠ 0 then
    throw (.provision ⟨t.name, t.channel, failureReason done,
      [(.text "exit_code", .scalar (.int done.code)),
        (.text "cmd", .text (" ".intercalate command))]⟩)
  let version ← probeVersion t.channel
  if t.override then setVariable "RUSTUP_TOOLCHAIN" t.channel
  return ⟨t.name, t.channel, version, t.override⟩

def install (installer : Installer) (t : Toolchain) : JobAct Installed :=
  match installer with
  | .rust => installRust t
  | .custom body => (body t).run

end Provision

/-- Installs the toolchain and makes it that of the context. -/
def provision (installers : Installers) (t : Toolchain) : JobAct Installed := do
  match installers.find? (Text.lower t.name) with
  | none =>
    throw (.provision ⟨t.name, t.channel, "no installer for this toolchain",
      [(.text "known", .list ((Text.sorted (installers.map Prod.fst)).map Value.text))]⟩)
  | some installer =>
    let installed ← Provision.install installer t
    modify fun s => { s with context := { s.context with toolchain := some installed } }
    return installed

end LocalCI
