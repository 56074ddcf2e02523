import LocalCI.Proofs.Session
import LocalCI.Proofs.Text.Search

/-! What providing toolchains does to the context of a job. Two variables can change. The search path
gets the directory of rustup's programs, and gets it once however often a toolchain is asked for; the
channel is selected by a request that is granted and asks for it. A request that fails selects nothing. -/
namespace LocalCI

open Attempt JobAct

namespace Provision

section SearchPath

/-- The entries of a search path; an empty one has none. -/
def searchEntries (path : String) : List String :=
  if path = "" then [] else Text.split ':' path

theorem searchEntries_searchPath {dir path : String} (clean : ':' ∉ dir.toList)
    (absent : dir ∉ Text.split ':' path) :
    searchEntries (searchPath dir path) = dir :: searchEntries path := by
  rw [searchPath, if_neg (by simpa using absent)]
  by_cases empty : path = ""
  · subst empty
    have filled : dir ≠ "" := by
      rintro rfl
      exact absent (by decide)
    rw [if_pos rfl, searchEntries, if_neg filled, Text.split_of_not_mem clean]
    rfl
  · have filled : dir ++ ":" ++ path ≠ "" := by
      intro nothing
      have := congrArg String.toList nothing
      simp at this
    have parts : Text.split ':' (dir ++ ":" ++ path) = dir :: Text.split ':' path :=
      Text.split_append clean path
    rw [if_neg empty, searchEntries, if_neg filled, parts, searchEntries, if_neg empty]

theorem not_mem_searchEntries {dir path : String} (absent : dir ∉ Text.split ':' path) :
    dir ∉ searchEntries path := by
  unfold searchEntries
  split
  · exact List.not_mem_nil
  · exact absent

/-- The search path stays as it is, or the directory, which was not on it, comes before its entries. -/
inductive Gains (dir : String) (before : Option String) : Option String → Prop where
  | kept : Gains dir before before
  | added {path : String} : dir ∉ searchEntries (before.getD "") →
      searchEntries path = dir :: searchEntries (before.getD "") → Gains dir before (some path)

/-- A directory that has come to the search path does not come to it again. -/
theorem Gains.trans {dir : String} {first second third : Option String} (one : Gains dir first second)
    (other : Gains dir second third) : Gains dir first third := by
  cases one with
  | kept => exact other
  | added new entries =>
    cases other with
    | kept => exact .added new entries
    | added again => simp [entries] at again

end SearchPath

section Session

/-- The directory of rustup's programs, as far as the session tells it. -/
def binOf (s : Session) : Except Fault String :=
  cargoBin s.machine.env s.machine.accounts s.context.env

/-- What providing toolchains leaves of a session. -/
structure Touches (s t : Session) : Prop where
  workspace : t.context.workspace = s.context.workspace
  machine : t.machine.env = s.machine.env
  accounts : t.machine.accounts = s.machine.accounts
  others : ∀ name, name ≠ "PATH" → name ≠ "RUSTUP_TOOLCHAIN" →
    t.context.env.get? name = s.context.env.get? name
  path : ∀ dir, binOf s = .ok dir → ':' ∉ dir.toList →
    Gains dir (s.context.env.get? "PATH") (t.context.env.get? "PATH")
  /-- Without such a directory there is nothing to put on the search path. -/
  homeless : ∀ f, binOf s = .error f → t.context.env.get? "PATH" = s.context.env.get? "PATH"

theorem Touches.binOf_eq {s t : Session} (touches : Touches s t) : binOf t = binOf s := by
  have cargoHome := touches.others "CARGO_HOME" (by decide) (by decide)
  have home := touches.others "HOME" (by decide) (by decide)
  simp only [binOf, cargoBin, Env.nonEmpty?, Env.getD, cargoHome, home, touches.machine,
    touches.accounts]

instance : IsPreorder Session Touches where
  refl _ := ⟨rfl, rfl, rfl, fun _ _ _ => rfl, fun _ _ _ => .kept, fun _ _ => rfl⟩
  trans s t u first second := by
    refine ⟨second.workspace.trans first.workspace, second.machine.trans first.machine,
      second.accounts.trans first.accounts, fun name notPath notChannel => ?_,
      fun dir known clean => ?_, fun f unknown => ?_⟩
    · exact (second.others name notPath notChannel).trans (first.others name notPath notChannel)
    · have later := second.path dir (first.binOf_eq.trans known) clean
      exact (first.path dir known clean).trans later
    · exact (second.homeless f (first.binOf_eq.trans unknown)).trans (first.homeless f unknown)

/-- What is done before a toolchain is selected. -/
structure Prepares (s t : Session) : Prop extends Touches s t where
  channel : t.context.env.get? "RUSTUP_TOOLCHAIN" = s.context.env.get? "RUSTUP_TOOLCHAIN"
  toolchain : t.context.toolchain = s.context.toolchain

instance : IsPreorder Session Prepares where
  refl s := ⟨refl_of Touches s, rfl, rfl⟩
  trans _ _ _ first second :=
    ⟨trans_of Touches first.toTouches second.toTouches, second.channel.trans first.channel,
      second.toolchain.trans first.toolchain⟩

/-- Where the context stays, nothing is done to it. -/
theorem prepares_of_keeps {s t : Session} (keeps : Session.Keeps (Machine.Adds Call.Any) s t) :
    Prepares s t := by
  have env := congrArg Context.env keeps.context
  refine ⟨⟨?_, keeps.machine.env, keeps.machine.accounts, fun _ _ _ => ?_, fun _ _ _ => ?_, fun _ _ => ?_⟩,
    ?_, ?_⟩
  · rw [keeps.context]
  · rw [env]
  · rw [env]
    exact .kept
  · rw [env]
  · rw [env]
  · rw [keeps.context]

/-- Setting a variable changes no other. -/
theorem setVariable_get? {name value other : String} (s : Session) (apart : name ≠ other) :
    (setVariable name value s).2.context.env.get? other = s.context.env.get? other := by
  change (s.context.env.set name value).get? other = _
  rw [Env.get?_set, if_neg apart]

/-- The search path changes only if the directory is there and not on it. -/
theorem addCargoBin_cases (s : Session) :
    (addCargoBin s).2 = s ∨
      ∃ dir, binOf s = .ok dir ∧ dir ∉ Text.split ':' (s.context.env.getD "PATH" "") ∧
        (addCargoBin s).2 =
          (setVariable "PATH" (searchPath dir (s.context.env.getD "PATH" "")) s).2 := by
  unfold addCargoBin
  rw [bind_of_ok (get_apply s), bind_apply, ofExcept_apply]
  cases known : cargoBin s.machine.env s.machine.accounts s.context.env with
  | error f => exact Or.inl rfl
  | ok dir =>
    dsimp only
    rw [bind_apply, ofExcept_apply]
    cases s.machine.pathIsDir (Path.ofString dir) with
    | error f => exact Or.inl rfl
    | ok present =>
      dsimp only
      split
      next new =>
        refine Or.inr ⟨dir, known, ?_, rfl⟩
        simpa using (Bool.and_eq_true_iff.mp new).2
      next => exact Or.inl rfl

theorem addCargoBin_prepares : Follows Prepares addCargoBin := by
  intro s
  rcases addCargoBin_cases s with same | ⟨dir, known, absent, set⟩
  · rw [same]
    exact refl_of Prepares s
  · rw [set]
    refine ⟨⟨rfl, rfl, rfl, fun name notPath _ => setVariable_get? s (Ne.symm notPath), ?_, ?_⟩,
      setVariable_get? s (by decide), rfl⟩
    · intro other told clean
      obtain rfl : dir = other := Except.ok.inj (known.symm.trans told)
      change Gains dir _ ((s.context.env.set "PATH" _).get? "PATH")
      rw [Env.get?_set, if_pos rfl]
      exact .added (not_mem_searchEntries absent) (searchEntries_searchPath clean absent)
    · intro f unknown
      cases known.symm.trans unknown

theorem launch_prepares (args : List String) (cwd : Option String) (env : Option Env) :
    Follows Prepares (onMachine (Act.launch args cwd env)) :=
  (onMachine_keeps (Act.launch_adds fun _ => trivial)).mono fun _ _ => prepares_of_keeps

end Session

section Selection

/-- The selected channel after a request: only one that is granted selects, and only if it asks to. -/
def selected (t : Toolchain) (before : Option String) : Except Fault Installed → Option String
  | .ok _ => if t.override then some t.channel else before
  | .error _ => before

/-- What installing a channel does to a session. -/
structure Selects (t : Toolchain) (s : Session) (outcome : Except Fault Installed) (e : Session) : Prop
    extends Touches s e where
  channel : e.context.env.get? "RUSTUP_TOOLCHAIN" =
    selected t (s.context.env.get? "RUSTUP_TOOLCHAIN") outcome
  toolchain : e.context.toolchain = s.context.toolchain

variable {t : Toolchain} {s u e : Session} {outcome : Except Fault Installed}

theorem Prepares.unselected {f : Fault} (prepares : Prepares s e) : Selects t s (.error f) e :=
  ⟨prepares.toTouches, prepares.channel, prepares.toolchain⟩

theorem Prepares.selects (prepares : Prepares s u) (rest : Selects t u outcome e) :
    Selects t s outcome e := by
  refine ⟨trans_of Touches prepares.toTouches rest.toTouches, ?_,
    rest.toolchain.trans prepares.toolchain⟩
  rw [rest.channel, prepares.channel]

theorem setVariable_touches (value : String) :
    Touches s (setVariable "RUSTUP_TOOLCHAIN" value s).2 := by
  have path : (setVariable "RUSTUP_TOOLCHAIN" value s).2.context.env.get? "PATH" =
      s.context.env.get? "PATH" := setVariable_get? s (by decide)
  refine ⟨rfl, rfl, rfl, fun name _ notChannel => setVariable_get? s (Ne.symm notChannel),
    fun dir _ _ => ?_, fun _ _ => path⟩
  rw [path]
  exact .kept

/-- A channel that is installed is selected if that is asked for. -/
theorem select_ends (installed : Installed) :
    Ends (Selects t) (do
      if t.override then setVariable "RUSTUP_TOOLCHAIN" t.channel
      return installed) := by
  intro s
  split
  next asked =>
    refine ⟨setVariable_touches t.channel, ?_, rfl⟩
    change (s.context.env.set "RUSTUP_TOOLCHAIN" t.channel).get? "RUSTUP_TOOLCHAIN" = _
    rw [Env.get?_set, if_pos rfl]
    exact (if_pos asked).symm
  next unasked => exact ⟨refl_of Touches s, (if_neg unasked).symm, rfl⟩

theorem installRust_ends (t : Toolchain) : Ends (Selects t) (installRust t) := by
  have after {α : Type} {x : JobAct α} {f : α → JobAct Installed} (first : Follows Prepares x)
      (rest : ∀ a, Ends (Selects t) (f a)) : Ends (Selects t) (x >>= f) :=
    Ends.after (R := Selects t) Prepares.unselected Prepares.selects first rest
  have asking : Follows Prepares (tryCatch (runCommand (installCommand t)) fun f =>
      if f.isMissing then
        throw (.provision ⟨t.name, t.channel, "rustup not found",
          [(.text "hint", .text rustupHint)]⟩)
      else throw f) := by
    refine .tryCatch (runCommand_conducts launch_prepares _) fun f => ?_
    split
    · exact .throw _
    · exact .throw _
  refine after addCargoBin_prepares fun _ => after asking fun done => ?_
  have finish := after (probeVersion_conducts launch_prepares t.channel) fun version =>
    select_ends (t := t) ⟨t.name, t.channel, version, t.override⟩
  dsimp only
  split
  · exact after (.throw _) fun _ => finish
  · exact finish

end Selection

/-- What a request for a toolchain does to a session. -/
structure Equips (t : Toolchain) (s : Session) (outcome : Except Fault Installed) (e : Session) : Prop
    extends Touches s e where
  channel : e.context.env.get? "RUSTUP_TOOLCHAIN" =
    selected t (s.context.env.get? "RUSTUP_TOOLCHAIN") outcome
  /-- The toolchain is the one that was granted, and else the one that was there. -/
  toolchain : e.context.toolchain = outcome.toOption.or s.context.toolchain

theorem provision_equips {installers : Installers} {t : Toolchain}
    (builtin : installers.find? (Text.lower t.name) = some .rust) :
    Ends (Equips t) (provision installers t) := by
  intro s
  have selects := installRust_ends t s
  unfold provision
  rw [builtin]
  dsimp only [install]
  rw [bind_apply]
  cases ended : installRust t s with
  | mk outcome e =>
    rw [ended] at selects
    obtain ⟨touches, channel, toolchain⟩ := selects
    cases outcome with
    | error f => exact ⟨touches, channel, toolchain⟩
    | ok installed =>
      exact ⟨⟨touches.workspace, touches.machine, touches.accounts, touches.others, touches.path,
        touches.homeless⟩, channel, rfl⟩

/-- The session after requests that are made one after another, whatever becomes of each. -/
def after (installers : Installers) (requests : List Toolchain) (s : Session) : Session :=
  requests.foldl (fun s t => (provision installers t s).2) s

theorem after_touches {installers : Installers} {requests : List Toolchain}
    (builtin : ∀ t ∈ requests, installers.find? (Text.lower t.name) = some .rust) (s : Session) :
    Touches s (after installers requests s) := by
  induction requests generalizing s with
  | nil => exact refl_of Touches s
  | cons t rest ih =>
    obtain ⟨first, others⟩ := List.forall_mem_cons.mp builtin
    exact trans_of Touches (provision_equips first s).toTouches (ih others _)

/-- However many toolchains are asked for, and whatever the programs answer, at most the search path and
the selected channel change. The search path gets at most one directory, and each request selects a
channel and a toolchain just when it is granted. -/
theorem provision_changes_least {installers : Installers} {requests : List Toolchain}
    (builtin : ∀ t ∈ requests, installers.find? (Text.lower t.name) = some .rust) (s : Session) :
    Touches s (after installers requests s) ∧
    ∀ done t later, requests = done ++ t :: later →
      let before := after installers done s
      Equips t before (provision installers t before).1 (provision installers t before).2 := by
  refine ⟨after_touches builtin s, ?_⟩
  rintro done t later rfl
  exact provision_equips (builtin t (by simp)) (after installers done s)

/-- A job in the home directory, before anything is installed. The first request makes the directory of
rustup's programs, the second is refused, and the compiler of the third does not tell its version. -/
def newHome : Session where
  context := {
    workspace := Path.ofLocation ["home"]
    env := ⟨[("HOME", "/home"), ("PATH", "/usr/bin:/bin")]⟩ }
  machine := {
    files := .dir [("home", .dir [])]
    cwd := ["home"]
    temp := ["tmp"]
    answers := [{ files := [(".cargo/bin/rustup", .file (.text ""))] }, { out := "rustc 1.80.0\n" },
      { code := 1, err := some "no such toolchain" }, {}, { failure := some (.refused .missing) }] }

def threeRequests : List Toolchain :=
  [{ name := "rust", channel := "nightly", override := true }, { name := "Rust", channel := "1999" },
    { name := "rust", channel := "beta", override := true }]

/-- The directory is there from the second request on, and comes to the search path once. -/
theorem provision_changes_least_newHome :
    let e := after Installers.builtin threeRequests newHome
    (∀ t ∈ threeRequests, Installers.builtin.find? (Text.lower t.name) = some .rust) ∧
    Touches newHome e ∧
    (∀ done t later, threeRequests = done ++ t :: later →
      let before := after Installers.builtin done newHome
      Equips t before (provision Installers.builtin t before).1
        (provision Installers.builtin t before).2) ∧
    binOf newHome = .ok "/home/.cargo/bin" ∧
    e.context.env.vars = [("HOME", "/home"), ("PATH", "/home/.cargo/bin:/usr/bin:/bin"),
      ("RUSTUP_TOOLCHAIN", "beta")] ∧
    e.context.toolchain = some ⟨"rust", "beta", none, true⟩ := by
  have builtin : ∀ t ∈ threeRequests, Installers.builtin.find? (Text.lower t.name) = some .rust := by
    have names : ∀ t ∈ threeRequests, Text.lower t.name = "rust" := by decide +kernel
    intro t member
    rw [names t member]
    rfl
  obtain ⟨touches, each⟩ := provision_changes_least builtin newHome
  exact ⟨builtin, touches, each, eq_ok_of_toOption (by decide +kernel), by decide +kernel,
    by decide +kernel⟩

end Provision
end LocalCI
