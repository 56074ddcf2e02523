import LocalCI.Proofs.Conduct
import LocalCI.Proofs.Workflow.Faults
import LocalCI.Workflow.File

/-! What keeps a workflow from being loaded. A command foresees two kinds of faults, a definition that
is refused and a file that is not there. The causes of all others are listed here. -/
namespace LocalCI

open Attempt

/-- A fault that a command takes for a bad workflow. -/
def Fault.isForeseen : Fault → Bool
  | .workflow _ => true
  | f => f.isMissing

namespace Workflow

/-- The place of the file that is meant. -/
def place (p : Path) (m : Machine) : Except Fault Location := do
  m.resolve (← p.expandHome m.env m.accounts)

/-- What follows once there is something at the place. -/
def loadAt (registry : Registry) (l : Location) : Act Workflow := do
  let m ← get
  let file := Path.ofLocation l
  if yamlSuffixes.contains file.suffix then
    Attempt.ofExcept (ofYaml registry file m (← readText l))
  else if file.suffix = ".py" then ofScript l
  else throw (.workflow (.unknownSuffix file.name))

theorem load_eq (registry : Registry) (p : Path) (m : Machine) :
    load registry p m =
      match place p m with
      | .error f => (.error f, m)
      | .ok l =>
        match m.pathExists (Path.ofLocation l) with
        | .error f => (.error f, m)
        | .ok false => (.error (.workflowMissing (Path.ofLocation l).text), m)
        | .ok true => loadAt registry l m := by
  unfold load place
  rw [bind_of_ok (get_apply m)]
  cases expanded : p.expandHome m.env m.accounts with
  | error f => rfl
  | ok q =>
    rw [bind_of_ok (ofExcept_apply _ m)]
    cases placed : m.resolve q with
    | error f =>
      have failed : Act.resolve q m = (.error f, m) := congrArg (·, m) placed
      rw [bind_apply, failed]
      change _ = (match m.resolve q with | .error f => _ | .ok l => _)
      rw [placed]
    | ok l =>
      have resolved : Act.resolve q m = (.ok l, m) := congrArg (·, m) placed
      rw [bind_of_ok resolved]
      change _ = (match m.resolve q with | .error f => _ | .ok l => _)
      rw [placed]
      dsimp only
      cases asked : m.pathExists (Path.ofLocation l) with
      | error f =>
        have failed : Act.pathExists (Path.ofLocation l) m = (.error f, m) := congrArg (·, m) asked
        rw [bind_apply, failed]
      | ok present =>
        have answered : Act.pathExists (Path.ofLocation l) m = (.ok present, m) :=
          congrArg (·, m) asked
        rw [bind_of_ok answered]
        cases present <;> rfl

/-- There is something at the place. -/
structure At (p : Path) (m : Machine) (l : Location) : Prop where
  placed : place p m = .ok l
  present : m.pathExists (Path.ofLocation l) = .ok true

/-- By its name it is YAML. -/
structure YamlAt (p : Path) (m : Machine) (l : Location) : Prop extends At p m l where
  yaml : yamlSuffixes.contains (Path.ofLocation l).suffix = true

/-- By its name it is a script. -/
structure ScriptAt (p : Path) (m : Machine) (l : Location) : Prop extends At p m l where
  script : (Path.ofLocation l).suffix = ".py"

/-- What becomes of a script: what it defines and of that the workflow. -/
def scripted (m : Machine) (l : Location) : Except Fault Workflow := do
  Exported.select (Path.ofLocation l).stem (← definitions m l)

/-- What keeps a workflow from being loaded without being foreseen. -/
inductive Unforeseen (registry : Registry) (p : Path) (m : Machine) : Fault → Prop where
  /-- The home directory is not known, or the path has a NUL in it or leads round in links. -/
  | unplaced (f) : place p m = .error f → Unforeseen registry p m f
  /-- A name on the way is too long to be asked for. -/
  | unasked (l f) : place p m = .ok l → m.pathExists (Path.ofLocation l) = .error f →
      Unforeseen registry p m f
  | noFile (l n) : YamlAt p m l → m.files.get? l = some n → (∀ c, n ≠ .file c) →
      Unforeseen registry p m (.refused .isDirectory (Location.text l))
  | undecodable (l bytes e) : YamlAt p m l → m.files.get? l = some (.file (.binary bytes)) →
      Text.decode bytes = .error e → Unforeseen registry p m (.undecodable e)
  /-- A part of the document has no value. -/
  | valueless (l text f) : YamlAt p m l → readText l m = (.ok text, m) →
      m.readYaml text = .error (.fault f) → f.isForeseen = false → Unforeseen registry p m f
  /-- A step without a name has a blank script. -/
  | nameless (l text data) : YamlAt p m l → readText l m = (.ok text, m) →
      m.readYaml text = .ok data →
      read m.room registry (Path.ofLocation l).stem data = .error .blankCommand →
      (∃ raw ∈ rawSteps data, Step.isNameless raw.entries = true) →
      Unforeseen registry p m .blankCommand
  /-- A whole number is too long to be written. -/
  | unwritable (l text data e) : YamlAt p m l → readText l m = (.ok text, m) →
      m.readYaml text = .ok data →
      read m.room registry (Path.ofLocation l).stem data = .error (.noInteger e) →
      data.isWritable = false → Unforeseen registry p m (.noInteger e)
  /-- A part is nested too deeply to be written. -/
  | tooDeep (l text data part) : YamlAt p m l → readText l m = (.ok text, m) →
      m.readYaml text = .ok data →
      read m.room registry (Path.ofLocation l).stem data = .error .tooDeep →
      data.Part part → m.room < part.height → Unforeseen registry p m .tooDeep
  /-- The script fails by itself, when it is executed or when its function is called. -/
  | failing (l f) : ScriptAt p m l → scripted m l = .error f → f.isForeseen = false →
      Unforeseen registry p m f

variable {registry : Registry} {p : Path} {m : Machine} {l : Location} {f : Fault}

theorem place_refuses (p : Path) (m : Machine) :
    Refuses (fun f => f.isForeseen = false ∧ f.isOrdinary = true) (place p m) := by
  refine .bind ((p.expandHome_refuses m.env m.accounts).mono ?_) fun q _ =>
    (m.files.resolve_refuses m.cwd q).mono ?_
  · rintro _ rfl
    exact ⟨rfl, rfl⟩
  · rintro _ (rfl | ⟨path, rfl⟩) <;> exact ⟨rfl, rfl⟩

theorem pathExists_refuses (p : Path) (m : Machine) :
    Refuses (fun f => f.isForeseen = false ∧ f.isOrdinary = true) (m.pathExists p) := by
  refine ((m.files.find_refuses m.cwd p).map Option.isSome).mono ?_
  rintro _ ⟨path, rfl⟩
  exact ⟨rfl, rfl⟩

/-- Reading leaves everything as it is, and it fails for what is no text. -/
theorem readText_cases (l : Location) (m : Machine) :
    (∃ text, readText l m = (.ok text, m)) ∨
    (∃ bytes e, m.files.get? l = some (.file (.binary bytes)) ∧ Text.decode bytes = .error e ∧
      readText l m = (.error (.undecodable e), m)) ∨
    (∃ n, m.files.get? l = some n ∧ (∀ c, n ≠ .file c) ∧
      readText l m = (.error (.refused .isDirectory (Location.text l)), m)) ∨
    readText l m = (.error (.refused .missing (Location.text l)), m) := by
  unfold readText
  rw [bind_of_ok (get_apply m)]
  cases m.files.get? l with
  | none => exact Or.inr (Or.inr (Or.inr rfl))
  | some n =>
    cases n with
    | dir entries => exact Or.inr (Or.inr (Or.inl ⟨_, rfl, nofun, rfl⟩))
    | link target => exact Or.inr (Or.inr (Or.inl ⟨_, rfl, nofun, rfl⟩))
    | file content =>
      cases content with
      | text s => exact Or.inl ⟨_, rfl⟩
      | binary bytes =>
        cases decoded : Text.decode bytes with
        | ok s => exact Or.inl ⟨_, by simp only [decoded]; rfl⟩
        | error e => exact Or.inr (Or.inl ⟨bytes, e, rfl, decoded, by simp only [decoded]; rfl⟩)

theorem loadAt_of_text {text : String}
    (yaml : yamlSuffixes.contains (Path.ofLocation l).suffix = true)
    (held : readText l m = (.ok text, m)) :
    loadAt registry l m = (ofYaml registry (Path.ofLocation l) m text, m) := by
  unfold loadAt
  rw [bind_of_ok (get_apply m)]
  simp only [if_pos yaml]
  rw [bind_of_ok held]
  rfl

theorem loadAt_of_unread (yaml : yamlSuffixes.contains (Path.ofLocation l).suffix = true)
    (unread : readText l m = (.error f, m)) : loadAt registry l m = (.error f, m) := by
  unfold loadAt
  rw [bind_of_ok (get_apply m)]
  simp only [if_pos yaml]
  rw [bind_apply, unread]

theorem ofYaml_unforeseen {text : String} (here : YamlAt p m l) (held : readText l m = (.ok text, m))
    (failed : ofYaml registry (Path.ofLocation l) m text = .error f) (other : f.isForeseen = false) :
    Unforeseen registry p m f := by
  unfold ofYaml at failed
  cases document : m.readYaml text with
  | error trouble =>
    rw [document] at failed
    cases trouble with
    | invalid =>
      cases failed
      cases other
    | fault g =>
      cases failed
      exact .valueless l text f here held document other
  | ok data =>
    rw [document] at failed
    have refuses : Refuses (Fault.Expected data m.room
        (∃ raw ∈ rawSteps data, Step.isNameless raw.entries = true))
        (read m.room registry (Path.ofLocation l).stem data) :=
      read_refuses registry _ .whole fun raw member nameless => ⟨raw, member, nameless⟩
    cases refuses f failed with
    | workflow e => cases other
    | blankCommand named => exact .nameless l text data here held document failed named
    | noInteger e long =>
      exact .unwritable l text data e here held document failed long
    | tooDeep part deep => exact .tooDeep l text data _ here held document failed part deep

theorem ofScript_apply (l : Location) (m : Machine) :
    ∃ executed, ofScript l m = (scripted m l, { m with executed := executed }) := by
  refine ⟨m.executed ++ [((Path.ofLocation l).text, "actrun_workflow_" ++ (Path.ofLocation l).stem)], ?_⟩
  unfold ofScript scripted
  rw [bind_of_ok (modify_apply _ m), bind_of_ok (get_apply _), bind_apply, ofExcept_apply]
  -- Being noted as executed makes no difference to what it defines.
  generalize defined : definitions m l = outcome
  have again : definitions { m with executed := m.executed ++
      [((Path.ofLocation l).text, "actrun_workflow_" ++ (Path.ofLocation l).stem)] } l = outcome := defined
  rw [again]
  cases outcome <;> rfl

theorem loadAt_of_script (script : (Path.ofLocation l).suffix = ".py") :
    loadAt registry l m = ofScript l m := by
  unfold loadAt
  rw [bind_of_ok (get_apply m)]
  simp only [script]
  rfl

theorem loadAt_of_other (yaml : ¬yamlSuffixes.contains (Path.ofLocation l).suffix = true)
    (script : ¬(Path.ofLocation l).suffix = ".py") :
    loadAt registry l m = (.error (.workflow (.unknownSuffix (Path.ofLocation l).name)), m) := by
  unfold loadAt
  rw [bind_of_ok (get_apply m)]
  simp only [if_neg yaml, if_neg script]
  rfl

theorem loadAt_unforeseen (here : At p m l)
    (failed : (loadAt registry l m).1 = .error f) (other : f.isForeseen = false) :
    Unforeseen registry p m f := by
  by_cases yaml : yamlSuffixes.contains (Path.ofLocation l).suffix = true
  · have here : YamlAt p m l := ⟨here, yaml⟩
    rcases readText_cases l m with ⟨text, held⟩ | ⟨bytes, e, binary, undecoded, unread⟩ |
        ⟨n, found, noFile, unread⟩ | unread
    · rw [loadAt_of_text yaml held] at failed
      exact ofYaml_unforeseen here held failed other
    · rw [loadAt_of_unread yaml unread] at failed
      cases failed
      exact .undecodable l bytes e here binary undecoded
    · rw [loadAt_of_unread yaml unread] at failed
      cases failed
      exact .noFile l n here found noFile
    · rw [loadAt_of_unread yaml unread] at failed
      cases failed
      cases other
  · by_cases script : (Path.ofLocation l).suffix = ".py"
    · obtain ⟨executed, same⟩ := ofScript_apply l m
      rw [loadAt_of_script script, same] at failed
      exact .failing l f ⟨here, script⟩ failed other
    · rw [loadAt_of_other yaml script] at failed
      cases failed
      cases other

/-- How far loading gets: to nothing that could be asked for, to nothing that is there, or to the file. -/
theorem load_cases (registry : Registry) (p : Path) (m : Machine) :
    (∃ f, place p m = .error f ∧ load registry p m = (.error f, m)) ∨
    (∃ l f, place p m = .ok l ∧ m.pathExists (Path.ofLocation l) = .error f ∧
      load registry p m = (.error f, m)) ∨
    (∃ l, load registry p m = (.error (.workflowMissing (Path.ofLocation l).text), m)) ∨
    ∃ l, At p m l ∧ load registry p m = loadAt registry l m := by
  rw [load_eq]
  cases placed : place p m with
  | error f => exact Or.inl ⟨f, rfl, rfl⟩
  | ok l =>
    right
    dsimp only
    cases asked : m.pathExists (Path.ofLocation l) with
    | error f => exact Or.inl ⟨l, f, rfl, asked, rfl⟩
    | ok present =>
      cases present with
      | false => exact Or.inr (Or.inl ⟨l, rfl⟩)
      | true => exact Or.inr (Or.inr ⟨l, ⟨placed, asked⟩, rfl⟩)

/-- The list is complete. -/
theorem unforeseen_of_load (failed : (load registry p m).1 = .error f)
    (other : f.isForeseen = false) : Unforeseen registry p m f := by
  rcases load_cases registry p m with ⟨g, placed, same⟩ | ⟨l, g, placed, asked, same⟩ | ⟨l, same⟩ |
      ⟨l, here, same⟩
  · rw [same] at failed
    cases failed
    exact .unplaced f placed
  · rw [same] at failed
    cases failed
    exact .unasked l f placed asked
  · rw [same] at failed
    cases failed
    cases other
  · rw [same] at failed
    exact loadAt_unforeseen here failed other

/-- What was loaded was loaded from somewhere. -/
theorem at_of_load {w : Workflow} {n : Machine} (loaded : load registry p m = (.ok w, n)) :
    ∃ l, At p m l ∧ loadAt registry l m = (.ok w, n) := by
  rcases load_cases registry p m with ⟨g, _, same⟩ | ⟨l, g, _, _, same⟩ | ⟨l, same⟩ | ⟨l, here, same⟩
  · cases same.symm.trans loaded
  · cases same.symm.trans loaded
  · cases same.symm.trans loaded
  · exact ⟨l, here, same.symm.trans loaded⟩

theorem load_of_at (here : At p m l) : load registry p m = loadAt registry l m := by
  rw [load_eq, here.placed]
  dsimp only
  rw [here.present]

/-- Everything on the list does keep a workflow from being loaded. -/
theorem load_of_unforeseen (cause : Unforeseen registry p m f) :
    (load registry p m).1 = .error f ∧ f.isForeseen = false := by
  cases cause with
  | unplaced f placed => exact ⟨by rw [load_eq, placed], (place_refuses p m f placed).1⟩
  | unasked l f placed asked =>
    refine ⟨?_, (pathExists_refuses _ m f asked).1⟩
    rw [load_eq, placed]
    dsimp only
    rw [asked]
  | noFile l n here found noFile =>
    have unread : readText l m = (.error (.refused .isDirectory (Location.text l)), m) := by
      unfold readText
      rw [bind_of_ok (get_apply m), found]
      cases n with
      | file content => exact absurd rfl (noFile content)
      | dir entries => rfl
      | link target => rfl
    exact ⟨by rw [load_of_at here.toAt, loadAt_of_unread here.yaml unread], rfl⟩
  | undecodable l bytes e here binary undecoded =>
    have unread : readText l m = (.error (.undecodable e), m) := by
      unfold readText
      rw [bind_of_ok (get_apply m), binary]
      simp only [undecoded]
      rfl
    exact ⟨by rw [load_of_at here.toAt, loadAt_of_unread here.yaml unread], rfl⟩
  | valueless l text f here held document other =>
    refine ⟨?_, other⟩
    rw [load_of_at here.toAt, loadAt_of_text here.yaml held, ofYaml, document]
  | nameless l text data here held document refused named =>
    refine ⟨?_, rfl⟩
    rw [load_of_at here.toAt, loadAt_of_text here.yaml held, ofYaml, document]
    exact refused
  | unwritable l text data e here held document refused long =>
    refine ⟨?_, rfl⟩
    rw [load_of_at here.toAt, loadAt_of_text here.yaml held, ofYaml, document]
    exact refused
  | tooDeep l text data part here held document refused within deep =>
    refine ⟨?_, rfl⟩
    rw [load_of_at here.toAt, loadAt_of_text here.yaml held, ofYaml, document]
    exact refused
  | failing l f here failed other =>
    obtain ⟨executed, same⟩ := ofScript_apply l m
    exact ⟨by rw [load_of_at here.toAt, loadAt_of_script here.script, same, failed], other⟩

/-- Loading only ever notes which script it executed. -/
theorem load_snd (registry : Registry) (p : Path) (m : Machine) :
    ∃ executed, (load registry p m).2 = { m with executed := executed } := by
  have unchanged : ∃ executed, m = { m with executed := executed } := ⟨m.executed, rfl⟩
  rcases load_cases registry p m with ⟨f, _, same⟩ | ⟨l, f, _, _, same⟩ | ⟨l, same⟩ | ⟨l, _, same⟩
  · rwa [same]
  · rwa [same]
  · rwa [same]
  rw [same]
  by_cases yaml : yamlSuffixes.contains (Path.ofLocation l).suffix = true
  · rcases readText_cases l m with ⟨text, held⟩ | ⟨_, _, _, _, unread⟩ | ⟨_, _, _, unread⟩ | unread
    · rwa [loadAt_of_text yaml held]
    all_goals rwa [loadAt_of_unread yaml unread]
  · by_cases script : (Path.ofLocation l).suffix = ".py"
    · obtain ⟨executed, ran⟩ := ofScript_apply l m
      exact ⟨executed, by rw [loadAt_of_script script, ran]⟩
    · rwa [loadAt_of_other yaml script]

end Workflow
end LocalCI
