import LocalCI.Proofs.FileTree.Writing
import LocalCI.Proofs.Record

/-! Who changed the files. What an act does to a machine is split into the changes it makes itself and
the programs it starts, so that a change which it does not make itself is laid to a program that made
it. -/
namespace LocalCI

open Attempt

/-- A way from one machine to another on which every change of the files is one of the `own` kind or is
made by a program that may be started so. What the programs changed is listed. -/
inductive Machine.Footprint (own : Node → Node → Prop) (starts : List String → Option String → Prop) :
    Machine → List (Node × Node) → Machine → Prop where
  | stayed (m : Machine) : Footprint own starts m [] m
  | changed {m : Machine} {files : Node} (temps : Nat) : own m.files files →
      Footprint own starts m [] { m with files := files, temps := temps }
  | launched {args : List String} {cwd : Option String} (env : Option Env) (m : Machine) :
      starts args cwd → Footprint own starts m [(m.files, (Act.launch args cwd env m).2.files)]
        (Act.launch args cwd env m).2
  | andThen {m k n : Machine} {first later : List (Node × Node)} : Footprint own starts m first k →
      Footprint own starts k later n → Footprint own starts m (first ++ later) n

/-- The act goes such a way from every machine whose files are as they should be, and they are so
afterwards. -/
def Machine.Acts (wellKept : Node → Prop) (own : Node → Node → Prop)
    (starts : List String → Option String → Prop) (m n : Machine) : Prop :=
  wellKept m.files → (∃ changes, m.Footprint own starts changes n) ∧ wellKept n.files

/-- What was started, and where. -/
def Call.program? : Call → Option (List String × Option String)
  | .process args cwd _ _ => some (args, cwd)
  | .action .. => none

namespace Machine

variable {wellKept : Node → Prop} {own : Node → Node → Prop}
  {starts : List String → Option String → Prop} {m n : Machine} {changes : List (Node × Node)}

instance : IsPreorder Machine (Acts wellKept own starts) where
  refl m := fun kept => ⟨⟨[], .stayed m⟩, kept⟩
  trans := by
    intro l m n first later kept
    obtain ⟨⟨before, start⟩, between⟩ := first kept
    obtain ⟨⟨after, rest⟩, kept⟩ := later between
    exact ⟨⟨before ++ after, start.andThen rest⟩, kept⟩

/-- What no step of its own changes is changed only by programs. -/
theorem Footprint.same_of {α : Type} (see : Node → α) (footprint : m.Footprint own starts changes n)
    (blind : ∀ {before after}, own before after → see after = see before)
    (programs : ∀ c ∈ changes, see c.2 = see c.1) : see n.files = see m.files := by
  induction footprint with
  | stayed => rfl
  | changed _ step => exact blind step
  | launched => exact programs _ (List.mem_singleton_self _)
  | andThen _ _ first later =>
    rw [later fun c member => programs c (List.mem_append_right _ member)]
    exact first fun c member => programs c (List.mem_append_left _ member)

/-- A program that may be started so. -/
def Startable (starts : List String → Option String → Prop) (call : Call) : Prop :=
  ∃ args cwd, call.program? = some (args, cwd) ∧ starts args cwd

/-- Only programs that may be started are recorded. -/
theorem Footprint.adds (footprint : m.Footprint own starts changes n) : m.Adds (Startable starts) n := by
  induction footprint with
  | stayed m => exact refl_of _ m
  | changed => exact .of_same rfl rfl rfl
  | launched env m may => exact Act.launch_adds (fun _ => ⟨_, _, rfl, may⟩) m
  | andThen _ _ first later => exact trans_of _ first later

theorem Footprint.temp (footprint : m.Footprint own starts changes n) : n.temp = m.temp := by
  induction footprint with
  | stayed | changed => rfl
  | @launched args cwd env m _ =>
    rcases Act.launch_cases args cwd env m with same | added
    · rw [same]
    · rw [added]
      rfl
  | andThen _ _ first later => exact later.trans first

theorem Footprint.mono {own' : Node → Node → Prop} (footprint : m.Footprint own starts changes n)
    (weaker : ∀ {before after}, own before after → own' before after) :
    m.Footprint own' starts changes n := by
  induction footprint with
  | stayed m => exact .stayed m
  | changed temps step => exact .changed temps (weaker step)
  | launched env m may => exact .launched env m may
  | andThen _ _ first later => exact first.andThen later

end Machine

/-- Programs only add and replace, so what lasts along a way holds after them. -/
theorem Act.launch_acts {Q : Location → Node → Prop} (lasting : Node.Lasting Q) {place : Location}
    {own : Node → Node → Prop} {starts : List String → Option String → Prop} {args : List String}
    {cwd : Option String} (env : Option Env) (may : starts args cwd) :
    Follows (Machine.Acts (Node.Along Q place) own starts) (Act.launch args cwd env) := by
  intro m kept
  refine ⟨⟨_, .launched env m may⟩, ?_⟩
  rcases launch_cases args cwd env m with same | added
  · rwa [same]
  · rw [added]
    change Node.Along Q place (if _ then m.files.writeAll _ _ else m.files)
    split
    · exact kept.writeAll lasting _ _
    · exact kept

end LocalCI
