import LocalCI.Proofs.FileTree.Resolution
import LocalCI.Proofs.Footprint

/-! Where a checkout works. It makes directories, starts git and clones in the workspace or below it as
long as its path does not lead out of there. A path that climbs above its start does. -/
namespace LocalCI

open Attempt

namespace Path

/-- Parts that never climb above the place they are read from, which lies so deep below another. -/
def descends : Nat → List String → Bool
  | _, [] => true
  | depth, name :: rest =>
    if name = ".." then 0 < depth && descends (depth - 1) rest else descends (depth + 1) rest

theorem child_of_relative {p : Path} {s : String} (relative : (ofString s).isAbsolute = false) :
    p.child s = ⟨p.slashes, p.parts ++ (ofString s).parts⟩ := if_neg (by simp [relative])

end Path

/-- The text of a place starts with its first name. -/
theorem Location.prefix_text (name : String) (rest : Location) :
    '/' :: name.toList <+: (Location.text (name :: rest)).toList := by
  have letters : (Location.text (name :: rest)).toList =
      '/' :: ['/'].intercalate (name.toList :: rest.map String.toList) := by
    simp [Location.text, Path.text, Path.ofLocation, String.toList_intercalate]
  rw [letters, List.cons_prefix_cons]
  refine ⟨rfl, ?_⟩
  cases rest with
  | nil => simp
  | cons next rest =>
    rw [List.map_cons, List.intercalate_cons_cons, List.append_assoc]
    exact List.prefix_append _ _

namespace Node

variable {root node : Node} {place : Location}

/-- A tree without links is left only by climbing out of it. -/
theorem leads_of_descends (there : root.get? place = some node) (linkless : node.linkCount = 0)
    {inside : Location} {parts : List String} (falls : Path.descends inside.length parts = true) :
    ∃ more, Leads root (place ++ inside) parts (place ++ more) 0 := by
  induction parts generalizing inside with
  | nil => exact ⟨inside, .here _⟩
  | cons name rest ih =>
    rw [Path.descends] at falls
    split at falls
    next up =>
      subst up
      rw [Bool.and_eq_true, decide_eq_true_eq] at falls
      obtain ⟨deep, later⟩ := falls
      have filled : inside ≠ [] := List.length_pos_iff.mp deep
      rw [← List.length_dropLast] at later
      obtain ⟨more, leads⟩ := ih later
      refine ⟨more, .up ?_⟩
      rwa [List.dropLast_append_of_ne_nil filled]
    next other =>
      have deeper : Path.descends (inside ++ [name]).length rest = true := by simpa using falls
      obtain ⟨more, leads⟩ := ih deeper
      rw [← List.append_assoc] at leads
      refine ⟨more, .down other (fun target linked => ?_) leads⟩
      rw [List.append_assoc, get?_append, there] at linked
      have few : 1 ≤ node.linkCount := linkCount_get?_le linked
      omega

end Node

namespace Checkout

/-- The program is started at the place or below it, or it clones to there. -/
def StartsBelow (place : Location) (args : List String) : Option String → Prop
  | some dir => (∃ l, place <+: l ∧ dir = Location.text l) ∧ args.tail.head? ≠ some "clone"
  | none => ∃ source l, place <+: l ∧ args = ["git", "clone", source, Location.text l]

/-- The directories made between two machines and the programs started are at the place or below it. -/
def Confined (place : Location) (m n : Machine) : Prop :=
  ∃ changes, m.Footprint (Node.MakesBelow place) (StartsBelow place) changes n

/-- The path to check out to does not lead out of the workspace. It is relative and never climbs above
its start, or it names a place there by any other way. -/
def StaysInside (place : Location) (params : Entries) (c : Context) (m : Machine) : Prop :=
  ∀ below, (Entries.valueAt params "path").textOr m.room "." = .ok below →
    (Path.ofString below).isAbsolute = false ∧ Path.descends 0 (Path.ofString below).parts = true ∨
      ∃ target, m.resolve (c.workspace.child below) = .ok target ∧ place <+: target

variable {place target : Location} {params : Entries} {c : Context} {m : Machine}

/-- In the workspace, or below it, everything a checkout does is there. -/
theorem bring_acts (inside : place <+: target) (env : Env) :
    Follows (Machine.Acts (Node.Along Node.Present place) (Node.MakesBelow place) (StartsBelow place))
      (bring params env target) := by
  refine bring_conducts ?_ ?_ ?_ params
  · intro args given plain _
    exact Act.launch_acts Node.present_lasting given ⟨⟨target, inside, rfl⟩, plain⟩
  · refine Act.makeDirs_conducts fun m part way present => ?_
    exact ⟨⟨[], .changed m.temps (Node.makesBelow_of_prefix present inside way)⟩,
      present.ensureDir Node.present_lasting⟩
  · intro source
    exact Act.launch_acts Node.present_lasting _ ⟨source, target, inside, rfl⟩

theorem resolve_inside {node : Node} {below : String} (absolute : c.workspace.isAbsolute = true)
    (plain : Node.Leads m.files [] c.workspace.parts place 0) (there : m.files.get? place = some node)
    (linkless : node.linkCount = 0) (relative : (Path.ofString below).isAbsolute = false)
    (falls : Path.descends 0 (Path.ofString below).parts = true)
    (resolved : m.resolve (c.workspace.child below) = .ok target) : place <+: target := by
  have start : Path.descends ([] : Location).length (Path.ofString below).parts = true := falls
  obtain ⟨more, leads⟩ := Node.leads_of_descends there linkless start
  rw [List.append_nil] at leads
  rw [Machine.resolve, Path.child_of_relative relative] at resolved
  cases clean : Path.hasNul ⟨c.workspace.slashes, c.workspace.parts ++ (Path.ofString below).parts⟩ with
  | true =>
    rw [Node.resolve, if_pos clean] at resolved
    cases resolved
  | false =>
    have fromRoot : Node.linkStart m.cwd
        ⟨c.workspace.slashes, c.workspace.parts ++ (Path.ofString below).parts⟩ = [] := if_pos absolute
    rw [Node.resolve_of_leads clean (fromRoot.symm ▸ plain.append leads)] at resolved
    cases resolved
    exact ⟨more, rfl⟩

theorem run_apply (params : Entries) (c : Context) (m : Machine) :
    run params c m = match (Entries.valueAt params "path").textOr m.room "." with
      | .error f => (.error f, m)
      | .ok below => (Act.resolve (c.workspace.child below) >>= bring params c.env) m := by
  unfold run Value.textOr
  dsimp only
  by_cases given : (Entries.valueAt params "path").isTruthy = true
  · rw [if_pos given, if_pos given, Act.text, bind_apply, bind_of_ok (get_apply m), ofExcept_apply]
    cases (Entries.valueAt params "path").asText m.room <;> rfl
  · rw [if_neg given, if_neg given]
    rfl

/-- A checkout makes directories, starts git and clones only in its workspace and below it, if its path
does not lead out of there, whatever git answers and writes. -/
theorem run_confined {node : Node} (absolute : c.workspace.isAbsolute = true)
    (plain : Node.Leads m.files [] c.workspace.parts place 0) (there : m.files.get? place = some node)
    (linkless : node.linkCount = 0) (stays : StaysInside place params c m) :
    Confined place m (run params c m).2 := by
  rw [run_apply]
  cases given : (Entries.valueAt params "path").textOr m.room "." with
  | error f => exact ⟨[], .stayed m⟩
  | ok below =>
    dsimp only
    rw [bind_apply, Act.resolve_apply]
    cases resolved : m.resolve (c.workspace.child below) with
    | error f => exact ⟨[], .stayed m⟩
    | ok target =>
      have inside : place <+: target := by
        rcases stays below given with ⟨relative, falls⟩ | ⟨other, same, inside⟩
        · exact resolve_inside absolute plain there linkless relative falls resolved
        · cases same.symm.trans resolved
          exact inside
      exact (bring_acts inside c.env m (Node.present_of_get? there)).1

/-- A workspace with a directory in it, and next to it nothing but temporary files. -/
def lone : Machine where
  files := .dir [("ws", .dir [("src", .emptyDir)]), ("tmp", .emptyDir)]
  cwd := ["ws"]
  temp := ["tmp"]

def loneContext : Context where
  workspace := Path.ofLocation ["ws"]

def cloneTo (path : String) : Entries :=
  [(.text "repository", .scalar (.text "https://forge/lib.git")), (.text "path", .scalar (.text path))]

/-- A path may go up again as long as it stays inside. The directory is made, and git is asked there. -/
theorem run_confined_upwards :
    Confined ["ws"] lone (run (cloneTo "src/../lib") loneContext lone).2 ∧
      (run (cloneTo "src/../lib") loneContext lone).2.files.entryAt ["ws", "lib"] = some .dir ∧
      (run (cloneTo "src/../lib") loneContext lone).2.calls.length = 2 := by
  refine ⟨run_confined (by decide) ?_ rfl (by decide) ?_, by decide +kernel, by decide +kernel⟩
  · exact .down (by decide) (by intro target linked; cases linked) (.here _)
  · intro below given
    have same : (Entries.valueAt (cloneTo "src/../lib") "path").textOr lone.room "." = .ok "src/../lib" :=
      eq_ok_of_toOption (by decide +kernel)
    cases same.symm.trans given
    exact Or.inl ⟨by decide +kernel, by decide +kernel⟩

/-- A path that climbs above the workspace is made and cloned to all the same. -/
theorem run_not_confined :
    ¬ Confined ["ws"] lone (run (cloneTo "../out") loneContext lone).2 := by
  rintro ⟨changes, footprint⟩
  obtain ⟨made, added, kind⟩ := footprint.adds.calls
  have told : (run (cloneTo "../out") loneContext lone).2.calls.filterMap Call.program? =
      [(["git", "clone", "https://forge/lib.git", "/out"], none),
        (["git", "rev-parse", "HEAD"], some "/out")] := by decide +kernel
  have cloned := List.mem_filterMap.mp (told ▸ List.mem_cons_self)
  obtain ⟨call, member, program⟩ := cloned
  rw [added] at member
  obtain ⟨args, cwd, same, starts⟩ := kind call (by simpa [lone] using member)
  cases program.symm.trans same
  obtain ⟨source, _, ⟨more, rfl⟩, clone⟩ := starts
  simp only [List.cons.injEq, and_true, true_and, List.singleton_append] at clone
  have first := Location.prefix_text "ws" more
  rw [← clone.2] at first
  revert first
  decide

end Checkout
end LocalCI
