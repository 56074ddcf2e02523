import LocalCI.Proofs.FileTree.Links

/-! What can be looked up can be resolved, and to the same place. Looking a path up has a budget of
links; resolving it remembers the links that are open and stops at one that is met again. Where a path
leads is written down apart from both, with the number of links on the way. That number decides that no
open link is met again: the way through a link is longer than every way inside of it. -/
namespace LocalCI.Node

/-- Where the parts lead from a place, and over how many links. -/
inductive Leads (root : Node) : Location → List String → Location → Nat → Prop where
  | here (l : Location) : Leads root l [] l 0
  | up {here rest l n} : Leads root here.dropLast rest l n → Leads root here (".." :: rest) l n
  | down {here name rest l n} : name ≠ ".." →
      (∀ target, root.get? (here ++ [name]) ≠ some (.link target)) →
      Leads root (here ++ [name]) rest l n → Leads root here (name :: rest) l n
  | link {here name rest target middle l inside after} : name ≠ ".." →
      root.get? (here ++ [name]) = some (.link target) →
      Leads root (linkStart here (Path.ofString target)) (Path.ofString target).parts middle inside →
      Leads root middle rest l after → Leads root here (name :: rest) l (inside + 1 + after)

variable {root : Node} {here l : Location} {parts : List String} {n : Nat}

namespace Leads

theorem unique (first : Leads root here parts l n) {l' : Location} {n' : Nat}
    (second : Leads root here parts l' n') : l = l' ∧ n = n' := by
  induction first generalizing l' n' with
  | here => cases second; exact ⟨rfl, rfl⟩
  | up _ ih =>
    cases second with
    | up later => exact ih later
    | down other | link other => exact absurd rfl other
  | down other plain _ ih =>
    cases second with
    | up => exact absurd rfl other
    | down _ _ later => exact ih later
    | link _ linked => exact absurd linked (plain _)
  | link other linked _ _ inside after =>
    cases second with
    | up => exact absurd rfl other
    | down _ plain => exact absurd linked (plain _)
    | link _ linked' inside' after' =>
      cases linked.symm.trans linked'
      obtain ⟨rfl, rfl⟩ := inside inside'
      obtain ⟨rfl, rfl⟩ := after after'
      exact ⟨rfl, rfl⟩

theorem append {middle : Location} {rest : List String} {more : Nat}
    (first : Leads root here parts middle n) (later : Leads root middle rest l more) :
    Leads root here (parts ++ rest) l (n + more) := by
  induction first with
  | here => exact (Nat.zero_add more).symm ▸ later
  | up _ ih => exact .up (ih later)
  | down other plain _ ih => exact .down other plain (ih later)
  | link other linked opened _ _ ih =>
    rw [Nat.add_assoc]
    exact .link other linked opened (ih later)

theorem split {first rest : List String} (whole : Leads root here (first ++ rest) l n) :
    ∃ middle before after, Leads root here first middle before ∧ Leads root middle rest l after ∧
      n = before + after := by
  induction first generalizing here n with
  | nil => exact ⟨here, 0, n, .here _, whole, (Nat.zero_add n).symm⟩
  | cons name first ih =>
    cases whole with
    | up later =>
      obtain ⟨middle, before, after, leads, onwards, rfl⟩ := ih later
      exact ⟨middle, before, after, .up leads, onwards, rfl⟩
    | down other plain later =>
      obtain ⟨middle, before, after, leads, onwards, rfl⟩ := ih later
      exact ⟨middle, before, after, .down other plain leads, onwards, rfl⟩
    | @link _ _ _ _ _ _ inside _ other linked opened later =>
      obtain ⟨middle, before, after, leads, onwards, rfl⟩ := ih later
      exact ⟨middle, inside + 1 + before, after, .link other linked opened leads, onwards,
        by omega⟩

end Leads

theorem leads_of_descend {onLink : Location → List String → Except Unreachable Location}
    (follows : ∀ {here parts}, onLink here parts = .ok l → ∃ n, Leads root here parts l n)
    (found : descend root onLink here parts = .ok l) : ∃ n, Leads root here parts l n := by
  induction parts generalizing here with
  | nil =>
    cases found
    exact ⟨0, .here _⟩
  | cons name rest ih =>
    rw [descend] at found
    split at found
    next => cases found
    next holder there =>
      have child := get?_child root here name
      rw [there, Option.bind_some] at child
      split at found
      next => cases found
      next =>
        split at found
        next up =>
          subst up
          obtain ⟨n, leads⟩ := ih found
          exact ⟨n, .up leads⟩
        next other =>
          split at found
          next => cases found
          next =>
            split at found
            next => cases found
            next target linked =>
              -- The rest of the path is read from where the link leads.
              obtain ⟨_, leads⟩ := follows found
              obtain ⟨middle, inside, after, opened, later, _⟩ := leads.split
              exact ⟨_, .link other (child.trans linked) opened later⟩
            next plain present =>
              obtain ⟨n, leads⟩ := ih found
              refine ⟨n, .down other (fun target linked => plain target ?_) leads⟩
              exact Option.some.inj (present.symm.trans (child.symm.trans linked))

theorem leads_of_follow {budget : Nat} (found : follow root budget here parts = .ok l) :
    ∃ n, Leads root here parts l n := by
  induction budget generalizing here parts with
  | zero =>
    refine leads_of_descend ?_ found
    nofun
  | succ budget ih => exact leads_of_descend ih found

/-- The link at a place leads on over so many links. -/
def Expands (root : Node) (place : Location) (n : Nat) : Prop :=
  ∃ here name target middle, place = here ++ [name] ∧ root.get? place = some (.link target) ∧
    Leads root (linkStart here (Path.ofString target)) (Path.ofString target).parts middle n

theorem Expands.unique {place : Location} {n n' : Nat} (first : Expands root place n)
    (second : Expands root place n') : n = n' := by
  obtain ⟨here, name, target, middle, rfl, linked, leads⟩ := first
  obtain ⟨here', name', target', middle', same, linked', leads'⟩ := second
  obtain ⟨rfl, -⟩ := List.append_inj' same rfl
  cases linked.symm.trans linked'
  exact (leads.unique leads').2

/-- The links that are open on the way to a place with so many links ahead. There is fuel for every link
that is not open. -/
structure Open (root : Node) (opened : List Location) (fuel n : Nat) : Prop where
  different : opened.Nodup
  linked : ∀ place ∈ opened, ∃ target, root.get? place = some (.link target)
  ahead : ∀ place ∈ opened, ∀ inside, Expands root place inside → n ≤ inside
  fuel : root.linkCount ≤ fuel + opened.length

namespace Open

variable {opened : List Location} {fuel : Nat}

theorem mono {fewer : Nat} (isOpen : Open root opened fuel n) (less : fewer ≤ n) :
    Open root opened fuel fewer :=
  { isOpen with ahead := fun place member inside expands =>
      Nat.le_trans less (isOpen.ahead place member inside expands) }

theorem closed {place : Location} {inside : Nat} (isOpen : Open root opened fuel n)
    (expands : Expands root place inside) (less : inside < n) : place ∉ opened := fun member =>
  absurd (isOpen.ahead place member inside expands) (Nat.not_le.mpr less)

/-- A link that is opened is new, so there is fuel left for it. -/
theorem opens {place : Location} {inside : Nat} (isOpen : Open root opened fuel n)
    (expands : Expands root place inside) (less : inside < n) :
    ∃ left, fuel = left + 1 ∧ Open root (place :: opened) left inside := by
  have new := isOpen.closed expands less
  have different : (place :: opened).Nodup := List.nodup_cons.mpr ⟨new, isOpen.different⟩
  have linked : ∀ other ∈ place :: opened, ∃ target, root.get? other = some (.link target) := by
    intro other member
    rcases List.mem_cons.mp member with rfl | old
    · obtain ⟨_, _, target, _, _, linked, _⟩ := expands
      exact ⟨target, linked⟩
    · exact isOpen.linked other old
  have enough := isOpen.fuel
  have count := length_le_linkCount different linked
  rw [List.length_cons] at count
  obtain ⟨left, rfl⟩ : ∃ left, fuel = left + 1 := ⟨fuel - 1, by omega⟩
  refine ⟨left, rfl, different, linked, ?_, ?_⟩
  · intro other member count expands'
    rcases List.mem_cons.mp member with rfl | old
    · exact Nat.le_of_eq (expands.unique expands')
    · exact Nat.le_trans (Nat.le_of_lt less) (isOpen.ahead other old count expands')
  · rw [List.length_cons]
    omega

end Open

/-- A part that is resolved leaves the rest to be resolved from there. -/
theorem resolveFrom_cons {fuel : Nat} {opened : List Location} {name : String} {rest : List String}
    {middle : Location}
    (part : resolvePart root (fun link holder target =>
      if opened.contains link then ⟨link, false⟩
      else resolveFrom root fuel (link :: opened) (linkStart holder target) target.parts)
      ⟨here, true⟩ name = ⟨middle, true⟩) :
    resolveFrom root (fuel + 1) opened here (name :: rest) =
      resolveFrom root (fuel + 1) opened middle rest := by
  rw [resolveFrom, List.foldl_cons, part]
  rfl

theorem Leads.resolved (leads : Leads root here parts l n) {opened : List Location} {fuel : Nat}
    (isOpen : Open root opened fuel n) :
    resolveFrom root (fuel + 1) opened here parts = ⟨l, true⟩ := by
  induction leads generalizing opened fuel with
  | here => rfl
  | up _ ih => exact (resolveFrom_cons rfl).trans (ih isOpen)
  | @down here name rest _ _ other plain _ ih =>
    refine (resolveFrom_cons ?_).trans (ih isOpen)
    unfold resolvePart
    rw [if_neg (by simp), if_neg other]
    dsimp only
    split
    next target linked => exact absurd linked (plain target)
    next => rfl
  | @link here name rest target middle _ inside after other linked within _ ihInside ihAfter =>
    have expands : Expands root (here ++ [name]) inside :=
      ⟨here, name, target, middle, rfl, linked, within⟩
    have less : inside < inside + 1 + after := by omega
    refine (resolveFrom_cons ?_).trans (ihAfter (isOpen.mono (Nat.le_add_left _ _)))
    obtain ⟨left, rfl, inner⟩ := isOpen.opens expands less
    unfold resolvePart
    rw [if_neg (by simp), if_neg other]
    dsimp only
    rw [linked]
    dsimp only
    rw [if_neg (by simpa using isOpen.closed expands less)]
    exact ihInside inner

theorem resolve_of_leads {cwd : Location} {p : Path} (clean : p.hasNul = false)
    (leads : Leads root (linkStart cwd p) p.parts l n) : resolve root cwd p = .ok l := by
  have fresh : Open root [] root.linkCount n := ⟨.nil, nofun, nofun, Nat.le_refl _⟩
  unfold resolve
  rw [if_neg (by simp [clean])]
  dsimp only
  rw [leads.resolved fresh]
  rfl

/-- What can be looked up can be resolved, and to the same place. -/
theorem resolve_of_lookup {cwd : Location} {p : Path} (clean : p.hasNul = false)
    (found : lookup root cwd p = .ok l) : resolve root cwd p = .ok l := by
  unfold lookup at found
  split at found
  · cases found
  · obtain ⟨n, leads⟩ := leads_of_follow found
    exact resolve_of_leads clean leads

end LocalCI.Node
