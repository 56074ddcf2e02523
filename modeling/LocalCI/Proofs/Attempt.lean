import LocalCI.Attempt
import Mathlib.Order.Defs.Unbundled

/-! Opening attempts: what a successful one went through, and what every one of them does to its
state whether it succeeds or fails. -/
namespace LocalCI

namespace Fault

/-- A field has not the type that it is declared with. -/
def isBadField : Fault → Bool
  | .notPath _ => true
  | .notStep _ => true
  | .namelessStep _ => true
  | _ => false

/-- A fault that the tool itself ends with where every field is what it is declared to be. -/
def isPlain (f : Fault) : Bool := f.isOrdinary && !f.isBadField

end Fault

/-- Whatever the result is refused with is of the kind. -/
def Refuses {α : Type} (P : Fault → Prop) (r : Except Fault α) : Prop := ∀ f, r = .error f → P f

namespace Refuses

variable {α β : Type} {P : Fault → Prop}

theorem ok (a : α) : Refuses P (.ok a) := nofun

theorem error {f : Fault} (kind : P f) : Refuses P (.error f : Except Fault α) := by
  rintro _ ⟨⟩
  exact kind

theorem mono {Q : Fault → Prop} {r : Except Fault α} (weaker : ∀ f, P f → Q f) (refuses : Refuses P r) :
    Refuses Q r := fun f failed => weaker f (refuses f failed)

theorem bind {r : Except Fault α} {f : α → Except Fault β} (first : Refuses P r)
    (rest : ∀ a, r = .ok a → Refuses P (f a)) : Refuses P (r >>= f) := by
  cases r with
  | error e =>
    rintro _ ⟨⟩
    exact first e rfl
  | ok a => exact rest a rfl

theorem map {r : Except Fault α} (first : Refuses P r) (f : α → β) : Refuses P (r.map f) := by
  cases r with
  | error e =>
    rintro _ ⟨⟩
    exact first e rfl
  | ok a => exact .ok _

theorem mapM {f : α → Except Fault β} {items : List α} (each : ∀ a ∈ items, Refuses P (f a)) :
    Refuses P (items.mapM f) := by
  induction items with
  | nil => exact .ok []
  | cons a items ih =>
    rw [List.mapM_cons]
    refine .bind (each a List.mem_cons_self) fun _ _ => .bind (ih ?_) fun _ _ => .ok _
    exact fun b member => each b (List.mem_cons_of_mem _ member)

theorem foldlM {f : β → α → Except Fault β} {items : List α}
    (each : ∀ b, ∀ a ∈ items, Refuses P (f b a)) (start : β) : Refuses P (items.foldlM f start) := by
  induction items generalizing start with
  | nil => exact .ok start
  | cons a items ih =>
    rw [List.foldlM_cons]
    refine .bind (each start a List.mem_cons_self) fun b _ => ih (fun b c member => ?_) b
    exact each b c (List.mem_cons_of_mem _ member)

end Refuses

namespace Attempt

variable {σ τ α β : Type}

@[simp] theorem pure_apply (a : α) (s : σ) : (pure a : Attempt σ α) s = (.ok a, s) := rfl

@[simp] theorem throw_apply (f : Fault) (s : σ) : (throw f : Attempt σ α) s = (.error f, s) := rfl

@[simp] theorem get_apply (s : σ) : (get : Attempt σ σ) s = (.ok s, s) := rfl

@[simp] theorem set_apply (s t : σ) : (set t : Attempt σ PUnit) s = (.ok (), t) := rfl

@[simp] theorem modify_apply (f : σ → σ) (s : σ) : (modify f : Attempt σ PUnit) s = (.ok (), f s) := rfl

@[simp] theorem ofExcept_apply (r : Except Fault α) (s : σ) : ofExcept r s = (r, s) := rfl

@[simp] theorem attempt_apply (x : Attempt σ α) (s : σ) : attempt x s = (.ok (x s).1, (x s).2) := rfl

theorem bind_apply (x : Attempt σ α) (f : α → Attempt σ β) (s : σ) :
    (x >>= f) s = match x s with
      | (.ok a, t) => f a t
      | (.error e, t) => (.error e, t) := rfl

theorem tryCatch_apply (x : Attempt σ α) (handle : Fault → Attempt σ α) (s : σ) :
    tryCatch x handle s = match x s with
      | (.ok a, t) => (.ok a, t)
      | (.error e, t) => handle e t := rfl

theorem bind_of_ok {x : Attempt σ α} {f : α → Attempt σ β} {s t : σ} {a : α}
    (first : x s = (.ok a, t)) : (x >>= f) s = f a t := by
  rw [bind_apply, first]

theorem bind_of_error {x : Attempt σ α} {f : α → Attempt σ β} {s t : σ} {e : Fault}
    (first : x s = (.error e, t)) : (x >>= f) s = (.error e, t) := by
  rw [bind_apply, first]

theorem bind_eq_ok {x : Attempt σ α} {f : α → Attempt σ β} {s u : σ} {b : β} :
    (x >>= f) s = (.ok b, u) ↔ ∃ a t, x s = (.ok a, t) ∧ f a t = (.ok b, u) := by
  rw [bind_apply]
  constructor
  · intro done
    split at done
    next a t first => exact ⟨a, t, first, done⟩
    next => cases done
  · rintro ⟨a, t, first, done⟩
    rw [first]
    exact done

theorem bind_eq_error {x : Attempt σ α} {f : α → Attempt σ β} {s u : σ} {e : Fault} :
    (x >>= f) s = (.error e, u) ↔
      x s = (.error e, u) ∨ ∃ a t, x s = (.ok a, t) ∧ f a t = (.error e, u) := by
  rw [bind_apply]
  constructor
  · intro failed
    split at failed
    next a t first => exact Or.inr ⟨a, t, first, failed⟩
    next f t first =>
      cases failed
      exact Or.inl first
  · rintro (failed | ⟨a, t, first, failed⟩)
    · rw [failed]
    · rw [first]
      exact failed

theorem ofExcept_eq_ok {r : Except Fault α} {s t : σ} {a : α} :
    ofExcept r s = (.ok a, t) ↔ r = .ok a ∧ s = t := by
  rw [ofExcept_apply, Prod.mk.injEq]

theorem attempt_eq_ok {x : Attempt σ α} {s t : σ} {outcome : Except Fault α} :
    attempt x s = (.ok outcome, t) ↔ x s = (outcome, t) := by
  rw [attempt_apply, Prod.mk.injEq, Except.ok.injEq, Prod.ext_iff]

/-- A success can be checked by evaluation, where a fault cannot be compared. -/
theorem eq_ok_of_toOption {r : Except Fault α} {a : α} (succeeds : r.toOption = some a) : r = .ok a := by
  cases r with
  | error f => cases succeeds
  | ok b => exact congrArg Except.ok (Option.some.inj succeeds)

theorem ended_of_toOption {ended : Except Fault α × σ} {a : α} (succeeds : ended.1.toOption = some a) :
    ended = (.ok a, ended.2) := by
  rw [← eq_ok_of_toOption succeeds]

/-- What a success shows can be checked by evaluation, where its value cannot be compared. -/
theorem exists_ok_of_seen {β : Type} {ended : Except Fault α × σ} {see : α → β} {seen : β}
    (shown : ended.1.toOption.map see = some seen) : ∃ a s, ended = (.ok a, s) ∧ see a = seen := by
  obtain ⟨a, succeeds, same⟩ := Option.map_eq_some_iff.mp shown
  exact ⟨a, ended.2, ended_of_toOption succeeds, same⟩

theorem ensuring_apply (x : Attempt σ α) (last : σ → σ) (s : σ) :
    x.ensuring last s = ((x s).1, last (x s).2) := rfl

theorem pure_bind_eq (a : α) (f : α → Attempt σ β) : pure a >>= f = f a := rfl

theorem bind_bind {γ : Type} (x : Attempt σ α) (f : α → Attempt σ β) (g : β → Attempt σ γ) :
    x >>= f >>= g = x >>= fun a => f a >>= g := by
  funext s
  simp only [bind_apply]
  cases x s with
  | mk outcome t => cases outcome <;> rfl

theorem map_bind {γ : Type} (g : γ → α) (x : Attempt σ γ) (f : α → Attempt σ β) :
    g <$> x >>= f = x >>= fun c => f (g c) := bind_bind x _ f

/-- One after another fails with the first that fails. -/
theorem forM_eq_error {γ : Type} {act : γ → Attempt σ PUnit} {items : List γ} {s u : σ} {e : Fault} :
    items.forM act s = (.error e, u) ↔ ∃ before item after t, items = before ++ item :: after ∧
      before.forM act s = (.ok (), t) ∧ act item t = (.error e, u) := by
  induction items generalizing s with
  | nil =>
    constructor
    · nofun
    · rintro ⟨before, item, after, t, parts, -⟩
      simp at parts
  | cons first rest ih =>
    have cons : (first :: rest).forM act = act first >>= fun _ => rest.forM act := rfl
    rw [cons, bind_eq_error]
    constructor
    · rintro (failed | ⟨a, t, went, failed⟩)
      · exact ⟨[], first, rest, s, rfl, rfl, failed⟩
      · obtain ⟨before, item, after, t', rfl, through, failed⟩ := ih.mp failed
        exact ⟨first :: before, item, after, t', rfl, bind_eq_ok.mpr ⟨a, t, went, through⟩, failed⟩
    · rintro ⟨before, item, after, t, parts, through, failed⟩
      cases before with
      | nil =>
        obtain ⟨rfl, rfl⟩ := List.cons.inj parts
        cases through
        exact Or.inl failed
      | cons other before =>
        obtain ⟨rfl, rfl⟩ := List.cons.inj parts
        obtain ⟨a, t', went, through⟩ := bind_eq_ok.mp through
        exact Or.inr ⟨a, t', went, ih.mpr ⟨before, item, after, t, rfl, through, failed⟩⟩

/-- What a failed attempt fails with. -/
def fault? : Except Fault α → Option Fault
  | .ok _ => none
  | .error f => some f

/-- Every run of the attempt is as the relation says of its start, its fault and its end. -/
def Conducts (R : σ → Option Fault → σ → Prop) (x : Attempt σ α) : Prop :=
  ∀ s, R s (fault? (x s).1) (x s).2

/-- A relation that can be told of attempts part by part. It holds where nothing is done and where the
tool fails by itself, it is passed on to what follows, also after such a failure was handled, and a last
change makes no difference to the fault. -/
class Conduct (R : σ → Option Fault → σ → Prop) : Prop where
  stays : ∀ s, R s none s
  fails : ∀ {f : Fault} (s : σ), f.isPlain = true → R s (some f) s
  goesOn : ∀ {s t u : σ} {e e' : Option Fault}, (∀ f ∈ e, f.isPlain = true) → R s e t → R t e' u →
    R s e' u
  closes : ∀ {s t u : σ} {e : Option Fault}, R s e t → R t none u → R s e u

namespace Conducts

variable {R : σ → Option Fault → σ → Prop} {x : Attempt σ α} {f : α → Attempt σ β}

theorem ended (first : Conducts R x) {s t : σ} {outcome : Except Fault α}
    (done : x s = (outcome, t)) : R s (fault? outcome) t := by
  have move := first s
  rwa [done] at move

theorem modify {f : σ → σ} (step : ∀ s, R s none (f s)) :
    Conducts R (modify f : Attempt σ PUnit) := step

theorem focus {S : τ → Option Fault → τ → Prop} {inner : τ → σ} {put : τ → σ → τ}
    (first : Conducts R x) (lift : ∀ t e s, R (inner t) e s → S t e (put t s)) :
    Conducts S (x.focus inner put) := fun t => lift t _ _ (first (inner t))

variable [Conduct R]

theorem pure (a : α) : Conducts R (pure a : Attempt σ α) := fun s => Conduct.stays s

theorem get : Conducts R (get : Attempt σ σ) := fun s => Conduct.stays s

theorem throw {e : Fault} (plain : e.isPlain = true) : Conducts R (throw e : Attempt σ α) := fun s =>
  Conduct.fails s plain

theorem ofExcept {r : Except Fault α} (refuses : Refuses (fun e => e.isPlain = true) r) :
    Conducts R (ofExcept r : Attempt σ α) := fun s => by
  cases r with
  | ok a => exact Conduct.stays s
  | error e => exact Conduct.fails s (refuses e rfl)

theorem bind (first : Conducts R x) (rest : ∀ a, Conducts R (f a)) : Conducts R (x >>= f) := by
  intro s
  rw [bind_apply]
  split
  next a t done =>
    have before : R s none t := first.ended done
    exact Conduct.goesOn (e := none) (by simp) before (rest a t)
  next e t failed => exact first.ended failed

/-- A fault that is not the tool's own has to go on. -/
theorem tryCatch {handle : Fault → Attempt σ α} (first : Conducts R x)
    (rest : ∀ e, handle e = MonadExcept.throw e ∨ e.isPlain = true ∧ Conducts R (handle e)) :
    Conducts R (tryCatch x handle) := by
  intro s
  rw [tryCatch_apply]
  split
  next a t done => exact first.ended done
  next e t failed =>
    have before : R s (some e) t := first.ended failed
    rcases rest e with passes | ⟨plain, conducts⟩
    · rw [passes]
      exact before
    · refine Conduct.goesOn ?_ before (conducts t)
      rintro f ⟨⟩
      exact plain

theorem ensuring {last : σ → σ} (first : Conducts R x) (step : ∀ s, R s none (last s)) :
    Conducts R (x.ensuring last) := fun s => Conduct.closes (first s) (step _)

theorem forM {γ : Type} {act : γ → Attempt σ PUnit} (each : ∀ c, Conducts R (act c)) (items : List γ) :
    Conducts R (items.forM act) := by
  induction items with
  | nil => exact .pure _
  | cons item rest ih => exact (each item).bind fun _ => ih

end Conducts

/-- Whatever comes of the attempt, the state moves along the relation. -/
abbrev Follows (R : σ → σ → Prop) (x : Attempt σ α) : Prop := Conducts (fun s _ t => R s t) x

instance {R : σ → σ → Prop} [IsPreorder σ R] : Conduct (fun s (_ : Option Fault) t => R s t) where
  stays s := refl_of R s
  fails s _ := refl_of R s
  goesOn _ first rest := trans_of R first rest
  closes first last := trans_of R first last

namespace Follows

variable {R : σ → σ → Prop} {x : Attempt σ α} {f : α → Attempt σ β}

theorem ended (first : Follows R x) {s t : σ} {outcome : Except Fault α}
    (done : x s = (outcome, t)) : R s t := Conducts.ended first done

theorem modify {f : σ → σ} (step : ∀ s, R s (f s)) : Follows R (modify f : Attempt σ PUnit) := step

theorem attempt (first : Follows R x) : Follows R x.attempt := first

theorem focus {S : τ → τ → Prop} {inner : τ → σ} {put : τ → σ → τ} (first : Follows R x)
    (lift : ∀ t s, R (inner t) s → S t (put t s)) : Follows S (x.focus inner put) :=
  Conducts.focus first fun t _ s => lift t s

theorem mono {S : σ → σ → Prop} (weaker : ∀ s t, R s t → S s t) (first : Follows R x) :
    Follows S x := fun s => weaker s _ (first s)

variable [IsPreorder σ R]

theorem pure (a : α) : Follows R (pure a : Attempt σ α) := Conducts.pure a

-- A relation of states alone does not ask which fault it is.
theorem throw (f : Fault) : Follows R (throw f : Attempt σ α) := fun s => refl_of R s

theorem get : Follows R (get : Attempt σ σ) := Conducts.get

theorem ofExcept (r : Except Fault α) : Follows R (ofExcept r : Attempt σ α) := fun s => refl_of R s

theorem bind (first : Follows R x) (rest : ∀ a, Follows R (f a)) : Follows R (x >>= f) :=
  Conducts.bind first rest

theorem tryCatch {handle : Fault → Attempt σ α} (first : Follows R x)
    (rest : ∀ e, Follows R (handle e)) : Follows R (tryCatch x handle) := by
  intro s
  rw [tryCatch_apply]
  split
  next a t done => exact first.ended done
  next e t failed => exact trans_of R (first.ended failed) (rest e t)

theorem forM {γ : Type} {act : γ → Attempt σ PUnit} (each : ∀ c, Follows R (act c)) (items : List γ) :
    Follows R (items.forM act) := Conducts.forM each items

end Follows

/-- Whatever the attempt fails with is of the kind. -/
abbrev Fails (P : Fault → Prop) (x : Attempt σ α) : Prop := Conducts (fun _ e _ => ∀ f ∈ e, P f) x

namespace Fails

variable {P Q : Fault → Prop} {x : Attempt σ α} {f : α → Attempt σ β}

theorem refuses (fails : Fails P x) (s : σ) : Refuses P (x s).1 := by
  intro e failed
  have kind := fails s
  rw [failed] at kind
  exact kind e rfl

theorem of_refuses (refuses : ∀ s, Refuses P (x s).1) : Fails P x := by
  intro s e failed
  refine refuses s e ?_
  cases ended : (x s).1 with
  | ok a => simp [fault?, ended] at failed
  | error e' =>
    rw [ended] at failed
    exact congrArg _ (Option.some.inj failed)

/-- What the attempt failed with is of the kind. -/
theorem kind (fails : Fails P x) {s t : σ} {e : Fault} (failed : x s = (.error e, t)) : P e :=
  fails.ended failed e rfl

theorem pure (a : α) : Fails P (pure a : Attempt σ α) := fun _ _ none => by cases none

theorem get : Fails P (get : Attempt σ σ) := fun _ _ none => by cases none

theorem modify (change : σ → σ) : Fails P (modify change : Attempt σ PUnit) :=
  fun _ _ none => by cases none

theorem throw {e : Fault} (kind : P e) : Fails P (throw e : Attempt σ α) := by
  rintro _ _ ⟨⟩
  exact kind

theorem ofExcept {r : Except Fault α} (refuses : Refuses P r) : Fails P (ofExcept r : Attempt σ α) :=
  of_refuses fun _ => refuses

theorem focus {inner : τ → σ} {put : τ → σ → τ} (first : Fails P x) : Fails P (x.focus inner put) :=
  Conducts.focus first fun _ _ _ kind => kind

theorem mono (weaker : ∀ f, P f → Q f) (first : Fails P x) : Fails Q x := fun s e failed =>
  weaker e (first s e failed)

theorem bind (first : Fails P x) (rest : ∀ a, Fails P (f a)) : Fails P (x >>= f) := by
  intro s
  rw [bind_apply]
  split
  next a t _ => exact rest a t
  next e t failed => exact first.ended failed

/-- A handler is given what the attempt before it fails with. -/
theorem tryCatch {handle : Fault → Attempt σ α} (first : Fails Q x)
    (rest : ∀ e, Q e → Fails P (handle e)) : Fails P (tryCatch x handle) := by
  intro s
  rw [tryCatch_apply]
  split
  next a t _ => exact fun _ none => by cases none
  next e t failed => exact rest e (first.kind failed) t

theorem attempt_bind {next : Except Fault α → Attempt σ β} (first : Fails Q x)
    (rest : ∀ r, Refuses Q r → Fails P (next r)) : Fails P (x.attempt >>= next) := fun s =>
  rest _ (first.refuses s) _

end Fails

/-- Every run of the attempt is as the relation says of its start, its outcome and its end. -/
def Ends (R : σ → Except Fault α → σ → Prop) (x : Attempt σ α) : Prop := ∀ s, R s (x s).1 (x s).2

/-- What comes first moves the state in a way that the relation does not see, whether it fails or is
followed by the rest. -/
theorem Ends.after {K : σ → σ → Prop} {R : σ → Except Fault β → σ → Prop} {x : Attempt σ α}
    {f : α → Attempt σ β} (fails : ∀ {s t e}, K s t → R s (.error e) t)
    (absorbs : ∀ {s t outcome u}, K s t → R t outcome u → R s outcome u)
    (first : Follows K x) (rest : ∀ a, Ends R (f a)) : Ends R (x >>= f) := by
  intro s
  rw [bind_apply]
  split
  next a t done => exact absorbs (first.ended done) (rest a t)
  next e t failed => exact fails (first.ended failed)

section Still

variable {x : Attempt σ α} {s : σ}

/-- An attempt that leaves the state alone only decides what follows. -/
theorem of_still_bind {f : α → Attempt σ β} {P : σ → Prop} (first : Follows Eq x) (stays : P s)
    (rest : ∀ a, P (f a s).2) : P ((x >>= f) s).2 := by
  rw [bind_apply]
  cases done : x s with
  | mk outcome t =>
    obtain rfl : s = t := first.ended done
    cases outcome with
    | ok a => exact rest a
    | error e => exact stays

theorem snd_bind_still {f : α → Attempt σ β} (rest : ∀ a, Follows Eq (f a)) :
    ((x >>= f) s).2 = (x s).2 := by
  rw [bind_apply]
  cases x s with
  | mk outcome t =>
    cases outcome with
    | ok a => exact (rest a t).symm
    | error e => rfl

theorem snd_tryCatch_still {handle : Fault → Attempt σ α} (rest : ∀ e, Follows Eq (handle e)) :
    (tryCatch x handle s).2 = (x s).2 := by
  rw [tryCatch_apply]
  cases x s with
  | mk outcome t =>
    cases outcome with
    | ok a => rfl
    | error e => exact (rest e t).symm

end Still
end Attempt
end LocalCI
