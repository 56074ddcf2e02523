import LocalCI.Fault

/-! Computations that change a state and may fail. A failure keeps the changes made before it. -/
namespace LocalCI

def Attempt (σ α : Type) : Type := σ → Except Fault α × σ

namespace Attempt

variable {σ τ α β : Type}

def run (x : Attempt σ α) (s : σ) : Except Fault α × σ := x s

instance : Monad (Attempt σ) where
  pure a := fun s => (.ok a, s)
  bind x f := fun s =>
    match x s with
    | (.ok a, t) => f a t
    | (.error e, t) => (.error e, t)

instance : MonadExceptOf Fault (Attempt σ) where
  throw e := fun s => (.error e, s)
  tryCatch x handle := fun s =>
    match x s with
    | (.ok a, t) => (.ok a, t)
    | (.error e, t) => handle e t

instance : MonadStateOf σ (Attempt σ) where
  get := fun s => (.ok s, s)
  set s := fun _ => (.ok (), s)
  modifyGet f := fun s => (.ok (f s).1, (f s).2)

/-- A result that needs no state. -/
def ofExcept (r : Except Fault α) : Attempt σ α := fun s => (r, s)

/-- Makes a last change to the state whether the attempt succeeds or fails. -/
def ensuring (x : Attempt σ α) (last : σ → σ) : Attempt σ α := fun s => ((x s).1, last (x s).2)

/-- Turns failures into values. -/
def attempt (x : Attempt σ α) : Attempt σ (Except Fault α) := fun s => (.ok (x s).1, (x s).2)

/-- Runs an attempt on a part of the state. -/
def focus (get : τ → σ) (set : τ → σ → τ) (x : Attempt σ α) : Attempt τ α := fun t =>
  ((x (get t)).1, set t (x (get t)).2)

end Attempt
end LocalCI
