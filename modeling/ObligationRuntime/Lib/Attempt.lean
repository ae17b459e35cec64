/-
  ObligationRuntime.Lib.Attempt — computations that may raise, and leave a state either way.

  A computation reads and changes a state; when it raises, what it did to the state stays.
  `within enter leave x` is `enter; try: x finally: leave`.

  A computation that undoes what it does is one without a state: `Gives x s r` says that
  from `s` it comes to `r` and leaves `s` as it was.

  Main results:
    * `Gives.bind`, `Gives.foldlM` — steps that leave the state, one after the other,
    * `Gives.within` — what is entered and left again.
-/
import ObligationRuntime.Lib.Schema

/-- A computation over a state: a result or an exception, and the state after it. -/
def Attempt (σ E α : Type) : Type := σ → Except E α × σ

namespace Attempt

variable {σ E α β : Type}

instance : Monad (Attempt σ E) where
  pure a := fun s => (.ok a, s)
  bind x f := fun s =>
    match x s with
    | (.ok a, s') => f a s'
    | (.error e, s') => (.error e, s')

instance : MonadExceptOf E (Attempt σ E) where
  throw e := fun s => (.error e, s)
  tryCatch x handle := fun s =>
    match x s with
    | (.ok a, s') => (.ok a, s')
    | (.error e, s') => handle e s'

/-- A computation that does not look at the state. -/
def lift (x : Except E α) : Attempt σ E α := fun s => (x, s)

/-- The state. -/
def get : Attempt σ E σ := fun s => (.ok s, s)

/-- Change the state. -/
def modify (f : σ → σ) : Attempt σ E Unit := fun s => (.ok (), f s)

/-- `enter; try: x finally: leave`. -/
def within (enter leave : σ → σ) (x : Attempt σ E α) : Attempt σ E α := fun s =>
  let r := x (enter s)
  (r.1, leave r.2)

/-! ## §1. Running. -/

/-- An attempt that gives a value goes on with it, -/
theorem bind_ok {x : Attempt σ E α} {s s' : σ} {a : α} (h : x s = (.ok a, s'))
    (f : α → Attempt σ E β) : (x >>= f) s = f a s' := by
  show (match x s with
    | (.ok a, s') => f a s'
    | (.error e, s') => (.error e, s')) = _
  rw [h]

/-- and one that raises ends, with the state it reached. -/
theorem bind_error {x : Attempt σ E α} {s s' : σ} {e : E} (h : x s = (.error e, s'))
    (f : α → Attempt σ E β) : (x >>= f) s = (.error e, s') := by
  show (match x s with
    | (.ok a, s') => f a s'
    | (.error e, s') => (.error e, s')) = _
  rw [h]

/-- A computation without state leaves the state, -/
theorem lift_ok {x : Except E α} {a : α} (h : x = .ok a) (s : σ) : lift x s = (.ok a, s) :=
  congrArg (fun r => (r, s)) h

/-- also where it fails. -/
theorem lift_error {x : Except E α} {e : E} (h : x = .error e) (s : σ) :
    lift x s = (.error e, s) :=
  congrArg (fun r => (r, s)) h

/-! ## §2. Computations that leave the state. -/

/-- From `s` the computation comes to `r`, and leaves `s`. -/
def Gives (x : Attempt σ E α) (s : σ) (r : Except E α) : Prop := x s = (r, s)

variable {s : σ}

theorem gives_pure (a : α) : Gives (pure a : Attempt σ E α) s (pure a) := rfl

theorem gives_throw (e : E) : Gives (throw e : Attempt σ E α) s (throw e) := rfl

theorem gives_lift (x : Except E α) : Gives (lift x) s x := rfl

/-- One step after the other. -/
theorem Gives.bind {x : Attempt σ E α} {r : Except E α} {f : α → Attempt σ E β}
    {g : α → Except E β} (hx : Gives x s r) (hf : ∀ a, r = .ok a → Gives (f a) s (g a)) :
    Gives (x >>= f) s (r >>= g) := by
  cases r with
  | error e => exact bind_error hx f
  | ok a => exact (bind_ok hx f).trans (hf a rfl)

/-- A step for every element of a list. -/
theorem Gives.foldlM {f : β → α → Attempt σ E β} {g : β → α → Except E β} {xs : List α}
    (hf : ∀ b, ∀ a ∈ xs, Gives (f b a) s (g b a)) (b : β) :
    Gives (xs.foldlM f b) s (xs.foldlM g b) := by
  induction xs generalizing b with
  | nil => exact gives_pure b
  | cons a xs ih =>
      rw [List.foldlM_cons, List.foldlM_cons]
      refine (hf b a (List.mem_cons_self ..)).bind fun b' _ => ?_
      exact ih (fun c d hd => hf c d (List.mem_cons_of_mem _ hd)) b'

/-- What is entered and left again. -/
theorem Gives.within {enter leave : σ → σ} {x : Attempt σ E α} {r : Except E α}
    (hx : Gives x (enter s) r) (h : leave (enter s) = s) : Gives (within enter leave x) s r := by
  show ((x (enter s)).1, leave (x (enter s)).2) = (r, s)
  rw [hx]
  exact congrArg (Prod.mk r) h

end Attempt
