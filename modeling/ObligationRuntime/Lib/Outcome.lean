/-
  ObligationRuntime.Lib.Outcome — comparing outcomes, and readers that fail in one way.

  Two outcomes are alike if both are the same result, or both are exceptions of one class;
  the texts of exceptions do not count.

  Main results:
    * `Alike.bind` — what follows does not tell alike outcomes apart,
    * `FailsInvalid.bind`, `Codec.list_failsInvalid` — readers made of readers that raise
      only `ValidationError` raise nothing else.
-/
import ObligationRuntime.Lib.Schema

namespace Py

/-! ## §1. Outcomes that are alike. -/

/-- The two exceptions are of one class. -/
def PyError.sameClass : PyError → PyError → Bool
  | .attributeError _, .attributeError _ => true
  | .typeError _, .typeError _ => true
  | .valueError _, .valueError _ => true
  | .validationError _ _, .validationError _ _ => true
  | .fileNotFoundError _, .fileNotFoundError _ => true
  | .osError _, .osError _ => true
  | .apiError _ _, .apiError _ _ => true
  | .recursionError, .recursionError => true
  | _, _ => false

/-- An error is of its own class. -/
theorem PyError.sameClass_refl (e : PyError) : e.sameClass e = true := by
  cases e <;> rfl

variable {α β : Type}

/-- The same result, or exceptions of one class. -/
inductive Alike : Except PyError α → Except PyError α → Prop
  | ok (a : α) : Alike (.ok a) (.ok a)
  | error {e e' : PyError} (h : e.sameClass e' = true) : Alike (.error e) (.error e')

/-- An outcome is like itself. -/
theorem Alike.refl (x : Except PyError α) : Alike x x := by
  cases x with
  | ok a => exact .ok a
  | error e => exact .error e.sameClass_refl

/-- What is like a result is that result. -/
theorem Alike.eq_ok {y : Except PyError α} {a : α} (h : Alike (.ok a) y) : y = .ok a := by
  cases h
  rfl

/-- What is like an exception is an exception. -/
theorem Alike.exists_error {y : Except PyError α} {e : PyError} (h : Alike (.error e) y) :
    ∃ e', y = .error e' := by
  cases h with
  | error => exact ⟨_, rfl⟩

/-- What follows does not tell alike outcomes apart. -/
theorem Alike.bind {x y : Except PyError α} (h : Alike x y) (f : α → Except PyError β) :
    Alike (x >>= f) (y >>= f) := by
  cases h with
  | ok a => exact .refl (f a)
  | error h => exact .error h

/-! ## §2. Readers that raise only `ValidationError`. -/

/-- If the reader fails, then with a `ValidationError`. -/
def FailsInvalid (x : Except PyError α) : Prop :=
  ∀ e, x = .error e → ∃ field type, e = .validationError field type

theorem failsInvalid_ok (a : α) : FailsInvalid (.ok a : Except PyError α) :=
  fun _ h => by cases h

theorem failsInvalid_error (field type : String) :
    FailsInvalid (.error (.validationError field type) : Except PyError α) :=
  fun _ h => ⟨field, type, (Except.error.inj h).symm⟩

theorem FailsInvalid.bind {x : Except PyError α} {f : α → Except PyError β}
    (hx : FailsInvalid x) (hf : ∀ a, FailsInvalid (f a)) : FailsInvalid (x >>= f) := by
  cases x with
  | ok a => exact hf a
  | error e =>
      intro e' h
      obtain rfl : e = e' := Except.error.inj h
      exact hx e rfl

/-- The reader of a field's type raises only `ValidationError`. -/
def Codec.OnlyInvalid (c : Codec α) : Prop := ∀ v, FailsInvalid (c.validate v)

/-- The check of the keys fails as invalid, -/
theorem failsInvalid_forbidExtra (fields : List String) (d : Dict) :
    FailsInvalid (forbidExtra fields d) := by
  induction d with
  | nil => exact failsInvalid_ok ()
  | cons kv d ih =>
      obtain ⟨k, v⟩ := kv
      rw [forbidExtra]
      split
      · exact ih
      · exact failsInvalid_error k "extra_forbidden"

/-- and so does what is no mapping. -/
theorem failsInvalid_asDict (v : Json) : FailsInvalid (asDict v) := by
  cases v with
  | obj d => exact failsInvalid_ok d
  | _ => exact failsInvalid_error "" "model_type"

namespace Codec

variable {c : Codec α}

/-- The place of an error does not change its class. -/
theorem failsInvalid_atField {x : Except PyError α} (h : FailsInvalid x) (k : String) :
    FailsInvalid (atField k x) := by
  intro e he
  unfold atField at he
  split at he
  · exact ⟨_, _, (Except.error.inj he).symm⟩
  · exact h e he

/-- A required field fails as invalid, -/
theorem OnlyInvalid.req (h : c.OnlyInvalid) (d : Dict) (k : String) :
    FailsInvalid (Py.req c d k) := by
  unfold Py.req
  split
  · exact failsInvalid_atField (h _) k
  · exact failsInvalid_error k "missing"

/-- and so does one with a default. -/
theorem OnlyInvalid.opt (h : c.OnlyInvalid) (d : Dict) (k : String) (default : α) :
    FailsInvalid (Py.opt c d k default) := by
  unfold Py.opt
  split
  · exact failsInvalid_atField (h _) k
  · exact failsInvalid_ok default

/-- Texts fail as invalid, -/
theorem str_onlyInvalid : str.OnlyInvalid := by
  intro v
  cases v with
  | str s => exact failsInvalid_ok s
  | _ => exact failsInvalid_error "" "string_type"

/-- booleans, -/
theorem bool_onlyInvalid : bool.OnlyInvalid := by
  intro v
  unfold bool
  dsimp only
  split
  · exact failsInvalid_ok _
  · split
    · exact failsInvalid_ok false
    · split
      · exact failsInvalid_ok true
      · exact failsInvalid_error "" "bool_parsing"
  · split
    · exact failsInvalid_ok false
    · split
      · exact failsInvalid_ok true
      · exact failsInvalid_error "" "bool_parsing"
  · split
    · exact failsInvalid_ok _
    · exact failsInvalid_error "" "bool_parsing"
  · exact failsInvalid_error "" "bool_type"

/-- the elements of a list, -/
theorem validateAll_failsInvalid (h : c.OnlyInvalid) (i : Nat) (xs : List Json) :
    FailsInvalid (validateAll c.validate i xs) := by
  induction xs generalizing i with
  | nil => exact failsInvalid_ok []
  | cons x xs ih =>
      intro e he
      rw [validateAll] at he
      split at he
      · cases he
      next hx =>
        obtain rfl := Except.error.inj he
        exact failsInvalid_atField (h x) (toString i) _ hx
      next hxs =>
        obtain rfl := Except.error.inj he
        exact ih (i + 1) _ hxs

/-- lists, -/
theorem list_onlyInvalid (h : c.OnlyInvalid) : (list c).OnlyInvalid := by
  intro v
  cases v with
  | arr xs => exact validateAll_failsInvalid h 0 xs
  | _ => exact failsInvalid_error "" "list_type"

/-- and words. -/
theorem literal_onlyInvalid {values : List α} {text : α → String}
    {h : ∀ a, values.find? (fun b => text b = text a) = some a} :
    (literal values text h).OnlyInvalid := by
  intro v
  cases v with
  | str s =>
      unfold literal
      dsimp only
      split
      · exact failsInvalid_ok _
      · exact failsInvalid_error "" "literal_error"
  | _ => exact failsInvalid_error "" "literal_error"

end Codec

end Py
