/-
  ObligationRuntime.Lib.EarlyReturn — loops that return from the middle.

  `first gates` is a sequence of tests each of which may raise, settle the
  question, or pass it on.  `scan step done` is a loop over a list with a state:
  every element may raise, return, or move the state.

  Main results:
    * `first_none_iff`, `first_some_iff` — who passed and who answered,
    * `first_append` — a sequence asked in two parts,
    * `scan_total`, `scan_result` — when a loop returns, and what it can return,
    * `scan_append` — a loop over a list in two parts.
-/
import Mathlib.Data.List.Basic

namespace EarlyReturn

variable {E V σ α δ : Type}

/-! ## §1. A sequence of tests. -/

/-- Ask the tests in order: the first that raises or answers settles it. -/
def first : List (Except E (Option V)) → Except E (Option V)
  | [] => .ok none
  | .error e :: _ => .error e
  | .ok (some v) :: _ => .ok (some v)
  | .ok none :: gs => first gs

@[simp] theorem first_nil : first ([] : List (Except E (Option V))) = .ok none := rfl

@[simp] theorem first_error (e : E) (gs : List (Except E (Option V))) :
    first (.error e :: gs) = .error e := rfl

@[simp] theorem first_some (v : V) (gs : List (Except E (Option V))) :
    first (.ok (some v) :: gs) = .ok (some v) := rfl

@[simp] theorem first_pass (gs : List (Except E (Option V))) :
    first (.ok none :: gs) = first gs := rfl

/-- The first test of a sequence that came to an answer, or to none. -/
theorem first_cons_ok {g : Except E (Option V)} {gs : List (Except E (Option V))} {v : Option V}
    (h : first (g :: gs) = .ok v) :
    (∃ w, g = .ok (some w) ∧ v = some w) ∨ (g = .ok none ∧ first gs = .ok v) := by
  match g with
  | .error e => cases h
  | .ok (some w) => exact .inl ⟨w, rfl, (Except.ok.inj h).symm⟩
  | .ok none => exact .inr ⟨rfl, h⟩

/-- No answer: every test passed. -/
theorem first_none_iff {gs : List (Except E (Option V))} :
    first gs = .ok none ↔ ∀ g ∈ gs, g = .ok none := by
  induction gs with
  | nil => simp
  | cons g gs ih =>
      match g with
      | .error e => simp
      | .ok (some v) => simp
      | .ok none => simp [ih]

/-- **Who answered**: a test that all the tests before it passed on to. -/
theorem first_some_iff {gs : List (Except E (Option V))} {v : V} :
    first gs = .ok (some v) ↔
      ∃ pre post, gs = pre ++ .ok (some v) :: post ∧ ∀ g ∈ pre, g = .ok none := by
  induction gs with
  | nil => simp
  | cons g gs ih =>
      match g with
      | .error e =>
          -- A test that raises would have to be in `pre`, where every test passed.
          simp only [first_error, reduceCtorEq, false_iff, not_exists, not_and]
          intro pre post h
          cases pre with
          | nil => simp at h
          | cons p pre =>
              obtain ⟨rfl, -⟩ := List.cons.inj h
              intro hp
              simpa using hp _ (List.mem_cons_self ..)
      | .ok (some w) =>
          constructor
          · intro h
            obtain rfl : w = v := by simpa using h
            -- Nothing was asked before it.
            exact ⟨[], gs, rfl, by simp⟩
          · intro hyp
            obtain ⟨pre, post, h, hp⟩ := hyp
            cases pre with
            | nil => simpa using (List.cons.inj h).1
            | cons p pre =>
                obtain ⟨rfl, -⟩ := List.cons.inj h
                simpa using hp _ (List.mem_cons_self ..)
      | .ok none =>
          rw [first_pass, ih]
          constructor
          · intro hyp
            obtain ⟨pre, post, rfl, hp⟩ := hyp
            -- One more test passed before it.
            exact ⟨.ok none :: pre, post, rfl, by simpa using hp⟩
          · intro hyp
            obtain ⟨pre, post, h, hp⟩ := hyp
            cases pre with
            | nil => simp at h
            | cons p pre =>
                obtain ⟨rfl, rfl⟩ := List.cons.inj h
                exact ⟨pre, post, rfl, fun g hg => hp g (List.mem_cons_of_mem _ hg)⟩

/-- The answer comes from one of the tests. -/
theorem mem_of_first_some {gs : List (Except E (Option V))} {v : V}
    (h : first gs = .ok (some v)) : .ok (some v) ∈ gs := by
  obtain ⟨pre, post, rfl, -⟩ := first_some_iff.mp h
  simp

/-- A sequence in two parts: the second is asked when the first has no answer. -/
theorem first_append (gs hs : List (Except E (Option V))) :
    first (gs ++ hs) = first gs >>= fun
      | some v => .ok (some v)
      | none => first hs := by
  induction gs with
  | nil => rfl
  | cons g gs ih =>
      match g with
      | .error e => rfl
      | .ok (some v) => rfl
      | .ok none => exact ih

/-- Tests that cannot raise. -/
theorem first_map_ok (vs : List (Option V)) :
    first (vs.map (Except.ok (ε := E))) = .ok (vs.findSome? id) := by
  induction vs with
  | nil => rfl
  | cons v vs ih =>
      cases v with
      | none => simpa using ih
      | some v => rfl

/-- Tests that never raise give an answer or none. -/
theorem first_total {gs : List (Except E (Option V))} (h : ∀ g ∈ gs, ∃ v, g = .ok v) :
    ∃ v, first gs = .ok v := by
  induction gs with
  | nil => exact ⟨none, rfl⟩
  | cons g gs ih =>
      obtain ⟨v, rfl⟩ := h g (List.mem_cons_self ..)
      cases v with
      | some v => exact ⟨some v, rfl⟩
      | none => exact ih fun g hg => h g (List.mem_cons_of_mem _ hg)

/-! ## §2. A loop with a state. -/

/-- What one turn of a loop does. -/
inductive Turn (σ δ : Type) where
  | next (s : σ)
  | stop (d : δ)

/-- `for a in xs: ...; return done`. -/
def scan (step : σ → α → Except E (Turn σ δ)) (done : σ → δ) : σ → List α → Except E δ
  | s, [] => .ok (done s)
  | s, a :: as =>
      match step s a with
      | .error e => .error e
      | .ok (.stop d) => .ok d
      | .ok (.next s') => scan step done s' as

/-- A loop whose turns never raise never raises. -/
theorem scan_total {step : σ → α → Except E (Turn σ δ)} (done : σ → δ) :
    ∀ (as : List α) (s : σ), (∀ a ∈ as, ∀ s, ∃ t, step s a = .ok t) →
      ∃ d, scan step done s as = .ok d
  | [], s, _ => ⟨done s, rfl⟩
  | a :: as, s, h => by
      obtain ⟨t, ht⟩ := h a (List.mem_cons_self ..) s
      cases t with
      | stop d => exact ⟨d, by simp [scan, ht]⟩
      | next s' =>
          obtain ⟨d, hd⟩ := scan_total done as s' fun b hb =>
            h b (List.mem_cons_of_mem _ hb)
          exact ⟨d, by simp [scan, ht, hd]⟩

/-- Every value a loop returns is one of its answers. -/
theorem scan_result {step : σ → α → Except E (Turn σ δ)} {done : σ → δ} (P : δ → Prop)
    (hdone : ∀ s, P (done s)) (hstop : ∀ s a d, step s a = .ok (.stop d) → P d) :
    ∀ (as : List α) (s : σ) (d : δ), scan step done s as = .ok d → P d
  | [], s, d, h => by
      obtain rfl : done s = d := by simpa [scan] using h
      exact hdone s
  | a :: as, s, d, h => by
      rw [scan] at h
      split at h
      · cases h
      next d' ht =>
        obtain rfl : d' = d := by simpa using h
        exact hstop s a _ ht
      next s' ht => exact scan_result P hdone hstop as s' d h

/-! ## §3. A loop in two parts. -/

/-- Where a loop is after its elements: it has returned, or it is in a state. -/
def turns (step : σ → α → Except E (Turn σ δ)) : σ → List α → Except E (Turn σ δ)
  | s, [] => .ok (.next s)
  | s, a :: as =>
      match step s a with
      | .error e => .error e
      | .ok (.stop d) => .ok (.stop d)
      | .ok (.next s') => turns step s' as

/-- A loop over a list in two parts: what the first part leaves decides. -/
theorem scan_append (step : σ → α → Except E (Turn σ δ)) (done : σ → δ) (s : σ)
    (as bs : List α) :
    scan step done s (as ++ bs) = turns step s as >>= fun
      | .stop d => .ok d
      | .next s' => scan step done s' bs := by
  induction as generalizing s with
  | nil => rfl
  | cons a as ih =>
      simp only [List.cons_append, scan, turns]
      split
      · rfl
      · rfl
      next s' _ => exact ih s'

/-- A scan is its turns, and then what is done at the end. -/
theorem scan_eq_turns (step : σ → α → Except E (Turn σ δ)) (done : σ → δ) (s : σ)
    (as : List α) :
    scan step done s as = turns step s as >>= fun
      | .stop d => .ok d
      | .next s' => .ok (done s') := by
  have h := scan_append step done s as []
  rw [List.append_nil] at h
  exact h

/-- A loop that returned something else than at its end returned from the middle. -/
theorem turns_of_scan {step : σ → α → Except E (Turn σ δ)} {done : σ → δ} {s : σ}
    {as : List α} {d : δ} (h : scan step done s as = .ok d) (hd : ∀ s', d ≠ done s') :
    turns step s as = .ok (.stop d) := by
  rw [scan_eq_turns] at h
  match ht : turns step s as with
  | .error e =>
      rw [ht] at h
      cases h
  | .ok (.stop d') =>
      rw [ht] at h
      obtain rfl : d' = d := Except.ok.inj h
      rfl
  | .ok (.next s') =>
      rw [ht] at h
      exact absurd (Except.ok.inj h).symm (hd s')

/-- What a loop returned from the middle it returns of every longer list. -/
theorem scan_append_of_turns {step : σ → α → Except E (Turn σ δ)} {s : σ} {as : List α} {d : δ}
    (h : turns step s as = .ok (.stop d)) (done : σ → δ) (bs : List α) :
    scan step done s (as ++ bs) = .ok d := by
  rw [scan_append, h]
  rfl

end EarlyReturn
