/-
  ObligationRuntime.Lib.Transition — runs of a system that takes one step for each
  action, and conditions on its steps.

  `run step s as` is the state after the actions `as`.  `Meets step C s as` says
  that every step of the run meets a condition on the state before it and on the
  action; so it says of a run what `C` says of a step.

  Main results:
    * `run_invariant`, `Meets.invariant` — what every step that meets the condition
      preserves holds in every state of the run,
    * `meets_iff` — a run meets a condition exactly when each of its steps does,
      wherever the run is cut,
    * `meets_congr` — conditions that agree under an invariant,
    * `meets_iff_always` — what every step breaks that does not meet the condition,
    * `answers_simulation` — two systems whose steps answer alike,
    * `answersAt_filter` — actions that the answers of the others do not depend on.
-/
import Mathlib.Data.List.Basic

namespace Transition

variable {S A : Type}

/-! ## §1. Runs. -/

/-- The state after the actions. -/
def run (step : S → A → S) (s : S) (as : List A) : S := as.foldl step s

/-- Every step of the run meets the condition. -/
def Meets (step : S → A → S) (C : S → A → Prop) : S → List A → Prop
  | _, [] => True
  | s, a :: as => C s a ∧ Meets step C (step s a) as

section

variable {step : S → A → S} {C D : S → A → Prop} {s : S}

@[simp] theorem run_nil (step : S → A → S) (s : S) : run step s [] = s := rfl

@[simp] theorem run_cons (step : S → A → S) (s : S) (a : A) (as : List A) :
    run step s (a :: as) = run step (step s a) as := rfl

/-- A run in two parts. -/
theorem run_append (step : S → A → S) (s : S) (as bs : List A) :
    run step s (as ++ bs) = run step (run step s as) bs := by
  rw [run, run, run, List.foldl_append]

@[simp] theorem meets_nil : Meets step C s [] := trivial

@[simp] theorem meets_cons {a : A} {as : List A} :
    Meets step C s (a :: as) ↔ C s a ∧ Meets step C (step s a) as := Iff.rfl

instance [∀ s a, Decidable (C s a)] : ∀ (s : S) (as : List A), Decidable (Meets step C s as)
  | _, [] => isTrue trivial
  | s, a :: as =>
      have : Decidable (Meets step C (step s a) as) := instDecidableMeets (step s a) as
      inferInstanceAs (Decidable (C s a ∧ Meets step C (step s a) as))

/-! ## §2. Conditions on the steps of a run. -/

/-- The two parts meet the condition each for itself. -/
theorem meets_append {as bs : List A} :
    Meets step C s (as ++ bs) ↔ Meets step C s as ∧ Meets step C (run step s as) bs := by
  induction as generalizing s with
  | nil => simp
  | cons a as ih => simp [ih, and_assoc]

/-- **A run meets a condition** exactly when each of its steps does. -/
theorem meets_iff {as : List A} :
    Meets step C s as ↔ ∀ pre a post, as = pre ++ a :: post → C (run step s pre) a := by
  constructor
  · rintro h pre a post rfl
    exact (meets_append.mp h).2.1
  · intro h
    induction as generalizing s with
    | nil => trivial
    | cons a as ih =>
        refine ⟨h [] a as rfl, ih fun pre b post has => ?_⟩
        exact h (a :: pre) b post (by rw [has]; rfl)

/-! ## §3. Invariants. -/

/-- **The invariant rule**: what every step that meets the condition preserves. -/
theorem run_invariant {P : S → Prop} (hstep : ∀ s a, P s → C s a → P (step s a)) (h0 : P s)
    {as : List A} (h : Meets step C s as) : P (run step s as) := by
  induction as generalizing s with
  | nil => exact h0
  | cons a as ih => exact ih (hstep s a h0 h.1) h.2

/-- The invariant holds in every state of the run. -/
theorem Meets.invariant {P : S → Prop} (hstep : ∀ s a, P s → C s a → P (step s a)) (h0 : P s)
    {as : List A} (h : Meets step C s as) : ∀ pre, pre <+: as → P (run step s pre) := by
  rintro pre ⟨post, rfl⟩
  exact run_invariant hstep h0 (meets_append.mp h).1

/-- Conditions that agree wherever an invariant holds are met by the same runs. -/
theorem meets_congr {P : S → Prop} (hstep : ∀ s a, P s → P (step s a))
    (hiff : ∀ s a, P s → (C s a ↔ D s a)) (h0 : P s) {as : List A} :
    Meets step C s as ↔ Meets step D s as := by
  induction as generalizing s with
  | nil => exact Iff.rfl
  | cons a as ih => exact and_congr (hiff s a h0) (ih (hstep s a h0))

/-- **The breaking rule**: where the steps that meet the condition keep an invariant that
gives `Q`, and every other step breaks `Q` at once, a run meets the condition exactly when
`Q` holds in every state of it.  `D` is what is known of the actions. -/
theorem meets_iff_always {P Q : S → Prop} {D : A → Prop}
    (hstep : ∀ s a, D a → P s → C s a → P (step s a)) (hgives : ∀ s, P s → Q s)
    (hbreak : ∀ s a, D a → P s → Q (step s a) → C s a) (h0 : P s) {as : List A}
    (has : ∀ a ∈ as, D a) : Meets step C s as ↔ ∀ pre, pre <+: as → Q (run step s pre) := by
  induction as generalizing s with
  | nil =>
      refine ⟨fun _ pre hpre => ?_, fun _ => trivial⟩
      rw [List.prefix_nil.mp hpre]
      exact hgives s h0
  | cons a as ih =>
      have ha : D a := has a (List.mem_cons_self ..)
      have hrest : ∀ b ∈ as, D b := fun b hb => has b (List.mem_cons_of_mem _ hb)
      constructor
      · rintro ⟨hfirst, hmeets⟩ pre hpre
        cases pre with
        | nil => exact hgives s h0
        | cons b pre =>
            obtain ⟨rfl, hrest'⟩ := List.cons_prefix_cons.mp hpre
            exact (ih (hstep s b ha h0 hfirst) hrest).mp hmeets pre hrest'
      · intro h
        have hfirst : C s a := hbreak s a ha h0 (h [a] ⟨as, rfl⟩)
        refine ⟨hfirst, (ih (hstep s a ha h0 hfirst) hrest).mpr fun pre hpre => ?_⟩
        exact h (a :: pre) (List.cons_prefix_cons.mpr ⟨rfl, hpre⟩)

end

/-! ## §4. Answers. -/

section

variable {S' R R' : Type}

/-- The answers of the actions of a run. -/
def answers (call : S → A → S × R) : S → List A → List R
  | _, [] => []
  | s, a :: as => (call s a).2 :: answers call (call s a).1 as

/-- **The simulation rule**: where related states give alike answers and related states,
the runs give alike answers. -/
theorem answers_simulation {call : S → A → S × R} {call' : S' → A → S' × R'}
    {Rel : S → S' → Prop} {Same : R → R' → Prop}
    (hstep : ∀ s s' a, Rel s s' →
      Rel (call s a).1 (call' s' a).1 ∧ Same (call s a).2 (call' s' a).2)
    {s : S} {s' : S'} (h : Rel s s') (as : List A) :
    List.Forall₂ Same (answers call s as) (answers call' s' as) := by
  induction as generalizing s s' with
  | nil => exact .nil
  | cons a as ih =>
      obtain ⟨hrel, hsame⟩ := hstep s s' a h
      exact .cons hsame (ih hrel)

/-- The answers of those actions of a run that are looked at. -/
def answersAt (keep : A → Bool) (call : S → A → S × R) : S → List A → List R
  | _, [] => []
  | s, a :: as =>
      let later := answersAt keep call (call s a).1 as
      if keep a then (call s a).2 :: later else later

/-- **The independence rule**: where the actions that are looked at do alike from states that
look alike, and the others do not change the looks, the answers are those of a run without
the others. -/
theorem answersAt_filter {keep : A → Bool} {call : S → A → S × R} {Alike : S → S → Prop}
    (hkeep : ∀ s s' a, keep a = true → Alike s s' →
      Alike (call s a).1 (call s' a).1 ∧ (call s a).2 = (call s' a).2)
    (hskip : ∀ s s' a, keep a = false → Alike s s' → Alike (call s a).1 s')
    {s s' : S} (h : Alike s s') (as : List A) :
    answersAt keep call s as = answers call s' (as.filter keep) := by
  induction as generalizing s s' with
  | nil => rfl
  | cons a as ih =>
      rw [answersAt]
      cases ha : keep a with
      | false =>
          rw [List.filter_cons_of_neg (by simp [ha])]
          exact ih (hskip s s' a ha h)
      | true =>
          obtain ⟨halike, hanswer⟩ := hkeep s s' a ha h
          rw [List.filter_cons_of_pos ha, answers, hanswer, ih halike]
          rfl

end

end Transition
