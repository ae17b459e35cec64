/-
  ObligationRuntime.Lib.Semaphore — threads that go through a counting semaphore.

  A thread that has called waits for a permit, runs with it, and gives it back when it ends,
  whatever it ends with.  Threads call, enter and leave in any order; where there is no
  semaphore a thread that waits may always enter.

  Main results:
    * `run_balanced` — the permits that are left and the threads that run make up the
      capacity, in every state of a run,
    * `progress` — while a thread is not done, some thread may enter or leave,
    * `run_length_le`, `done_of_stuck` — without new calls a run is bounded, and where it can
      go no further every thread is done,
    * `run_done` — what a thread has ended with stays.
-/
import Mathlib.Data.List.Basic
import Mathlib.Data.Option.Basic

namespace Semaphore

variable {R : Type}

/-! ## §1. The system. -/

/-- Where a thread is; `r` is what it has ended with. -/
inductive Phase (R : Type) where
  | waiting
  | running
  | done (r : R)
  deriving DecidableEq, Repr

/-- The permits, if there is a semaphore, and the threads in the order of their calls. -/
structure State (R : Type) where
  permits : Option Nat
  threads : List (Phase R) := []
  deriving DecidableEq, Repr

/-- What may happen. -/
inductive Action (R : Type) where
  | call
  | enter (i : Nat)
  | leave (i : Nat) (r : R)
  deriving DecidableEq, Repr

/-- `acquire()`, where it does not block. -/
def acquire : Option Nat → Option (Option Nat)
  | none => some none
  | some 0 => none
  | some (n + 1) => some (some n)

/-- `release()`. -/
def release (permits : Option Nat) : Option Nat := permits.map (· + 1)

/-- A step; none where it is not enabled. -/
def step (s : State R) : Action R → Option (State R)
  | .call => some { s with threads := s.threads ++ [.waiting] }
  | .enter i =>
      match s.threads[i]?, acquire s.permits with
      | some .waiting, some permits => some ⟨permits, s.threads.set i .running⟩
      | _, _ => none
  | .leave i r =>
      match s.threads[i]? with
      | some .running => some ⟨release s.permits, s.threads.set i (.done r)⟩
      | _ => none

/-- The steps of a run, each enabled where it is taken. -/
def run (s : State R) (as : List (Action R)) : Option (State R) := as.foldlM step s

/-- The action is no new call. -/
def Action.Internal : Action R → Prop
  | .call => False
  | .enter _ => True
  | .leave _ _ => True

/-- The thread waits. -/
def Phase.isWaiting : Phase R → Bool
  | .waiting => true
  | _ => false

/-- The thread runs. -/
def Phase.isRunning : Phase R → Bool
  | .running => true
  | _ => false

/-- The threads that wait. -/
def State.waiting (s : State R) : Nat := s.threads.countP Phase.isWaiting

/-- The threads that run. -/
def State.running (s : State R) : Nat := s.threads.countP Phase.isRunning

/-- Every thread has ended. -/
def State.AllDone (s : State R) : Prop := ∀ t ∈ s.threads, ∃ r, t = .done r

@[simp] theorem run_nil (s : State R) : run s [] = some s := rfl

/-- A run takes one step and then the others. -/
theorem run_cons_eq_some {s t : State R} {a : Action R} {as : List (Action R)} :
    run s (a :: as) = some t ↔ ∃ u, step s a = some u ∧ run u as = some t := by
  simp [run, Option.bind_eq_some_iff]

/-! ## §2. What a step does. -/

/-- The steps, by their cases. -/
inductive Steps (s : State R) : Action R → State R → Prop
  | call : Steps s .call { s with threads := s.threads ++ [.waiting] }
  | enter {i : Nat} {permits : Option Nat} (hthread : s.threads[i]? = some .waiting)
      (hacquire : acquire s.permits = some permits) :
      Steps s (.enter i) ⟨permits, s.threads.set i .running⟩
  | leave {i : Nat} {r : R} (hthread : s.threads[i]? = some .running) :
      Steps s (.leave i r) ⟨release s.permits, s.threads.set i (.done r)⟩

/-- What one step can do. -/
theorem steps_of_step {s t : State R} {a : Action R} (h : step s a = some t) : Steps s a t := by
  cases a with
  | call =>
      obtain rfl := Option.some.inj h
      exact .call
  | enter i =>
      simp only [step] at h
      split at h
      next hthread hacquire =>
        obtain rfl := Option.some.inj h
        exact .enter hthread hacquire
      next => cases h
  | leave i r =>
      simp only [step] at h
      split at h
      next hthread =>
        obtain rfl := Option.some.inj h
        exact .leave hthread
      next => cases h

/-- The number of threads of a kind after one of them changes. -/
theorem countP_set_of_get {p : Phase R → Bool} {ts : List (Phase R)} {i : Nat} {t u : Phase R}
    (h : ts[i]? = some t) :
    (ts.set i u).countP p + (if p t then 1 else 0) = ts.countP p + (if p u then 1 else 0) := by
  induction ts generalizing i with
  | nil => cases h
  | cons x ts ih =>
      cases i with
      | zero =>
          obtain rfl : x = t := Option.some.inj h
          simp only [List.set_cons_zero, List.countP_cons]
          omega
      | succ i =>
          have hrest := ih (i := i) (by simpa using h)
          simp only [List.set_cons_succ, List.countP_cons]
          omega

/-! ## §3. Permits are neither lost nor made. -/

/-- The permits that are left and the threads that run make up the capacity. -/
def Balanced (capacity : Option Nat) (s : State R) : Prop :=
  s.permits.map (· + s.running) = capacity

variable {capacity : Option Nat} {s t : State R} {a : Action R}

/-- At the start no permit is taken. -/
theorem balanced_start (capacity : Option Nat) : Balanced capacity (⟨capacity, []⟩ : State R) := by
  cases capacity <;> rfl

/-- A permit is taken where there is one. -/
theorem acquire_eq_some {p q : Option Nat} (h : acquire p = some q) : p = q.map (· + 1) := by
  match p, h with
  | none, h =>
      obtain rfl := Option.some.inj h
      rfl
  | some (n + 1), h =>
      obtain rfl := Option.some.inj h
      rfl

/-- **One step** keeps the balance. -/
theorem step_balanced (hs : Balanced capacity s) (h : step s a = some t) :
    Balanced capacity t := by
  unfold Balanced at hs ⊢
  cases steps_of_step h with
  | call =>
      rw [← hs]
      simp [State.running, List.countP_append, Phase.isRunning]
  | @enter i permits hthread hacquire =>
      -- One permit less, and one thread more that runs.
      have hcount : (State.running ⟨permits, s.threads.set i .running⟩) = s.running + 1 := by
        have := countP_set_of_get (p := Phase.isRunning) (u := .running) hthread
        simpa [State.running, Phase.isRunning] using this
      rw [hcount, ← hs, acquire_eq_some hacquire]
      cases permits with
      | none => rfl
      | some p =>
          simp only [Option.map_some, Option.some.injEq]
          omega
  | @leave i r hthread =>
      have hcount : (State.running ⟨release s.permits, s.threads.set i (.done r)⟩) + 1 =
          s.running := by
        have := countP_set_of_get (p := Phase.isRunning) (u := .done r) hthread
        simpa [State.running, Phase.isRunning] using this
      rw [← hs, ← hcount]
      cases s.permits with
      | none => rfl
      | some p =>
          simp only [release, Option.map_some, Option.some.injEq]
          omega

/-- **A run** keeps the balance. -/
theorem run_balanced (hs : Balanced capacity s) {as : List (Action R)} (h : run s as = some t) :
    Balanced capacity t := by
  induction as generalizing s with
  | nil =>
      obtain rfl := Option.some.inj h
      exact hs
  | cons a as ih =>
      obtain ⟨u, hu, hrest⟩ := run_cons_eq_some.mp h
      exact ih (step_balanced hs hu) hrest

/-- No more threads run than there is capacity. -/
theorem Balanced.running_le {n : Nat} (h : Balanced (some n) s) : s.running ≤ n := by
  obtain ⟨p, -, hp⟩ := Option.map_eq_some_iff.mp h
  omega

/-- Where no thread runs every permit is back. -/
theorem Balanced.permits_eq (h : Balanced capacity s) (hrunning : s.running = 0) :
    s.permits = capacity := by
  rw [← h, hrunning]
  simp

/-! ## §4. No thread is stuck. -/

/-- **Progress**: while a thread is not done, some thread may enter or leave. -/
theorem progress [Nonempty R] (hs : Balanced capacity s) (hcapacity : capacity ≠ some 0)
    (hdone : ¬ s.AllDone) : ∃ a : Action R, a.Internal ∧ ∃ t, step s a = some t := by
  by_cases hrunning : s.running = 0
  · -- Every permit is back, so one that waits may enter.
    have hpermits := hs.permits_eq hrunning
    obtain ⟨th, hmem, hth⟩ : ∃ th ∈ s.threads, ∀ r, th ≠ .done r := by
      simpa [State.AllDone] using hdone
    obtain ⟨i, hi, hget⟩ := List.getElem_of_mem hmem
    have hget? : s.threads[i]? = some th := by rw [List.getElem?_eq_getElem hi, hget]
    have hwaiting : th = .waiting := by
      cases th with
      | waiting => rfl
      | running =>
          have hnone := List.countP_eq_zero.mp hrunning _ hmem
          exact absurd rfl hnone
      | done r => exact absurd rfl (hth r)
    subst hwaiting
    obtain ⟨permits, hacquire⟩ : ∃ permits, acquire s.permits = some permits := by
      rw [hpermits]
      match capacity, hcapacity with
      | none, _ => exact ⟨none, rfl⟩
      | some (n + 1), _ => exact ⟨some n, rfl⟩
    exact ⟨.enter i, trivial, _, by simp only [step, hget?, hacquire]; rfl⟩
  · -- One that runs may leave.
    obtain ⟨th, hmem, hth⟩ := List.countP_pos_iff.mp (Nat.pos_of_ne_zero hrunning)
    obtain ⟨i, hi, hget⟩ := List.getElem_of_mem hmem
    have hget? : s.threads[i]? = some th := by rw [List.getElem?_eq_getElem hi, hget]
    have hrun : th = .running := by
      cases th with
      | running => rfl
      | waiting => cases hth
      | done r => cases hth
    subst hrun
    obtain ⟨r⟩ := (inferInstance : Nonempty R)
    exact ⟨.leave i r, trivial, _, by simp only [step, hget?]; rfl⟩

/-- What is left to do: two steps for a thread that waits, one for a thread that runs. -/
def State.todo (s : State R) : Nat := 2 * s.waiting + s.running

/-- A step that is no arrival leaves less to do. -/
theorem step_todo (ha : a.Internal) (h : step s a = some t) : t.todo < s.todo := by
  cases steps_of_step h with
  | call => exact absurd ha id
  | @enter i permits hthread hacquire =>
      have hwaiting := countP_set_of_get (p := Phase.isWaiting) (u := .running) hthread
      have hrunning := countP_set_of_get (p := Phase.isRunning) (u := .running) hthread
      simp only [Phase.isWaiting, Phase.isRunning, if_true, Bool.false_eq_true, if_false]
        at hwaiting hrunning
      simp only [State.todo, State.waiting, State.running]
      omega
  | @leave i r hthread =>
      have hwaiting := countP_set_of_get (p := Phase.isWaiting) (u := .done r) hthread
      have hrunning := countP_set_of_get (p := Phase.isRunning) (u := .done r) hthread
      simp only [Phase.isWaiting, Phase.isRunning, if_true, Bool.false_eq_true, if_false]
        at hwaiting hrunning
      simp only [State.todo, State.waiting, State.running]
      omega

/-- **Without new calls a run is bounded.** -/
theorem run_length_le {as : List (Action R)} (has : ∀ a ∈ as, a.Internal)
    (h : run s as = some t) : as.length ≤ s.todo := by
  induction as generalizing s with
  | nil => exact Nat.zero_le _
  | cons a as ih =>
      obtain ⟨u, hu, hrest⟩ := run_cons_eq_some.mp h
      have hstep := step_todo (has a (List.mem_cons_self ..)) hu
      have hlength := ih (fun b hb => has b (List.mem_cons_of_mem _ hb)) hrest
      rw [List.length_cons]
      omega

/-- No thread is lost, -/
theorem step_threads (ha : a.Internal) (h : step s a = some t) :
    t.threads.length = s.threads.length := by
  cases steps_of_step h with
  | call => exact absurd ha id
  | enter hthread hacquire => exact List.length_set
  | leave hthread => exact List.length_set

/-- Without new calls the threads are the same. -/
theorem run_threads {as : List (Action R)} (has : ∀ a ∈ as, a.Internal)
    (h : run s as = some t) : t.threads.length = s.threads.length := by
  induction as generalizing s with
  | nil =>
      obtain rfl := Option.some.inj h
      rfl
  | cons a as ih =>
      obtain ⟨u, hu, hrest⟩ := run_cons_eq_some.mp h
      rw [ih (fun b hb => has b (List.mem_cons_of_mem _ hb)) hrest,
        step_threads (has a (List.mem_cons_self ..)) hu]

/-- **Where a run can go no further** every thread is done. -/
theorem done_of_stuck [Nonempty R] (hs : Balanced capacity s) (hcapacity : capacity ≠ some 0)
    (hstuck : ∀ a : Action R, a.Internal → step s a = none) : s.AllDone := by
  by_contra hdone
  obtain ⟨a, ha, t, ht⟩ := progress hs hcapacity hdone
  rw [hstuck a ha] at ht
  cases ht

/-! ## §5. What a thread has ended with. -/

/-- and one that is done stays so. -/
theorem step_done {i : Nat} {r : R} (hi : s.threads[i]? = some (.done r))
    (h : step s a = some t) : t.threads[i]? = some (.done r) := by
  have hlt : i < s.threads.length := (List.getElem?_eq_some_iff.mp hi).1
  cases steps_of_step h with
  | call => rw [List.getElem?_append_left hlt, hi]
  | @enter j permits hthread hacquire =>
      have hne : j ≠ i := by
        rintro rfl
        rw [hi] at hthread
        cases hthread
      rw [List.getElem?_set_ne hne, hi]
  | @leave j r' hthread =>
      have hne : j ≠ i := by
        rintro rfl
        rw [hi] at hthread
        cases hthread
      rw [List.getElem?_set_ne hne, hi]

/-- **What a thread has ended with** stays. -/
theorem run_done {i : Nat} {r : R} (hi : s.threads[i]? = some (.done r)) {as : List (Action R)}
    (h : run s as = some t) : t.threads[i]? = some (.done r) := by
  induction as generalizing s with
  | nil =>
      obtain rfl := Option.some.inj h
      exact hi
  | cons a as ih =>
      obtain ⟨u, hu, hrest⟩ := run_cons_eq_some.mp h
      exact ih (step_done hi hu) hrest

end Semaphore
