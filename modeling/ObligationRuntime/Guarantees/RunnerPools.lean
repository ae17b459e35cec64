/-
  ObligationRuntime.Guarantees.RunnerPools — the semaphore around the runners of the two
  lanes.

  Requests run commands from threads of their own, at any time.  Behind a semaphore a thread
  waits for a permit, and gives it back when its command has ended or raised.  Whatever the
  variable says, the semaphore has a permit to start with, so that no order of the threads
  blocks for good.

  Main results:
    * `runner_pool_live` — the limit holds, no permit is lost, and every call ends.
-/
import ObligationRuntime.Gateway.Runners

namespace ObligationRuntime

open Py Semaphore

namespace Gateway

section

variable {int : String → Option Int} {env : Environ} {kind : Lane} {runner : PooledRunner}
  {E : Type}

/-- The calls of a runner before the first one; a call ends with an answer, or raises. -/
def PooledRunner.start (E : Type) (runner : PooledRunner) :
    Semaphore.State (Except E RunnerResult) := ⟨runner.maxConcurrent, []⟩

theorem maxConcurrent_ne_zero (h : getRunner int env kind = .ok runner) :
    runner.maxConcurrent ≠ some 0 := by
  obtain ⟨inner, -, rfl⟩ := getRunner_eq_ok h
  rcases @maybePoolLimit_cases int env kind inner with hnone | ⟨n, hn, -, hsome⟩
  · rw [hnone]
    simp
  · rw [hsome]
    simp only [ne_eq, Option.some.injEq]
    omega

/-- **The calls of a runner**, from any threads and in any order.  Where the variable is a
positive number, no more commands than that run at once; where none runs, every permit is
back.  While a call has not ended some call may go on; and without new calls every order of
the threads comes to an end, with all of them ended and each answer kept. -/
theorem runner_pool_live (h : getRunner int env kind = .ok runner)
    {as : List (Action (Except E RunnerResult))} {s : Semaphore.State (Except E RunnerResult)}
    (hrun : Semaphore.run (runner.start E) as = some s) :
    (∀ n : Nat, 0 < n → strip (env.get kind.maxVariable "") ≠ "" →
        int (strip (env.get kind.maxVariable "")) = some (n : Int) → s.running ≤ n) ∧
      (s.running = 0 → s.permits = runner.maxConcurrent) ∧
      (¬ s.AllDone → ∃ a : Action (Except E RunnerResult), a.Internal ∧ ∃ t, step s a = some t) ∧
      ∀ bs t, (∀ b ∈ bs, b.Internal) → Semaphore.run s bs = some t →
        bs.length ≤ 2 * s.waiting + s.running ∧ t.threads.length = s.threads.length ∧
          (∀ (i : Nat) r, s.threads[i]? = some (.done r) → t.threads[i]? = some (.done r)) ∧
          ((∀ a : Action (Except E RunnerResult), a.Internal → step t a = none) → t.AllDone) := by
  have hresult : Nonempty (Except E RunnerResult) := ⟨.ok ⟨"", "", 0, 0⟩⟩
  have hcapacity := maxConcurrent_ne_zero h
  have hs : Balanced runner.maxConcurrent s := run_balanced (balanced_start _) hrun
  refine ⟨fun n hn hraw hint => ?_, hs.permits_eq, progress hs hcapacity, ?_⟩
  · obtain ⟨inner, -, rfl⟩ := getRunner_eq_ok h
    rw [maybePoolLimit_of_int inner hn hraw hint] at hs
    exact hs.running_le
  · intro bs t hbs ht
    refine ⟨run_length_le hbs ht, run_threads hbs ht, fun i r hi => run_done hi ht, ?_⟩
    exact done_of_stuck (run_balanced hs ht) hcapacity

end

/-- Two threads and one permit: the second enters when the first has left. -/
def onePermit : Environ := fun name => if name = "OBR_BATCH_RUNNER_MAX" then some " 1 " else none

/-- The number of a text that is `1`. -/
def oneOnly (text : String) : Option Int := if text = "1" then some 1 else none

/-- The state of the two threads while the first runs. -/
def firstRuns : Semaphore.State (Except String RunnerResult) := ⟨some 0, [.running, .waiting]⟩

theorem runner_pool_live_scripted :
    getRunner oneOnly onePermit .batch = .ok ⟨.localRunner, some 1⟩ ∧
      firstRuns.running ≤ 1 ∧ step firstRuns (.enter 1) = none :=
  have hrunner : getRunner oneOnly onePermit .batch = .ok ⟨.localRunner, some 1⟩ := by decide
  have hruns : Semaphore.run (PooledRunner.start String ⟨.localRunner, some 1⟩)
      [.call, .call, .enter 0] = some firstRuns := rfl
  ⟨hrunner, (runner_pool_live hrunner hruns).1 1 (by decide) (by decide) (by decide), rfl⟩

end Gateway

end ObligationRuntime
