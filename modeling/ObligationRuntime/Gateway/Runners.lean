/-
  ObligationRuntime.Gateway.Runners — the runners of runner.py, and which one a lane gets.

  A command runs on the host, in a container, or in a microVM that an OCI runtime starts
  like a container.  Where a variable gives a positive number the runner is put behind a
  semaphore.

  Main results:
    * `maybePoolLimit_cases` — the semaphore of a runner never starts without permits.
-/
import ObligationRuntime.Gateway.Configuration
import ObligationRuntime.Lib.Semaphore

namespace ObligationRuntime

open Py

namespace Gateway

/-! ## §1. Processes. -/

/-- How `subprocess.run` ends. -/
inductive ProcessRun where
  | exited (stdout stderr : String) (returncode : Int)
  | timeoutExpired
  | osError (text : String)
  deriving DecidableEq, Repr

/-- A timeout: as a text, and in milliseconds. -/
structure Timeout where
  shown : String
  ms : Int

/-- What a runner answers for a process; `what` is what has run. -/
def ProcessRun.answer (what : String) (timeout : Timeout) (elapsedMs : Int) :
    ProcessRun → RunnerResult
  | .exited stdout stderr returncode => ⟨stdout, stderr, returncode, elapsedMs⟩
  | .timeoutExpired => ⟨"", what ++ " exceeded " ++ timeout.shown ++ "s", -1, timeout.ms⟩
  | .osError text => ⟨"", text, -1, elapsedMs⟩

/-- `LocalRunner.run`, on the process of the command. -/
def LocalRunner.run : Timeout → Int → ProcessRun → RunnerResult := ProcessRun.answer "Run"

/-! ## §2. Which runner. -/

/-- `kind`. -/
inductive Lane where
  | interactive
  | batch
  deriving DecidableEq, Repr

/-- A runner. -/
inductive LeanRunner where
  | localRunner
  | container (image : String)
  | microVM (image runtime : String)
  | firecracker (script : String)
  deriving DecidableEq, Repr

/-- `a or b`, on variables. -/
def orVariable (a b : Option String) : Option String := (a.filter (· ≠ "")).or b

/-- `ContainerRunner(image=..)`. -/
def containerRunner (env : Environ) (image : String) : LeanRunner :=
  .container (if image = "" then env.get "OBR_DOCKER_IMAGE" "lean-worker:latest" else image)

/-- `MicroVMRunner(image=.., runtime=..)`. -/
def microVMRunner (env : Environ) (image runtime : String) : LeanRunner :=
  .microVM
    ((orVariable (some image) (orVariable (env "OBR_MICROVM_IMAGE")
      (some (env.get "OBR_DOCKER_IMAGE" "lean-worker:latest")))).getD "") runtime

/-- The text of the `RuntimeError` without a script. -/
def noFirecrackerScript : String :=
  "OBR_MICROVM_RUNTIME=firecracker requires OBR_MICROVM_FIRECRACKER_RUN"

/-- `_microvm_runner`. -/
def microvmRunner (env : Environ) (kind : Lane) : Except String LeanRunner :=
  let runtime := lower (strip ((orVariable (env "OBR_MICROVM_RUNTIME") (some "runsc")).getD ""))
  if runtime = "firecracker" then
    match (env "OBR_MICROVM_FIRECRACKER_RUN").filter (· ≠ "") with
    | none => .error noFirecrackerScript
    | some script => .ok (.firecracker script)
  else
    let image := orVariable (env "OBR_MICROVM_IMAGE") (env "OBR_DOCKER_IMAGE")
    let image := match kind with
      | .interactive => orVariable image (orVariable (env "OBR_INTERACTIVE_DOCKER_IMAGE")
          (some "lean-worker:latest"))
      | .batch => orVariable image (some "lean-worker:latest")
    .ok (microVMRunner env (image.getD "") runtime)

/-- The variable that chooses a lane's runner. -/
def Lane.runnerVariable : Lane → String
  | .interactive => "OBR_INTERACTIVE_RUNNER"
  | .batch => "OBR_BATCH_RUNNER"

/-- The variable that limits a lane's runner. -/
def Lane.maxVariable : Lane → String
  | .interactive => "OBR_INTERACTIVE_RUNNER_MAX"
  | .batch => "OBR_BATCH_RUNNER_MAX"

/-- The image of a lane's containers. -/
def Lane.containerImage (env : Environ) : Lane → String
  | .interactive => (orVariable (env "OBR_INTERACTIVE_DOCKER_IMAGE")
      (some (env.get "OBR_DOCKER_IMAGE" "lean-worker:latest"))).getD ""
  | .batch => env.get "OBR_DOCKER_IMAGE" "lean-worker:latest"

/-- `inner`, of `get_runner`. -/
def innerRunner (env : Environ) (kind : Lane) : Except String LeanRunner :=
  let runnerEnv := (orVariable (env kind.runnerVariable)
    (some (env.get "OBR_WORKER_RUNNER" "local"))).getD ""
  if runnerEnv = "container" then .ok (containerRunner env (kind.containerImage env))
  else if runnerEnv = "microvm" then microvmRunner env kind
  else .ok .localRunner

/-- A runner, and the permits of its semaphore if it has one. -/
structure PooledRunner where
  inner : LeanRunner
  maxConcurrent : Option Nat
  deriving DecidableEq, Repr

section

-- `int` of a text; none where it raises.
variable (int : String → Option Int)

/-- `_maybe_pool_limit`. -/
def maybePoolLimit (env : Environ) (runner : LeanRunner) (kind : Lane) : PooledRunner :=
  let raw := strip (env.get kind.maxVariable "")
  if raw = "" then ⟨runner, none⟩
  else
    match int raw with
    | none => ⟨runner, none⟩
    | some maxConcurrent =>
        -- A semaphore without permits would never let a run begin.
        if maxConcurrent < 1 then ⟨runner, none⟩ else ⟨runner, some maxConcurrent.toNat⟩

/-- `get_runner`. -/
def getRunner (env : Environ) (kind : Lane) : Except String PooledRunner :=
  (innerRunner env kind).map fun inner => maybePoolLimit int env inner kind

variable {int} {env : Environ} {kind : Lane}

/-- **The semaphore of a runner**: its permits are the number of the variable, which is
positive. -/
theorem maybePoolLimit_cases (runner : LeanRunner) :
    (maybePoolLimit int env runner kind).maxConcurrent = none ∨
      ∃ n : Nat, 0 < n ∧ int (strip (env.get kind.maxVariable "")) = some (n : Int) ∧
        (maybePoolLimit int env runner kind).maxConcurrent = some n := by
  unfold maybePoolLimit
  dsimp only
  split_ifs with hraw
  · exact .inl rfl
  · cases hint : int (strip (env.get kind.maxVariable "")) with
    | none => exact .inl rfl
    | some m =>
        by_cases hm : m < 1
        · exact .inl (by simp [hm])
        · exact .inr ⟨m.toNat, by omega, by rw [Int.toNat_of_nonneg (by omega)], by simp [hm]⟩

/-- A positive number of the variable is the limit. -/
theorem maybePoolLimit_of_int (runner : LeanRunner) {n : Nat} (hn : 0 < n)
    (hraw : strip (env.get kind.maxVariable "") ≠ "")
    (hint : int (strip (env.get kind.maxVariable "")) = some (n : Int)) :
    (maybePoolLimit int env runner kind).maxConcurrent = some n := by
  have hpos : ¬ ((n : Int) < 1) := by omega
  unfold maybePoolLimit
  simp only [hraw, if_false, hint, hpos, Int.toNat_natCast]

/-- A runner is the inner one of its kind, with the limit of the pool. -/
theorem getRunner_eq_ok {runner : PooledRunner} (h : getRunner int env kind = .ok runner) :
    ∃ inner, innerRunner env kind = .ok inner ∧ runner = maybePoolLimit int env inner kind := by
  unfold getRunner at h
  cases hinner : innerRunner env kind with
  | error e => rw [hinner] at h; cases h
  | ok inner =>
      rw [hinner] at h
      exact ⟨inner, rfl, (Except.ok.inj h).symm⟩

end

end Gateway

end ObligationRuntime
