/-
  ObligationRuntime.Gateway.Firecracker — `FirecrackerRunner` of runner.py, and the three
  stages that may run on it.

  The runner starts a helper script, which is to print one JSON object with the output and
  the return code of the command.  What it printed is read where the script exited with
  zero; what cannot be read is to become a failed run.

  The answer of the runner has the values that the object had, of whatever type.  The build
  and the fresh check put them into `str` fields; the audit reads its standard output.

  Main results:
    * `BuildRunner.runOn_raw`, `FreshCheckerReal.runOn_raw`, `AxiomAuditorReal.runOn_raw` —
      the stages on an answer of two texts.
-/
import ObligationRuntime.Gateway.Batch
import ObligationRuntime.Lib.Loaded

namespace ObligationRuntime

open Py

namespace Gateway

/-! ## §1. The runner. -/

/-- What the runner uses of its interpreter: the encoding of the locale (with `\n` for
every end of a line), `json.loads`, `int` of a string, and a float times 1000. -/
structure Platform where
  decode : List UInt8 → Option String
  loads : String → Except Raised Loaded
  numeral : PyStr → Except String Int
  millis : Rat → PyFloat

/-- How `subprocess.run` ends: with the exit code and what was printed, or by raising;
`raised` is for what is neither a `TimeoutExpired` nor an `OSError`. -/
inductive ScriptRun where
  | exited (returncode : Int) (stdout stderr : List UInt8)
  | timeoutExpired
  | osError (text : String)
  | raised (e : Raised)

/-- A call of the runner: its script and its arguments, how the script ends for the
arguments it is given, and the time that is measured. -/
structure Invocation where
  script : List String
  workspace : String
  command : List String
  timeout : PyFloat
  subprocessRun : List String → ScriptRun
  elapsedMs : Int

/-- What the runner answers. -/
structure RawResult where
  stdout : Loaded
  stderr : Loaded
  returncode : Int
  timingMs : Int

/-- An answer of two texts. -/
def RunnerResult.raw (r : RunnerResult) : RawResult :=
  ⟨.text r.stdout, .text r.stderr, r.returncode, r.timingMs⟩

namespace FirecrackerRunner

/-- The arguments of the script. -/
def argv (inv : Invocation) (seconds : Int) : List String :=
  inv.script ++ [inv.workspace, toString seconds] ++ inv.command

/-- The float of `timeout_seconds * 1000`. -/
def timeoutMs (P : Platform) : PyFloat → PyFloat
  | .finite q => P.millis q
  | x => x

/-- The answer that the printed object gives. -/
def answer (P : Platform) (data : Loaded) (elapsedMs : Int) : Except Raised RawResult :=
  match data with
  | .obj d => do
      let returncode ← (Loaded.get d "returncode" (.int (-1))).toInt P.numeral
      return {
        stdout := Loaded.get d "stdout" (.text "")
        stderr := Loaded.get d "stderr" (.text "")
        returncode
        timingMs := elapsedMs }
  | v => .error (.attributeError ("'" ++ v.typeName ++ "' object has no attribute 'get'"))

/-- The answer for a script that exited with zero. -/
def report (P : Platform) (out : String) (elapsedMs : Int) : Except Raised RawResult :=
  match P.loads out >>= fun data => answer P data elapsedMs with
  | .ok r => .ok r
  | .error e =>
      match e.caught with
      | some text =>
          .ok (RunnerResult.raw ⟨out, "Invalid script output: " ++ text, -1, elapsedMs⟩)
      -- `AttributeError` and `OverflowError` are none of the three that are caught.
      | none => .error e

/-- The answer for a script that exited. -/
def completed (P : Platform) (returncode : Int) (stdout stderr : String) (elapsedMs : Int) :
    Except Raised RawResult :=
  let out := strip stdout
  let err := strip stderr
  if returncode ≠ 0 then
    .ok (RunnerResult.raw
      ⟨out, if err = "" then "Firecracker script failed" else err, returncode, elapsedMs⟩)
  else report P out elapsedMs

/-- `FirecrackerRunner.run`. -/
def run (P : Platform) (inv : Invocation) : Except Raised RawResult := do
  let seconds ← inv.timeout.toInt
  match inv.subprocessRun (argv inv seconds) with
  | .timeoutExpired => do
      -- The milliseconds are computed in the handler, where nothing catches.
      let elapsedMs ← (timeoutMs P inv.timeout).toInt
      return RunnerResult.raw ⟨"", "Firecracker script exceeded timeout", -1, elapsedMs⟩
  | .osError text => return RunnerResult.raw ⟨"", text, -1, inv.elapsedMs⟩
  | .raised e => .error e
  | .exited returncode stdout stderr =>
      match P.decode stdout, P.decode stderr with
      | some stdout, some stderr => completed P returncode stdout stderr inv.elapsedMs
      | _, _ => .error (.valueError "UnicodeDecodeError")

end FirecrackerRunner

/-! ## §2. The stages on its answers. -/

/-- `BuildRunner.run`, on an answer. -/
def BuildRunner.runOn (now : Timestamp) (r : RawResult) : Except Raised BatchBuildResult := do
  let stdout ← r.stdout.asText "stdout"
  let stderr ← r.stderr.asText "stderr"
  return BuildRunner.run now ⟨stdout, stderr, r.returncode, r.timingMs⟩

/-- `FreshCheckerReal.run`, on an answer. -/
def FreshCheckerReal.runOn (now : Timestamp) (command : List String) (r : RawResult) :
    Except Raised FreshCheckerResult := do
  let stdout ← r.stdout.asText "stdout"
  let stderr ← r.stderr.asText "stderr"
  return FreshCheckerReal.run now command (.ran ⟨stdout, stderr, r.returncode, r.timingMs⟩)

namespace AxiomAuditorReal

/-- The dependencies in a line without a surrogate. -/
def lineDependencies (line : PyStr) : Option AxiomDependency :=
  line.text?.bind fun t => parseAxiomLine (strip t)

/-- The dependencies in a string with a surrogate: an entry that has one is refused by its
`str` fields. -/
def brokenDependencies (s : PyStr) : Except Raised (List AxiomDependency) :=
  let lines := s.splitOnP fun c => c.any isLineBreak
  if lines.any fun line => decide (none ∈ line) && decide (some ':' ∈ line) then
    .error (.valueError "dependencies: string_unicode")
  else .ok (lines.filterMap lineDependencies)

/-- `_parse_axiom_stdout`, on any value. -/
def dependenciesOf : Loaded → Except Raised (List AxiomDependency)
  | .str s =>
      match s.text? with
      | some t => .ok (parseAxiomStdout t)
      | none => brokenDependencies s
  | v => .error (.attributeError ("'" ++ v.typeName ++ "' object has no attribute 'strip'"))

/-- `stderr or stdout or "Axiom audit failed"`. -/
def reasonOf (r : RawResult) : Loaded :=
  if r.stderr.truthy then r.stderr
  else if r.stdout.truthy then r.stdout
  else .text "Axiom audit failed"

/-- `AxiomAuditorReal.run`, on an answer. -/
def runOn (now : Timestamp) (r : RawResult) : Except Raised AxiomAuditResult :=
  if r.returncode ≠ 0 then do
    let reason ← (reasonOf r).asText "blocked_reasons"
    return failed now reason
  else do
    let dependencies ← dependenciesOf r.stdout
    return { createdAt := now, ok := true, trustLevel := .clean, dependencies }

end AxiomAuditorReal

/-! ## §3. On an answer of two texts. -/

section

variable (now : Timestamp) (r : RunnerResult)

/-- On an answer of two texts a stage is what it is on any runner. -/
theorem BuildRunner.runOn_raw : BuildRunner.runOn now r.raw = .ok (BuildRunner.run now r) := by
  simp only [BuildRunner.runOn, RunnerResult.raw, Loaded.asText_text, ok_bind, pure_eq_ok]

/-- On a result that was read the fresh check does what it does on a command, -/
theorem FreshCheckerReal.runOn_raw (command : List String) :
    FreshCheckerReal.runOn now command r.raw = .ok (FreshCheckerReal.run now command (.ran r)) := by
  simp only [FreshCheckerReal.runOn, RunnerResult.raw, Loaded.asText_text, ok_bind, pure_eq_ok]

/-- the audit fails with the same reason, -/
theorem AxiomAuditorReal.reasonOf_raw : reasonOf r.raw = .text (failure r) := by
  simp only [reasonOf, failure, RunnerResult.raw, Loaded.truthy_text, decide_eq_true_eq]
  split_ifs <;> rfl

/-- and does what it does on a command. -/
theorem AxiomAuditorReal.runOn_raw :
    AxiomAuditorReal.runOn now r.raw = .ok (AxiomAuditorReal.run now (.ran r)) := by
  have hcode : r.raw.returncode = r.returncode := rfl
  by_cases h : r.returncode = 0
  · have hdeps : dependenciesOf r.raw.stdout = .ok (parseAxiomStdout r.stdout) := by
      show dependenciesOf (.text r.stdout) = _
      simp only [dependenciesOf, Loaded.text, PyStr.text?_ofString]
    simp [runOn, run, hcode, h, hdeps]
  · simp [runOn, run, hcode, h, reasonOf_raw]

/-- A build that comes to a result had an answer of two texts. -/
theorem BuildRunner.raw_of_runOn {now : Timestamp} {a : RawResult} {b : BatchBuildResult}
    (h : BuildRunner.runOn now a = .ok b) : ∃ r : RunnerResult, a = r.raw := by
  obtain ⟨stdout, hout, h⟩ := bind_eq_ok_iff.mp h
  obtain ⟨stderr, herr, -⟩ := bind_eq_ok_iff.mp h
  refine ⟨⟨stdout, stderr, a.returncode, a.timingMs⟩, ?_⟩
  rw [RunnerResult.raw, ← Loaded.asText_eq_ok_iff.mp hout, ← Loaded.asText_eq_ok_iff.mp herr]

end

end Gateway

end ObligationRuntime
