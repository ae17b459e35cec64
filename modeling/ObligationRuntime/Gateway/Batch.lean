/-
  ObligationRuntime.Gateway.Batch — the acceptance lane of the gateway:
  build_runner.py, fresh_checker.py, combine.py and the `batch_verify` route of
  routes_batch.py.

  Three commands run in a session's workspace: the build, the axiom audit and the
  fresh check.  Their results are combined, and under the strict rule a result
  without real evidence is blocked.

  Main results:
    * `combined_ok_iff` — when a combined result is ok,
    * `verify_ok_iff` — when the lane is ok, strict or not,
    * `verify_reasons` — a lane that is not ok says why.
-/
import ObligationRuntime.Gateway.AxiomAudit

namespace ObligationRuntime

open Py

namespace Gateway

/-! ## §1. The other two commands. -/

/-- `BuildRunner.run`. -/
def BuildRunner.run (now : Timestamp) (r : RunnerResult) : BatchBuildResult where
  createdAt := now
  ok := decide (r.returncode = 0)
  command := ["lake", "build"]
  stdout := r.stdout
  stderr := r.stderr
  timingMs := r.timingMs

/-- `FreshChecker.run`, the test double. -/
def FreshChecker.run (now : Timestamp) : FreshCheckerResult where
  createdAt := now
  ok := true
  command := ["lean4checker", "--fresh"]

/-- `FreshCheckerReal.run`, with the command of its environment. -/
def FreshCheckerReal.run (now : Timestamp) (command : List String) :
    CommandRun → FreshCheckerResult
  | .ran r =>
      { createdAt := now, ok := decide (r.returncode = 0), command, stdout := r.stdout
        stderr := r.stderr, timingMs := r.timingMs }
  | .timeout seconds timingMs =>
      { createdAt := now, ok := false, command
        stderr := "Fresh check exceeded " ++ seconds ++ "s", timingMs }
  | .osError text timingMs => { createdAt := now, ok := false, command, stderr := text, timingMs }

/-- The fresh check is fine exactly when its command succeeded. -/
theorem FreshCheckerReal.run_ok_iff {now : Timestamp} {command : List String} {c : CommandRun} :
    (FreshCheckerReal.run now command c).ok = true ↔ c.Succeeded := by
  cases c <;> simp [FreshCheckerReal.run, CommandRun.Succeeded]

/-! ## §2. combine.py -/

/-- `combine_batch_results`. -/
def combineBatchResults (now : Timestamp) (build : BatchBuildResult) (audit : AxiomAuditResult)
    (fresh : FreshCheckerResult) (axiomEvidenceReal freshEvidenceReal : Bool) :
    BatchVerifyResult where
  createdAt := now
  ok := build.ok && audit.ok && fresh.ok && decide (audit.trustLevel ≠ .blocked)
  build
  axiomAudit := audit
  freshChecker := fresh
  trustLevel := if audit.trustLevel = .blocked then .blocked else audit.trustLevel
  reasons := (if build.ok then [] else ["lake_build_failed"]) ++ audit.blockedReasons ++
    (if fresh.ok then [] else ["fresh_checker_failed"])
  axiomEvidenceReal
  freshEvidenceReal

/-- The reasons of the strict rule. -/
def strictReasons (axiomEvidenceReal freshEvidenceReal : Bool) : List String :=
  (if axiomEvidenceReal then [] else ["acceptance_strict_requires_real_axiom_audit"]) ++
    (if freshEvidenceReal then [] else ["acceptance_strict_requires_real_fresh_checker"])

/-- `apply_acceptance_strict`. -/
def applyAcceptanceStrict (combined : BatchVerifyResult)
    (axiomEvidenceReal freshEvidenceReal : Bool) : BatchVerifyResult :=
  let reasons := strictReasons axiomEvidenceReal freshEvidenceReal
  if reasons = [] then combined
  else
    { combined with ok := false, trustLevel := .blocked, reasons := combined.reasons ++ reasons }

/-- Strictness has no reasons where both kinds of evidence are real. -/
theorem strictReasons_eq_nil {axiomEvidenceReal freshEvidenceReal : Bool} :
    strictReasons axiomEvidenceReal freshEvidenceReal = [] ↔
      axiomEvidenceReal = true ∧ freshEvidenceReal = true := by
  cases axiomEvidenceReal <;> cases freshEvidenceReal <;> decide

/-! ## §3. routes_batch.py -/

/-- The gateway's auditor: the real one, with how its command ends, or the test
double. -/
inductive Auditor where
  | real (outcome : CommandRun)
  | double
  deriving DecidableEq

/-- The gateway's fresh checker. -/
inductive Checker where
  | real (command : List String) (outcome : CommandRun)
  | double
  deriving DecidableEq

/-- `axiom_auditor.run(..)`. -/
def Auditor.run (now : Timestamp) : Auditor → AxiomAuditResult
  | .real outcome => AxiomAuditorReal.run now outcome
  | .double => AxiomAuditor.run now

/-- `fresh_checker.run(..)`. -/
def Checker.run (now : Timestamp) : Checker → FreshCheckerResult
  | .real command outcome => FreshCheckerReal.run now command outcome
  | .double => FreshChecker.run now

/-- `isinstance(axiom_auditor, AxiomAuditorReal)`. -/
def Auditor.isReal : Auditor → Bool
  | .real _ => true
  | .double => false

/-- `isinstance(fresh_checker, FreshCheckerReal)`. -/
def Checker.isReal : Checker → Bool
  | .real _ _ => true
  | .double => false

/-- The three commands of a session's workspace, with how they end. -/
structure Commands where
  build : RunnerResult
  auditor : Auditor
  checker : Checker
  deriving DecidableEq

/-- The environment variables the route reads. -/
structure StrictEnv where
  acceptanceStrict : Option String := none
  obrEnv : Option String := none

/-- `use_strict`. -/
def StrictEnv.useStrict (env : StrictEnv) : Bool :=
  decide (lower (strip (env.acceptanceStrict.getD "")) ∈ ["1", "true", "yes"]) ||
    decide (env.obrEnv = some "production")

/-- The combined result of the three commands. -/
def Commands.combined (now : Timestamp) (c : Commands) : BatchVerifyResult :=
  combineBatchResults now (BuildRunner.run now c.build) (c.auditor.run now) (c.checker.run now)
    c.auditor.isReal c.checker.isReal

/-- The result of the three commands, under the strict rule or not. -/
def Commands.verify (now : Timestamp) (strict : Bool) (c : Commands) : BatchVerifyResult :=
  if strict then applyAcceptanceStrict (c.combined now) c.auditor.isReal c.checker.isReal
  else c.combined now

/-- `batch_verify`, for a session that is known or not. -/
def batchVerify (now : Timestamp) (env : StrictEnv) : Option Commands →
    Except PyError BatchVerifyResult
  | none => .error (.apiError 404 "session_not_found")
  | some c => .ok (c.verify now env.useStrict)

/-! ## §4. When the lane is ok. -/

section

variable {now : Timestamp} {c : Commands} {strict : Bool}

/-- The real command of a stage succeeded; a test double always does. -/
def Auditor.Succeeded : Auditor → Prop
  | .real outcome => outcome.Succeeded
  | .double => True

/-- As for auditors. -/
def Checker.Succeeded : Checker → Prop
  | .real _ outcome => outcome.Succeeded
  | .double => True

/-- Whichever auditor runs is fine where it succeeds, -/
theorem Auditor.run_ok_iff {a : Auditor} : (a.run now).ok = true ↔ a.Succeeded := by
  cases a with
  | real outcome => exact AxiomAuditorReal.run_ok_iff
  | double => exact iff_of_true rfl trivial

/-- and so is whichever checker. -/
theorem Checker.run_ok_iff {f : Checker} : (f.run now).ok = true ↔ f.Succeeded := by
  cases f with
  | real command outcome => exact FreshCheckerReal.run_ok_iff
  | double => exact iff_of_true rfl trivial

/-- An audit is blocked exactly when it is not ok. -/
theorem Auditor.run_blocked_iff {a : Auditor} :
    (a.run now).trustLevel = .blocked ↔ (a.run now).ok = false := by
  cases a with
  | real outcome =>
      -- The two outcomes of a real audit.
      rcases AxiomAuditorReal.run_cases now outcome with ⟨-, hok, ht, -⟩ | ⟨-, reason, hf⟩
      · simp [Auditor.run, hok, ht]
      · simp [Auditor.run, hf, AxiomAuditorReal.failed]
  | double => simp [Auditor.run, AxiomAuditor.run]

/-- **When a combined result is ok**: every stage succeeded. -/
theorem combined_ok_iff :
    (c.combined now).ok = true ↔
      c.build.returncode = 0 ∧ c.auditor.Succeeded ∧ c.checker.Succeeded := by
  -- The fourth conjunct of the combination adds nothing to the second.
  have hblocked : decide ((c.auditor.run now).trustLevel ≠ .blocked) = (c.auditor.run now).ok := by
    cases hok : (c.auditor.run now).ok with
    | false => simpa using Auditor.run_blocked_iff.mpr hok
    | true =>
        simp only [decide_eq_true_eq, ne_eq]
        intro hb
        simp [Auditor.run_blocked_iff.mp hb] at hok
  simp only [Commands.combined, combineBatchResults, BuildRunner.run, hblocked, Bool.and_eq_true,
    decide_eq_true_eq, Auditor.run_ok_iff, Checker.run_ok_iff]
  tauto

/-- What the strict rule makes of a result: nothing, where it is off or both
evidences are real, or a blocked one that says why. -/
theorem verify_cases (now : Timestamp) (strict : Bool) (c : Commands) :
    (c.verify now strict = c.combined now ∧
      (strict = true → c.auditor.isReal = true ∧ c.checker.isReal = true)) ∨
    ((c.verify now strict).ok = false ∧ (c.verify now strict).reasons ≠ [] ∧
      ¬ (strict = true → c.auditor.isReal = true ∧ c.checker.isReal = true)) := by
  cases strict with
  | false => exact .inl ⟨rfl, by simp⟩
  | true =>
      by_cases hreal : c.auditor.isReal = true ∧ c.checker.isReal = true
      · have hn := strictReasons_eq_nil.mpr hreal
        exact .inl ⟨by simp [Commands.verify, applyAcceptanceStrict, hn], fun _ => hreal⟩
      · have hn : strictReasons c.auditor.isReal c.checker.isReal ≠ [] :=
          fun h => hreal (strictReasons_eq_nil.mp h)
        refine .inr ⟨?_, ?_, fun h => hreal (h rfl)⟩
        · simp [Commands.verify, applyAcceptanceStrict, hn]
        · simp [Commands.verify, applyAcceptanceStrict, hn]

/-- **When the lane is ok**: every stage succeeded, and under the strict rule both
evidences are real. -/
theorem verify_ok_iff :
    (c.verify now strict).ok = true ↔
      (c.build.returncode = 0 ∧ c.auditor.Succeeded ∧ c.checker.Succeeded) ∧
        (strict = true → c.auditor.isReal = true ∧ c.checker.isReal = true) := by
  rcases verify_cases now strict c with ⟨heq, hreal⟩ | ⟨hok, -, hnot⟩
  · rw [heq, combined_ok_iff]
    exact (and_iff_left hreal).symm
  · simp only [hok, Bool.false_eq_true, false_iff, not_and]
    exact fun _ => hnot

/-- **A lane that is not ok says why.** -/
theorem verify_reasons (h : (c.verify now strict).ok = false) :
    (c.verify now strict).reasons ≠ [] := by
  rcases verify_cases now strict c with ⟨heq, -⟩ | ⟨-, hne, -⟩
  · rw [heq] at h ⊢
    simp only [Commands.combined, combineBatchResults, ne_eq, List.append_eq_nil_iff, not_and]
    rintro ⟨hbuild, haudit⟩ hfresh
    -- Nothing to report means that every stage succeeded.
    have hb : c.build.returncode = 0 := by simpa [BuildRunner.run] using hbuild
    have hf : c.checker.Succeeded := Checker.run_ok_iff.mp (by simpa using hfresh)
    have ha : c.auditor.Succeeded := by
      cases hc : c.auditor with
      | double => trivial
      | real outcome =>
          rcases AxiomAuditorReal.run_cases now outcome with ⟨hs, -⟩ | ⟨-, reason, hr⟩
          · exact hs
          · simp [hc, Auditor.run, hr, AxiomAuditorReal.failed] at haudit
    simp [combined_ok_iff.mpr ⟨hb, ha, hf⟩] at h
  · exact hne

/-- The strict rule leaves the sub-results alone. -/
theorem verify_axiomAudit : (c.verify now strict).axiomAudit = c.auditor.run now := by
  cases strict with
  | false => rfl
  | true =>
      simp only [Commands.verify, applyAcceptanceStrict, if_true]
      split <;> rfl

/-- No blocked reasons: a real audit that succeeded. -/
theorem Auditor.blockedReasons_eq_nil {a : Auditor} :
    (a.run now).blockedReasons = [] ↔ a.isReal = true ∧ a.Succeeded := by
  cases a with
  | double => simp [Auditor.run, AxiomAuditor.run, Auditor.isReal]
  | real outcome =>
      rcases AxiomAuditorReal.run_cases now outcome with ⟨hs, -, -, hn⟩ | ⟨hs, reason, hf⟩
      · simp [Auditor.run, hn, Auditor.isReal, Auditor.Succeeded, hs]
      · simp [Auditor.run, hf, AxiomAuditorReal.failed, Auditor.isReal, Auditor.Succeeded, hs]

/-- A lane that is ok is not blocked. -/
theorem verify_trustLevel (h : (c.verify now strict).ok = true) :
    (c.verify now strict).trustLevel = (c.auditor.run now).trustLevel ∧
      (c.verify now strict).trustLevel ≠ .blocked := by
  rcases verify_cases now strict c with ⟨heq, -⟩ | ⟨hok, -⟩
  · have hne : (c.auditor.run now).trustLevel ≠ .blocked := by
      rw [heq] at h
      have ha : (c.auditor.run now).ok = true := Auditor.run_ok_iff.mpr (combined_ok_iff.mp h).2.1
      intro hb
      simp [Auditor.run_blocked_iff.mp hb] at ha
    have ht : (c.verify now strict).trustLevel = (c.auditor.run now).trustLevel := by
      rw [heq]
      simp [Commands.combined, combineBatchResults, hne]
    exact ⟨ht, ht ▸ hne⟩
  · simp [h] at hok

end

end Gateway

end ObligationRuntime
