/-
  ObligationRuntime.Guarantees.ResumeSafety — resuming a thread.

  The input of a resume is a whole state: it overwrites the interrupted run's
  obligation, environment, evidence, decision and artifacts before the graph looks
  at them.  So an approved resume does not depend on the thread at all: it ends
  accepted after any history, with a bundle about nothing.

  Main results:
    * `resume_never_safe` — after every history, the same unsafe resume,
    * `resume_safety_fails` — a thread that never ran, and one that ended rejected,
      both accepted.
-/
import ObligationRuntime.Guarantees.WitnessFidelity
import ObligationRuntime.Runtime.Threads

namespace ObligationRuntime

open Py Flow Handlers

/-- The bundle describes an interrupted run: its obligation and environment, the
evidence it has, and its decision, which asked for a reviewer. -/
structure Describes (s : State) (b : WitnessBundle) : Prop where
  obligationId : b.obligationId = s.obligationId.getD ""
  fingerprint : ∀ fp : EnvironmentFingerprint,
    s.environmentFingerprint = some (.obj fp.dump) → b.environmentFingerprint = fp
  check : ∀ c : InteractiveCheckApiResponse, s.interactive = some c.dump → KeptInteractive c b
  batch : ∀ r : BatchVerifyResult, s.batch = some r.dump → KeptAcceptance r b
  policy : s.policy = some b.policy.dump
  needsReview : b.policy.decision = .needsReview

/-- **Resume safety**: an accepted resume was of a thread that awaited approval; it
keeps the thread's artifacts and appends a bundle about the interrupted run. -/
def ResumeSafe (before : Option State) (r : Run) : Prop :=
  EndsWith r .accepted →
    ∃ s, before = some s ∧ s.status = some .awaitingApproval ∧
      ∃ b, r.state.artifacts = some (s.artifacts.getD [] ++ [bundleArtifact b]) ∧ Describes s b

theorem bundleArtifact_policy {b b' : WitnessBundle} (h : bundleArtifact b = bundleArtifact b') :
    b.policy = b'.policy := by
  have hdump : b.policy.dump = b'.policy.dump := by
    simp only [bundleArtifact, WitnessBundle.dump, Json.obj.injEq, List.cons.injEq, Prod.mk.injEq,
      and_true, true_and] at h
    have := congrArg (Dict.get? · "policy") h
    simpa [VersionedRecord.dump] using this
  exact PolicyDecision.dump_injective hdump

/-- The blank bundle describes no interrupted run. -/
theorem not_safe_of_blank {deps : Deps} {before : Option State} {r : Run}
    (hacc : EndsWith r .accepted)
    (hart : r.state.artifacts = some [bundleArtifact (blankBundle deps)]) :
    ¬ ResumeSafe before r := by
  intro hsafe
  obtain ⟨s, -, -, b, hb, hdesc⟩ := hsafe hacc
  rw [hart, Option.some.injEq] at hb
  have hlast : bundleArtifact (blankBundle deps) = bundleArtifact b := by
    have := congrArg List.getLast? hb
    simpa using this
  -- A described run asked for a reviewer; the blank bundle says accepted.
  have hneeds := hdesc.needsReview
  rw [← bundleArtifact_policy hlast] at hneeds
  cases hneeds

/-- **No resume is safe.**  After every history of a thread, an approved resume ends
accepted, drops the artifacts, and appends the blank bundle. -/
theorem resume_never_safe (threadId : String) (history : List (Deps × ThreadOp)) (deps : Deps) :
    let before := latestCheckpoint threadId history
    let r := resumeThread deps before threadId .approved
    EndsWith r .accepted ∧ r.state.artifacts = some [bundleArtifact (blankBundle deps)] ∧
      ¬ ResumeSafe before r := by
  intro before r
  obtain ⟨hacc, hart⟩ := resume_approved deps before threadId
  exact ⟨hacc, hart, not_safe_of_blank hacc hart⟩

namespace Scripted

/-- A batch result whose build failed. -/
def unverified : BatchVerifyResult :=
  { verified with ok := false, build := { command with ok := false } }

/-- A gateway where the build fails. -/
def failingDeps : Deps := deps "s1" checked unverified pack

/-- A thread with one run, which was rejected. -/
def rejectedThread : List (Deps × ThreadOp) := [(failingDeps, .run (request patch) {})]

end Scripted

/-- **Nothing, and a rejected run, turned into an acceptance.** -/
theorem resume_safety_fails :
    let fresh := resumeThread Scripted.failingDeps (latestCheckpoint "thread" []) "thread" .approved
    let before := latestCheckpoint "thread" Scripted.rejectedThread
    let rejected := resumeThread Scripted.failingDeps before "thread" .approved
    latestCheckpoint "thread" [] = none ∧ EndsWith fresh .accepted ∧
      (before.bind State.policy).bind (Dict.get? · "decision") = some (.str "rejected") ∧
      EndsWith rejected .accepted ∧ ¬ ResumeSafe before rejected := by
  intro fresh before rejected
  have hacc : EndsWith rejected .accepted := by decide
  refine ⟨rfl, by decide, by decide, hacc, fun hsafe => ?_⟩
  obtain ⟨s, hs, hstatus, -⟩ := hsafe hacc
  have hbefore : before.bind State.status = some .auditing := by decide
  rw [hs, Option.bind_some, hstatus] at hbefore
  cases hbefore

end ObligationRuntime
