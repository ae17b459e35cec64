/-
  ObligationRuntime.Runtime.Threads — threads and the two ways to resume one:
  `cmd_resume` of cli.py and the `resume` endpoint of http_server.py.

  A thread is its latest checkpoint.  Every invocation merges its input over the
  checkpoint, runs from the start, and leaves the state it ends in (or raises in)
  as the next checkpoint.  The input of a run writes every key of the state but two,
  that of a resume almost every key, so almost nothing of the checkpoint survives the
  merge.

  Main results:
    * `startState_makeInitialState` — what a run reads of its thread,
    * `blank_bundleOf` — the bundle a resume makes, from any checkpoint,
    * `resume_approved`, `resume_rejected` — how a resume ends, from any checkpoint.
-/
import ObligationRuntime.Runtime.Runs

namespace ObligationRuntime

open Py Flow Handlers

/-! ## §1. Threads. -/

/-- The decision a text names. -/
def approvalOfText? (s : String) : Option Approval :=
  if s = "approved" then some .approved
  else if s = "rejected" then some .rejected
  else none

/-- The text `cmd_resume` reads: `decision or "approved"`. -/
def cliText (decision : Option String) : String :=
  match decision with
  | some s => if s = "" then "approved" else s
  | none => "approved"

/-- The decision of `cmd_resume`: approved, unless the text says `rejected`. -/
def cliDecision (decision : Option String) : Approval :=
  (approvalOfText? (lower (strip (cliText decision)))).getD .approved

/-- `graph.invoke(make_resume_state(..))`. -/
def resumeThread (deps : Deps) (checkpoint : Option State) (threadId : String)
    (decision : Approval) : Run :=
  invoke deps checkpoint (makeResumeState threadId decision)

/-- `cmd_resume`: nothing runs without a thread id. -/
def cmdResume (deps : Deps) (checkpoint : Option State) (threadId : String)
    (decision : Option String) : Option Run :=
  if threadId = "" then none
  else some (resumeThread deps checkpoint threadId (cliDecision decision))

/-- `POST /reviews/{thread}/resume`. -/
def resumeEndpoint (deps : Deps) (checkpoint : Option State) (threadId : String)
    (decision : String) : Except PyError Run :=
  match approvalOfText? (lower (strip decision)) with
  -- The endpoint refuses what the command line takes for an approval.
  | none => .error (.apiError 400 "bad_request")
  | some d => .ok (resumeThread deps checkpoint threadId d)

/-- A use of a thread. -/
inductive ThreadOp where
  | run (request : RunRequest) (overrides : Update)
  | resumeCli (decision : Option String)
  | resumeHttp (decision : String)

/-- The checkpoint after a use of a thread. -/
def ThreadOp.apply (deps : Deps) (threadId : String) (checkpoint : Option State) :
    ThreadOp → Option State
  | .run request overrides =>
      some (invoke deps checkpoint (makeInitialState request overrides)).state
  | .resumeCli decision =>
      match cmdResume deps checkpoint threadId decision with
      | none => checkpoint
      | some r => some r.state
  | .resumeHttp decision =>
      match resumeEndpoint deps checkpoint threadId decision with
      | .error _ => checkpoint
      | .ok r => some r.state

/-- The latest checkpoint of a thread, from its history; each use has its own
gateway. -/
def latestCheckpoint (threadId : String) (history : List (Deps × ThreadOp)) : Option State :=
  history.foldl (fun checkpoint op => op.2.apply op.1 threadId checkpoint) none

example : cliDecision (some " Rejected ") = .rejected ∧ cliDecision (some "no") = .approved ∧
    cliDecision none = .approved := by decide

/-! ## §2. What a run reads of its thread. -/

/-- The request, with what it leaves open filled in from a checkpoint. -/
def RunRequest.filled (request : RunRequest) (checkpoint : Option State) : RunRequest :=
  { request with
    policyPackName := request.policyPackName.or (checkpoint.bind State.policyPackName)
    protocolEvents := request.protocolEvents.or (checkpoint.bind State.protocolEvents) }

/-- **What a run reads of its thread**: the pack name and the events, where the
request has none. -/
theorem startState_makeInitialState (checkpoint : Option State) (request : RunRequest) :
    startState checkpoint (makeInitialState request) =
      makeInitialState (request.filled checkpoint) := by
  cases checkpoint <;> simp [startState, makeInitialState, State.merge, RunRequest.filled]

/-- The run of a request is a first run of the request filled in. -/
theorem invoke_filled (deps : Deps) (checkpoint : Option State) (request : RunRequest) :
    invoke deps checkpoint (makeInitialState request) =
      run deps .initEnvironment (makeInitialState (request.filled checkpoint)) := by
  rw [invoke_eq_run, startState_makeInitialState]
  rfl

/-! ## §3. What a resume does. -/

section

variable {deps : Deps} {checkpoint : Option State} {threadId : String}

/-- A resume starts at the human decision, whatever the checkpoint. -/
theorem routeStart_resume (decision : Approval) :
    routeStart (startState checkpoint (makeResumeState threadId decision)) =
      .resumeWithApproval := by
  cases decision <;>
    simp [routeStart, startState, State.merge, State.approval, makeResumeState, Approval.text]

/-- The bundle of a run that has nothing: no obligation, no environment, clean
evidence and an acceptance. -/
def blankBundle (deps : Deps) : WitnessBundle where
  createdAt := deps.now
  bundleId := newId "wit" deps.hex
  obligationId := ""
  environmentFingerprint :=
    { createdAt := deps.now, repoId := "", commitSha := "", leanToolchain := ""
      lakefileHash := "" }
  interactive := { createdAt := deps.now, ok := true }
  acceptance := AcceptanceSummary.default deps.now
  policy := { decision := .accepted, trustLevel := .clean }

/-- **A resume makes the blank bundle**, from any checkpoint. -/
theorem blank_bundleOf (decision : Approval) :
    bundleOf deps (startState checkpoint (makeResumeState threadId decision)) =
      .ok (blankBundle deps) := by
  -- Each field falls back to its default: nothing of the thread is left.
  have hfp : fingerprintOf deps (.obj []) = .ok (blankBundle deps).environmentFingerprint := rfl
  have hint : interactiveOf deps [] = (blankBundle deps).interactive := rfl
  have hpol : policyOf [] = (blankBundle deps).policy := rfl
  simp [bundleOf, startState, State.merge, makeResumeState, State.interactive, State.batch,
    State.policy, State.approval, Json.orElse, Json.dict?, hfp, hint, hpol, acceptanceOf,
    blankBundle]

/-- **An approved resume ends accepted, with the blank bundle alone**, from any
checkpoint. -/
theorem resume_approved (deps : Deps) (checkpoint : Option State) (threadId : String) :
    EndsWith (resumeThread deps checkpoint threadId .approved) .accepted ∧
      (resumeThread deps checkpoint threadId .approved).state.artifacts =
        some [bundleArtifact (blankBundle deps)] := by
  have happroval : (startState checkpoint (makeResumeState threadId .approved)).approval =
      .str "approved" := by
    simp [startState, State.merge, State.approval, makeResumeState, Approval.text]
  have hcont := run_resume_approved deps happroval
  have hb : bundleOf deps (resumed (startState checkpoint (makeResumeState threadId .approved))) =
      .ok (blankBundle deps) := bundleOf_resumed.trans (blank_bundleOf .approved)
  rw [run_finalize hb] at hcont
  rw [resumeThread, invoke_eq_run, routeStart_resume]
  refine ⟨⟨hcont.error, by rw [hcont.state]; rfl⟩, ?_⟩
  rw [hcont.state]
  simp [resumed, startState, makeResumeState]

/-- A rejected resume ends rejected, from any checkpoint. -/
theorem resume_rejected (deps : Deps) (checkpoint : Option State) (threadId : String) :
    EndsWith (resumeThread deps checkpoint threadId .rejected) .rejected := by
  have happroval : (startState checkpoint (makeResumeState threadId .rejected)).approval ≠
      .str "approved" := by
    simp [startState, State.merge, State.approval, makeResumeState, Approval.text]
  rw [resumeThread, invoke_eq_run, routeStart_resume, run_resume_rejected happroval]
  exact ⟨rfl, rfl⟩

end

end ObligationRuntime
