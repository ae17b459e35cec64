/-
  ObligationRuntime.Runtime.InitialState — initial_state.py of
  `lean_langchain_orchestrator`: the two inputs the graph is invoked with.
-/
import ObligationRuntime.Runtime.State

namespace ObligationRuntime

open Py

/-- The arguments of `make_initial_state`. -/
structure RunRequest where
  threadId : String
  obligationId : String
  obligation : Dict
  targetFiles : List String
  targetDeclarations : Option (List String) := none
  currentPatch : Option Patch := none
  repoPath : String := ""
  sessionId : Option String := none
  policyPackName : Option String := none
  protocolEvents : Option (List Json) := none

/-- `make_initial_state`; `overrides` is merged last. -/
def makeInitialState (r : RunRequest) (overrides : Update := {}) : State :=
  State.merge
    { threadId := some r.threadId
      obligationId := some r.obligationId
      obligation := some r.obligation
      sessionId := some r.sessionId
      environmentFingerprint := some (r.obligation.getD "environment_fingerprint" (.obj []))
      targetFiles := some r.targetFiles
      targetDeclarations := some (r.targetDeclarations.getD [])
      currentPatch := some (r.currentPatch.getD [])
      patchHistory := some []
      interactiveResult := some none
      goalSnapshots := some []
      batchResult := some none
      policyDecision := some none
      trustLevel := some .null
      approvalRequired := some false
      approvalDecision := some .null
      status := some .initialized
      attemptCount := some 0
      maxAttempts := some 3
      artifacts := some []
      traceEvents := some []
      repoPath := some r.repoPath
      -- These two keys are written only when they are given.
      policyPackName := r.policyPackName
      protocolEvents := r.protocolEvents }
    overrides

/-- A human decision. -/
inductive Approval where
  | approved
  | rejected
  deriving DecidableEq, Repr

/-- The text of a human decision. -/
def Approval.text : Approval → String
  | .approved => "approved"
  | .rejected => "rejected"

/-- `make_resume_state`, for one of the two decisions it takes. -/
def makeResumeState (threadId : String) (decision : Approval) : State where
  threadId := some threadId
  obligationId := some ""
  sessionId := some none
  environmentFingerprint := some (.obj [])
  obligation := some []
  targetFiles := some []
  targetDeclarations := some []
  currentPatch := some []
  patchHistory := some []
  interactiveResult := some none
  goalSnapshots := some []
  batchResult := some none
  policyDecision := some none
  trustLevel := some .null
  approvalRequired := some true
  approvalDecision := some (.str decision.text)
  status := some .awaitingApproval
  attemptCount := some 0
  maxAttempts := some 3
  artifacts := some []
  traceEvents := some []
  repoPath := some ""

end ObligationRuntime
