/-
  ObligationRuntime.Runtime.State — the state of the patch-admissibility graph:
  state.py of `lean_langchain_orchestrator`.

  The state is a mapping in which any key may be absent, so every field is an
  option; a key whose value may also be `None` has a second option inside.  A
  node answers with a mapping of the same kind, which is merged key by key: a key
  the update has (with whatever value, `None` included) replaces the old one.

  Main results: `merge_empty`, `merge_assoc` — an update is an action on states.
-/
import ObligationRuntime.Schemas.Review
import Mathlib.Tactic.Simps.Basic

namespace ObligationRuntime

open Py

/-! ## §1. The state. -/

/-- The literals of the `status` key. -/
inductive Status where
  | initialized
  | retrievingContext
  | drafting
  | checkingInteractive
  | repairing
  | auditing
  | awaitingApproval
  | batchVerifying
  | accepted
  | rejected
  | failed
  deriving DecidableEq, Repr

/-- `ObligationRuntimeState`. -/
structure State where
  threadId : Option String := none
  obligationId : Option String := none
  environmentFingerprint : Option Json := none
  sessionId : Option (Option String) := none
  obligation : Option Dict := none
  targetFiles : Option (List String) := none
  targetDeclarations : Option (List String) := none
  currentPatch : Option Patch := none
  patchHistory : Option (List Patch) := none
  interactiveResult : Option (Option Dict) := none
  goalSnapshots : Option (List Dict) := none
  batchResult : Option (Option Dict) := none
  policyDecision : Option (Option Dict) := none
  trustLevel : Option Json := none
  approvalRequired : Option Bool := none
  approvalDecision : Option Json := none
  status : Option Status := none
  attemptCount : Option Int := none
  maxAttempts : Option Int := none
  artifacts : Option (List Json) := none
  traceEvents : Option (List Dict) := none
  protocolEvents : Option (List Json) := none
  policyPackName : Option String := none
  repoPath : Option String := none
  deriving DecidableEq

/-- What a node returns: the keys it writes. -/
abbrev Update := State

namespace State

/-- `{**state, **update}`. -/
@[simps] def merge (s u : State) : State where
  threadId := u.threadId.or s.threadId
  obligationId := u.obligationId.or s.obligationId
  environmentFingerprint := u.environmentFingerprint.or s.environmentFingerprint
  sessionId := u.sessionId.or s.sessionId
  obligation := u.obligation.or s.obligation
  targetFiles := u.targetFiles.or s.targetFiles
  targetDeclarations := u.targetDeclarations.or s.targetDeclarations
  currentPatch := u.currentPatch.or s.currentPatch
  patchHistory := u.patchHistory.or s.patchHistory
  interactiveResult := u.interactiveResult.or s.interactiveResult
  goalSnapshots := u.goalSnapshots.or s.goalSnapshots
  batchResult := u.batchResult.or s.batchResult
  policyDecision := u.policyDecision.or s.policyDecision
  trustLevel := u.trustLevel.or s.trustLevel
  approvalRequired := u.approvalRequired.or s.approvalRequired
  approvalDecision := u.approvalDecision.or s.approvalDecision
  status := u.status.or s.status
  attemptCount := u.attemptCount.or s.attemptCount
  maxAttempts := u.maxAttempts.or s.maxAttempts
  artifacts := u.artifacts.or s.artifacts
  traceEvents := u.traceEvents.or s.traceEvents
  protocolEvents := u.protocolEvents.or s.protocolEvents
  policyPackName := u.policyPackName.or s.policyPackName
  repoPath := u.repoPath.or s.repoPath

/-- The empty update changes nothing. -/
@[simp] theorem merge_empty (s : State) : s.merge {} = s := by
  simp [merge]

/-- Two updates in a row are one update. -/
theorem merge_assoc (s u v : State) : (s.merge u).merge v = s.merge (u.merge v) := by
  simp [merge, Option.or_assoc]

/-! ## §2. `state.get`. -/

/-- `state.get("session_id")`, when it is not empty. -/
def session (s : State) : Option String :=
  match s.sessionId.join with
  | some sid => if sid = "" then none else some sid
  | none => none

/-- `state.get("interactive_result")`. -/
def interactive (s : State) : Option Dict := s.interactiveResult.join

/-- `state.get("batch_result")`. -/
def batch (s : State) : Option Dict := s.batchResult.join

/-- `state.get("policy_decision")`. -/
def policy (s : State) : Option Dict := s.policyDecision.join

/-- `state.get("approval_decision")`. -/
def approval (s : State) : Json := s.approvalDecision.getD .null

/-- `state.get("policy_pack_name") or <environment or default>`. -/
def packName (s : State) (obrPolicyPack : Option String) (default : String) : String :=
  match s.policyPackName with
  | some n => if n = "" then obrPolicyPack.getD default else n
  | none => obrPolicyPack.getD default

/-- `policy = obligation.get("policy") or {}; list(policy.get("protected_paths")
or [])`. -/
def protectedPaths (s : State) : Except PyError (List Json) := do
  let policy := (Dict.getD (s.obligation.getD []) "policy" .null).orElse (.obj [])
  let paths ← policy.pyGet "protected_paths"
  (paths.orElse (.arr [])).pyIter

end State

end ObligationRuntime
