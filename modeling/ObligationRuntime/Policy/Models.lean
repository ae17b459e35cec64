/-
  ObligationRuntime.Policy.Models — policy packs: models.py and constants.py of
  `lean_langchain_policy`.
-/
import ObligationRuntime.Schemas.Decision

namespace ObligationRuntime

/-! ## §1. constants.py -/

namespace Reason

def delegateWithoutPriorClaim : String := "delegate_without_prior_claim"
def ownerMismatch : String := "owner_mismatch"
def missingApprovalToken : String := "missing_approval_token"
def lockConflict : String := "lock_conflict"
def releaseWithoutLock : String := "release_without_lock"
def invalidStateTransition : String := "invalid_state_transition"
def artifactNotAdmissible : String := "artifact_not_admissible"
def sideEffectUnauthorized : String := "side_effect_unauthorized"
def evidenceIncomplete : String := "evidence_incomplete"

end Reason

/-! ## §2. models.py -/

/-- `TrustGateRule`. -/
structure TrustGateRule where
  ruleId : String := "trust_gate"
  whenTrustLevel : List TrustLevel := []
  pathGlobs : List String := []
  requireHuman : Bool := true
  reasonCode : String := "trust_gate_review"
  deriving DecidableEq, Repr

/-- `PathRule`. -/
structure PathRule where
  glob : String
  requireHuman : Bool := true
  reasonCode : String := "path_rule_review"
  deriving DecidableEq, Repr

/-- `composition_conflict_policy`. -/
inductive CompositionConflictPolicy where
  | lastWins
  | errorOnImportScalarOverride
  deriving DecidableEq, Repr

/-- `PolicyPack`. -/
structure PolicyPack where
  version : String
  name : String
  description : String
  allowTrustCompiler : Bool := false
  blockSorryAx : Bool := true
  blockUnexpectedCustomAxioms : Bool := true
  requireHumanIfImportsChange : Bool := true
  protectedPaths : List String := []
  pathRules : List PathRule := []
  trustGates : List TrustGateRule := []
  requireHumanOnTrustDelta : Bool := true
  allowInteractiveWarnings : Bool := true
  singleOwnerHandoff : Bool := false
  reviewerGatedExecution : Bool := false
  lockOwnershipInvariant : Bool := false
  evidenceCompleteExecutionToken : Bool := false
  delegationAdmissibility : Bool := false
  stateTransitionPreservation : Bool := false
  artifactAdmissibility : Bool := false
  sideEffectAuthorization : Bool := false
  compositionConflictPolicy : CompositionConflictPolicy := .lastWins
  deriving DecidableEq, Repr

end ObligationRuntime
