/-
  ObligationRuntime.Policy.PackSchema — `model_validate` of the models of models.py of
  `lean_langchain_policy`.

  The models forbid unknown keys; a pack has neither an `extends` nor an `import` field.
-/
import ObligationRuntime.Lib.Outcome
import ObligationRuntime.Policy.Models

namespace ObligationRuntime

open Py

namespace TrustGateRule

/-- `model_dump`. -/
def dump (r : TrustGateRule) : Dict :=
  [("rule_id", .str r.ruleId),
    ("when_trust_level", (Codec.list TrustLevel.codec).dump r.whenTrustLevel),
    ("path_globs", strList.dump r.pathGlobs), ("require_human", .bool r.requireHuman),
    ("reason_code", .str r.reasonCode)]

/-- `model_validate`. -/
def validate (v : Json) : Except PyError TrustGateRule := do
  let d ← asDict v
  forbidExtra ["rule_id", "when_trust_level", "path_globs", "require_human", "reason_code"] d
  let ruleId ← opt Codec.str d "rule_id" "trust_gate"
  let whenTrustLevel ← opt (Codec.list TrustLevel.codec) d "when_trust_level" []
  let pathGlobs ← opt strList d "path_globs" []
  let requireHuman ← opt Codec.bool d "require_human" true
  let reasonCode ← opt Codec.str d "reason_code" "trust_gate_review"
  return { ruleId, whenTrustLevel, pathGlobs, requireHuman, reasonCode }

/-- A trust gate is read back. -/
theorem validate_dump (r : TrustGateRule) : validate (.obj r.dump) = .ok r := by
  simp [validate, dump, forbidExtra, opt]

/-- A trust gate that is refused is refused as invalid, -/
theorem validate_failsInvalid (v : Json) : FailsInvalid (validate v) :=
  (failsInvalid_asDict v).bind fun d =>
    (failsInvalid_forbidExtra _ d).bind fun _ =>
    (Codec.str_onlyInvalid.opt d _ _).bind fun _ =>
    ((Codec.list_onlyInvalid Codec.literal_onlyInvalid).opt d _ _).bind fun _ =>
    ((Codec.list_onlyInvalid Codec.str_onlyInvalid).opt d _ _).bind fun _ =>
    (Codec.bool_onlyInvalid.opt d _ _).bind fun _ =>
    (Codec.str_onlyInvalid.opt d _ _).bind fun _ => failsInvalid_ok _

/-- The codec of a trust gate. -/
def codec : Codec TrustGateRule := Codec.model dump validate validate_dump

/-- and so it is inside a pack. -/
theorem codec_onlyInvalid : codec.OnlyInvalid := validate_failsInvalid

end TrustGateRule

namespace PathRule

/-- `model_dump`. -/
def dump (r : PathRule) : Dict :=
  [("glob", .str r.glob), ("require_human", .bool r.requireHuman),
    ("reason_code", .str r.reasonCode)]

/-- `model_validate`. -/
def validate (v : Json) : Except PyError PathRule := do
  let d ← asDict v
  forbidExtra ["glob", "require_human", "reason_code"] d
  let glob ← req Codec.str d "glob"
  let requireHuman ← opt Codec.bool d "require_human" true
  let reasonCode ← opt Codec.str d "reason_code" "path_rule_review"
  return { glob, requireHuman, reasonCode }

/-- A path rule is read back. -/
theorem validate_dump (r : PathRule) : validate (.obj r.dump) = .ok r := by
  simp [validate, dump, forbidExtra, req, opt]

/-- A path rule that is refused is refused as invalid, -/
theorem validate_failsInvalid (v : Json) : FailsInvalid (validate v) :=
  (failsInvalid_asDict v).bind fun d =>
    (failsInvalid_forbidExtra _ d).bind fun _ =>
    (Codec.str_onlyInvalid.req d _).bind fun _ =>
    (Codec.bool_onlyInvalid.opt d _ _).bind fun _ =>
    (Codec.str_onlyInvalid.opt d _ _).bind fun _ => failsInvalid_ok _

/-- The codec of a path rule. -/
def codec : Codec PathRule := Codec.model dump validate validate_dump

/-- and so it is inside a pack. -/
theorem codec_onlyInvalid : codec.OnlyInvalid := validate_failsInvalid

end PathRule

/-- The text of a conflict policy. -/
def CompositionConflictPolicy.text : CompositionConflictPolicy → String
  | .lastWins => "last_wins"
  | .errorOnImportScalarOverride => "error_on_import_scalar_override"

/-- The codec of a conflict policy. -/
def CompositionConflictPolicy.codec : Codec CompositionConflictPolicy :=
  Codec.literal [.lastWins, .errorOnImportScalarOverride] CompositionConflictPolicy.text
    (by intro a; cases a <;> decide)

namespace PolicyPack

/-- The declared fields. -/
def fields : List String :=
  ["version", "name", "description", "allow_trust_compiler", "block_sorry_ax",
    "block_unexpected_custom_axioms", "require_human_if_imports_change", "protected_paths",
    "path_rules", "trust_gates", "require_human_on_trust_delta", "allow_interactive_warnings",
    "single_owner_handoff", "reviewer_gated_execution", "lock_ownership_invariant",
    "evidence_complete_execution_token", "delegation_admissibility",
    "state_transition_preservation", "artifact_admissibility", "side_effect_authorization",
    "composition_conflict_policy"]

/-- `PolicyPack.model_validate`. -/
def validate (d : Dict) : Except PyError PolicyPack := do
  forbidExtra fields d
  let version ← req Codec.str d "version"
  let name ← req Codec.str d "name"
  let description ← req Codec.str d "description"
  let allowTrustCompiler ← opt Codec.bool d "allow_trust_compiler" false
  let blockSorryAx ← opt Codec.bool d "block_sorry_ax" true
  let blockUnexpectedCustomAxioms ← opt Codec.bool d "block_unexpected_custom_axioms" true
  let requireHumanIfImportsChange ← opt Codec.bool d "require_human_if_imports_change" true
  let protectedPaths ← opt strList d "protected_paths" []
  let pathRules ← opt (Codec.list PathRule.codec) d "path_rules" []
  let trustGates ← opt (Codec.list TrustGateRule.codec) d "trust_gates" []
  let requireHumanOnTrustDelta ← opt Codec.bool d "require_human_on_trust_delta" true
  let allowInteractiveWarnings ← opt Codec.bool d "allow_interactive_warnings" true
  let singleOwnerHandoff ← opt Codec.bool d "single_owner_handoff" false
  let reviewerGatedExecution ← opt Codec.bool d "reviewer_gated_execution" false
  let lockOwnershipInvariant ← opt Codec.bool d "lock_ownership_invariant" false
  let evidenceCompleteExecutionToken ← opt Codec.bool d "evidence_complete_execution_token" false
  let delegationAdmissibility ← opt Codec.bool d "delegation_admissibility" false
  let stateTransitionPreservation ← opt Codec.bool d "state_transition_preservation" false
  let artifactAdmissibility ← opt Codec.bool d "artifact_admissibility" false
  let sideEffectAuthorization ← opt Codec.bool d "side_effect_authorization" false
  let compositionConflictPolicy ←
    opt CompositionConflictPolicy.codec d "composition_conflict_policy" .lastWins
  return {
    version, name, description, allowTrustCompiler, blockSorryAx, blockUnexpectedCustomAxioms,
    requireHumanIfImportsChange, protectedPaths, pathRules, trustGates,
    requireHumanOnTrustDelta, allowInteractiveWarnings, singleOwnerHandoff,
    reviewerGatedExecution, lockOwnershipInvariant, evidenceCompleteExecutionToken,
    delegationAdmissibility, stateTransitionPreservation, artifactAdmissibility,
    sideEffectAuthorization, compositionConflictPolicy }

/-- A mapping with an unknown key is refused. -/
theorem validate_unknown {d : Dict} {k : String} (hk : k ∈ d.keys) (hf : k ∉ fields) :
    ∃ l, validate d = .error (.validationError l "extra_forbidden") := by
  obtain ⟨l, hl⟩ := forbidExtra_error hk hf
  refine ⟨l, ?_⟩
  unfold validate
  rw [hl, error_bind]

/-- A pack that is refused is refused with a `ValidationError`. -/
theorem validate_failsInvalid (d : Dict) : FailsInvalid (validate d) := by
  have hstr := Codec.str_onlyInvalid.req d
  have hbool := Codec.bool_onlyInvalid.opt d
  have hpaths := (Codec.list_onlyInvalid Codec.str_onlyInvalid).opt d
  have hrules := (Codec.list_onlyInvalid PathRule.codec_onlyInvalid).opt d
  have hgates := (Codec.list_onlyInvalid TrustGateRule.codec_onlyInvalid).opt d
  unfold validate
  refine (failsInvalid_forbidExtra fields d).bind fun _ => ?_
  refine (hstr "version").bind fun _ => (hstr "name").bind fun _ => ?_
  refine (hstr "description").bind fun _ => (hbool _ _).bind fun _ => (hbool _ _).bind fun _ => ?_
  refine (hbool _ _).bind fun _ => (hbool _ _).bind fun _ => (hpaths _ _).bind fun _ => ?_
  refine (hrules _ _).bind fun _ => (hgates _ _).bind fun _ => (hbool _ _).bind fun _ => ?_
  refine (hbool _ _).bind fun _ => (hbool _ _).bind fun _ => (hbool _ _).bind fun _ => ?_
  refine (hbool _ _).bind fun _ => (hbool _ _).bind fun _ => (hbool _ _).bind fun _ => ?_
  refine (hbool _ _).bind fun _ => (hbool _ _).bind fun _ => (hbool _ _).bind fun _ => ?_
  exact (Codec.literal_onlyInvalid.opt d _ _).bind fun _ => failsInvalid_ok _

end PolicyPack

end ObligationRuntime
