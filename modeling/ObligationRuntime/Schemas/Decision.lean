/-
  ObligationRuntime.Schemas.Decision — policy decisions and the bundles that
  carry them: policy.py and witness.py of `lean_langchain_schemas`.

  `AcceptanceSummary` is the bundle's own view of a batch result.  Its field set
  is smaller than the producer's, and both models forbid unknown keys, so the
  two disagree about every batch result: `AcceptanceSummary.validate_batch`.
  The same holds of the interactive lane, whose API response carries one field
  more than the bundle's record: `InteractiveCheckResult.validate_api`.
-/
import ObligationRuntime.Schemas.Evidence

namespace ObligationRuntime

open Py

/-! ## §1. policy.py -/

/-- `DecisionLiteral`. -/
inductive Decision where
  | accepted
  | rejected
  | blocked
  | needsReview
  | lowerTrust
  | failed
  deriving DecidableEq, Repr

/-- The text of a decision. -/
def Decision.text : Decision → String
  | .accepted => "accepted"
  | .rejected => "rejected"
  | .blocked => "blocked"
  | .needsReview => "needs_review"
  | .lowerTrust => "lower_trust"
  | .failed => "failed"

/-- The codec of a decision. -/
def Decision.codec : Codec Decision :=
  Codec.literal [.accepted, .rejected, .blocked, .needsReview, .lowerTrust, .failed] Decision.text
    (by intro a; cases a <;> decide)

/-- A decision is dumped as its text. -/
@[simp] theorem Decision.codec_dump (t : Decision) : codec.dump t = .str t.text := rfl

/-- Decisions have different texts. -/
theorem Decision.text_injective {a b : Decision} (h : a.text = b.text) : a = b := by
  cases a <;> cases b <;> first | rfl | simp [text] at h

/-- `RuleEffect`. -/
inductive RuleEffect where
  | none
  | needsReview
  | rejected
  | blocked
  | accepted
  deriving DecidableEq, Repr

/-- The text of an effect. -/
def RuleEffect.text : RuleEffect → String
  | .none => "none"
  | .needsReview => "needs_review"
  | .rejected => "rejected"
  | .blocked => "blocked"
  | .accepted => "accepted"

/-- The codec of an effect. -/
def RuleEffect.codec : Codec RuleEffect :=
  Codec.literal [.none, .needsReview, .rejected, .blocked, .accepted] RuleEffect.text
    (by intro a; cases a <;> decide)

/-- An effect is dumped as its text. -/
@[simp] theorem RuleEffect.codec_dump (t : RuleEffect) : codec.dump t = .str t.text := rfl

/-- `PolicyResolvedRule`. -/
structure PolicyResolvedRule where
  ruleId : String
  sourcePack : String
  matched : Bool
  effect : RuleEffect
  reasonCode : String
  deriving DecidableEq, Repr

namespace PolicyResolvedRule

/-- `model_dump`. -/
def dump (r : PolicyResolvedRule) : Dict :=
  [("rule_id", .str r.ruleId), ("source_pack", .str r.sourcePack), ("matched", .bool r.matched),
    ("effect", .str r.effect.text), ("reason_code", .str r.reasonCode)]

/-- `model_validate`. -/
def validate (v : Json) : Except PyError PolicyResolvedRule := do
  let d ← asDict v
  forbidExtra ["rule_id", "source_pack", "matched", "effect", "reason_code"] d
  let ruleId ← req Codec.str d "rule_id"
  let sourcePack ← req Codec.str d "source_pack"
  let matched ← req Codec.bool d "matched"
  let effect ← req RuleEffect.codec d "effect"
  let reasonCode ← req Codec.str d "reason_code"
  return { ruleId, sourcePack, matched, effect, reasonCode }

/-- A resolved rule is read back. -/
theorem validate_dump (r : PolicyResolvedRule) : validate (.obj r.dump) = .ok r := by
  simp [validate, dump, forbidExtra, req, ← RuleEffect.codec_dump]

/-- The codec of a nested rule. -/
def codec : Codec PolicyResolvedRule := Codec.model dump validate validate_dump

end PolicyResolvedRule

/-- `PolicyDecision`. -/
structure PolicyDecision where
  decision : Decision
  trustLevel : TrustLevel
  reasons : List String := []
  policyPackName : String := ""
  policyPackVersion : String := ""
  resolvedRules : List PolicyResolvedRule := []
  deriving DecidableEq, Repr

namespace PolicyDecision

/-- `model_dump`. -/
def dump (r : PolicyDecision) : Dict :=
  [("decision", .str r.decision.text), ("trust_level", .str r.trustLevel.text),
    ("reasons", strList.dump r.reasons), ("policy_pack_name", .str r.policyPackName),
    ("policy_pack_version", .str r.policyPackVersion),
    ("resolved_rules", (Codec.list PolicyResolvedRule.codec).dump r.resolvedRules)]

/-- `model_validate`. -/
def validate (v : Json) : Except PyError PolicyDecision := do
  let d ← asDict v
  forbidExtra ["decision", "trust_level", "reasons", "policy_pack_name", "policy_pack_version",
    "resolved_rules"] d
  let decision ← req Decision.codec d "decision"
  let trustLevel ← req TrustLevel.codec d "trust_level"
  let reasons ← opt strList d "reasons" []
  let policyPackName ← opt Codec.str d "policy_pack_name" ""
  let policyPackVersion ← opt Codec.str d "policy_pack_version" ""
  let resolvedRules ← opt (Codec.list PolicyResolvedRule.codec) d "resolved_rules" []
  return { decision, trustLevel, reasons, policyPackName, policyPackVersion, resolvedRules }

/-- A decision is read back from its dump. -/
@[simp] theorem validate_dump (r : PolicyDecision) : validate (.obj r.dump) = .ok r := by
  simp [validate, dump, forbidExtra, req, opt, ← Decision.codec_dump, ← TrustLevel.codec_dump]

/-- Two decisions with one dump are equal. -/
theorem dump_injective : Function.Injective dump := by
  intro r r' h
  have hr := validate_dump r
  rw [h, validate_dump] at hr
  exact (Except.ok.inj hr).symm

/-- What `.get("decision")` finds in a dumped decision. -/
@[simp] theorem dump_get_decision (r : PolicyDecision) :
    Dict.get? r.dump "decision" = some (.str r.decision.text) := rfl

end PolicyDecision

/-- `PolicyAuditTrail`. -/
structure PolicyAuditTrail where
  policyPackName : String := ""
  policyPackVersion : String := ""
  resolvedRules : List PolicyResolvedRule := []
  deriving DecidableEq, Repr

/-- `model_validate` of a `PolicyAuditTrail`. -/
def PolicyAuditTrail.validate (v : Json) : Except PyError PolicyAuditTrail := do
  let d ← asDict v
  forbidExtra ["policy_pack_name", "policy_pack_version", "resolved_rules"] d
  let policyPackName ← opt Codec.str d "policy_pack_name" ""
  let policyPackVersion ← opt Codec.str d "policy_pack_version" ""
  let resolvedRules ← opt (Codec.list PolicyResolvedRule.codec) d "resolved_rules" []
  return { policyPackName, policyPackVersion, resolvedRules }

/-! ## §2. witness.py -/

/-- `AcceptanceSummary`. -/
structure AcceptanceSummary extends VersionedRecord where
  ok : Bool := true
  trustLevel : String := "clean"
  reasons : List String := []
  build : Dict := []
  axiomAudit : Dict := []
  freshChecker : Dict := []
  deriving DecidableEq

namespace AcceptanceSummary

/-- The declared fields. -/
def fields : List String :=
  ["schema_version", "created_at", "ok", "trust_level", "reasons", "build", "axiom_audit",
    "fresh_checker"]

/-- `AcceptanceSummary()`: the all-good default. -/
def default (now : Timestamp) : AcceptanceSummary := { createdAt := now }

/-- `model_dump`. -/
def dump (r : AcceptanceSummary) : Dict :=
  r.toVersionedRecord.dump ++
    [("ok", .bool r.ok), ("trust_level", .str r.trustLevel), ("reasons", strList.dump r.reasons),
      ("build", .obj r.build), ("axiom_audit", .obj r.axiomAudit),
      ("fresh_checker", .obj r.freshChecker)]

/-- `model_validate`. -/
def validate (now : Timestamp) (v : Json) : Except PyError AcceptanceSummary := do
  let d ← asDict v
  forbidExtra fields d
  let stamp ← VersionedRecord.read now d
  let ok ← opt Codec.bool d "ok" true
  let trustLevel ← opt Codec.str d "trust_level" "clean"
  let reasons ← opt strList d "reasons" []
  let build ← opt Codec.dict d "build" []
  let axiomAudit ← opt Codec.dict d "axiom_audit" []
  let freshChecker ← opt Codec.dict d "fresh_checker" []
  return { stamp with ok, trustLevel, reasons, build, axiomAudit, freshChecker }

/-- A summary is read back, whatever the time it is read at. -/
@[simp] theorem validate_dump (now : Timestamp) (r : AcceptanceSummary) :
    validate now (.obj r.dump) = .ok r := by
  have hx : forbidExtra fields r.dump = .ok () := by
    simp [dump, VersionedRecord.dump, fields, forbidExtra]
  simp only [validate, asDict_obj, ok_bind, hx]
  simp [dump, VersionedRecord.dump, opt]

/-- **Schema drift.**  No dumped batch result is an `AcceptanceSummary`: the
evidence flags are unknown keys. -/
theorem validate_batch (now : Timestamp) (r : BatchVerifyResult) :
    ∃ e, validate now (.obj r.dump) = .error e := by
  have hkey : "axiom_evidence_real" ∈ Dict.keys r.dump := by
    simp [Dict.keys, BatchVerifyResult.dump]
  have hx : "axiom_evidence_real" ∉ fields := by decide
  obtain ⟨l, he⟩ := forbidExtra_error hkey hx
  exact ⟨.validationError l "extra_forbidden", by simp [validate, he]⟩

end AcceptanceSummary

/-- **Schema drift.**  No dumped API response is an `InteractiveCheckResult`:
the transport's capability flag is an unknown key. -/
theorem InteractiveCheckResult.validate_api (now : Timestamp) (r : InteractiveCheckApiResponse) :
    ∃ e, InteractiveCheckResult.validate now (.obj r.dump) = .error e := by
  have hkey : "lsp_required" ∈ Dict.keys r.dump := by
    simp [Dict.keys, InteractiveCheckApiResponse.dump]
  have hx : "lsp_required" ∉ InteractiveCheckResult.fields := by decide
  obtain ⟨l, he⟩ := forbidExtra_error hkey hx
  exact ⟨.validationError l "extra_forbidden", by simp [validate, he]⟩

/-- `WitnessBundle`. -/
structure WitnessBundle extends VersionedRecord where
  bundleId : String
  obligationId : String
  environmentFingerprint : EnvironmentFingerprint
  interactive : InteractiveCheckResult
  acceptance : AcceptanceSummary
  policy : PolicyDecision
  approval : Dict := []
  trace : Dict := []
  deriving DecidableEq

/-- `model_dump`. -/
def WitnessBundle.dump (r : WitnessBundle) : Dict :=
  r.toVersionedRecord.dump ++
    [("bundle_id", .str r.bundleId), ("obligation_id", .str r.obligationId),
      ("environment_fingerprint", .obj r.environmentFingerprint.dump),
      ("interactive", .obj r.interactive.dump), ("acceptance", .obj r.acceptance.dump),
      ("policy", .obj r.policy.dump), ("approval", .obj r.approval), ("trace", .obj r.trace)]

/-- `new_id(prefix)`, from the hexadecimal digits drawn for it. -/
def newId (pre hex : String) : String := pre ++ "_" ++ hex

end ObligationRuntime
