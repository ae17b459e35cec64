/-
  ObligationRuntime.Schemas.Review — the payload a reviewer is shown: review.py
  of `lean_langchain_schemas`.

  These models IGNORE unknown keys, and several of their fields are coerced
  before they are validated (`mode="before"` validators): a missing patch
  becomes the empty one, the list of touched protected paths becomes a flag, an
  absent audit, batch result or decision becomes the all-good default.
-/
import ObligationRuntime.Schemas.Decision

namespace ObligationRuntime

open Py

/-- A patch: path to full new content, in insertion order. -/
abbrev Patch := List (String × String)

/-- A patch as a mapping. -/
def Patch.dump (p : Patch) : Dict := p.map fun kv => (kv.1, .str kv.2)

/-! ## §1. The parts of the payload. -/

/-- `ReviewObligationSummary`. -/
structure ReviewObligationSummary where
  obligation : Dict := []
  targetFiles : List String := []
  targetDeclarations : List String := []
  deriving DecidableEq

namespace ReviewObligationSummary

/-- `_none_to_list`: anything but a list becomes the empty list. -/
def noneToList : Json → Json
  | .arr xs => .arr xs
  | _ => .arr []

/-- `model_validate`. -/
def validate (v : Json) : Except PyError ReviewObligationSummary := do
  let d ← asDict v
  let obligation ← opt Codec.dict d "obligation" []
  let targetFiles ← strList.validate (noneToList (d.getD "target_files" .null))
  let targetDeclarations ← strList.validate (noneToList (d.getD "target_declarations" .null))
  return { obligation, targetFiles, targetDeclarations }

/-- `model_dump`. -/
def dump (r : ReviewObligationSummary) : Dict :=
  [("obligation", .obj r.obligation), ("target_files", strList.dump r.targetFiles),
    ("target_declarations", strList.dump r.targetDeclarations)]

end ReviewObligationSummary

/-- `ReviewEnvironmentSummary`. -/
structure ReviewEnvironmentSummary where
  repoId : String := ""
  repoUrl : Option String := none
  commitSha : String := ""
  leanToolchain : String := ""
  lakefileHash : String := ""
  manifestHash : Option String := none
  targetPlatform : String := "linux/amd64"
  buildFlags : List String := []
  osFamily : String := "linux"
  importedPackages : Option (List String) := none
  deriving DecidableEq, Repr

namespace ReviewEnvironmentSummary

/-- `model_validate`. -/
def validate (v : Json) : Except PyError ReviewEnvironmentSummary := do
  let d ← asDict v
  let repoId ← opt Codec.str d "repo_id" ""
  let repoUrl ← opt optStr d "repo_url" none
  let commitSha ← opt Codec.str d "commit_sha" ""
  let leanToolchain ← opt Codec.str d "lean_toolchain" ""
  let lakefileHash ← opt Codec.str d "lakefile_hash" ""
  let manifestHash ← opt optStr d "manifest_hash" none
  let targetPlatform ← opt Codec.str d "target_platform" "linux/amd64"
  let buildFlags ← opt strList d "build_flags" []
  let osFamily ← opt Codec.str d "os_family" "linux"
  let importedPackages ← opt optStrList d "imported_packages" none
  return {
    repoId, repoUrl, commitSha, leanToolchain, lakefileHash, manifestHash, targetPlatform,
    buildFlags, osFamily, importedPackages }

/-- `model_dump`. -/
def dump (r : ReviewEnvironmentSummary) : Dict :=
  [("repo_id", .str r.repoId), ("repo_url", optStr.dump r.repoUrl),
    ("commit_sha", .str r.commitSha), ("lean_toolchain", .str r.leanToolchain),
    ("lakefile_hash", .str r.lakefileHash), ("manifest_hash", optStr.dump r.manifestHash),
    ("target_platform", .str r.targetPlatform), ("build_flags", strList.dump r.buildFlags),
    ("os_family", .str r.osFamily), ("imported_packages", optStrList.dump r.importedPackages)]

end ReviewEnvironmentSummary

/-- `ReviewPatchMetadata`. -/
structure ReviewPatchMetadata where
  currentPatch : Patch := []
  protectedPathsTouched : Bool := false
  importsChanged : Bool := false
  changedFiles : List String := []
  diffHash : Option String := none
  deriving DecidableEq, Repr

namespace ReviewPatchMetadata

/-- `str(v)` of a patch value; `None` is read as the empty content.  Only the
scalars whose text is fixed are read. -/
def contentOf : Json → Except PyError String
  | .null => .ok ""
  | .str s => .ok s
  | .bool b => .ok (if b then "True" else "False")
  | .int n => .ok (toString n)
  | _ => Codec.mismatch "string_type"

/-- `_coerce_patch` and the validation of what it gives. -/
def coercePatch : Json → Except PyError Patch
  | .obj d => go d
  | _ => .ok []
where
  /-- Entry by entry. -/
  go : Dict → Except PyError Patch
    | [] => .ok []
    | (k, v) :: d =>
        match contentOf v, go d with
        | .ok c, .ok p => .ok ((k, c) :: p)
        | .error e, _ => .error e
        | .ok _, .error e => .error e

/-- `model_validate`. -/
def validate (v : Json) : Except PyError ReviewPatchMetadata := do
  let d ← asDict v
  let currentPatch ← coercePatch (d.getD "current_patch" .null)
  let protectedPathsTouched := (d.getD "protected_paths_touched" (.bool false)).truthy
  let importsChanged ← opt Codec.bool d "imports_changed" false
  let changedFiles ← opt strList d "changed_files" []
  let diffHash ← opt optStr d "diff_hash" none
  return { currentPatch, protectedPathsTouched, importsChanged, changedFiles, diffHash }

/-- `model_dump`. -/
def dump (r : ReviewPatchMetadata) : Dict :=
  [("current_patch", .obj r.currentPatch.dump),
    ("protected_paths_touched", .bool r.protectedPathsTouched),
    ("imports_changed", .bool r.importsChanged), ("changed_files", strList.dump r.changedFiles),
    ("diff_hash", optStr.dump r.diffHash)]

end ReviewPatchMetadata

/-! ## §2. The payload. -/

/-- `ReviewPayload`. -/
structure ReviewPayload where
  threadId : String
  obligationId : String := ""
  obligationSummary : ReviewObligationSummary := {}
  environmentSummary : ReviewEnvironmentSummary := {}
  patchMetadata : ReviewPatchMetadata := {}
  diffSummary : Option String := none
  diagnosticsSummary : List Dict := []
  axiomAuditSummary : AxiomAuditResult
  batchSummary : AcceptanceSummary
  policySummary : PolicyDecision
  trustDelta : Option String := none
  reasons : List String := []
  status : String := "awaiting_review"
  policyAudit : Option PolicyAuditTrail := none
  deriving DecidableEq

namespace ReviewPayload

/-- `_coerce_diagnostics`: keep the mappings of a list. -/
def coerceDiagnostics : Json → List Dict
  | .arr xs => xs.filterMap Json.dict?
  | .obj d =>
      match Dict.getD d "diagnostics" .null with
      | .arr xs => xs.filterMap Json.dict?
      | _ => []
  | _ => []

/-- `_coerce_axiom`: nothing becomes a clean audit. -/
def coerceAxiom (now : Timestamp) (v : Json) : Except PyError AxiomAuditResult :=
  if v = .null ∨ v = .obj [] then .ok { createdAt := now, ok := true, trustLevel := .clean }
  else AxiomAuditResult.validate now v

/-- The keys `_coerce_batch` keeps. -/
def batchKeys : List String :=
  ["ok", "trust_level", "reasons", "build", "axiom_audit", "fresh_checker"]

/-- `{k: v[k] for k in keep if k in v}`. -/
def keepKeys (d : Dict) : Dict :=
  batchKeys.filterMap fun k => (Dict.get? d k).map fun v => (k, v)

/-- `_coerce_batch`: nothing becomes the all-good summary. -/
def coerceBatch (now : Timestamp) : Json → Except PyError AcceptanceSummary
  | .null => .ok (AcceptanceSummary.default now)
  | .obj d => AcceptanceSummary.validate now (.obj (keepKeys d))
  | v => AcceptanceSummary.validate now v

/-- `_coerce_policy`: nothing becomes a clean acceptance. -/
def coercePolicy (v : Json) : Except PyError PolicyDecision :=
  if v = .null ∨ v = .obj [] then .ok { decision := .accepted, trustLevel := .clean }
  else PolicyDecision.validate v

/-- A nested model field with a default. -/
def nested {α : Type} (validate : Json → Except PyError α) (d : Dict) (k : String) (default : α) :
    Except PyError α :=
  match d.get? k with
  | some v => validate v
  | none => .ok default

/-- `PolicyAuditTrail | None`. -/
def auditTrail : Json → Except PyError (Option PolicyAuditTrail)
  | .null => .ok none
  | v => (PolicyAuditTrail.validate v).map some

/-- `model_validate`. -/
def validate (now : Timestamp) (v : Json) : Except PyError ReviewPayload := do
  let d ← asDict v
  let threadId ← req Codec.str d "thread_id"
  let obligationId ← opt Codec.str d "obligation_id" ""
  let obligationSummary ← nested ReviewObligationSummary.validate d "obligation_summary" {}
  let environmentSummary ← nested ReviewEnvironmentSummary.validate d "environment_summary" {}
  let patchMetadata ← nested ReviewPatchMetadata.validate d "patch_metadata" {}
  let diffSummary ← opt optStr d "diff_summary" none
  let diagnosticsSummary := coerceDiagnostics (d.getD "diagnostics_summary" .null)
  let axiomAuditSummary ← coerceAxiom now (d.getD "axiom_audit_summary" .null)
  let batchSummary ← coerceBatch now (d.getD "batch_summary" .null)
  let policySummary ← coercePolicy (d.getD "policy_summary" .null)
  let trustDelta ← opt optStr d "trust_delta" none
  let reasons ← opt strList d "reasons" []
  let status ← opt Codec.str d "status" "awaiting_review"
  let policyAudit ← nested auditTrail d "policy_audit" none
  return {
    threadId, obligationId, obligationSummary, environmentSummary, patchMetadata, diffSummary,
    diagnosticsSummary, axiomAuditSummary, batchSummary, policySummary, trustDelta, reasons,
    status, policyAudit }

/-- `model_dump(mode="json")` of a policy audit trail. -/
def dumpAudit : Option PolicyAuditTrail → Json
  | none => .null
  | some a =>
      .obj [("policy_pack_name", .str a.policyPackName),
        ("policy_pack_version", .str a.policyPackVersion),
        ("resolved_rules", (Codec.list PolicyResolvedRule.codec).dump a.resolvedRules)]

/-- `model_dump(mode="json")`. -/
def dump (r : ReviewPayload) : Dict :=
  [("thread_id", .str r.threadId), ("obligation_id", .str r.obligationId),
    ("obligation_summary", .obj r.obligationSummary.dump),
    ("environment_summary", .obj r.environmentSummary.dump),
    ("patch_metadata", .obj r.patchMetadata.dump), ("diff_summary", optStr.dump r.diffSummary),
    ("diagnostics_summary", .arr (r.diagnosticsSummary.map .obj)),
    ("axiom_audit_summary", .obj r.axiomAuditSummary.dump),
    ("batch_summary", .obj r.batchSummary.dump), ("policy_summary", .obj r.policySummary.dump),
    ("trust_delta", optStr.dump r.trustDelta), ("reasons", strList.dump r.reasons),
    ("status", .str r.status), ("policy_audit", dumpAudit r.policyAudit)]

end ReviewPayload

/-! ## §3. Round trips.

A payload that was dumped is read back as it was, except that the batch summary
loses its stamp: `_coerce_batch` keeps six keys, and neither the version nor the time
is one of them. -/

/-- The summary of an obligation is read back. -/
@[simp] theorem ReviewObligationSummary.validate_dump (r : ReviewObligationSummary) :
    validate (.obj r.dump) = .ok r := by
  simp [validate, dump, opt, Dict.getD, noneToList, strList, Codec.list, Codec.validateAll_map]

/-- The summary of an environment is read back. -/
@[simp] theorem ReviewEnvironmentSummary.validate_dump (r : ReviewEnvironmentSummary) :
    validate (.obj r.dump) = .ok r := by
  simp [validate, dump, opt]

/-- A patch of strings is read entry by entry. -/
theorem ReviewPatchMetadata.coercePatch_dump (p : Patch) : coercePatch (.obj p.dump) = .ok p := by
  show coercePatch.go p.dump = .ok p
  induction p with
  | nil => rfl
  | cons kv p ih =>
      have hcons : Patch.dump (kv :: p) = (kv.1, .str kv.2) :: Patch.dump p := rfl
      rw [hcons, coercePatch.go, ih]
      rfl

/-- The metadata of a patch is read back, the patch included. -/
@[simp] theorem ReviewPatchMetadata.validate_dump (r : ReviewPatchMetadata) :
    validate (.obj r.dump) = .ok r := by
  simp [validate, dump, opt, Dict.getD, coercePatch_dump]

namespace ReviewPayload

/-- A list of mappings stays as it is. -/
theorem coerceDiagnostics_dump (ds : List Dict) :
    coerceDiagnostics (.arr (ds.map .obj)) = ds := by
  simp [coerceDiagnostics, List.filterMap_map, Function.comp_def]

/-- An audit stays the audit it was. -/
theorem coerceAxiom_dump (now : Timestamp) (r : AxiomAuditResult) :
    coerceAxiom now (.obj r.dump) = .ok r := by
  have hne : r.dump ≠ [] := by simp [AxiomAuditResult.dump, VersionedRecord.dump]
  simp [coerceAxiom, hne]

/-- A decision stays the decision it was. -/
theorem coercePolicy_dump (r : PolicyDecision) : coercePolicy (.obj r.dump) = .ok r := by
  have hne : r.dump ≠ [] := by simp [PolicyDecision.dump]
  simp [coercePolicy, hne]

/-- The batch summary with a new stamp. -/
def restamp (now : Timestamp) (a : AcceptanceSummary) : AcceptanceSummary :=
  { a with schemaVersion := "0.1.0", createdAt := now }

/-- A mapping with the six keys is read with a new stamp. -/
theorem coerceBatch_of_get {now : Timestamp} {d : Dict} {a : AcceptanceSummary}
    (hok : d.get? "ok" = some (.bool a.ok))
    (htrust : d.get? "trust_level" = some (.str a.trustLevel))
    (hreasons : d.get? "reasons" = some (strList.dump a.reasons))
    (hbuild : d.get? "build" = some (.obj a.build))
    (haudit : d.get? "axiom_audit" = some (.obj a.axiomAudit))
    (hfresh : d.get? "fresh_checker" = some (.obj a.freshChecker)) :
    coerceBatch now (.obj d) = .ok (restamp now a) := by
  have hkeep : keepKeys d =
      [("ok", .bool a.ok), ("trust_level", .str a.trustLevel), ("reasons", strList.dump a.reasons),
        ("build", .obj a.build), ("axiom_audit", .obj a.axiomAudit),
        ("fresh_checker", .obj a.freshChecker)] := by
    simp [keepKeys, batchKeys, hok, htrust, hreasons, hbuild, haudit, hfresh]
  show AcceptanceSummary.validate now (.obj (keepKeys d)) = _
  rw [hkeep]
  simp [AcceptanceSummary.validate, AcceptanceSummary.fields, forbidExtra, VersionedRecord.read,
    VersionedRecord.readBy, opt, restamp]

/-- A summary stays what it was, with a new stamp. -/
theorem coerceBatch_dump (now : Timestamp) (a : AcceptanceSummary) :
    coerceBatch now (.obj a.dump) = .ok (restamp now a) :=
  coerceBatch_of_get rfl rfl rfl rfl rfl rfl

/-- A trail is read back, and so is its absence. -/
theorem auditTrail_dumpAudit (a : Option PolicyAuditTrail) : auditTrail (dumpAudit a) = .ok a := by
  cases a with
  | none => rfl
  | some a =>
      simp [auditTrail, dumpAudit, PolicyAuditTrail.validate, forbidExtra, opt, Except.map]

/-- The payload with a new stamp on its batch summary. -/
def restamped (now : Timestamp) (r : ReviewPayload) : ReviewPayload :=
  { r with batchSummary := restamp now r.batchSummary }

/-- **What is read back from a dumped payload.** -/
@[simp] theorem validate_dump (now : Timestamp) (r : ReviewPayload) :
    validate now (.obj r.dump) = .ok (r.restamped now) := by
  simp [validate, dump, req, opt, nested, Dict.getD, coerceDiagnostics_dump, coerceAxiom_dump,
    coerceBatch_dump, coercePolicy_dump, auditTrail_dumpAudit, restamped]

end ReviewPayload

end ObligationRuntime
