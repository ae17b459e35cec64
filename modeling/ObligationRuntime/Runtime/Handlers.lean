/-
  ObligationRuntime.Runtime.Handlers — the nodes of the graph: nodes/handlers.py
  of `lean_langchain_orchestrator`.

  A node reads the state and returns the keys it writes.  Its gateway calls go
  through the SDK client, whose answers are typed records or exceptions; every
  call is logged, whether or not the node then succeeds.

  What is outside the process is `Deps`: the client, the pack loader, the
  environment variable, the clock, the reading of a number as a time, the random
  digits of a bundle id, the hash.
-/
import ObligationRuntime.Lib.Flow
import ObligationRuntime.Policy.Engine
import ObligationRuntime.Policy.PatchMetadata
import ObligationRuntime.Policy.ProtocolEvaluator
import ObligationRuntime.Runtime.Routes

namespace ObligationRuntime

open Py Flow

/-! ## §1. What the nodes depend on. -/

/-- A call of the SDK client, with its arguments. -/
inductive GatewayCall where
  | openEnvironment (repoId : Json) (repoPath : Option String) (commitSha : String)
  | createSession (fingerprintId : String)
  | applyPatch (sessionId : String) (files : Patch)
  | interactiveCheck (sessionId : String) (filePath : String)
  | batchVerify (sessionId : String) (targetFiles targetDeclarations : List String)
  | createPendingReview (payload : Dict)
  deriving DecidableEq

/-- The SDK client: what each call answers. -/
structure GatewayClient where
  openEnvironment : Json → Option String → String → Except PyError OpenEnvironmentResponse
  createSession : String → Except PyError CreateSessionResponse
  applyPatch : String → Patch → Except PyError ApplyPatchResponse
  interactiveCheck : String → String → Except PyError InteractiveCheckApiResponse
  batchVerify : String → List String → List String → Except PyError BatchVerifyResult
  createPendingReview : Dict → Except PyError CreatePendingReviewResponse

/-- Everything a run depends on besides its state. -/
structure Deps where
  client : GatewayClient
  loadPack : String → Except PyError PolicyPack
  obrPolicyPack : Option String := none
  sha256 : String → String
  now : Timestamp
  /-- How a time in a fingerprint is read that is no ISO text. -/
  readTime : Json → Except PyError Timestamp := Codec.unixTime
  hex : String

/-- A node. -/
abbrev Handler := State → Eff GatewayCall PyError Update

namespace Handlers

variable (deps : Deps)

/-! ## §2. The interactive lane. -/

/-- `(ob.get("target") or {}).get("repo_id") or env.get("repo_id") or "default"`. -/
def repoIdOf (ob : Dict) (env : Json) : Except PyError Json := do
  let target ← ((ob.getD "target" .null).orElse (.obj [])).pyGet "repo_id"
  -- The obligation's own repository first, then the fingerprint's.
  if target.truthy then return target
  let repoId ← env.pyGet "repo_id"
  return repoId.orElse (.str "default")

/-- `repo_path or None`. -/
def orNone (s : Option String) : Option String :=
  match s with
  | some s => if s = "" then none else some s
  | none => none

/-- `init_environment`. -/
def initEnvironment : Handler := fun s => do
  let ob := s.obligation.getD []
  let env := (ob.getD "environment_fingerprint" (.obj [])).orElse
    (s.environmentFingerprint.getD (.obj []))
  let repoId ← Eff.lift (repoIdOf ob env)
  let repoPath := orNone s.repoPath
  let openData ← Eff.call (.openEnvironment repoId repoPath "HEAD")
    (deps.client.openEnvironment repoId repoPath "HEAD")
  let sessionData ← Eff.call (.createSession openData.fingerprintId)
    (deps.client.createSession openData.fingerprintId)
  return {
    sessionId := some (some sessionData.sessionId)
    environmentFingerprint := some (.obj openData.fingerprint.dump)
    status := some .initialized }

/-- `retrieve_context`. -/
def retrieveContext : Handler := fun _ => return { status := some .retrievingContext }

/-- `draft_candidate`. -/
def draftCandidate : Handler := fun _ => return { status := some .drafting }

/-- `if current_patch: client.apply_patch(...)`. -/
def applyCurrentPatch (sid : String) (patch : Patch) : Eff GatewayCall PyError Unit :=
  if patch = [] then return ()
  else do
    let _ ← Eff.call (.applyPatch sid patch) (deps.client.applyPatch sid patch)
    return ()

/-- `target_files[0] if target_files else "Main.lean"`. -/
def filePath (s : State) : String := (s.targetFiles.getD []).headD "Main.lean"

/-- `interactive_check`. -/
def interactiveCheck : Handler := fun s =>
  match s.session with
  | none => return { status := some .failed }
  | some sid => do
      applyCurrentPatch deps sid (s.currentPatch.getD [])
      let result ← Eff.call (.interactiveCheck sid (filePath s))
        (deps.client.interactiveCheck sid (filePath s))
      return { interactiveResult := some (some result.dump), status := some .checkingInteractive }

/-! ## §3. The acceptance lane. -/

/-- `batch_verify`. -/
def batchVerify : Handler := fun s =>
  match s.session with
  | none => return { status := some .failed }
  | some sid => do
      let targetDeclarations := s.targetDeclarations.getD []
      let targetFiles := s.targetFiles.getD []
      let result ← Eff.call (.batchVerify sid targetFiles targetDeclarations)
        (deps.client.batchVerify sid targetFiles targetDeclarations)
      return {
        batchResult := some (some result.dump)
        status := some .batchVerifying
        trustLevel := some (Dict.getD result.dump "trust_level" .null) }

/-- `audit_trust`. -/
def auditTrust : Handler := fun _ => return { status := some .auditing }

/-! ## §4. Protocol and policy. -/

/-- The classes `evaluate_protocol` goes through, each with its pack flag. -/
def protocolClasses : List (ProtocolEvaluator.ObligationClass × (PolicyPack → Bool)) :=
  [(.handoffLegality, PolicyPack.singleOwnerHandoff),
    (.lockOwnershipInvariant, PolicyPack.lockOwnershipInvariant),
    (.delegationAdmissibility, PolicyPack.delegationAdmissibility),
    (.stateTransitionPreservation, PolicyPack.stateTransitionPreservation),
    (.artifactAdmissibility, PolicyPack.artifactAdmissibility),
    (.sideEffectAuthorization, PolicyPack.sideEffectAuthorization),
    (.evidenceCompleteExecutionToken, PolicyPack.evidenceCompleteExecutionToken)]

/-- `decision in ("rejected", "blocked")`. -/
def refuses (d : PolicyDecision) : Bool := d.decision = .rejected || d.decision = .blocked

/-- One turn of the loop over the classes. -/
def classGate (events : List Json) (pack : PolicyPack)
    (c : ProtocolEvaluator.ObligationClass × (PolicyPack → Bool)) :
    Except PyError (Option PolicyDecision) :=
  if c.2 pack then do
    let d ← ProtocolEvaluator.evaluateProtocolObligation c.1 events pack
    return if refuses d then some d else none
  else .ok none

/-- The first class that refuses the events. -/
def protocolDecision (events : List Json) (pack : PolicyPack) :
    Except PyError (Option PolicyDecision) :=
  EarlyReturn.first (protocolClasses.map (classGate events pack))

/-- The refusal `evaluate_protocol` finds: without events, or with a pack that
does not load, there is no protocol check. -/
def protocolOutcome (s : State) : Except PyError (Option PolicyDecision) :=
  let events := s.protocolEvents.getD []
  if events = [] then .ok none
  else
    match deps.loadPack (s.packName deps.obrPolicyPack "single_owner_handoff_v1") with
    -- A pack that does not load is logged, and the check is skipped.
    | .error _ => .ok none
    | .ok pack => protocolDecision events pack

/-- `evaluate_protocol`. -/
def evaluateProtocol : Handler := fun s => do
  match ← Eff.lift (protocolOutcome deps s) with
  | none => return {}
  | some d => return { policyDecision := some (some d.dump), status := some .auditing }

/-- `_DEFAULT_PACK`. -/
def defaultPack : PolicyPack := { version := "1", name := "strict", description := "Strict" }

/-- `_load_pack_for_review`. -/
def loadPackForReview (s : State) : PolicyPack :=
  match deps.loadPack (s.packName deps.obrPolicyPack "strict_patch_gate_v1") with
  | .ok pack => pack
  | .error _ => defaultPack

/-- `existing.get("decision") in ("rejected", "blocked")`. -/
def alreadyRefused (s : State) : Bool :=
  let decision := Dict.getD (s.policy.getD []) "decision" .null
  decision = .str "rejected" || decision = .str "blocked"

/-- `approval not in ("approved", "rejected")`. -/
def tokenMissing (s : State) : Bool :=
  !(s.approval = .str "approved" || s.approval = .str "rejected")

/-- The decision written when the token is missing. -/
def missingToken : Dict :=
  [("decision", .str Decision.blocked.text), ("trust_level", .str TrustLevel.blocked.text),
    ("reasons", strList.dump [Reason.missingApprovalToken])]

/-- The summary of the state's patch, on the obligation's own protected paths. -/
def patchSummary (s : State) : Except PyError PatchSummary := do
  let protectedPaths ← s.protectedPaths
  return summarizePatch deps.sha256 [] (s.currentPatch.getD []) protectedPaths

/-- The part of `policy_review` that evaluates the evidence. -/
def evaluateState (s : State) : Except PyError PolicyDecision := do
  let summary ← patchSummary deps s
  PolicyEngine.evaluate s.interactive s.batch summary.metadata (loadPackForReview deps s)

/-- The decision `policy_review` writes; none where it keeps the one it finds. -/
def reviewDecision (s : State) : Except PyError (Option Dict) :=
  if alreadyRefused s then .ok none
  else if (loadPackForReview deps s).reviewerGatedExecution && tokenMissing s then
    .ok (some missingToken)
  else (evaluateState deps s).map fun d => some d.dump

/-- `policy_review`. -/
def policyReview : Handler := fun s => do
  let decision ← Eff.lift (reviewDecision deps s)
  return { policyDecision := decision.map some, status := some .auditing }

/-! ## §5. The reviewer. -/

/-- `state.get(key)` of a list of strings. -/
def optStrings : Option (List String) → Json
  | some xs => strList.dump xs
  | none => .null

/-- `review_payload`, without its audit trail. -/
def reviewPayload (s : State) (summary : PatchSummary) : Dict :=
  let batch := s.batch.getD []
  let policy := s.policy.getD []
  [("thread_id", .str (s.threadId.getD "")),
    ("obligation_id", .str (s.obligationId.getD "")),
    ("obligation_summary", .obj
      [("obligation", .obj (s.obligation.getD [])), ("target_files", optStrings s.targetFiles),
        ("target_declarations", optStrings s.targetDeclarations)]),
    ("environment_summary", (s.environmentFingerprint.getD .null).orElse (.obj [])),
    ("patch_metadata", .obj
      [("current_patch", match s.currentPatch with
          | some p => .obj p.dump
          | none => .null),
        ("protected_paths_touched", strList.dump summary.protectedPathsTouched),
        ("imports_changed", .bool summary.importsChanged),
        ("changed_files", strList.dump summary.changedFiles),
        ("diff_hash", .str summary.diffHash)]),
    ("diff_summary", .null),
    ("diagnostics_summary", Dict.getD (s.interactive.getD []) "diagnostics" (.arr [])),
    ("axiom_audit_summary", batch.getD "axiom_audit" (.obj [])),
    ("batch_summary", .obj batch),
    ("policy_summary", .obj policy),
    ("trust_delta", s.trustLevel.getD .null),
    ("reasons", policy.getD "reasons" (.arr [])),
    ("status", .str "awaiting_review")]

/-- The audit trail, when the decision names rules or a pack. -/
def policyAudit (s : State) : Dict :=
  let policy := s.policy.getD []
  if policy.getD "resolved_rules" .null ≠ .null ∨ (policy.getD "policy_pack_name" .null).truthy then
    [("policy_audit", .obj
      [("policy_pack_name", (policy.getD "policy_pack_name" .null).orElse (.str "")),
        ("policy_pack_version", (policy.getD "policy_pack_version" .null).orElse (.str "")),
        ("resolved_rules", (policy.getD "resolved_rules" .null).orElse (.arr []))])]
  else []

/-- Push the payload; any exception is swallowed. -/
def pushReview (payload : Dict) : Eff GatewayCall PyError Unit :=
  match ReviewPayload.validate deps.now (.obj payload) with
  -- `except Exception: pass`, around the validation and the call alike.
  | .error _ => return ()
  | .ok validated => ⟨[.createPendingReview validated.dump], .ok ()⟩

/-- `interrupt_for_approval`. -/
def interruptForApproval : Handler := fun s => do
  let summary ← Eff.lift (patchSummary deps s)
  pushReview deps (reviewPayload s summary ++ policyAudit s)
  return { approvalRequired := some true, status := some .awaitingApproval }

/-- `resume_with_approval`. -/
def resumeWithApproval : Handler := fun s =>
  let decision := s.approval.orElse (.str "rejected")
  return {
    approvalRequired := some false
    status := some (if decision = .str "approved" then .accepted else .rejected) }

/-! ## §6. The witness bundle. -/

/-- The bundle's acceptance: the all-good summary when the batch result does not
validate. -/
def acceptanceOf (batch : Option Dict) : AcceptanceSummary :=
  match Dict.present batch with
  | none => AcceptanceSummary.default deps.now
  | some b =>
      match AcceptanceSummary.validate deps.now (.obj b) with
      | .ok a => a
      | .error _ => AcceptanceSummary.default deps.now

/-- The bundle's interactive record: a clean one when the result does not
validate. -/
def interactiveOf (inter : Dict) : InteractiveCheckResult :=
  match InteractiveCheckResult.validate deps.now (.obj inter) with
  | .ok r => r
  | .error _ => { createdAt := deps.now, ok := true }

/-- The bundle's decision: an acceptance when the decision does not validate. -/
def policyOf (policy : Dict) : PolicyDecision :=
  match PolicyDecision.validate (.obj policy) with
  | .ok d => d
  | .error _ => { decision := .accepted, trustLevel := .clean }

/-- The keys the fallback fingerprint passes twice. -/
def fallbackKeys : List String := ["repo_id", "commit_sha", "lean_toolchain", "lakefile_hash"]

/-- The bundle's fingerprint.  The fallback names four arguments and spreads the
same keys of the mapping, which raises if one of them is there. -/
def fingerprintOf (env : Json) : Except PyError EnvironmentFingerprint :=
  match env with
  | .obj d =>
      match EnvironmentFingerprint.validateBy deps.readTime deps.now (.obj d) with
      | .ok fp => .ok fp
      | .error _ =>
          -- The same keyword twice in one call is a `TypeError`.
          if d.any fun kv => decide (kv.1 ∈ fallbackKeys) then
            .error (.typeError "multiple values for keyword argument")
          else .ok {
            createdAt := deps.now, repoId := "", commitSha := "", leanToolchain := "",
            lakefileHash := "" }
  | _ => .error (.validationError "environment_fingerprint" "model_type")

/-- The bundle `finalize` builds. -/
def bundleOf (s : State) : Except PyError WitnessBundle := do
  let env := (s.environmentFingerprint.getD .null).orElse (.obj [])
  let environmentFingerprint ← fingerprintOf deps env
  return {
    createdAt := deps.now
    bundleId := newId "wit" deps.hex
    obligationId := s.obligationId.getD ""
    environmentFingerprint
    interactive := interactiveOf deps (s.interactive.getD [])
    acceptance := acceptanceOf deps s.batch
    policy := policyOf (s.policy.getD [])
    -- Only a mapping is kept; the token of a resume is a string.
    approval := (s.approval.dict?).getD [] }

/-- The artifact that carries a bundle. -/
def bundleArtifact (b : WitnessBundle) : Json :=
  .obj [("kind", .str "witness_bundle"), ("bundle", .obj b.dump)]

/-- `finalize`. -/
def finalize : Handler := fun s => do
  let bundle ← Eff.lift (bundleOf deps s)
  return {
    status := some .accepted
    artifacts := some (s.artifacts.getD [] ++ [bundleArtifact bundle]) }

/-! ## §7. Repair. -/

/-- `repair_from_diagnostics`. -/
def repairFromDiagnostics : Handler := fun _ => return { status := some .repairing }

/-- `repair_from_goals`. -/
def repairFromGoals : Handler := fun _ => return { status := some .repairing }

end Handlers

end ObligationRuntime
