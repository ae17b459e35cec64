/-
  ObligationRuntime.Gateway.GatewayApi — what the gateway is asked and what it answers:
  the models of gateway_api.py, and error_envelope of errors.py.

  A request has a `validate`, by which the gateway reads its body.  An answer has a `dump`,
  by which the gateway writes it, and a `validate`, by which a client reads it.

  Main results: every answer is read back as it was dumped (`validate_dump` of each), and
  no answer is read from an error (`forbidExtra_envelope`).
-/
import ObligationRuntime.Gateway.Environment
import ObligationRuntime.Gateway.Reviews

namespace ObligationRuntime

open Py

/-! ## §1. Mappings. -/

/-- Validate a mapping entry by entry, each at its key. -/
def validateEntries {α : Type} (f : Json → Except PyError α) :
    Dict → Except PyError (List (String × α))
  | [] => .ok []
  | (k, v) :: d => do
      let a ← Codec.atField k (f v)
      let rest ← validateEntries f d
      return (k, a) :: rest

/-- Dumped entries are read back. -/
theorem validateEntries_map {α : Type} (c : Codec α) (entries : List (String × α)) :
    validateEntries c.validate (entries.map fun kv => (kv.1, c.dump kv.2)) = .ok entries := by
  induction entries with
  | nil => rfl
  | cons kv entries ih =>
      rw [List.map_cons, validateEntries, c.validate_dump, Codec.atField_ok, ok_bind, ih]
      rfl

/-- `dict[str, T]`. -/
def mapping {α : Type} (c : Codec α) : Codec (List (String × α)) where
  dump entries := .obj (entries.map fun kv => (kv.1, c.dump kv.2))
  validate
    | .obj d => validateEntries c.validate d
    | _ => Codec.mismatch "dict_type"
  validate_dump := validateEntries_map c

/-- `Literal["approved", "rejected"]`. -/
def Approval.codec : Codec Approval :=
  Codec.literal [.approved, .rejected] Approval.text (by intro a; cases a <;> decide)

namespace Gateway

/-! ## §2. Requests. -/

/-- `OpenEnvironmentRequest.model_validate`. -/
def OpenEnvironmentRequest.validate (v : Json) : Except PyError OpenEnvironmentRequest := do
  let d ← asDict v
  forbidExtra ["repo_id", "repo_path", "repo_url", "commit_sha"] d
  let repoId ← req Codec.str d "repo_id"
  let repoPath ← opt optStr d "repo_path" none
  let repoUrl ← opt optStr d "repo_url" none
  let commitSha ← opt optStr d "commit_sha" (some "HEAD")
  return { repoId, repoPath, repoUrl, commitSha }

/-- `CreateSessionRequest`. -/
structure CreateSessionRequest where
  fingerprintId : String
  deriving DecidableEq, Repr

/-- `CreateSessionRequest.model_validate`. -/
def CreateSessionRequest.validate (v : Json) : Except PyError CreateSessionRequest := do
  let d ← asDict v
  forbidExtra ["fingerprint_id"] d
  let fingerprintId ← req Codec.str d "fingerprint_id"
  return { fingerprintId }

/-- `ApplyPatchRequest`. -/
structure ApplyPatchRequest where
  files : Patch
  deriving DecidableEq, Repr

/-- `ApplyPatchRequest.model_validate`. -/
def ApplyPatchRequest.validate (v : Json) : Except PyError ApplyPatchRequest := do
  let d ← asDict v
  forbidExtra ["files"] d
  let files ← req (mapping Codec.str) d "files"
  return { files }

/-- `InteractiveCheckRequest`. -/
structure InteractiveCheckRequest where
  filePath : String
  deriving DecidableEq, Repr

/-- `InteractiveCheckRequest.model_validate`. -/
def InteractiveCheckRequest.validate (v : Json) : Except PyError InteractiveCheckRequest := do
  let d ← asDict v
  forbidExtra ["file_path"] d
  let filePath ← req Codec.str d "file_path"
  return { filePath }

/-- `SessionGoalRequest`. -/
structure SessionGoalRequest where
  filePath : String
  line : Int
  column : Int
  goalKind : String := "plainGoal"
  deriving DecidableEq, Repr

/-- `SessionGoalRequest.model_validate`. -/
def SessionGoalRequest.validate (v : Json) : Except PyError SessionGoalRequest := do
  let d ← asDict v
  forbidExtra ["file_path", "line", "column", "goal_kind"] d
  let filePath ← req Codec.str d "file_path"
  let line ← req Codec.int d "line"
  let column ← req Codec.int d "column"
  let goalKind ← opt Codec.str d "goal_kind" "plainGoal"
  return { filePath, line, column, goalKind }

/-- A place in a file: the fields of two requests. -/
structure FilePosition where
  filePath : String
  line : Int
  column : Int
  deriving DecidableEq, Repr

/-- `model_validate`, for both. -/
def FilePosition.validate (v : Json) : Except PyError FilePosition := do
  let d ← asDict v
  forbidExtra ["file_path", "line", "column"] d
  let filePath ← req Codec.str d "file_path"
  let line ← req Codec.int d "line"
  let column ← req Codec.int d "column"
  return { filePath, line, column }

/-- `SessionHoverRequest`. -/
abbrev SessionHoverRequest := FilePosition

/-- `SessionDefinitionRequest`. -/
abbrev SessionDefinitionRequest := FilePosition

/-- `BatchVerifyRequest`: other keys, such as `target_files`, are ignored. -/
structure BatchVerifyRequest where
  targetDeclarations : List String := []
  deriving DecidableEq, Repr

/-- `BatchVerifyRequest.model_validate`. -/
def BatchVerifyRequest.validate (v : Json) : Except PyError BatchVerifyRequest := do
  let d ← asDict v
  let targetDeclarations ← opt strList d "target_declarations" []
  return { targetDeclarations }

/-! ## §3. Errors. -/

/-- `error_envelope`, without details. -/
def errorEnvelope (code message : Json) (requestId : String) : Dict :=
  [("error", .obj [("code", code), ("message", message), ("request_id", .str requestId),
    ("details", .obj [])])]

/-- A model that forbids further keys does not take an error for an answer. -/
theorem forbidExtra_envelope {fields : List String} (h : "error" ∉ fields) (code message : Json)
    (requestId : String) :
    ∃ l, forbidExtra fields (errorEnvelope code message requestId) =
      .error (.validationError l "extra_forbidden") :=
  forbidExtra_error (List.mem_cons_self ..) h

end Gateway

/-! ## §4. Answers. -/

namespace OpenEnvironmentResponse

/-- `fingerprint: EnvironmentFingerprint`. -/
def fingerprintCodec (now : Timestamp) : Codec EnvironmentFingerprint :=
  Codec.model EnvironmentFingerprint.dump (EnvironmentFingerprint.validate now)
    (EnvironmentFingerprint.validate_dump now)

/-- `model_dump`. -/
def dump (r : OpenEnvironmentResponse) : Dict :=
  [("fingerprint", .obj r.fingerprint.dump), ("fingerprint_id", .str r.fingerprintId),
    ("snapshot_path", .str r.snapshotPath)]

/-- `model_validate`. -/
def validate (now : Timestamp) (v : Json) : Except PyError OpenEnvironmentResponse := do
  let d ← asDict v
  forbidExtra ["fingerprint", "fingerprint_id", "snapshot_path"] d
  let fingerprint ← req (fingerprintCodec now) d "fingerprint"
  let fingerprintId ← req Codec.str d "fingerprint_id"
  let snapshotPath ← req Codec.str d "snapshot_path"
  return { fingerprint, fingerprintId, snapshotPath }

/-- The answer to an opened environment is read back. -/
@[simp] theorem validate_dump (now : Timestamp) (r : OpenEnvironmentResponse) :
    validate now (.obj r.dump) = .ok r := by
  have hfingerprint :
      req (fingerprintCodec now) r.dump "fingerprint" = .ok r.fingerprint :=
    Codec.atField_eq_ok_iff.mpr ((fingerprintCodec now).validate_dump r.fingerprint)
  simp only [validate, asDict_obj, ok_bind, hfingerprint]
  simp [dump, forbidExtra, req]

end OpenEnvironmentResponse

namespace CreateSessionResponse

/-- `model_dump`. -/
def dump (r : CreateSessionResponse) : Dict :=
  [("session_id", .str r.sessionId), ("fingerprint_id", .str r.fingerprintId),
    ("workspace_path", .str r.workspacePath)]

/-- `model_validate`. -/
def validate (v : Json) : Except PyError CreateSessionResponse := do
  let d ← asDict v
  forbidExtra ["session_id", "fingerprint_id", "workspace_path"] d
  let sessionId ← req Codec.str d "session_id"
  let fingerprintId ← req Codec.str d "fingerprint_id"
  let workspacePath ← req Codec.str d "workspace_path"
  return { sessionId, fingerprintId, workspacePath }

/-- A new session is read back. -/
@[simp] theorem validate_dump (r : CreateSessionResponse) : validate (.obj r.dump) = .ok r := by
  simp [validate, dump, forbidExtra, req]

end CreateSessionResponse

namespace ApplyPatchResponse

/-- `model_dump`. -/
def dump (r : ApplyPatchResponse) : Dict :=
  [("ok", .bool r.ok), ("session_id", .str r.sessionId),
    ("changed_files", strList.dump r.changedFiles)]

/-- `model_validate`. -/
def validate (v : Json) : Except PyError ApplyPatchResponse := do
  let d ← asDict v
  forbidExtra ["ok", "session_id", "changed_files"] d
  let ok ← opt Codec.bool d "ok" true
  let sessionId ← req Codec.str d "session_id"
  let changedFiles ← req strList d "changed_files"
  return { ok, sessionId, changedFiles }

/-- The answer to a patch is read back. -/
@[simp] theorem validate_dump (r : ApplyPatchResponse) : validate (.obj r.dump) = .ok r := by
  simp [validate, dump, forbidExtra, req, opt]

end ApplyPatchResponse

namespace InteractiveCheckApiResponse

/-- `model_validate`. -/
def validate (now : Timestamp) (v : Json) : Except PyError InteractiveCheckApiResponse := do
  let d ← asDict v
  forbidExtra (InteractiveCheckResult.fields ++ ["lsp_required"]) d
  let lspRequired ← opt Codec.bool d "lsp_required" false
  let result ← InteractiveCheckResult.validate now
    (.obj (d.filter fun kv => decide (kv.1 ≠ "lsp_required")))
  return { result with lspRequired }

/-- Without the flag the response is the result of the check. -/
theorem dump_filter (r : InteractiveCheckApiResponse) :
    (r.dump.filter fun kv => decide (kv.1 ≠ "lsp_required")) =
      r.toInteractiveCheckResult.dump := by
  simp [dump, InteractiveCheckResult.dump, VersionedRecord.dump]

/-- The response of a check is read back, with its flag. -/
@[simp] theorem validate_dump (now : Timestamp) (r : InteractiveCheckApiResponse) :
    validate now (.obj r.dump) = .ok r := by
  have hx : forbidExtra (InteractiveCheckResult.fields ++ ["lsp_required"]) r.dump = .ok () := by
    simp [dump, InteractiveCheckResult.dump, InteractiveCheckResult.fields, VersionedRecord.dump,
      forbidExtra]
  have hlsp : opt Codec.bool r.dump "lsp_required" false = .ok r.lspRequired := by
    simp [dump, InteractiveCheckResult.dump, VersionedRecord.dump, opt]
  simp only [validate, asDict_obj, ok_bind, hx, hlsp, dump_filter,
    InteractiveCheckResult.validate_dump]
  rfl

end InteractiveCheckApiResponse

/-- `SessionGoalResponse`. -/
structure SessionGoalResponse where
  ok : Bool := true
  goalKind : String
  goals : Json
  line : Int
  column : Int
  lspRequired : Bool := false
  deriving DecidableEq

namespace SessionGoalResponse

/-- `model_dump`. -/
def dump (r : SessionGoalResponse) : Dict :=
  [("ok", .bool r.ok), ("goal_kind", .str r.goalKind), ("goals", r.goals), ("line", .int r.line),
    ("column", .int r.column), ("lsp_required", .bool r.lspRequired)]

/-- `model_validate`. -/
def validate (v : Json) : Except PyError SessionGoalResponse := do
  let d ← asDict v
  forbidExtra ["ok", "goal_kind", "goals", "line", "column", "lsp_required"] d
  let ok ← opt Codec.bool d "ok" true
  let goalKind ← req Codec.str d "goal_kind"
  let goals ← req Codec.any d "goals"
  let line ← req Codec.int d "line"
  let column ← req Codec.int d "column"
  let lspRequired ← opt Codec.bool d "lsp_required" false
  return { ok, goalKind, goals, line, column, lspRequired }

/-- The goals are read back. -/
@[simp] theorem validate_dump (r : SessionGoalResponse) : validate (.obj r.dump) = .ok r := by
  simp [validate, dump, forbidExtra, req, opt]

end SessionGoalResponse

/-- What is found at a place in a file: the shape of two answers. -/
structure PositionResponse where
  ok : Bool := true
  found : Json
  filePath : String
  line : Int
  column : Int
  lspRequired : Bool := false
  deriving DecidableEq

namespace PositionResponse

/-- `model_dump`, with the key of what is found. -/
def dump (key : String) (r : PositionResponse) : Dict :=
  [("ok", .bool r.ok), (key, r.found), ("file_path", .str r.filePath), ("line", .int r.line),
    ("column", .int r.column), ("lsp_required", .bool r.lspRequired)]

/-- `model_validate`, with the key of what is found. -/
def validate (key : String) (v : Json) : Except PyError PositionResponse := do
  let d ← asDict v
  forbidExtra ["ok", key, "file_path", "line", "column", "lsp_required"] d
  let ok ← opt Codec.bool d "ok" true
  let found ← req Codec.any d key
  let filePath ← req Codec.str d "file_path"
  let line ← req Codec.int d "line"
  let column ← req Codec.int d "column"
  let lspRequired ← opt Codec.bool d "lsp_required" false
  return { ok, found, filePath, line, column, lspRequired }

/-- An answer about a position is read back, whatever its key. -/
theorem validate_dump {key : String}
    (h : key ∉ ["ok", "file_path", "line", "column", "lsp_required"]) (r : PositionResponse) :
    validate key (.obj (r.dump key)) = .ok r := by
  simp only [List.mem_cons, List.not_mem_nil, or_false, not_or] at h
  obtain ⟨hok, hpath, hline, hcolumn, hlsp⟩ := h
  simp [validate, dump, forbidExtra, req, opt, hok, hpath, hline, hcolumn, hlsp, Ne.symm hok]

end PositionResponse

/-- `SessionHoverResponse`, which has `contents`. -/
abbrev SessionHoverResponse := PositionResponse

/-- `SessionHoverResponse.model_dump`. -/
def SessionHoverResponse.dump (r : SessionHoverResponse) : Dict :=
  PositionResponse.dump "contents" r

/-- `SessionHoverResponse.model_validate`. -/
def SessionHoverResponse.validate (v : Json) : Except PyError SessionHoverResponse :=
  PositionResponse.validate "contents" v

/-- `SessionDefinitionResponse`, which has `locations`. -/
abbrev SessionDefinitionResponse := PositionResponse

/-- `SessionDefinitionResponse.model_dump`. -/
def SessionDefinitionResponse.dump (r : SessionDefinitionResponse) : Dict :=
  PositionResponse.dump "locations" r

/-- `SessionDefinitionResponse.model_validate`. -/
def SessionDefinitionResponse.validate (v : Json) : Except PyError SessionDefinitionResponse :=
  PositionResponse.validate "locations" v

namespace CreatePendingReviewResponse

/-- `model_dump`. -/
def dump (r : CreatePendingReviewResponse) : Dict :=
  [("ok", .bool r.ok), ("thread_id", .str r.threadId)]

/-- `model_validate`. -/
def validate (v : Json) : Except PyError CreatePendingReviewResponse := do
  let d ← asDict v
  forbidExtra ["ok", "thread_id"] d
  let ok ← opt Codec.bool d "ok" true
  let threadId ← req Codec.str d "thread_id"
  return { ok, threadId }

/-- The thread of a new review is read back. -/
@[simp] theorem validate_dump (r : CreatePendingReviewResponse) :
    validate (.obj r.dump) = .ok r := by
  simp [validate, dump, forbidExtra, req, opt]

end CreatePendingReviewResponse

namespace Gateway

/-- `ReviewDecisionResponse`. -/
structure ReviewDecisionResponse where
  ok : Bool := true
  threadId : String
  decision : Approval
  deriving DecidableEq, Repr

namespace ReviewDecisionResponse

/-- `model_dump`. -/
def dump (r : ReviewDecisionResponse) : Dict :=
  [("ok", .bool r.ok), ("thread_id", .str r.threadId), ("decision", Approval.codec.dump r.decision)]

/-- `model_validate`. -/
def validate (v : Json) : Except PyError ReviewDecisionResponse := do
  let d ← asDict v
  forbidExtra ["ok", "thread_id", "decision"] d
  let ok ← opt Codec.bool d "ok" true
  let threadId ← req Codec.str d "thread_id"
  let decision ← req Approval.codec d "decision"
  return { ok, threadId, decision }

/-- A decision is read back. -/
@[simp] theorem validate_dump (r : ReviewDecisionResponse) : validate (.obj r.dump) = .ok r := by
  simp [validate, dump, forbidExtra, req, opt]

end ReviewDecisionResponse

namespace ReviewResumeProxyResponse

/-- `model_dump`. -/
def dump (r : ReviewResumeProxyResponse) : Dict :=
  [("ok", .bool r.ok), ("thread_id", .str r.threadId), ("status", r.status),
    ("artifacts_count", .int r.artifactsCount)]

/-- The answer to a resumption is read back. -/
@[simp] theorem validate_dump (r : ReviewResumeProxyResponse) :
    ReviewResumeProxyResponse.validate (.obj r.dump) = .ok r := by
  simp [ReviewResumeProxyResponse.validate, dump, forbidExtra, req, opt]

/-- The answer to a resume is not read as a decision. -/
theorem dump_not_decision (r : ReviewResumeProxyResponse) :
    ∃ e, ReviewDecisionResponse.validate (.obj r.dump) = .error e := by
  have hkey : "status" ∈ Dict.keys r.dump := by simp [dump, Dict.keys]
  obtain ⟨l, hl⟩ := forbidExtra_error hkey
    (show "status" ∉ ["ok", "thread_id", "decision"] by decide)
  refine ⟨.validationError l "extra_forbidden", ?_⟩
  simp only [ReviewDecisionResponse.validate, asDict_obj, ok_bind, hl, error_bind]

end ReviewResumeProxyResponse

end Gateway

end ObligationRuntime
