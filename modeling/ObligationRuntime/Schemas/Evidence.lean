/-
  ObligationRuntime.Schemas.Evidence — the records the gateway's two lanes
  answer with: batch.py, diagnostics.py, interactive.py, gateway_api.py and
  environment.py of `lean_langchain_schemas`.

  Each record has the fields of its model, `dump` (`model_dump`), and
  `validate` (`model_validate`, which takes the time a default `created_at`
  would be given).  All of them forbid unknown keys.

  Main results: every record reads back what it dumped
  (`CommandResult.validate_dump`, `AxiomAuditResult.validate_dump`,
  `BatchVerifyResult.validate_dump`, `InteractiveCheckResult.validate_dump`,
  `EnvironmentFingerprint.validate_dump`).
-/
import ObligationRuntime.Lib.Schema

namespace ObligationRuntime

open Py

/-! ## §1. Common. -/

/-- `VersionedRecord`. -/
structure VersionedRecord where
  schemaVersion : String := "0.1.0"
  createdAt : Timestamp
  deriving DecidableEq

/-- The two keys every versioned record dumps first. -/
def VersionedRecord.dump (r : VersionedRecord) : Dict :=
  [("schema_version", .str r.schemaVersion), ("created_at", Codec.timestamp.dump r.createdAt)]

/-- The two fields every versioned record reads first; a time that is no ISO text is read by
`other`. -/
def VersionedRecord.readBy (other : Json → Except PyError Timestamp) (now : Timestamp)
    (d : Dict) : Except PyError VersionedRecord := do
  let schemaVersion ← opt Codec.str d "schema_version" "0.1.0"
  let createdAt ← opt (Codec.timestampBy other) d "created_at" now
  return { schemaVersion, createdAt }

/-- The two fields every versioned record reads first. -/
def VersionedRecord.read (now : Timestamp) (d : Dict) : Except PyError VersionedRecord :=
  VersionedRecord.readBy Codec.unixTime now d

/-- **The two fields are read back**, whatever stands after them. -/
@[simp] theorem VersionedRecord.readBy_cons (other : Json → Except PyError Timestamp)
    (now : Timestamp) (version : String) (time : Timestamp) (d : Dict) :
    VersionedRecord.readBy other now
      (("schema_version", .str version) :: ("created_at", Codec.timestamp.dump time) :: d) =
        .ok ⟨version, time⟩ := by
  have hstamp : (Codec.timestampBy other).validate (Codec.timestamp.dump time) = .ok time :=
    (Codec.timestampBy other).validate_dump time
  simp [VersionedRecord.readBy, opt, hstamp]

/-- The two fields of a record are read back, whatever stands after them. -/
@[simp] theorem VersionedRecord.read_cons (now : Timestamp) (version : String) (time : Timestamp)
    (d : Dict) :
    VersionedRecord.read now
      (("schema_version", .str version) :: ("created_at", Codec.timestamp.dump time) :: d) =
        .ok ⟨version, time⟩ :=
  VersionedRecord.readBy_cons Codec.unixTime now version time d

/-- `Literal["clean", "warning", "blocked"]`. -/
inductive TrustLevel where
  | clean
  | warning
  | blocked
  deriving DecidableEq, Repr

/-- The text of a trust level. -/
def TrustLevel.text : TrustLevel → String
  | .clean => "clean"
  | .warning => "warning"
  | .blocked => "blocked"

/-- The codec of a trust level. -/
def TrustLevel.codec : Codec TrustLevel :=
  Codec.literal [.clean, .warning, .blocked] TrustLevel.text (by intro a; cases a <;> decide)

/-- A trust level is dumped as its text. -/
@[simp] theorem TrustLevel.codec_dump (t : TrustLevel) : codec.dump t = .str t.text := rfl

/-- Trust levels have different texts. -/
theorem TrustLevel.text_injective {a b : TrustLevel} (h : a.text = b.text) : a = b := by
  cases a <;> cases b <;> first | rfl | simp [text] at h

/-- `list[str]`. -/
abbrev strList : Codec (List String) := Codec.list Codec.str

/-- `str | None`. -/
abbrev optStr : Codec (Option String) := Codec.option Codec.str (by simp)

/-- `int | None`. -/
abbrev optInt : Codec (Option Int) := Codec.option Codec.int (by simp)

/-! ## §2. batch.py -/

/-- The shape of `BatchBuildResult` and of `FreshCheckerResult`, which declare
the same fields. -/
structure CommandResult extends VersionedRecord where
  ok : Bool
  command : List String := []
  stdout : String := ""
  stderr : String := ""
  timingMs : Int := 0
  deriving DecidableEq

/-- `BatchBuildResult`. -/
abbrev BatchBuildResult := CommandResult

/-- `FreshCheckerResult`. -/
abbrev FreshCheckerResult := CommandResult

namespace CommandResult

/-- The declared fields. -/
def fields : List String :=
  ["schema_version", "created_at", "ok", "command", "stdout", "stderr", "timing_ms"]

/-- `model_dump`. -/
def dump (r : CommandResult) : Dict :=
  r.toVersionedRecord.dump ++
    [("ok", .bool r.ok), ("command", strList.dump r.command), ("stdout", .str r.stdout),
      ("stderr", .str r.stderr), ("timing_ms", .int r.timingMs)]

/-- `model_validate`. -/
def validate (now : Timestamp) (v : Json) : Except PyError CommandResult := do
  let d ← asDict v
  forbidExtra fields d
  let stamp ← VersionedRecord.read now d
  let ok ← req Codec.bool d "ok"
  let command ← opt strList d "command" []
  let stdout ← opt Codec.str d "stdout" ""
  let stderr ← opt Codec.str d "stderr" ""
  let timingMs ← opt Codec.int d "timing_ms" 0
  return { stamp with ok, command, stdout, stderr, timingMs }

/-- The result of a command is read back. -/
@[simp] theorem validate_dump (now : Timestamp) (r : CommandResult) :
    validate now (.obj r.dump) = .ok r := by
  have hx : forbidExtra fields r.dump = .ok () := by
    simp [dump, VersionedRecord.dump, fields, forbidExtra]
  simp only [validate, asDict_obj, ok_bind, hx]
  simp [dump, VersionedRecord.dump, req, opt]

end CommandResult

/-- `AxiomDependency`. -/
structure AxiomDependency where
  declaration : String
  axioms : List String := []
  deriving DecidableEq, Repr

namespace AxiomDependency

/-- `model_dump`. -/
def dump (r : AxiomDependency) : Dict :=
  [("declaration", .str r.declaration), ("axioms", strList.dump r.axioms)]

/-- `model_validate`. -/
def validate (v : Json) : Except PyError AxiomDependency := do
  let d ← asDict v
  forbidExtra ["declaration", "axioms"] d
  let declaration ← req Codec.str d "declaration"
  let axioms ← opt strList d "axioms" []
  return { declaration, axioms }

/-- A dependency is read back. -/
theorem validate_dump (r : AxiomDependency) : validate (.obj r.dump) = .ok r := by
  simp [validate, dump, forbidExtra, req, opt]

/-- The codec of a nested dependency. -/
def codec : Codec AxiomDependency := Codec.model dump validate validate_dump

end AxiomDependency

/-- `AxiomAuditResult`. -/
structure AxiomAuditResult extends VersionedRecord where
  ok : Bool
  trustLevel : TrustLevel
  blockedReasons : List String := []
  dependencies : List AxiomDependency := []
  deriving DecidableEq

namespace AxiomAuditResult

/-- The declared fields. -/
def fields : List String :=
  ["schema_version", "created_at", "ok", "trust_level", "blocked_reasons", "dependencies"]

/-- `model_dump`. -/
def dump (r : AxiomAuditResult) : Dict :=
  r.toVersionedRecord.dump ++
    [("ok", .bool r.ok), ("trust_level", .str r.trustLevel.text),
      ("blocked_reasons", strList.dump r.blockedReasons),
      ("dependencies", (Codec.list AxiomDependency.codec).dump r.dependencies)]

/-- `model_validate`. -/
def validate (now : Timestamp) (v : Json) : Except PyError AxiomAuditResult := do
  let d ← asDict v
  forbidExtra fields d
  let stamp ← VersionedRecord.read now d
  let ok ← req Codec.bool d "ok"
  let trustLevel ← req TrustLevel.codec d "trust_level"
  let blockedReasons ← opt strList d "blocked_reasons" []
  let dependencies ← opt (Codec.list AxiomDependency.codec) d "dependencies" []
  return { stamp with ok, trustLevel, blockedReasons, dependencies }

/-- An audit is read back, its dependencies included. -/
@[simp] theorem validate_dump (now : Timestamp) (r : AxiomAuditResult) :
    validate now (.obj r.dump) = .ok r := by
  have hx : forbidExtra fields r.dump = .ok () := by
    simp [dump, VersionedRecord.dump, fields, forbidExtra]
  simp only [validate, asDict_obj, ok_bind, hx]
  simp [dump, VersionedRecord.dump, req, opt, ← TrustLevel.codec_dump]

end AxiomAuditResult

/-- `BatchVerifyResult`. -/
structure BatchVerifyResult extends VersionedRecord where
  ok : Bool
  build : BatchBuildResult
  axiomAudit : AxiomAuditResult
  freshChecker : FreshCheckerResult
  trustLevel : TrustLevel
  reasons : List String := []
  axiomEvidenceReal : Bool := false
  freshEvidenceReal : Bool := false
  deriving DecidableEq

namespace BatchVerifyResult

/-- The declared fields. -/
def fields : List String :=
  ["schema_version", "created_at", "ok", "build", "axiom_audit", "fresh_checker", "trust_level",
    "reasons", "axiom_evidence_real", "fresh_evidence_real"]

/-- `model_dump`. -/
def dump (r : BatchVerifyResult) : Dict :=
  r.toVersionedRecord.dump ++
    [("ok", .bool r.ok), ("build", .obj r.build.dump), ("axiom_audit", .obj r.axiomAudit.dump),
      ("fresh_checker", .obj r.freshChecker.dump), ("trust_level", .str r.trustLevel.text),
      ("reasons", strList.dump r.reasons), ("axiom_evidence_real", .bool r.axiomEvidenceReal),
      ("fresh_evidence_real", .bool r.freshEvidenceReal)]

/-- `model_validate`. -/
def validate (now : Timestamp) (v : Json) : Except PyError BatchVerifyResult := do
  let d ← asDict v
  forbidExtra fields d
  let stamp ← VersionedRecord.read now d
  let ok ← req Codec.bool d "ok"
  let build ← req (Codec.model CommandResult.dump (CommandResult.validate now)
    (CommandResult.validate_dump now)) d "build"
  let axiomAudit ← req (Codec.model AxiomAuditResult.dump (AxiomAuditResult.validate now)
    (AxiomAuditResult.validate_dump now)) d "axiom_audit"
  let freshChecker ← req (Codec.model CommandResult.dump (CommandResult.validate now)
    (CommandResult.validate_dump now)) d "fresh_checker"
  let trustLevel ← req TrustLevel.codec d "trust_level"
  let reasons ← opt strList d "reasons" []
  let axiomEvidenceReal ← opt Codec.bool d "axiom_evidence_real" false
  let freshEvidenceReal ← opt Codec.bool d "fresh_evidence_real" false
  return { stamp with
    ok, build, axiomAudit, freshChecker, trustLevel, reasons, axiomEvidenceReal,
    freshEvidenceReal }

/-- A batch result is read back, with the three results inside. -/
@[simp] theorem validate_dump (now : Timestamp) (r : BatchVerifyResult) :
    validate now (.obj r.dump) = .ok r := by
  have hx : forbidExtra fields r.dump = .ok () := by
    simp [dump, VersionedRecord.dump, fields, forbidExtra]
  simp only [validate, asDict_obj, ok_bind, hx]
  simp [dump, VersionedRecord.dump, req, opt, Codec.model,
    ← TrustLevel.codec_dump]

end BatchVerifyResult

/-! ## §3. diagnostics.py and interactive.py -/

/-- `Literal["error", "warning", "information", "hint"]`. -/
inductive Severity where
  | error
  | warning
  | information
  | hint
  deriving DecidableEq, Repr

/-- The text of a severity. -/
def Severity.text : Severity → String
  | .error => "error"
  | .warning => "warning"
  | .information => "information"
  | .hint => "hint"

/-- The codec of a severity. -/
def Severity.codec : Codec Severity :=
  Codec.literal [.error, .warning, .information, .hint] Severity.text
    (by intro a; cases a <;> decide)

/-- A severity is dumped as its word. -/
@[simp] theorem Severity.codec_dump (t : Severity) : codec.dump t = .str t.text := rfl

/-- `Diagnostic`. -/
structure Diagnostic where
  severity : Severity
  file : String
  line : Int
  column : Int
  endLine : Option Int := none
  endColumn : Option Int := none
  code : Option String := none
  message : String
  source : String := "lean"
  deriving DecidableEq, Repr

namespace Diagnostic

/-- `model_dump`. -/
def dump (r : Diagnostic) : Dict :=
  [("severity", .str r.severity.text), ("file", .str r.file), ("line", .int r.line),
    ("column", .int r.column), ("end_line", optInt.dump r.endLine),
    ("end_column", optInt.dump r.endColumn), ("code", optStr.dump r.code),
    ("message", .str r.message), ("source", .str r.source)]

/-- `model_validate`. -/
def validate (v : Json) : Except PyError Diagnostic := do
  let d ← asDict v
  forbidExtra ["severity", "file", "line", "column", "end_line", "end_column", "code", "message",
    "source"] d
  let severity ← req Severity.codec d "severity"
  let file ← req Codec.str d "file"
  let line ← req Codec.int d "line"
  let column ← req Codec.int d "column"
  let endLine ← opt optInt d "end_line" none
  let endColumn ← opt optInt d "end_column" none
  let code ← opt optStr d "code" none
  let message ← req Codec.str d "message"
  let source ← opt Codec.str d "source" "lean"
  return { severity, file, line, column, endLine, endColumn, code, message, source }

/-- A diagnostic is read back. -/
theorem validate_dump (r : Diagnostic) : validate (.obj r.dump) = .ok r := by
  simp [validate, dump, forbidExtra, req, opt, ← Severity.codec_dump]

/-- The codec of a nested diagnostic. -/
def codec : Codec Diagnostic := Codec.model dump validate validate_dump

/-- Inside another record a diagnostic is a mapping. -/
@[simp] theorem codec_dump (r : Diagnostic) : codec.dump r = .obj r.dump := rfl

end Diagnostic

/-- `Literal["plainGoal", "plainTermGoal"]`. -/
inductive GoalKind where
  | plainGoal
  | plainTermGoal
  deriving DecidableEq, Repr

/-- The text of a goal kind. -/
def GoalKind.text : GoalKind → String
  | .plainGoal => "plainGoal"
  | .plainTermGoal => "plainTermGoal"

/-- The codec of a goal kind. -/
def GoalKind.codec : Codec GoalKind :=
  Codec.literal [.plainGoal, .plainTermGoal] GoalKind.text (by intro a; cases a <;> decide)

/-- The kind of a goal is dumped as its text. -/
@[simp] theorem GoalKind.codec_dump (t : GoalKind) : codec.dump t = .str t.text := rfl

/-- `GoalSnapshot`. -/
structure GoalSnapshot where
  kind : GoalKind
  text : String
  file : Option String := none
  line : Option Int := none
  column : Option Int := none
  deriving DecidableEq, Repr

namespace GoalSnapshot

/-- `model_dump`. -/
def dump (r : GoalSnapshot) : Dict :=
  [("kind", .str r.kind.text), ("text", .str r.text), ("file", optStr.dump r.file),
    ("line", optInt.dump r.line), ("column", optInt.dump r.column)]

/-- `model_validate`. -/
def validate (v : Json) : Except PyError GoalSnapshot := do
  let d ← asDict v
  forbidExtra ["kind", "text", "file", "line", "column"] d
  let kind ← req GoalKind.codec d "kind"
  let text ← req Codec.str d "text"
  let file ← opt optStr d "file" none
  let line ← opt optInt d "line" none
  let column ← opt optInt d "column" none
  return { kind, text, file, line, column }

/-- A goal is read back. -/
theorem validate_dump (r : GoalSnapshot) : validate (.obj r.dump) = .ok r := by
  simp [validate, dump, forbidExtra, req, opt, ← GoalKind.codec_dump]

/-- The codec of a nested goal. -/
def codec : Codec GoalSnapshot := Codec.model dump validate validate_dump

/-- Inside another record a goal is a mapping. -/
@[simp] theorem codec_dump (r : GoalSnapshot) : codec.dump r = .obj r.dump := rfl

end GoalSnapshot

/-- `InteractiveCheckResult`. -/
structure InteractiveCheckResult extends VersionedRecord where
  ok : Bool
  phase : String := "interactive"
  diagnostics : List Diagnostic := []
  goals : List GoalSnapshot := []
  stdout : String := ""
  stderr : String := ""
  timingMs : Int := 0
  deriving DecidableEq

namespace InteractiveCheckResult

/-- The declared fields. -/
def fields : List String :=
  ["schema_version", "created_at", "ok", "phase", "diagnostics", "goals", "stdout", "stderr",
    "timing_ms"]

/-- `model_dump`. -/
def dump (r : InteractiveCheckResult) : Dict :=
  r.toVersionedRecord.dump ++
    [("ok", .bool r.ok), ("phase", .str r.phase),
      ("diagnostics", (Codec.list Diagnostic.codec).dump r.diagnostics),
      ("goals", (Codec.list GoalSnapshot.codec).dump r.goals), ("stdout", .str r.stdout),
      ("stderr", .str r.stderr), ("timing_ms", .int r.timingMs)]

/-- `model_validate`. -/
def validate (now : Timestamp) (v : Json) : Except PyError InteractiveCheckResult := do
  let d ← asDict v
  forbidExtra fields d
  let stamp ← VersionedRecord.read now d
  let ok ← req Codec.bool d "ok"
  let phase ← opt Codec.str d "phase" "interactive"
  let diagnostics ← opt (Codec.list Diagnostic.codec) d "diagnostics" []
  let goals ← opt (Codec.list GoalSnapshot.codec) d "goals" []
  let stdout ← opt Codec.str d "stdout" ""
  let stderr ← opt Codec.str d "stderr" ""
  let timingMs ← opt Codec.int d "timing_ms" 0
  return { stamp with ok, phase, diagnostics, goals, stdout, stderr, timingMs }

/-- The result of a check is read back. -/
@[simp] theorem validate_dump (now : Timestamp) (r : InteractiveCheckResult) :
    validate now (.obj r.dump) = .ok r := by
  have hx : forbidExtra fields r.dump = .ok () := by
    simp [dump, VersionedRecord.dump, fields, forbidExtra]
  simp only [validate, asDict_obj, ok_bind, hx]
  simp [dump, VersionedRecord.dump, req, opt]

end InteractiveCheckResult

/-- `InteractiveCheckApiResponse`: an interactive result with the capability
flag of the transport. -/
structure InteractiveCheckApiResponse extends InteractiveCheckResult where
  lspRequired : Bool := false
  deriving DecidableEq

/-- `model_dump`. -/
def InteractiveCheckApiResponse.dump (r : InteractiveCheckApiResponse) : Dict :=
  r.toInteractiveCheckResult.dump ++ [("lsp_required", .bool r.lspRequired)]

/-! ## §4. environment.py -/

/-- `Literal["linux", "darwin", "windows"]`. -/
inductive OsFamily where
  | linux
  | darwin
  | windows
  deriving DecidableEq, Repr

/-- The text of an operating-system family. -/
def OsFamily.text : OsFamily → String
  | .linux => "linux"
  | .darwin => "darwin"
  | .windows => "windows"

/-- The codec of an operating-system family. -/
def OsFamily.codec : Codec OsFamily :=
  Codec.literal [.linux, .darwin, .windows] OsFamily.text (by intro a; cases a <;> decide)

/-- A family is dumped as its text. -/
@[simp] theorem OsFamily.codec_dump (t : OsFamily) : codec.dump t = .str t.text := rfl

/-- `list[str] | None`. -/
abbrev optStrList : Codec (Option (List String)) :=
  Codec.option strList (by simp [Codec.list])

/-- `EnvironmentFingerprint`. -/
structure EnvironmentFingerprint extends VersionedRecord where
  repoId : String
  repoUrl : Option String := none
  commitSha : String
  leanToolchain : String
  lakefileHash : String
  manifestHash : Option String := none
  targetPlatform : String := "linux/amd64"
  buildFlags : List String := []
  osFamily : OsFamily := .linux
  importedPackages : Option (List String) := none
  deriving DecidableEq

namespace EnvironmentFingerprint

/-- The declared fields. -/
def fields : List String :=
  ["schema_version", "created_at", "repo_id", "repo_url", "commit_sha", "lean_toolchain",
    "lakefile_hash", "manifest_hash", "target_platform", "build_flags", "os_family",
    "imported_packages"]

/-- `model_dump`. -/
def dump (r : EnvironmentFingerprint) : Dict :=
  r.toVersionedRecord.dump ++
    [("repo_id", .str r.repoId), ("repo_url", optStr.dump r.repoUrl),
      ("commit_sha", .str r.commitSha), ("lean_toolchain", .str r.leanToolchain),
      ("lakefile_hash", .str r.lakefileHash), ("manifest_hash", optStr.dump r.manifestHash),
      ("target_platform", .str r.targetPlatform), ("build_flags", strList.dump r.buildFlags),
      ("os_family", .str r.osFamily.text),
      ("imported_packages", optStrList.dump r.importedPackages)]

/-- `model_validate`, where a time that is no ISO text is read by `other`. -/
def validateBy (other : Json → Except PyError Timestamp) (now : Timestamp) (v : Json) :
    Except PyError EnvironmentFingerprint := do
  let d ← asDict v
  forbidExtra fields d
  let stamp ← VersionedRecord.readBy other now d
  let repoId ← req Codec.str d "repo_id"
  let repoUrl ← opt optStr d "repo_url" none
  let commitSha ← req Codec.str d "commit_sha"
  let leanToolchain ← req Codec.str d "lean_toolchain"
  let lakefileHash ← req Codec.str d "lakefile_hash"
  let manifestHash ← opt optStr d "manifest_hash" none
  let targetPlatform ← opt Codec.str d "target_platform" "linux/amd64"
  let buildFlags ← opt strList d "build_flags" []
  let osFamily ← opt OsFamily.codec d "os_family" .linux
  let importedPackages ← opt optStrList d "imported_packages" none
  return { stamp with
    repoId, repoUrl, commitSha, leanToolchain, lakefileHash, manifestHash, targetPlatform,
    buildFlags, osFamily, importedPackages }

/-- `model_validate`. -/
def validate (now : Timestamp) (v : Json) : Except PyError EnvironmentFingerprint :=
  validateBy Codec.unixTime now v

/-- **A fingerprint is read back**, by any reading of times. -/
@[simp] theorem validateBy_dump (other : Json → Except PyError Timestamp) (now : Timestamp)
    (r : EnvironmentFingerprint) : validateBy other now (.obj r.dump) = .ok r := by
  have hx : forbidExtra fields r.dump = .ok () := by
    simp [dump, VersionedRecord.dump, fields, forbidExtra]
  simp only [validateBy, asDict_obj, ok_bind, hx]
  simp [dump, VersionedRecord.dump, req, opt, ← OsFamily.codec_dump]

/-- A fingerprint is read back, whatever the time it is read at. -/
@[simp] theorem validate_dump (now : Timestamp) (r : EnvironmentFingerprint) :
    validate now (.obj r.dump) = .ok r := validateBy_dump Codec.unixTime now r

end EnvironmentFingerprint

/-! ## §5. gateway_api.py: the answers the graph reads. -/

/-- `OpenEnvironmentResponse`. -/
structure OpenEnvironmentResponse where
  fingerprint : EnvironmentFingerprint
  fingerprintId : String
  snapshotPath : String
  deriving DecidableEq

/-- `CreateSessionResponse`. -/
structure CreateSessionResponse where
  sessionId : String
  fingerprintId : String
  workspacePath : String
  deriving DecidableEq, Repr

/-- `ApplyPatchResponse`. -/
structure ApplyPatchResponse where
  ok : Bool := true
  sessionId : String
  changedFiles : List String
  deriving DecidableEq, Repr

/-- `CreatePendingReviewResponse`. -/
structure CreatePendingReviewResponse where
  ok : Bool := true
  threadId : String
  deriving DecidableEq, Repr

end ObligationRuntime
