/-
  ObligationRuntime.Gateway.Configuration — the environment variables of the gateway, and
  its four readers: capabilities.py, deps.py, the startup check of app.py, and the
  `batch_verify` route.

  The snapshot takes a switch for on where it is one of three words.  The dependencies take
  it for on where it is not empty.  Production is a word for the snapshot, and an exact text
  for the startup check and the route; strict acceptance is on by default for the one, and
  in production always on for the other.

  Main results:
    * `isSet_of_truthy` — a word is a text that is not empty,
    * `degradedReasons_known` — the reasons of a snapshot are known ones,
    * `resolveReal_ok_iff` — what the dependencies resolve,
    * `assertProductionState_ok_iff` — the deployments that start,
    * `batchVerifyOn_unresolved_iff` — when the route raises for its fresh checker.
-/
import ObligationRuntime.Gateway.Batch
import ObligationRuntime.Gateway.ReviewStore

namespace ObligationRuntime

open Py

namespace Gateway

/-! ## §1. Variables. -/

/-- `os.environ`. -/
abbrev Environ := String → Option String

namespace Environ

variable (env : Environ)

/-- `os.environ.get(name, default)`. -/
def get (name default : String) : String := (env name).getD default

/-- The variable is set, and not empty. -/
def isSet (name : String) : Bool := decide (env.get name "" ≠ "")

end Environ

/-- `value.strip().lower() in ("1", "true", "yes")`. -/
def truthyWord (value : String) : Bool := decide (lower (strip value) ∈ ["1", "true", "yes"])

/-- `_env_truthy`. -/
def envTruthy (env : Environ) (name : String) : Bool := truthyWord (env.get name "")

/-- A word is a text that is not empty. -/
theorem isSet_of_truthy {env : Environ} {name : String} (h : envTruthy env name = true) :
    env.isSet name = true := by
  rw [Environ.isSet, decide_eq_true_eq]
  intro hempty
  rw [envTruthy, hempty] at h
  exact absurd h (by decide)

/-! ## §2. capabilities.py -/

/-- What tests have injected. -/
structure Injected where
  transport : Bool := false
  axiomAuditor : Bool := false
  freshChecker : Bool := false

/-- `LeanInteractiveMode`. -/
inductive LeanInteractiveMode where
  | realLsp
  | realSubprocess
  | testInjected
  | unconfigured
  deriving DecidableEq

/-- `BackendMode`. -/
inductive BackendMode where
  | real
  | testInjected
  | unconfigured
  deriving DecidableEq

/-- The capability snapshot. -/
structure CapabilitySnapshot where
  leanInteractive : LeanInteractiveMode
  axiomAudit : BackendMode
  freshChecker : BackendMode
  reviewStore : ReviewStoreMode
  degraded : Bool
  degradedReasons : List String
  obrEnv : String
  deriving DecidableEq

/-- `lean`. -/
def leanMode (env : Environ) (injected : Bool) : LeanInteractiveMode :=
  if injected then .testInjected
  else if envTruthy env "OBR_USE_LEAN_LSP" then .realLsp
  else if envTruthy env "OBR_USE_REAL_LEAN" then .realSubprocess
  else .unconfigured

/-- The mode of a backend with one switch. -/
def backendMode (env : Environ) (injected : Bool) (name : String) : BackendMode :=
  if injected then .testInjected
  else if envTruthy env name then .real
  else .unconfigured

/-- `axiom`. -/
def axiomMode (env : Environ) (injected : Bool) : BackendMode :=
  backendMode env injected "OBR_USE_REAL_AXIOM_AUDIT"

/-- `fresh`. -/
def freshMode (env : Environ) (injected : Bool) : BackendMode :=
  backendMode env injected "OBR_USE_REAL_FRESH_CHECKER"

/-- `review_store`. -/
def reviewStoreMode (env : Environ) : ReviewStoreMode :=
  if env.get "REVIEW_STORE" "memory" = "postgres" ∧
      (env.isSet "REVIEW_STORE_POSTGRES_URI" = true ∨ strip (env.get "DATABASE_URL" "") ≠ "") then
    .postgres
  else .memory

/-- `obr_env`. -/
def snapshotEnv (env : Environ) : String := lower (strip (env.get "OBR_ENV" ""))

/-- `ALL_DEGRADED_REASON_CODES`. -/
def degradedReasonCodes : List String :=
  ["lean_interactive_unconfigured", "axiom_audit_unconfigured", "fresh_checker_unconfigured",
    "review_store_memory", "checkpointer_memory", "checkpointer_unavailable",
    "langgraph_unavailable", "policy_pack_unresolved"]

/-- The reasons, outside production. -/
def degradedReasons (lean : LeanInteractiveMode) (audit fresh : BackendMode)
    (store : ReviewStoreMode) : List String :=
  (if lean = .unconfigured then ["lean_interactive_unconfigured"] else []) ++
    (if audit = .unconfigured then ["axiom_audit_unconfigured"] else []) ++
    (if fresh = .unconfigured then ["fresh_checker_unconfigured"] else []) ++
    (if store = .memory then ["review_store_memory"] else [])

/-- `compute_capability_snapshot`. -/
def computeCapabilitySnapshot (env : Environ) (d : Injected := {}) : CapabilitySnapshot :=
  let lean := leanMode env d.transport
  let audit := axiomMode env d.axiomAuditor
  let fresh := freshMode env d.freshChecker
  let store := reviewStoreMode env
  let obrEnv := snapshotEnv env
  let production := decide (obrEnv = "production")
  -- In production nothing counts as degraded.
  let reasons := if production then [] else degradedReasons lean audit fresh store
  { leanInteractive := lean
    axiomAudit := audit
    freshChecker := fresh
    reviewStore := store
    degraded := !reasons.isEmpty && !production
    degradedReasons := reasons.filter fun r => decide (r ∈ degradedReasonCodes)
    obrEnv := if obrEnv = "" then "development" else obrEnv }

section

variable (env : Environ)

/-- What the snapshot says of the interactive lane, -/
theorem snapshot_lean : (computeCapabilitySnapshot env).leanInteractive = leanMode env false := by
  simp only [computeCapabilitySnapshot]

/-- of the audit, -/
theorem snapshot_audit : (computeCapabilitySnapshot env).axiomAudit = axiomMode env false := by
  simp only [computeCapabilitySnapshot]

/-- of the fresh check, -/
theorem snapshot_fresh : (computeCapabilitySnapshot env).freshChecker = freshMode env false := by
  simp only [computeCapabilitySnapshot]

/-- and of the environment: one that is not set is development. -/
theorem snapshot_obrEnv : (computeCapabilitySnapshot env).obrEnv =
    if snapshotEnv env = "" then "development" else snapshotEnv env := by
  simp only [computeCapabilitySnapshot]

end

/-- Every reason is one of the codes: none is dropped. -/
theorem degradedReasons_known (lean : LeanInteractiveMode) (audit fresh : BackendMode)
    (store : ReviewStoreMode) :
    ∀ r ∈ degradedReasons lean audit fresh store, r ∈ degradedReasonCodes := by
  cases lean <;> cases audit <;> cases fresh <;> cases store <;> decide

/-! ## §3. deps.py -/

/-- A transport to Lean. -/
inductive LeanBackend where
  | lsp
  | subprocess
  deriving DecidableEq

/-- How the snapshot names a transport. -/
def LeanBackend.mode : LeanBackend → LeanInteractiveMode
  | .lsp => .realLsp
  | .subprocess => .realSubprocess

/-- `_resolve_lean_transport`; a `RuntimeError` has its text. -/
def resolveLeanTransport (env : Environ) : Except String LeanBackend :=
  -- Any text counts that is not empty, `0` and `false` too.
  if env.isSet "OBR_USE_LEAN_LSP" then .ok .lsp
  else if env.isSet "OBR_USE_REAL_LEAN" then .ok .subprocess
  else .error "Set OBR_USE_REAL_LEAN or OBR_USE_LEAN_LSP for the interactive lane."

/-- A backend with one switch. -/
def resolveReal (env : Environ) (name text : String) : Except String Unit :=
  if env.isSet name then .ok () else .error text

/-- The text of the `RuntimeError` without an audit. -/
def noAxiomAudit : String := "Set OBR_USE_REAL_AXIOM_AUDIT for batch-verify (axiom audit)."

/-- The text of the `RuntimeError` without a fresh checker. -/
def noFreshChecker : String := "Set OBR_USE_REAL_FRESH_CHECKER for batch-verify (fresh check)."

/-- `_resolve_axiom_auditor`. -/
def resolveAxiomAuditor (env : Environ) : Except String Unit :=
  resolveReal env "OBR_USE_REAL_AXIOM_AUDIT" noAxiomAudit

/-- `_resolve_fresh_checker`. -/
def resolveFreshChecker (env : Environ) : Except String Unit :=
  resolveReal env "OBR_USE_REAL_FRESH_CHECKER" noFreshChecker

/-- A real mode is resolved where its variable is set. -/
theorem resolveReal_ok_iff {env : Environ} {name text : String} :
    resolveReal env name text = .ok () ↔ env.isSet name = true := by
  unfold resolveReal
  split <;> simp_all

/-! ## §4. app.py -/

/-- `os.environ.get("OBR_ENV") == "production"`. -/
def startupProduction (env : Environ) : Bool := decide (env "OBR_ENV" = some "production")

/-- `strict`. -/
def startupStrict (env : Environ) : Bool := truthyWord (env.get "OBR_ACCEPTANCE_STRICT" "1")

/-- The errors of a deployment. -/
def productionErrors (env : Environ) : List String :=
  (if env.get "REVIEW_STORE" "memory" = "memory" then
    ["REVIEW_STORE must not be memory when OBR_ENV=production"] else []) ++
  (if env.get "CHECKPOINTER" "memory" = "memory" then
    ["CHECKPOINTER must not be memory when OBR_ENV=production"] else []) ++
  (if strip (env.get "DATABASE_URL" "") = "" then
    ["DATABASE_URL must be set when OBR_ENV=production"] else []) ++
  (if env.isSet "OBR_USE_REAL_AXIOM_AUDIT" = false then
    ["OBR_USE_REAL_AXIOM_AUDIT must be set when OBR_ENV=production (real axiom audit required)"]
    else []) ++
  (if startupStrict env = true ∧ env.isSet "OBR_USE_REAL_FRESH_CHECKER" = false then
    ["OBR_USE_REAL_FRESH_CHECKER must be set when OBR_ENV=production and OBR_ACCEPTANCE_STRICT"]
    else [])

/-- `_assert_production_state`. -/
def assertProductionState (env : Environ) : Except String Unit :=
  if startupProduction env = false then .ok ()
  else
    let errors := productionErrors env
    if errors = [] then .ok () else .error (String.intercalate "; " errors)

/-- What a deployment has, strict acceptance apart. -/
structure Deployed (env : Environ) : Prop where
  reviewStore : env.get "REVIEW_STORE" "memory" ≠ "memory"
  checkpointer : env.get "CHECKPOINTER" "memory" ≠ "memory"
  databaseUrl : strip (env.get "DATABASE_URL" "") ≠ ""
  axiomAudit : env.isSet "OBR_USE_REAL_AXIOM_AUDIT" = true

/-- **The deployments that start.** -/
theorem assertProductionState_ok_iff {env : Environ} (h : startupProduction env = true) :
    assertProductionState env = .ok () ↔
      Deployed env ∧
        (startupStrict env = true → env.isSet "OBR_USE_REAL_FRESH_CHECKER" = true) := by
  have hnil : assertProductionState env = .ok () ↔ productionErrors env = [] := by
    rw [assertProductionState, h]
    simp only [Bool.true_eq_false, if_false]
    split <;> simp_all
  rw [hnil, productionErrors]
  simp only [List.append_eq_nil_iff, ite_eq_right_iff, List.cons_ne_nil, imp_false, not_and,
    Bool.not_eq_false]
  constructor
  · rintro ⟨⟨⟨⟨hstore, hcheck⟩, hurl⟩, haudit⟩, hfresh⟩
    exact ⟨⟨hstore, hcheck, hurl, haudit⟩, hfresh⟩
  · rintro ⟨⟨hstore, hcheck, hurl, haudit⟩, hfresh⟩
    exact ⟨⟨⟨⟨hstore, hcheck⟩, hurl⟩, haudit⟩, hfresh⟩

/-! ## §5. routes_batch.py -/

/-- What the route reads. -/
def strictEnv (env : Environ) : StrictEnv := ⟨env "OBR_ACCEPTANCE_STRICT", env "OBR_ENV"⟩

/-- `os.environ.get("OBR_ENV") == "production"`, in the route. -/
def routeProduction (env : Environ) : Bool := decide ((strictEnv env).obrEnv = some "production")

/-- How the three commands of a session end. -/
structure Stages where
  build : RunnerResult
  audit : CommandRun
  command : List String
  check : CommandRun

/-- How a route fails. -/
inductive RouteError where
  | http (e : PyError)
  | runtimeError (text : String)
  deriving DecidableEq

/-- `batch_verify`, with the backends that the environment configures. -/
def batchVerifyOn (now : Timestamp) (env : Environ) :
    Option Stages → Except RouteError BatchVerifyResult
  | none => (batchVerify now (strictEnv env) none).mapError .http
  | some s => do
      let _ ← (resolveAxiomAuditor env).mapError .runtimeError
      -- The checker is resolved whether the rule is strict or not.
      let _ ← (resolveFreshChecker env).mapError .runtimeError
      let commands : Commands := ⟨s.build, .real s.audit, .real s.command s.check⟩
      (batchVerify now (strictEnv env) (some commands)).mapError .http

/-- In production the route is strict, whatever the variable says. -/
theorem useStrict_of_production {env : Environ} (h : routeProduction env = true) :
    (strictEnv env).useStrict = true := by
  rw [StrictEnv.useStrict, ← routeProduction, h, Bool.or_true]

/-- **When the route raises for its fresh checker**: it has an audit, and no checker. -/
theorem batchVerifyOn_unresolved_iff {now : Timestamp} {env : Environ} {s : Stages}
    (haudit : env.isSet "OBR_USE_REAL_AXIOM_AUDIT" = true) :
    batchVerifyOn now env (some s) = .error (.runtimeError noFreshChecker) ↔
      env.isSet "OBR_USE_REAL_FRESH_CHECKER" = false := by
  have haudit' : resolveAxiomAuditor env = .ok () := resolveReal_ok_iff.mpr haudit
  rw [batchVerifyOn, haudit']
  cases hfresh : env.isSet "OBR_USE_REAL_FRESH_CHECKER" with
  | true =>
      have hfresh' : resolveFreshChecker env = .ok () := resolveReal_ok_iff.mpr hfresh
      rw [hfresh']
      exact iff_of_false (by intro h; cases h) (by decide)
  | false =>
      have hfresh' : resolveFreshChecker env = .error noFreshChecker := by
        rw [resolveFreshChecker, resolveReal, hfresh]
        rfl
      rw [hfresh']
      exact iff_of_true rfl rfl

end Gateway

end ObligationRuntime
