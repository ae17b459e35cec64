/-
  ObligationRuntime.Guarantees.ConfigurationReaders — whether the readers of the gateway's
  variables agree.

  The snapshot should say what the dependencies resolve; the snapshot, the startup check and
  the route should mean the same by production; and in production the route should be strict
  exactly where the startup check took acceptance to be.  Each reader has its own idea of
  what is on, so they agree on some texts only.

  Main results:
    * `leanMode_agrees_iff`, `backendMode_agrees_iff` — a switch that is on for both,
    * `strict_agrees_iff` — the strict rule,
    * `configuration_readers_iff` — the assignments on which all agree,
    * `configuration_readers_fail` — an audit that is `on`, and acceptance that is not strict.
-/
import ObligationRuntime.Gateway.Configuration

namespace ObligationRuntime

open Py

namespace Gateway

/-! ## §1. The property. -/

/-- In a production that starts, the route is strict where the startup check was, and does
not raise for its fresh checker. -/
def StrictAgrees (env : Environ) : Prop :=
  startupProduction env = true → assertProductionState env = .ok () →
    (strictEnv env).useStrict = startupStrict env ∧
      ∀ now stages, batchVerifyOn now env stages ≠ .error (.runtimeError noFreshChecker)

/-- **The configuration readers agree.** -/
structure ReadersAgree (env : Environ) : Prop where
  lean : ∀ b : LeanBackend, (computeCapabilitySnapshot env).leanInteractive = b.mode ↔
    resolveLeanTransport env = .ok b
  axiomAudit : (computeCapabilitySnapshot env).axiomAudit = .real ↔
    resolveAxiomAuditor env = .ok ()
  freshChecker : (computeCapabilitySnapshot env).freshChecker = .real ↔
    resolveFreshChecker env = .ok ()
  snapshotProduction : (computeCapabilitySnapshot env).obrEnv = "production" ↔
    startupProduction env = true
  routeProduction : routeProduction env = startupProduction env
  strict : StrictAgrees env

/-! ## §2. The condition. -/

/-- The switch is on by a word, or it is off. -/
def Plain (env : Environ) (name : String) : Prop :=
  env.isSet name = true → envTruthy env name = true

/-- Strict acceptance is set to something that is not a word. -/
def StrictDisabled (env : Environ) : Prop :=
  ∃ value, env "OBR_ACCEPTANCE_STRICT" = some value ∧ truthyWord value = false

/-- The texts of the variables are such that all readers take them alike. -/
structure ReadAlike (env : Environ) : Prop where
  leanLsp : Plain env "OBR_USE_LEAN_LSP"
  realLean : env.isSet "OBR_USE_LEAN_LSP" = false → Plain env "OBR_USE_REAL_LEAN"
  axiomAudit : Plain env "OBR_USE_REAL_AXIOM_AUDIT"
  freshChecker : Plain env "OBR_USE_REAL_FRESH_CHECKER"
  obrEnv : lower (strip (env.get "OBR_ENV" "")) = "production" → env "OBR_ENV" = some "production"
  strict : ¬ (env "OBR_ENV" = some "production" ∧ StrictDisabled env ∧ Deployed env)

/-! ## §3. Switches. -/

section

variable {env : Environ}

/-- **A backend with one switch** is reported as it is resolved exactly where the switch is
plain. -/
theorem backendMode_agrees_iff {name text : String} :
    (backendMode env false name = .real ↔ resolveReal env name text = .ok ()) ↔
      Plain env name := by
  have hmode : backendMode env false name = .real ↔ envTruthy env name = true := by
    cases h : envTruthy env name <;> simp [backendMode, h]
  rw [hmode, resolveReal_ok_iff, Plain]
  exact ⟨fun h => h.mpr, fun h => ⟨isSet_of_truthy, h⟩⟩

/-- The mode of the transport, by the words. -/
theorem leanMode_eq (b : LeanBackend) :
    leanMode env false = b.mode ↔
      (b = .lsp ∧ envTruthy env "OBR_USE_LEAN_LSP" = true) ∨
        (b = .subprocess ∧ envTruthy env "OBR_USE_LEAN_LSP" = false ∧
          envTruthy env "OBR_USE_REAL_LEAN" = true) := by
  cases b <;> cases hl : envTruthy env "OBR_USE_LEAN_LSP" <;>
    cases hr : envTruthy env "OBR_USE_REAL_LEAN" <;> simp [leanMode, LeanBackend.mode, hl, hr]

/-- The transport, by the texts. -/
theorem resolveLeanTransport_eq (b : LeanBackend) :
    resolveLeanTransport env = .ok b ↔
      (b = .lsp ∧ env.isSet "OBR_USE_LEAN_LSP" = true) ∨
        (b = .subprocess ∧ env.isSet "OBR_USE_LEAN_LSP" = false ∧
          env.isSet "OBR_USE_REAL_LEAN" = true) := by
  cases b <;> cases hl : env.isSet "OBR_USE_LEAN_LSP" <;>
    cases hr : env.isSet "OBR_USE_REAL_LEAN" <;> simp [resolveLeanTransport, hl, hr]

/-- **The transport** is reported as it is resolved exactly where the first switch is plain,
and the second one too, unless the first is on. -/
theorem leanMode_agrees_iff :
    (∀ b : LeanBackend, leanMode env false = b.mode ↔ resolveLeanTransport env = .ok b) ↔
      Plain env "OBR_USE_LEAN_LSP" ∧
        (env.isSet "OBR_USE_LEAN_LSP" = false → Plain env "OBR_USE_REAL_LEAN") := by
  constructor
  · intro h
    refine ⟨fun hset => ?_, fun hoff hset => ?_⟩
    · have hmode := (h .lsp).mpr ((resolveLeanTransport_eq .lsp).mpr (.inl ⟨rfl, hset⟩))
      simpa using (leanMode_eq .lsp).mp hmode
    · have hmode := (h .subprocess).mpr
        ((resolveLeanTransport_eq .subprocess).mpr (.inr ⟨rfl, hoff, hset⟩))
      have hwords := (leanMode_eq .subprocess).mp hmode
      simp only [reduceCtorEq, false_and, true_and, false_or] at hwords
      exact hwords.2
  · rintro ⟨hlsp, hlean⟩ b
    rw [leanMode_eq, resolveLeanTransport_eq]
    cases hset : env.isSet "OBR_USE_LEAN_LSP" with
    | true => simp [hlsp hset]
    | false =>
        -- A word that counts as on is set, so a switch that is off has none.
        have hword : envTruthy env "OBR_USE_LEAN_LSP" = false := by
          by_contra hon
          rw [Bool.not_eq_false] at hon
          simp [isSet_of_truthy hon] at hset
        have hiff : envTruthy env "OBR_USE_REAL_LEAN" = true ↔
            env.isSet "OBR_USE_REAL_LEAN" = true := ⟨isSet_of_truthy, hlean hset⟩
        simp [hword, hiff]

/-! ## §4. Production. -/

/-- The snapshot says production exactly for the word. -/
theorem snapshot_production_iff :
    (computeCapabilitySnapshot env).obrEnv = "production" ↔
      lower (strip (env.get "OBR_ENV" "")) = "production" := by
  rw [snapshot_obrEnv, ← snapshotEnv]
  by_cases h : snapshotEnv env = ""
  · rw [if_pos h, h]
    decide
  · rw [if_neg h]

/-- **Production** is decided alike exactly where the word is the text. -/
theorem production_agrees_iff :
    ((computeCapabilitySnapshot env).obrEnv = "production" ↔ startupProduction env = true) ↔
      (lower (strip (env.get "OBR_ENV" "")) = "production" →
        env "OBR_ENV" = some "production") := by
  rw [snapshot_production_iff, startupProduction, decide_eq_true_eq]
  refine ⟨fun h => h.mp, fun h => ⟨h, fun hexact => ?_⟩⟩
  rw [Environ.get, hexact]
  decide

/-! ## §5. The strict rule. -/

/-- Acceptance is not strict at startup exactly where it is disabled. -/
theorem startupStrict_eq_false_iff : startupStrict env = false ↔ StrictDisabled env := by
  unfold startupStrict StrictDisabled Environ.get
  cases env "OBR_ACCEPTANCE_STRICT" with
  | none => exact iff_of_false (by decide) (by simp)
  | some value => simp

/-- **The strict rule** agrees exactly where no production starts with it disabled. -/
theorem strict_agrees_iff :
    StrictAgrees env ↔
      ¬ (env "OBR_ENV" = some "production" ∧ StrictDisabled env ∧ Deployed env) := by
  constructor
  · rintro hagrees ⟨henv, hdisabled, hdeployed⟩
    have hprod : startupProduction env = true := by rwa [startupProduction, decide_eq_true_eq]
    have hoff := startupStrict_eq_false_iff.mpr hdisabled
    have hstarts := (assertProductionState_ok_iff hprod).mpr ⟨hdeployed, by simp [hoff]⟩
    -- The route is strict all the same.
    have hon : (strictEnv env).useStrict = true := useStrict_of_production hprod
    have heq := (hagrees hprod hstarts).1
    rw [hon, hoff] at heq
    cases heq
  · intro hnot hprod hstarts
    obtain ⟨hdeployed, hfresh⟩ := (assertProductionState_ok_iff hprod).mp hstarts
    have henv : env "OBR_ENV" = some "production" := by
      rwa [startupProduction, decide_eq_true_eq] at hprod
    have hstrict : startupStrict env = true := by
      by_contra hoff
      rw [Bool.not_eq_true] at hoff
      exact hnot ⟨henv, startupStrict_eq_false_iff.mp hoff, hdeployed⟩
    refine ⟨(useStrict_of_production hprod).trans hstrict.symm, fun now stages => ?_⟩
    cases stages with
    | none => intro h; cases h
    | some s =>
        rw [ne_eq, batchVerifyOn_unresolved_iff hdeployed.axiomAudit, hfresh hstrict]
        decide

/-- Without a checker, the route of a production that starts raises, whatever its strict
acceptance. -/
theorem disabled_raises {now : Timestamp} {s : Stages} (hdeployed : Deployed env)
    (hfresh : env.isSet "OBR_USE_REAL_FRESH_CHECKER" = false) :
    batchVerifyOn now env (some s) = .error (.runtimeError noFreshChecker) :=
  (batchVerifyOn_unresolved_iff hdeployed.axiomAudit).mpr hfresh

end

/-- **The assignments on which the readers agree.** -/
theorem configuration_readers_iff (env : Environ) : ReadersAgree env ↔ ReadAlike env := by
  constructor
  · rintro ⟨hlean, haudit, hfresh, hprod, -, hstrict⟩
    rw [snapshot_lean] at hlean
    rw [snapshot_audit] at haudit
    rw [snapshot_fresh] at hfresh
    obtain ⟨hlsp, hreal⟩ := leanMode_agrees_iff.mp hlean
    exact ⟨hlsp, hreal, backendMode_agrees_iff.mp haudit, backendMode_agrees_iff.mp hfresh,
      production_agrees_iff.mp hprod, strict_agrees_iff.mp hstrict⟩
  · rintro ⟨hlsp, hreal, haudit, hfresh, hprod, hstrict⟩
    refine ⟨?_, ?_, ?_, production_agrees_iff.mpr hprod, rfl, strict_agrees_iff.mpr hstrict⟩
    · rw [snapshot_lean]
      exact leanMode_agrees_iff.mpr ⟨hlsp, hreal⟩
    · rw [snapshot_audit]
      exact backendMode_agrees_iff.mpr haudit
    · rw [snapshot_fresh]
      exact backendMode_agrees_iff.mpr hfresh

namespace Scripted

/-- An audit that is `on`. -/
def auditOn : Environ := fun name =>
  if name = "OBR_USE_REAL_AXIOM_AUDIT" then some "on" else none

/-- A production without strict acceptance, and without a fresh checker. -/
def lenient : Environ := fun name =>
  match name with
  | "OBR_ENV" => some "production"
  | "REVIEW_STORE" => some "postgres"
  | "CHECKPOINTER" => some "postgres"
  | "DATABASE_URL" => some "postgresql://db"
  | "OBR_USE_REAL_AXIOM_AUDIT" => some "1"
  | "OBR_ACCEPTANCE_STRICT" => some "0"
  | _ => none

/-- Three commands that succeed. -/
def succeeded : RunnerResult := ⟨"", "", 0, 1⟩

/-- A session in which they do. -/
def stages : Stages := ⟨succeeded, .ran succeeded, ["lean4checker", "--fresh"], .ran succeeded⟩

/-- The time of the request. -/
def requestTime : Timestamp := ⟨"2026-06-01T00:00:00Z", by decide⟩

end Scripted

/-- **An audit that is `on`, and acceptance that is not strict**: the snapshot does not know
the one, and resolves it; the startup check accepts the other, and the route raises. -/
theorem configuration_readers_fail :
    (computeCapabilitySnapshot Scripted.auditOn).axiomAudit = .unconfigured ∧
      resolveAxiomAuditor Scripted.auditOn = .ok () ∧ ¬ ReadersAgree Scripted.auditOn ∧
      assertProductionState Scripted.lenient = .ok () ∧
      (strictEnv Scripted.lenient).useStrict = true ∧
      startupStrict Scripted.lenient = false ∧
      batchVerifyOn Scripted.requestTime Scripted.lenient (some Scripted.stages) =
        .error (.runtimeError noFreshChecker) ∧
      ¬ ReadersAgree Scripted.lenient := by
  have hunknown : (computeCapabilitySnapshot Scripted.auditOn).axiomAudit = .unconfigured := by
    decide
  have hresolved : resolveAxiomAuditor Scripted.auditOn = .ok () := by rfl
  have hstarts : assertProductionState Scripted.lenient = .ok () := by rfl
  have hdeployed : Deployed Scripted.lenient :=
    ((assertProductionState_ok_iff (by decide)).mp hstarts).1
  have hraises : batchVerifyOn Scripted.requestTime Scripted.lenient (some Scripted.stages) =
      .error (.runtimeError noFreshChecker) := disabled_raises hdeployed (by decide)
  refine ⟨hunknown, hresolved, fun h => ?_, hstarts, by decide, by decide, hraises, fun h => ?_⟩
  · have hreal := h.axiomAudit.mpr hresolved
    rw [hunknown] at hreal
    cases hreal
  · exact (h.strict (by decide) hstarts).2 _ _ hraises

end Gateway

end ObligationRuntime
