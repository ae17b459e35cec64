/-
  ObligationRuntime.Guarantees.TrustPromotion — trust that is not promoted.

  A decision carries the level of the rule it credits, not the level of the batch
  result: a rule that asks for a reviewer, and the acceptance, are clean whatever the
  lane found.  The rule on a change of trust reads an entry of the patch that
  `policy_review` leaves out, so it never fires there.

  Main results:
    * `reviewEvidence_trustDelta` — the rule on a change of trust never fires,
    * `evaluateState_eq_reviewCall` — what `policy_review` evaluates,
    * `trust_kept_iff` — when trust is not promoted,
    * `trust_promoted` — a lane with a trusted compiler, accepted as clean.
-/
import ObligationRuntime.Policy.RuleTable
import ObligationRuntime.Runtime.Graph

namespace ObligationRuntime

open Py PolicyEngine

/-- The order of the levels: clean, warning, blocked. -/
def TrustLevel.rank : TrustLevel → Nat
  | .clean => 0
  | .warning => 1
  | .blocked => 2

theorem TrustLevel.rank_le_two (t : TrustLevel) : t.rank ≤ 2 := by
  cases t <;> decide

theorem TrustLevel.rank_eq_zero {t : TrustLevel} : t.rank = 0 ↔ t = .clean := by
  cases t <;> decide

/-! ## §1. The call of `policy_review`. -/

/-- The evidence `policy_review` shows the engine. -/
def reviewEvidence (sha256 : String → String) (interactive : Option InteractiveRecord)
    (batch : Option BatchVerifyResult) (patch : Patch) (protectedPaths : List Json) :
    Evidence where
  interactive := interactive
  batch := batch
  patch := .ofSummary (summarizePatch sha256 [] patch protectedPaths)

/-- `policy_engine.evaluate(...)`, with the arguments of `policy_review`. -/
def reviewCall (sha256 : String → String) (interactive : Option InteractiveRecord)
    (batch : Option BatchVerifyResult) (patch : Patch) (protectedPaths : List Json)
    (pack : PolicyPack) : Except PyError PolicyDecision :=
  evaluate (interactive.map InteractiveRecord.dump) (batch.map BatchVerifyResult.dump)
    (summarizePatch sha256 [] patch protectedPaths).metadata pack

section

variable {sha256 : String → String} {interactive : Option InteractiveRecord}
  {batch : Option BatchVerifyResult} {patch : Patch} {protectedPaths : List Json}
  {pack : PolicyPack}

theorem reviewCall_eq :
    reviewCall sha256 interactive batch patch protectedPaths pack =
      (reviewEvidence sha256 interactive batch patch protectedPaths).evaluate pack := by
  unfold reviewCall Evidence.evaluate reviewEvidence
  rw [PatchMetadata.dump_ofSummary]

/-- **What `policy_review` evaluates** on a state that holds typed evidence. -/
theorem evaluateState_eq_reviewCall {deps : Deps} {s : State}
    (hi : s.interactive = interactive.map InteractiveRecord.dump)
    (hb : s.batch = batch.map BatchVerifyResult.dump)
    (hp : s.protectedPaths = .ok protectedPaths) :
    Handlers.evaluateState deps s =
      reviewCall deps.sha256 interactive batch (s.currentPatch.getD []) protectedPaths
        (Handlers.loadPackForReview deps s) := by
  unfold Handlers.evaluateState Handlers.patchSummary
  rw [hi, hb, hp]
  rfl

/-- **The rule on a change of trust never fires**: the caller says nothing of trust. -/
theorem reviewEvidence_trustDelta :
    ((reviewEvidence sha256 interactive batch patch protectedPaths).trustDeltaRule pack).fires =
      false := by
  unfold Evidence.trustDeltaRule reviewEvidence PatchMetadata.ofSummary
  rfl

end

/-! ## §2. Trust is kept. -/

/-- **Trust is not promoted**: the decision is no cleaner than the batch result, and
under a pack that wants a reviewer for a change of trust, no result that is not clean
is accepted. -/
structure TrustKept (batch : Option BatchVerifyResult) (pack : PolicyPack)
    (d : PolicyDecision) : Prop where
  level : ∀ b ∈ batch, b.trustLevel.rank ≤ d.trustLevel.rank
  delta : pack.requireHumanOnTrustDelta = true → ∀ b ∈ batch, b.trustLevel ≠ .clean →
    d.decision ≠ .accepted

/-- **When trust is kept**: the result is clean, or a rule that knows of trust fires
before every other. -/
def TrustGuarded (e : Evidence) (pack : PolicyPack) : Prop :=
  ∀ b ∈ e.batch, b.trustLevel = .clean ∨ e.Rejects ∨ e.Blocks ∨
    (b.trustLevel = .warning ∧ pack.allowTrustCompiler = false)

section

variable {e : Evidence} {pack : PolicyPack} {d : PolicyDecision}

/-- A blocked decision is never cleaner. -/
theorem trustKept_of_blocked (hlevel : d.trustLevel = .blocked) (hdec : d.decision ≠ .accepted) :
    TrustKept e.batch pack d where
  level := by
    intro b _
    rw [hlevel]
    exact b.trustLevel.rank_le_two
  delta := fun _ _ _ _ => hdec

/-- A clean decision is cleaner than everything that is not clean. -/
theorem trustKept_of_clean (hlevel : d.trustLevel = .clean) :
    TrustKept e.batch pack d ↔ ∀ b ∈ e.batch, b.trustLevel = .clean := by
  constructor
  · intro h b hb
    have hle := h.level b hb
    rw [hlevel] at hle
    exact TrustLevel.rank_eq_zero.mp (Nat.le_zero.mp hle)
  · intro h
    constructor
    · intro b hb
      rw [h b hb, hlevel]
    · intro _ b hb hne
      exact absurd (h b hb) hne

/-- Where nothing stops the patch before its review, only a clean result is guarded. -/
theorem trustGuarded_of_unguarded (hrej : ¬ e.Rejects) (hblock : ¬ e.Blocks)
    (hcomp : ¬ e.TrustsCompiler pack) :
    TrustGuarded e pack ↔ ∀ b ∈ e.batch, b.trustLevel = .clean := by
  constructor
  · intro h b hb
    rcases h b hb with hclean | hr | hbl | hw
    · exact hclean
    · exact absurd hr hrej
    · exact absurd hbl hblock
    · exact absurd ⟨b, hb, hw⟩ hcomp
  · intro h b hb
    exact .inl (h b hb)

/-- **Trust is kept exactly when it is guarded**, for typed evidence. -/
theorem trustKept_iff_guarded (e : Evidence) (pack : PolicyPack) :
    ∃ d, e.evaluate pack = .ok d ∧ (TrustKept e.batch pack d ↔ TrustGuarded e pack) := by
  refine ⟨_, evaluate_eq_table e pack, ?_⟩
  have hdecision : (decisionOf pack (e.rule pack).verdict).decision =
      (e.rule pack).verdict.decision := rfl
  have hlevel : (decisionOf pack (e.rule pack).verdict).trustLevel =
      (e.rule pack).verdict.trustLevel := rfl
  generalize hr : e.rule pack = r at hdecision hlevel ⊢
  have hout := e.rule_outcome pack
  rw [hr] at hout
  cases hout with
  | rejected _ h mem =>
      obtain ⟨hd, -, hl⟩ := e.rejectRules_says r mem
      rw [hd] at hdecision
      rw [hl] at hlevel
      have hkept : TrustKept e.batch pack (decisionOf pack r.verdict) :=
        trustKept_of_blocked hlevel (by rw [hdecision]; decide)
      exact iff_of_true hkept fun b _ => .inr (.inl h)
  | blocked _ hrej h mem =>
      obtain ⟨hd, -, hl⟩ := e.blockRules_says r mem
      rw [hd] at hdecision
      rw [hl] at hlevel
      have hkept : TrustKept e.batch pack (decisionOf pack r.verdict) :=
        trustKept_of_blocked hlevel (by rw [hdecision]; decide)
      exact iff_of_true hkept fun b _ => .inr (.inr (.inl h))
  | compiler _ hrej hblock h mem =>
      -- The one rule whose level is that of the batch result.
      obtain ⟨hd, -, hl⟩ := e.compilerRules_says pack r mem
      rw [hd] at hdecision
      rw [hl] at hlevel
      obtain ⟨b, hb, hw, hallow⟩ := h
      have hbatch : ∀ c ∈ e.batch, c = b := fun c hc => Option.mem_unique hc hb
      refine iff_of_true ⟨?_, ?_⟩ ?_
      · intro c hc
        rw [hbatch c hc, hw, hlevel]
      · intro _ c _ _
        rw [hdecision]
        decide
      · intro c hc
        rw [hbatch c hc]
        exact .inr (.inr (.inr ⟨hw, hallow⟩))
  | review _ hrej hblock hcomp h mem =>
      obtain ⟨-, -, hl⟩ := e.reviewRules_says pack r mem
      rw [hl] at hlevel
      rw [trustKept_of_clean hlevel, trustGuarded_of_unguarded hrej hblock hcomp]
  | accepted hrej hblock h =>
      have hcomp : ¬ e.TrustsCompiler pack := fun hc => h (.inl hc)
      have hclean : (decisionOf pack Evidence.acceptRule.verdict).trustLevel = .clean := rfl
      rw [trustKept_of_clean hclean, trustGuarded_of_unguarded hrej hblock hcomp]

end

/-- **Trust is not promoted, exactly when** the batch result is clean, or is stopped
by a rule that knows of trust: a rejection, a block, or the rule on trusted compilers. -/
theorem trust_kept_iff (sha256 : String → String) (interactive : Option InteractiveRecord)
    (batch : Option BatchVerifyResult) (patch : Patch) (protectedPaths : List Json)
    (pack : PolicyPack) :
    ∃ d, reviewCall sha256 interactive batch patch protectedPaths pack = .ok d ∧
      (TrustKept batch pack d ↔
        TrustGuarded (reviewEvidence sha256 interactive batch patch protectedPaths) pack) := by
  rw [reviewCall_eq]
  exact trustKept_iff_guarded (reviewEvidence sha256 interactive batch patch protectedPaths) pack

namespace Scripted

/-- `experimental_low_trust_v1`. -/
def experimentalPack : PolicyPack where
  version := "0.1.0"
  name := "experimental_low_trust_v1"
  description := "Experimental mode allows lower-trust results but never auto-promotes blindly"
  allowTrustCompiler := true
  blockUnexpectedCustomAxioms := false

/-- A batch result in which everything succeeded, with a trusted compiler. -/
def trustedCompiler : BatchVerifyResult :=
  { verified with
    axiomAudit := { audit with trustLevel := .warning }
    trustLevel := .warning }

end Scripted

/-- **A trusted compiler, accepted as clean**, by the pack that never promotes blindly. -/
theorem trust_promoted :
    Scripted.experimentalPack.requireHumanOnTrustDelta = true ∧
      ∃ d, reviewCall id (some (.api Scripted.checked)) (some Scripted.trustedCompiler)
          Scripted.patch [] Scripted.experimentalPack = .ok d ∧
        d.decision = .accepted ∧ d.trustLevel = .clean ∧
        ¬ TrustKept (some Scripted.trustedCompiler) Scripted.experimentalPack d := by
  refine ⟨rfl, _, rfl, rfl, rfl, fun hkept => ?_⟩
  exact hkept.delta rfl Scripted.trustedCompiler rfl (by decide) rfl

end ObligationRuntime
