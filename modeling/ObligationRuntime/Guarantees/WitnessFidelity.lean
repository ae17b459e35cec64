/-
  ObligationRuntime.Guarantees.WitnessFidelity — what a witness bundle says about
  the run that made it.

  `finalize` validates the state's evidence against the schemas of the bundle, and
  puts an all-good default where the validation fails.  The responses of the two
  lanes have keys the bundle's schemas do not know, so it always fails: every bundle
  carries a clean interactive result and an empty acceptance, whatever was found.
  The obligation, the fingerprint and the decision are the state's.

  Main results:
    * `bundleOf_evidence` — the bundle made from SDK evidence,
    * `acceptance_never_kept`, `kept_interactive_iff` — where the defaults agree with
      the evidence,
    * `witness_never_faithful` — no run appends a faithful bundle,
    * `witness_fidelity_fails` — an approved run whose bundle says nothing of it.
-/
import ObligationRuntime.Runtime.Runs

namespace ObligationRuntime

open Py Flow Handlers

/-- The evidence in a state, as the SDK and the engine wrote it. -/
structure RecordedEvidence where
  batch : BatchVerifyResult
  check : InteractiveCheckApiResponse
  policy : PolicyDecision
  fingerprint : EnvironmentFingerprint

/-- The state carries the evidence. -/
structure Carries (t : State) (e : RecordedEvidence) : Prop where
  batch : t.batch = some e.batch.dump
  check : t.interactive = some e.check.dump
  policy : t.policy = some e.policy.dump
  fingerprint : t.environmentFingerprint = some (.obj e.fingerprint.dump)

/-- The bundle's acceptance is that of a batch result. -/
structure KeptAcceptance (r : BatchVerifyResult) (b : WitnessBundle) : Prop where
  ok : b.acceptance.ok = r.ok
  trustLevel : b.acceptance.trustLevel = r.trustLevel.text
  reasons : b.acceptance.reasons = r.reasons
  build : b.acceptance.build = r.build.dump
  axiomAudit : b.acceptance.axiomAudit = r.axiomAudit.dump
  freshChecker : b.acceptance.freshChecker = r.freshChecker.dump

/-- The bundle's interactive record is that of a check. -/
structure KeptInteractive (c : InteractiveCheckApiResponse) (b : WitnessBundle) : Prop where
  ok : b.interactive.ok = c.ok
  diagnostics : b.interactive.diagnostics = c.diagnostics
  goals : b.interactive.goals = c.goals

/-- **Fidelity**: the bundle carries exactly the state's evidence, and the approval
of a run that was approved. -/
structure Faithful (t : State) (e : RecordedEvidence) (b : WitnessBundle) : Prop where
  acceptance : KeptAcceptance e.batch b
  interactive : KeptInteractive e.check b
  obligationId : b.obligationId = t.obligationId.getD ""
  fingerprint : b.environmentFingerprint = e.fingerprint
  policy : b.policy = e.policy
  approval : t.approval = .str "approved" → ∃ kv ∈ b.approval, kv.2 = .str "approved"

section

variable {deps : Deps} {t : State} {e : RecordedEvidence}

/-- **The bundle made from SDK evidence**: the state's obligation, fingerprint and
decision, and the defaults. -/
theorem bundleOf_evidence (deps : Deps) (h : Carries t e) :
    bundleOf deps t = .ok
      { createdAt := deps.now
        bundleId := newId "wit" deps.hex
        obligationId := t.obligationId.getD ""
        environmentFingerprint := e.fingerprint
        interactive := { createdAt := deps.now, ok := true }
        acceptance := AcceptanceSummary.default deps.now
        policy := e.policy
        approval := t.approval.dict?.getD [] } := by
  have hacc : acceptanceOf deps t.batch = AcceptanceSummary.default deps.now := by
    -- Schema drift: the evidence flags are unknown to the bundle's schema.
    obtain ⟨err, herr⟩ := AcceptanceSummary.validate_batch deps.now e.batch
    simp [acceptanceOf, h.batch, PolicyEngine.batch_dump_present, herr]
  have hint : interactiveOf deps (t.interactive.getD []) =
      { createdAt := deps.now, ok := true } := by
    -- And so is the transport's capability flag.
    obtain ⟨err, herr⟩ := InteractiveCheckResult.validate_api deps.now e.check
    simp [interactiveOf, h.check, herr]
  have hpol : policyOf (t.policy.getD []) = e.policy := by
    simp [policyOf, h.policy]
  rw [bundleOf_fingerprint deps h.fingerprint, hacc, hint, hpol]

/-- A run that comes to `finalize` ends there, with one bundle more. -/
theorem run_artifacts {n : Node} {s : State} {b : WitnessBundle}
    (ht : (.finalize, t) ∈ (run deps n s).visited) (hb : bundleOf deps t = .ok b) :
    (run deps n s).state.artifacts = some (t.artifacts.getD [] ++ [bundleArtifact b]) := by
  obtain ⟨-, hstate, -, -⟩ := run_of_visited ht
  rw [hstate, run_finalize hb]
  rfl

/-- The default acceptance never carries the sub-results of the lane. -/
theorem acceptance_never_kept {b : WitnessBundle} (hb : bundleOf deps t = .ok b) (h : Carries t e) :
    ¬ KeptAcceptance e.batch b := by
  rw [bundleOf_evidence deps h, Except.ok.injEq] at hb
  subst hb
  intro hk
  -- The default has an empty build record, a dumped result never has.
  have hbuild := hk.build
  simp [AcceptanceSummary.default, CommandResult.dump, VersionedRecord.dump] at hbuild

/-- The default interactive record is right exactly about a clean check. -/
theorem kept_interactive_iff {b : WitnessBundle} (hb : bundleOf deps t = .ok b)
    (h : Carries t e) :
    KeptInteractive e.check b ↔
      e.check.ok = true ∧ e.check.diagnostics = [] ∧ e.check.goals = [] := by
  rw [bundleOf_evidence deps h, Except.ok.injEq] at hb
  subst hb
  constructor
  · exact fun hk => ⟨hk.ok.symm, hk.diagnostics.symm, hk.goals.symm⟩
  · exact fun ⟨hok, hd, hg⟩ => ⟨hok.symm, hd.symm, hg.symm⟩

/-- **No run appends a faithful bundle.**  A run that reaches `finalize` with SDK
evidence appends one bundle, with the state's obligation, fingerprint and decision,
without the lane's evidence, and with no trace of an approval. -/
theorem witness_never_faithful (checkpoint : Option State) (input : State)
    (ht : (.finalize, t) ∈ (invoke deps checkpoint input).visited) (h : Carries t e) :
    ∃ b, bundleOf deps t = .ok b ∧
      (invoke deps checkpoint input).state.artifacts =
        some (t.artifacts.getD [] ++ [bundleArtifact b]) ∧
      (b.obligationId = t.obligationId.getD "" ∧ b.environmentFingerprint = e.fingerprint ∧
        b.policy = e.policy) ∧
      (t.approval = .str "approved" → b.approval = []) ∧
      ¬ KeptAcceptance e.batch b ∧ ¬ Faithful t e b := by
  have hb := bundleOf_evidence deps h
  have hkept := acceptance_never_kept hb h
  rw [invoke_eq_run] at ht ⊢
  refine ⟨_, hb, run_artifacts ht hb, ⟨rfl, rfl, rfl⟩, fun ha => ?_, hkept, fun hf => ?_⟩
  · simp [ha, Json.dict?]
  · exact hkept hf.acceptance

end

namespace Scripted

/-- The scripted gateway, under a reviewer-gated pack. -/
def approvedDeps : Deps :=
  deps "s1" checked verified { pack with reviewerGatedExecution := true }

/-- A run that was approved before it started. -/
def approvedInput : State :=
  makeInitialState (request patch) { approvalDecision := some (.str "approved") }

/-- The evidence of that run. -/
def evidence : RecordedEvidence where
  batch := verified
  check := checked
  policy := PolicyEngine.decisionOf { pack with reviewerGatedExecution := true }
    PolicyEngine.acceptance
  fingerprint := fingerprint

end Scripted

/-- That run comes to `finalize`, approved and with that evidence. -/
theorem Scripted.approved_finalizes :
    ∃ t, (.finalize, t) ∈ (invoke Scripted.approvedDeps none Scripted.approvedInput).visited ∧
      Carries t Scripted.evidence ∧ t.approval = .str "approved" :=
  ⟨_, List.mem_of_getElem? (i := 8) rfl, ⟨rfl, rfl, rfl, rfl⟩, rfl⟩

/-- What the theorem says of that run. -/
theorem witness_never_faithful_approved :
    ∃ t b, bundleOf Scripted.approvedDeps t = .ok b ∧
      (invoke Scripted.approvedDeps none Scripted.approvedInput).state.artifacts =
        some (t.artifacts.getD [] ++ [bundleArtifact b]) ∧
      b.policy = Scripted.evidence.policy ∧ b.approval = [] ∧
      ¬ Faithful t Scripted.evidence b := by
  obtain ⟨t, ht, hcarries, happroval⟩ := Scripted.approved_finalizes
  obtain ⟨b, hb, hart, ⟨-, -, hpolicy⟩, hnone, -, hnot⟩ :=
    witness_never_faithful none Scripted.approvedInput ht hcarries
  exact ⟨t, b, hb, hart, hpolicy, hnone happroval, hnot⟩

/-- **An approved run whose bundle says nothing of it**: the run is accepted with
evidence of every kind, and its bundle has an empty build, and no approval. -/
theorem witness_fidelity_fails :
    let r := invoke Scripted.approvedDeps none Scripted.approvedInput
    ∃ t b, (.finalize, t) ∈ r.visited ∧ Carries t Scripted.evidence ∧
      bundleOf Scripted.approvedDeps t = .ok b ∧ EndsWith r .accepted ∧
      t.approval = .str "approved" ∧ b.acceptance.build = [] ∧ b.approval = [] ∧
      ¬ Faithful t Scripted.evidence b := by
  intro r
  obtain ⟨t, ht, hcarries, happroval⟩ := Scripted.approved_finalizes
  have hb := bundleOf_evidence Scripted.approvedDeps hcarries
  refine ⟨t, _, ht, hcarries, hb, by decide, happroval, rfl, by simp [happroval, Json.dict?],
    fun hf => acceptance_never_kept hb hcarries hf.acceptance⟩

end ObligationRuntime
