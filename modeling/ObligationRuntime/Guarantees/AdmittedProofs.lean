/-
  ObligationRuntime.Guarantees.AdmittedProofs — proofs that rest on `sorryAx`.

  The audit records the axioms a command lists and says `clean`; the combined
  result takes the verdict and not the record; the engine reads neither the record
  nor the pack's `block_sorry_ax`.  So a listed `sorryAx` decides nothing, and the
  diagnostics, the trust gates and the patch decide alone.

  Main results:
    * `listed_recorded` — a listed axiom is in the evidence,
    * `sorryAx_unread` — the pack's flag changes no decision,
    * `admitted_proofs_iff` — when an admitted proof is not accepted,
    * `admitted_proofs_fail` — one that is.
-/
import ObligationRuntime.Gateway.Batch
import ObligationRuntime.Guarantees.AxiomReports
import ObligationRuntime.Policy.PatchRules
import ObligationRuntime.Runtime.Graph

namespace ObligationRuntime

open Py Gateway PolicyEngine

/-- The audit, the combiner and the engine, one after the other. -/
def auditPipeline (now : Timestamp) (audit : RunnerResult) (build : BatchBuildResult)
    (fresh : FreshCheckerResult) (freshEvidenceReal : Bool) (interactive : Option Dict)
    (patchMetadata : Dict) (pack : PolicyPack) : Except PyError PolicyDecision :=
  let result := combineBatchResults now build (AxiomAuditorReal.run now (.ran audit)) fresh true
    freshEvidenceReal
  evaluate interactive (some result.dump) patchMetadata pack

/-- The audit command returned zero and listed `sorryAx`, build and fresh check
succeeded, and the pack says to block. -/
structure AdmittedProof (audit : RunnerResult) (build : BatchBuildResult)
    (fresh : FreshCheckerResult) (pack : PolicyPack) : Prop where
  returned : audit.returncode = 0
  lists : ∃ dep ∈ parseAxiomStdout audit.stdout, "sorryAx" ∈ dep.axioms
  builds : build.ok = true
  checks : fresh.ok = true
  blocks : pack.blockSorryAx = true

/-- Something else stops the evaluation: a diagnostic, a trust gate for clean
results, or a rule about the patch. -/
inductive StopsOtherwise (interactive : Option Dict) (patchMetadata : Dict) (pack : PolicyPack) :
    Prop
  | diagnostics (h : ¬ InteractivePasses interactive)
  | trustGate (tg : TrustGateRule) (mem : tg ∈ pack.trustGates)
      (clean : TrustLevel.clean ∈ tg.whenTrustLevel)
      (paths : trustGatePaths (normalizedFiles patchMetadata) tg = true)
      (human : tg.requireHuman = true)
  | patch (h : ¬ PatchPasses pack patchMetadata)

section

variable {now : Timestamp} {audit : RunnerResult} {build : BatchBuildResult}
  {fresh : FreshCheckerResult} {freshEvidenceReal : Bool} {interactive : Option Dict}
  {patchMetadata : Dict} {pack : PolicyPack}

/-- **A listed axiom is in the evidence**: the audit of a report that lists `sorryAx`
records it. -/
theorem listed_recorded (r : Report) (hout : audit.stdout = r.text) (h0 : audit.returncode = 0)
    (hlist : ∃ dep ∈ r.dependencies, "sorryAx" ∈ dep.axioms) :
    ∃ dep ∈ (combineBatchResults now build (AxiomAuditorReal.run now (.ran audit)) fresh true
      freshEvidenceReal).axiomAudit.dependencies, "sorryAx" ∈ dep.axioms := by
  have hrecord : (combineBatchResults now build (AxiomAuditorReal.run now (.ran audit)) fresh true
      freshEvidenceReal).axiomAudit.dependencies = r.dependencies := r.audited hout h0
  rw [hrecord]
  exact hlist

/-- **The pack's flag is not read.** -/
theorem sorryAx_unread (blockSorryAx : Bool) :
    auditPipeline now audit build fresh freshEvidenceReal interactive patchMetadata
        (withUnread pack pack.protectedPaths blockSorryAx pack.blockUnexpectedCustomAxioms) =
      auditPipeline now audit build fresh freshEvidenceReal interactive patchMetadata pack :=
  evaluate_unread _ _ _ _

/-- With three commands that succeeded the batch gates leave only the trust gates. -/
theorem combined_passes_iff (h : AdmittedProof audit build fresh pack) {files : List String} :
    BatchPasses pack files (combineBatchResults now build
        (AxiomAuditorReal.run now (.ran audit)) fresh true freshEvidenceReal).dump ↔
      ∀ tg ∈ pack.trustGates, ¬ (TrustLevel.clean ∈ tg.whenTrustLevel ∧
        trustGatePaths files tg = true ∧ tg.requireHuman = true) := by
  have hrun : AxiomAuditorReal.run now (.ran audit) =
      { createdAt := now, ok := true, trustLevel := .clean
        dependencies := parseAxiomStdout audit.stdout } := by
    simp [AxiomAuditorReal.run, h.returned]
  set r := combineBatchResults now build (AxiomAuditorReal.run now (.ran audit)) fresh true
    freshEvidenceReal with hr
  have hok : r.ok = true := by simp [hr, combineBatchResults, hrun, h.builds, h.checks]
  have hreasons : r.axiomAudit.blockedReasons = [] := by simp [hr, combineBatchResults, hrun]
  have htrust : r.trustLevel = .clean := by simp [hr, combineBatchResults, hrun]
  -- The listed axioms are in the result, and no gate reads them.
  have hclear : BatchClear pack r.dump := by
    refine ⟨batchOkGate_pass_iff.mp (batchOkGate_dump_pass.mpr hok),
      axiomGate_pass_iff.mp (axiomGate_dump_pass.mpr hreasons), ?_⟩
    simp [htrust, TrustLevel.text]
  constructor
  · rintro ⟨-, hgates⟩ tg htg hfires
    have hoff := hgates tg htg
    rw [← htrust] at hfires
    rw [trustGateFires_dump.mpr hfires] at hoff
    cases hoff
  · intro hno
    refine ⟨hclear, fun tg htg => ?_⟩
    rw [Bool.eq_false_iff, ne_eq, trustGateFires_dump, htrust]
    exact hno tg htg

/-- **Admitted proofs: exactly when they are not accepted.**  With `sorryAx` listed,
and a pack that says to block it, the pipeline accepts unless something else stops
it. -/
theorem admitted_proofs_iff (h : AdmittedProof audit build fresh pack) :
    (∀ d, auditPipeline now audit build fresh freshEvidenceReal interactive patchMetadata pack =
        .ok d → d.decision ≠ .accepted) ↔
      StopsOtherwise interactive patchMetadata pack := by
  have hacc := evaluate_accepts_iff interactive
    (some (combineBatchResults now build (AxiomAuditorReal.run now (.ran audit)) fresh true
      freshEvidenceReal).dump) patchMetadata pack
  simp only [batch_dump_present, Option.some.injEq, forall_eq', combined_passes_iff h] at hacc
  constructor
  · intro hnone
    -- Nothing else stops it, so it is accepted.
    by_contra hstop
    refine absurd (hacc.mpr ⟨?_, ?_, ?_⟩) (by rintro ⟨d, hd, hdec⟩; exact hnone d hd hdec)
    · by_contra hi
      exact hstop (.diagnostics hi)
    · exact fun tg htg ⟨hc, hp, hh⟩ => hstop (.trustGate tg htg hc hp hh)
    · by_contra hp
      exact hstop (.patch hp)
  · intro hstop d hd hdec
    obtain ⟨hi, hg, hp⟩ := hacc.mp ⟨d, hd, hdec⟩
    cases hstop with
    | diagnostics h => exact h hi
    | trustGate tg mem clean paths human => exact hg tg mem ⟨clean, paths, human⟩
    | patch h => exact h hp

end

namespace Scripted

/-- A report that lists `sorryAx`. -/
def admitted : RunnerResult where
  stdout := "Foo.good: propext\nFoo.bad: sorryAx\n"
  stderr := ""
  returncode := 0
  timingMs := 10

theorem admittedProof : AdmittedProof admitted command command pack :=
  ⟨rfl, by decide, rfl, rfl, rfl⟩

end Scripted

/-- An admitted proof in a patch that also changes imports is not accepted. -/
theorem admitted_proofs_imports :
    ∃ d, auditPipeline Scripted.now Scripted.admitted Scripted.command Scripted.command true none
      [("imports_changed", .bool true)] Scripted.pack = .ok d ∧ d.decision ≠ .accepted := by
  have hstop : StopsOtherwise none [("imports_changed", .bool true)] Scripted.pack :=
    .patch fun h => absurd (h.imports rfl) (by decide)
  have hnone : ∀ d, auditPipeline Scripted.now Scripted.admitted Scripted.command Scripted.command
      true none [("imports_changed", .bool true)] Scripted.pack = .ok d →
        d.decision ≠ .accepted := (admitted_proofs_iff Scripted.admittedProof).mpr hstop
  exact ⟨_, rfl, hnone _ rfl⟩

/-- **An admitted proof, accepted.** -/
theorem admitted_proofs_fail :
    AdmittedProof Scripted.admitted Scripted.command Scripted.command Scripted.pack ∧
      ∃ d, auditPipeline Scripted.now Scripted.admitted Scripted.command Scripted.command true
        (some Scripted.checked.dump) [] Scripted.pack = .ok d ∧ d.decision = .accepted :=
  ⟨Scripted.admittedProof, _, rfl, by decide⟩

end ObligationRuntime
