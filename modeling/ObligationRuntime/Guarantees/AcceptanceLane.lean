/-
  ObligationRuntime.Guarantees.AcceptanceLane — the acceptance lane, end to end.

  The gateway runs its three commands and combines their results; the client reads
  the combined result back; the engine decides on it.  The verdict is written three
  times (`ok`, `trust_level`, `blocked_reasons`): the engine looks at the first and
  the last, and every failure of a stage, and every missing evidence under the
  strict rule, is in one of them.

  Main results:
    * `evaluate_of_not_ok` — a lane that is not ok is rejected,
    * `acceptance_lane` — the whole way.
-/
import ObligationRuntime.Gateway.Batch
import ObligationRuntime.Policy.Engine
import ObligationRuntime.Sdk.Client

namespace ObligationRuntime

open Py EarlyReturn Gateway PolicyEngine

/-- Everything an accepted lane has been through. -/
structure LaneSucceeded (c : Commands) (strict : Bool) (r : BatchVerifyResult) : Prop where
  build : c.build.returncode = 0
  audit : ∃ outcome, c.auditor = .real outcome ∧ outcome.Succeeded
  fresh : c.checker.Succeeded
  unblocked : r.axiomAudit.blockedReasons = []
  trusted : r.trustLevel ≠ .blocked
  strictReal : strict = true → c.auditor.isReal = true ∧ c.checker.isReal = true

section

variable {interactive : Option InteractiveCheckApiResponse} {r : BatchVerifyResult}
  {patchMetadata : Dict} {pack : PolicyPack}

/-- The engine's interactive gate on what the client answers, or on nothing:
passed, or rejected. -/
theorem interactiveGate_client (interactive : Option InteractiveCheckApiResponse) :
    interactiveGate (interactive.map InteractiveCheckApiResponse.dump) = .ok none ∨
      ∃ v, interactiveGate (interactive.map InteractiveCheckApiResponse.dump) = .ok (some v) ∧
        v.decision = .rejected := by
  cases interactive with
  | none => exact .inl rfl
  | some check =>
      rw [Option.map_some, interactiveGate_dump]
      split
      · exact .inl rfl
      · exact .inr ⟨_, rfl, rfl⟩

/-- **A lane that is not ok is rejected**, whatever the patch and the pack. -/
theorem evaluate_of_not_ok (h : r.ok = false) :
    ∃ d, evaluate (interactive.map InteractiveCheckApiResponse.dump) (some r.dump) patchMetadata
      pack = .ok d ∧ d.decision = .rejected := by
  have hgates : gates (interactive.map InteractiveCheckApiResponse.dump) (some r.dump) patchMetadata
      pack = _ := gates_of_present (batch_dump_present r)
  rcases interactiveGate_client interactive with hi | ⟨v, hi, hv⟩
  -- The interactive gate passed, and the next one refuses.
  · have hb := batchOkGate_dump r
    rw [h] at hb
    refine ⟨_, evaluate_of_first (by rw [hgates, hi, first_pass, hb]; rfl), rfl⟩
  · exact ⟨_, evaluate_of_first (v := some v) (by rw [hgates, hi]; rfl), hv⟩

/-- What an evaluation that accepts, or asks for a reviewer, has seen. -/
theorem admitted_dump {d : PolicyDecision}
    (h : evaluate (interactive.map InteractiveCheckApiResponse.dump) (some r.dump) patchMetadata
      pack = .ok d)
    (hd : d.decision = .accepted ∨ d.decision = .needsReview) :
    r.ok = true ∧ r.axiomAudit.blockedReasons = [] := by
  obtain ⟨-, hok, haudit⟩ := evaluate_admits (batch_dump_present r) h hd
  exact ⟨batchOkGate_dump_pass.mp hok, axiomGate_dump_pass.mp haudit⟩

end

/-- **The acceptance lane, end to end.**  The client returns the gateway's result
unchanged; a decision that accepts, or asks for a reviewer, means that every stage
succeeded; a result that is not ok is rejected, and says why. -/
theorem acceptance_lane (c : Commands) (env : StrictEnv) (gatewayNow clientNow : Timestamp)
    (interactive : Option InteractiveCheckApiResponse) (patchMetadata : Dict)
    (pack : PolicyPack) :
    ∃ r, Gateway.batchVerify gatewayNow env (some c) = .ok r ∧
      Sdk.batchVerify clientNow (.obj r.dump) = .ok r ∧
      (∀ d, evaluate (interactive.map InteractiveCheckApiResponse.dump) (some r.dump)
          patchMetadata pack = .ok d →
        d.decision = .accepted ∨ d.decision = .needsReview →
        LaneSucceeded c env.useStrict r) ∧
      (r.ok = false →
        ∃ d, evaluate (interactive.map InteractiveCheckApiResponse.dump) (some r.dump)
          patchMetadata pack = .ok d ∧ d.decision = .rejected) ∧
      (c.auditor.isReal = true → r.ok = false → r.reasons ≠ []) := by
  refine ⟨c.verify gatewayNow env.useStrict, rfl, Sdk.batchVerify_dump _ _, fun d hd hadmit => ?_,
    evaluate_of_not_ok, fun _ => verify_reasons⟩
  obtain ⟨hok, hreasons⟩ := admitted_dump hd hadmit
  obtain ⟨⟨hbuild, -, hfresh⟩, hstrict⟩ := verify_ok_iff.mp hok
  have hreal := hreasons
  rw [verify_axiomAudit, Auditor.blockedReasons_eq_nil] at hreal
  refine ⟨hbuild, ?_, hfresh, hreasons, (verify_trustLevel hok).2, hstrict⟩
  -- The test double always gives a blocked reason.
  cases hc : c.auditor with
  | double => simp [hc, Auditor.isReal] at hreal
  | real outcome =>
      rw [hc] at hreal
      exact ⟨outcome, rfl, hreal.2⟩

end ObligationRuntime
