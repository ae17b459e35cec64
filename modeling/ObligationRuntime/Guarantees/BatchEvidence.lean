/-
  ObligationRuntime.Guarantees.BatchEvidence — acceptance without batch evidence.

  The engine asks its batch gates only when there is a batch result, and a report
  of failure is a status that later nodes overwrite.  So without a result the
  diagnostics and the patch alone decide, and a run whose session has no name is
  accepted exactly when its review lets it through on that.

  Main results:
    * `evaluate_absent_iff` — the engine without a batch result,
    * `reports_failed`, `reportsFailure_iff` — which nodes report a failure, and when,
    * `batch_evidence_iff` — when the guarantee holds, of evaluations and of runs,
    * `batch_evidence_fails` — an accepted run without a session or any evidence.
-/
import ObligationRuntime.Runtime.Runs

namespace ObligationRuntime

open Py Flow Handlers

/-! ## §1. The engine. -/

/-- **Without a batch result** an evaluation refuses exactly when a diagnostic or
the patch stops it. -/
theorem evaluate_absent_iff {interactive batch : Option Dict} {patchMetadata : Dict}
    {pack : PolicyPack} (hb : Dict.present batch = none) :
    (∀ d, PolicyEngine.evaluate interactive batch patchMetadata pack = .ok d →
        d.decision ≠ .accepted) ↔
      ¬ (PolicyEngine.InteractivePasses interactive ∧
        PolicyEngine.PatchPasses pack patchMetadata) := by
  have hacc := PolicyEngine.evaluate_accepts_iff interactive batch patchMetadata pack
  have hnone : ∀ b, Dict.present batch = some b → PolicyEngine.BatchPasses pack
      (PolicyEngine.normalizedFiles patchMetadata) b := by
    intro b h
    rw [hb] at h
    cases h
  constructor
  · rintro href ⟨hi, hp⟩
    obtain ⟨d, hd, hdec⟩ := hacc.mpr ⟨hi, hnone, hp⟩
    exact href d hd hdec
  · intro hstop d hd hdec
    obtain ⟨hi, -, hp⟩ := hacc.mp ⟨d, hd, hdec⟩
    exact hstop ⟨hi, hp⟩

/-! ## §2. Reports of failure. -/

/-- A node of the run reported the status `failed`. -/
def ReportsFailure (deps : Deps) (r : Run) : Prop :=
  ∃ x ∈ r.visited, ∃ u, (handler deps x.1 x.2).result = .ok u ∧ u.status = some .failed

section

variable {deps : Deps} {s : State}

/-- **Which nodes report a failure**: the two that need a session, without one. -/
theorem reports_failed {n : Node} {u : Update} (h : (handler deps n s).result = .ok u)
    (hu : u.status = some .failed) :
    (n = .interactiveCheck ∨ n = .batchVerify) ∧ s.session = none := by
  cases handler_writes h with
  | unchecked hnone => exact ⟨.inl rfl, hnone⟩
  | unverified hnone => exact ⟨.inr rfl, hnone⟩
  | resumeWithApproval =>
      simp only [Option.some.injEq] at hu
      split at hu <;> cases hu
  | _ => cases hu

theorem interactiveCheck_reports (h : s.session = none) :
    (handler deps .interactiveCheck s).result = .ok { status := some .failed } := by
  show (interactiveCheck deps s).result = _
  simp [interactiveCheck, h]

/-- The review, too, finds the session of the lane. -/
theorem Lane.review_session (l : Lane) (s : State) (found : Option PolicyDecision) :
    (l.atReview s found).session = l.sid := by
  cases found <;>
    simp [Lane.atReview, screened, Lane.audited_eq, Lane.update, State.session, Lane.sid]

/-- **A run that comes to its review reported a failure** exactly when its
session has no name. -/
theorem reportsFailure_iff {l : Lane} {found : Option PolicyDecision}
    (hcont : Continues (run deps .initEnvironment s) (l.visitedBefore s) (l.calls s)
      (run deps .policyReview (l.atReview s found))) :
    ReportsFailure deps (run deps .initEnvironment s) ↔ (l.atReview s found).session = none := by
  obtain ⟨hdrafted, hchecked⟩ := l.session_eq s
  rw [l.review_session s found]
  constructor
  · intro h
    obtain ⟨x, hx, u, hu, hfail⟩ := h
    obtain ⟨hn, hsession⟩ := reports_failed hu hfail
    rw [hcont.visited] at hx
    rcases List.mem_append.mp hx with hx | hx
    · -- Of the nodes before the review only two need the session.
      simp only [Lane.visitedBefore, Lane.visited, List.cons_append, List.nil_append,
        List.mem_cons, List.not_mem_nil, or_false] at hx
      rcases hx with rfl | rfl | rfl | rfl | rfl | rfl | rfl
      · simp at hn
      · simp at hn
      · simp at hn
      · exact hdrafted.symm.trans hsession
      · exact hchecked.symm.trans hsession
      · simp at hn
      · simp at hn
    · -- The nodes from the review on report nothing.
      rcases visited_rank hx with rfl | hrank
      · rcases hn with hn | hn <;> cases hn
      · rcases hn with hn | hn <;> simp [hn, rank] at hrank
  · intro hsession
    refine ⟨(.interactiveCheck, l.drafted s), ?_, { status := some .failed },
      interactiveCheck_reports (hdrafted.trans hsession), rfl⟩
    rw [hcont.visited]
    simp [Lane.visitedBefore, Lane.visited]

/-! ## §3. Runs. -/

/-- How a resumed run can be accepted, and with which batch result. -/
theorem resume_accepted_iff :
    EndsWith (run deps .resumeWithApproval s) .accepted ↔
      s.approval = .str "approved" ∧ ∃ b, bundleOf deps s = .ok b := by
  by_cases ha : s.approval = .str "approved"
  · have hcont := run_resume_approved deps ha
    rw [EndsWith, hcont.state, hcont.error]
    cases hb : bundleOf deps s with
    | error e =>
        rw [run_finalize_error (bundleOf_resumed.trans hb)]
        simp
    | ok b =>
        rw [run_finalize (bundleOf_resumed.trans hb)]
        simp [ha]
  · rw [run_resume_rejected ha]
    simp [EndsWith, ha]

theorem resume_keeps_batch : (run deps .resumeWithApproval s).state.batch = s.batch := by
  by_cases ha : s.approval = .str "approved"
  · rw [(run_resume_approved deps ha).state]
    cases hb : bundleOf deps (resumed s) with
    | error e =>
        rw [run_finalize_error hb]
        simp [resumed, State.batch]
    | ok b =>
        rw [run_finalize hb]
        simp [resumed, State.batch]
  · rw [run_resume_rejected ha]
    simp [State.batch]

/-- A resumed run visits no node that could report a failure. -/
theorem resume_reports_nothing (deps : Deps) (s : State) :
    ¬ ReportsFailure deps (run deps .resumeWithApproval s) := by
  intro h
  obtain ⟨x, hx, u, hu, hfail⟩ := h
  obtain ⟨hn, -⟩ := reports_failed hu hfail
  rcases visited_rank hx with rfl | hrank
  · rcases hn with hn | hn <;> cases hn
  · rcases hn with hn | hn <;> simp [hn, rank] at hrank

/-- The guarantee for resumed runs: with no batch result in the state, not
approved or not finalised. -/
theorem resume_evidence_iff :
    (Dict.present (run deps .resumeWithApproval s).state.batch = none ∨
        ReportsFailure deps (run deps .resumeWithApproval s) →
      ¬ EndsWith (run deps .resumeWithApproval s) .accepted) ↔
    ¬ (Dict.present s.batch = none ∧ s.approval = .str "approved" ∧
      ∃ b, bundleOf deps s = .ok b) := by
  rw [resume_keeps_batch, resume_accepted_iff]
  have := resume_reports_nothing deps s
  tauto

/-- The guarantee for fresh runs: no review without evidence lets one through. -/
theorem fresh_evidence_iff :
    (Dict.present (run deps .initEnvironment s).state.batch = none ∨
        ReportsFailure deps (run deps .initEnvironment s) →
      ¬ EndsWith (run deps .initEnvironment s) .accepted) ↔
    ∀ t, (.policyReview, t) ∈ (run deps .initEnvironment s).visited →
      Dict.present t.batch = none ∨ t.session = none → ¬ LetThrough deps t := by
  rcases reach_review deps s with hun | ⟨l, found, -, -, hcont⟩
  · refine ⟨fun _ t ht => absurd rfl (hun.visited _ ht), fun _ _ => hun.notAccepted⟩
  · constructor
    · intro hsafe t ht hmissing hlet
      have hacc := fresh_accepted_iff.mpr ⟨t, ht, hlet⟩
      refine hsafe ?_ hacc
      rcases hmissing with hb | hsession
      · exact .inl (by rw [fresh_accepted_batch hacc ht, hb])
      -- Without a session both checks report a failure.
      · obtain rfl := hcont.review_state ht
        exact .inr ((reportsFailure_iff hcont).mpr hsession)
    · intro hnone hmissing hacc
      obtain ⟨t, ht, hlet⟩ := fresh_accepted_iff.mp hacc
      refine hnone t ht ?_ hlet
      rcases hmissing with hb | hfail
      · exact .inl (by rw [← fresh_accepted_batch hacc ht, hb])
      · obtain rfl := hcont.review_state ht
        exact .inr ((reportsFailure_iff hcont).mp hfail)

end

/-- **No acceptance without batch evidence: exactly when.**  An evaluation without
a batch result refuses iff a diagnostic or the patch stops it.  A run
without a batch result, or with a node that reported a failure, is not accepted
iff it is no approved resume of such a state and no review in such a state lets
it through. -/
theorem batch_evidence_iff (interactive batch : Option Dict) (patchMetadata : Dict)
    (pack : PolicyPack) (deps : Deps) (checkpoint : Option State) (input : State) :
    (Dict.present batch = none →
      ((∀ d, PolicyEngine.evaluate interactive batch patchMetadata pack = .ok d →
          d.decision ≠ .accepted) ↔
        ¬ (PolicyEngine.InteractivePasses interactive ∧
          PolicyEngine.PatchPasses pack patchMetadata))) ∧
    (let r := invoke deps checkpoint input
     let s := startState checkpoint input
     (Dict.present r.state.batch = none ∨ ReportsFailure deps r → ¬ EndsWith r .accepted) ↔
       (routeStart s = .resumeWithApproval →
          ¬ (Dict.present s.batch = none ∧ s.approval = .str "approved" ∧
            ∃ b, bundleOf deps s = .ok b)) ∧
        (∀ t, (.policyReview, t) ∈ r.visited → Dict.present t.batch = none ∨ t.session = none →
          ¬ LetThrough deps t)) := by
  refine ⟨fun hb => evaluate_absent_iff hb, ?_⟩
  intro r s
  have hr : r = run deps (routeStart s) s := invoke_eq_run _ _
  rw [hr]
  -- A run either resumes, and then comes to no review, or starts afresh.
  have hroute : routeStart s = .resumeWithApproval ∨ routeStart s = .initEnvironment := by
    unfold routeStart
    split
    · exact .inl rfl
    · exact .inr rfl
  rcases hroute with h | h
  · rw [h, resume_evidence_iff]
    refine ⟨fun hsafe => ⟨fun _ => hsafe, fun t ht => ?_⟩, fun hsafe => hsafe.1 rfl⟩
    rcases visited_rank ht with ht | ht
    · cases ht
    · simp [rank] at ht
  · rw [h, fresh_evidence_iff]
    simp

/-- **An accepted run without evidence**: the session has no name, both checks
report a failure, and the engine accepts what it was not shown. -/
theorem batch_evidence_fails :
    (∃ d, PolicyEngine.evaluate none none [] Scripted.pack = .ok d ∧ d.decision = .accepted) ∧
    (let deps := Scripted.deps "" Scripted.checked Scripted.verified Scripted.pack
     let r := invoke deps none (makeInitialState (Scripted.request Scripted.patch))
     ReportsFailure deps r ∧ Dict.present r.state.batch = none ∧ EndsWith r .accepted) := by
  refine ⟨⟨_, rfl, by decide⟩, ?_, by decide, by decide⟩
  exact ⟨_, List.mem_of_getElem? (i := 3) rfl, _, rfl, rfl⟩

end ObligationRuntime
