/-
  ObligationRuntime.Guarantees.ReviewerGate — the approval token of a
  reviewer-gated pack.

  `policy_review` checks that the token is one of the two words `approved` and
  `rejected`, not which; `route_start` looks at the token only where approval is
  required.  So a run that starts with the token `rejected`, and is not a resume,
  passes the gate like an approved one, and its evidence decides.

  Main results:
    * `gated_token` — the token of an accepted run is one of the two words,
    * `reviewer_gate_iff` — acceptance needs approval exactly when no review with
      the token `rejected` lets the run through,
    * `reviewer_gate_fails` — a rejected run that is accepted.
-/
import ObligationRuntime.Runtime.Runs

namespace ObligationRuntime

open Py Flow Handlers

section

variable {deps : Deps}

/-- A token that is not missing is one of the two words. -/
theorem tokenMissing_eq_false {t : State} :
    tokenMissing t = false ↔ t.approval = .str "approved" ∨ t.approval = .str "rejected" := by
  simp [tokenMissing, ← or_iff_not_imp_left]

/-- A resumed run that is accepted was approved, and stays so. -/
theorem resume_accepted_approved {s : State}
    (h : EndsWith (run deps .resumeWithApproval s) .accepted) :
    (run deps .resumeWithApproval s).state.approval = .str "approved" := by
  rw [run_approval]
  by_contra ha
  rw [run_resume_rejected ha] at h
  simp [EndsWith] at h

/-- A run is reviewed with the token it started with. -/
theorem review_token {n : Node} {s t : State}
    (ht : (.policyReview, t) ∈ (run deps n s).visited) : t.approval = s.approval := by
  have h := congrArg State.approval ((run_inputs deps n s).2 _ ht)
  exact h

/-- The token of a run that a gated pack lets through is one of the two words. -/
theorem gated_token {n : Node} {s t : State}
    (hgate : (loadPackForReview deps s).reviewerGatedExecution = true)
    (ht : (.policyReview, t) ∈ (run deps n s).visited) (hlet : LetThrough deps t) :
    t.approval = .str "approved" ∨ t.approval = .str "rejected" := by
  -- The pack of the review is the pack of the start: its name is an input.
  have hpack : loadPackForReview deps t = loadPackForReview deps s := by
    have h := congrArg (loadPackForReview deps) ((run_inputs deps n s).2 _ ht)
    exact h
  exact tokenMissing_eq_false.mp (hlet.token (hpack ▸ hgate))

/-- **The reviewer gate, as it is.**  Under a gated pack, that an accepted run was
approved means exactly that no review of the run finds the token `rejected`, no
refusal and passing evidence. -/
theorem reviewer_gate_iff (checkpoint : Option State) (input : State)
    (hgate : (loadPackForReview deps
      (startState checkpoint input)).reviewerGatedExecution = true) :
    let r := invoke deps checkpoint input
    (EndsWith r .accepted → r.state.approval = .str "approved") ↔
      ∀ t, (.policyReview, t) ∈ r.visited → t.approval = .str "rejected" →
        alreadyRefused t = false → ¬ EvidencePasses deps t := by
  intro r
  have hr : r = run deps (routeStart (startState checkpoint input))
    (startState checkpoint input) := invoke_eq_run _ _
  generalize startState checkpoint input = s at hgate hr
  unfold routeStart at hr
  split at hr
  · -- A resumed run reviews nothing.
    rw [hr]
    refine ⟨fun _ t ht => ?_, fun _ h => resume_accepted_approved h⟩
    rcases visited_rank ht with h | h
    · cases h
    · simp [rank] at h
  · rw [hr]
    constructor
    · intro happroved t ht hrej href hev
      -- The gate asks for one of the two words, and `rejected` is one.
      have hlet : LetThrough deps t := ⟨href, fun _ => tokenMissing_eq_false.mpr (.inr hrej), hev⟩
      have hacc := fresh_accepted_iff.mpr ⟨t, ht, hlet⟩
      have htoken := happroved hacc
      rw [run_approval, ← review_token ht, hrej] at htoken
      exact absurd htoken (by decide)
    · intro hnone hacc
      obtain ⟨t, ht, hlet⟩ := fresh_accepted_iff.mp hacc
      rw [run_approval, ← review_token ht]
      -- One of the two words, and not the second.
      rcases gated_token hgate ht hlet with h | h
      · exact h
      · exact absurd hlet.evidence (hnone t ht h hlet.notRefused)

/-- An initial state that already carries a token. -/
def tokenInput (token : String) : State :=
  makeInitialState (Scripted.request Scripted.patch) { approvalDecision := some (.str token) }

/-- The scripted gateway, under a gated pack. -/
def gatedDeps : Deps :=
  Scripted.deps "s1" Scripted.checked Scripted.verified
    { Scripted.pack with reviewerGatedExecution := true }

/-- A run whose token is an approval: no review finds another one. -/
theorem reviewer_gate_approved :
    let r := invoke gatedDeps none (tokenInput "approved")
    EndsWith r .accepted ∧ r.state.approval = .str "approved" := by
  intro r
  have hacc : EndsWith r .accepted := by decide
  have hstart : routeStart (startState none (tokenInput "approved")) = .initEnvironment := by
    decide
  refine ⟨hacc, (reviewer_gate_iff none (tokenInput "approved") (by decide)).mpr ?_ hacc⟩
  intro t ht hrej
  rw [invoke_eq_run, hstart] at ht
  have htoken := review_token ht
  rw [hrej] at htoken
  exact absurd htoken (by decide)

/-- **A rejected run that is accepted**: the gated pack loads, the token is
`rejected`, the evidence is clean. -/
theorem reviewer_gate_fails :
    let r := invoke gatedDeps none (tokenInput "rejected")
    (loadPackForReview gatedDeps
        (startState none (tokenInput "rejected"))).reviewerGatedExecution = true ∧
      EndsWith r .accepted ∧ r.state.approval = .str "rejected" := by
  decide

end

end ObligationRuntime
