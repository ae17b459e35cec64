/-
  ObligationRuntime.Runtime.Ends — how a run ended, read back from the state it
  left and from the nodes it went through.

  A run is fresh or resumed, never both: no edge leads to `resume_with_approval`,
  and from there no edge leads to a review.  A run that ends awaiting approval was
  interrupted, so its state holds a fingerprint and a decision of its own.

  Main results:
    * `fresh_not_resumed`, `resumed_not_reviewed` — fresh or resumed,
    * `review_policy` — the decision a run that came to its review ends with,
    * `visited_not_awaiting`, `fresh_awaiting` — when a state says that its run awaits
      approval,
    * `awaiting_interrupted` — what a run that awaits approval has left behind.
-/
import ObligationRuntime.Runtime.Runs

namespace ObligationRuntime

open Py Flow Handlers

section

variable {deps : Deps}

/-! ## §1. Fresh or resumed. -/

/-- No edge leads to `resume_with_approval`. -/
theorem edge_ne_resume {n m : Node} {s : State} (h : edge n s = .ok (some m)) :
    m ≠ .resumeWithApproval := by
  cases n with
  | interactiveCheck =>
      cases hr : routeAfterInteractive s with
      | error e => simp [edge, hr, Except.map] at h
      | ok n' =>
          obtain rfl : n' = m := by simpa [edge, hr, Except.map] using h
          rcases routeAfterInteractive_rank hr with rfl | rfl | rfl <;> decide
  | policyReview =>
      simp only [edge, routeAfterPolicy, Except.ok.injEq] at h
      split at h
      · cases h
        decide
      · split_ifs at h <;> cases h <;> decide
  | resumeWithApproval =>
      simp only [edge, routeAfterResume, Except.ok.injEq] at h
      split_ifs at h
      cases h
      decide
  -- The other edges are fixed: to a node that is named, or to none.
  | _ =>
      first
        | (cases h; decide)
        | cases h

/-- **A fresh run is never resumed.** -/
theorem fresh_not_resumed (deps : Deps) (s t : State) :
    (.resumeWithApproval, t) ∉ (run deps .initEnvironment s).visited := by
  intro ht
  rcases Graph.visited_target _ _ _ _ ht with hfirst | ⟨m, t', hnext⟩
  · simp at hfirst
  · obtain ⟨u, -, hedge, -⟩ := hop_ok hnext
    exact edge_ne_resume hedge rfl

/-- **A resumed run is never reviewed.** -/
theorem resumed_not_reviewed (deps : Deps) (s t : State) :
    (.policyReview, t) ∉ (run deps .resumeWithApproval s).visited := by
  intro ht
  rcases visited_rank ht with hfirst | hlt
  · simp at hfirst
  · simp [rank] at hlt

/-- A resumed run resumes the state it starts in. -/
theorem resumed_visited {s t : State}
    (ht : (.resumeWithApproval, t) ∈ (run deps .resumeWithApproval s).visited) : t = s := by
  rcases visited_rank ht with hfirst | hlt
  · exact (Prod.mk.inj hfirst).2
  · simp [rank] at hlt

/-- A run starts fresh or with a human decision. -/
theorem routeStart_cases (s : State) :
    routeStart s = .initEnvironment ∨ routeStart s = .resumeWithApproval := by
  unfold routeStart
  split
  · exact .inr rfl
  · exact .inl rfl

/-- A node the run went through, found by its name. -/
theorem visited_of_any {r : Run} {n : Node}
    (h : (r.visited.any fun x => decide (x.1 = n)) = true) : ∃ t, (n, t) ∈ r.visited := by
  obtain ⟨x, hx, hn⟩ := List.any_eq_true.mp h
  obtain ⟨m, t⟩ := x
  obtain rfl : m = n := by simpa using hn
  exact ⟨t, hx⟩

/-! ## §2. The decision. -/

/-- Past the review nothing writes the decision. -/
theorem settled_policy {n : Node} (hn : n = .finalize ∨ n = .interruptForApproval) (t : State) :
    (run deps n t).state.policy = t.policy := by
  cases hnext : ((graph deps).hop n t).next with
  | error e => rw [run_of_error hnext, Graph.hop_next_error hnext]
  | ok m =>
      obtain ⟨u, hu, hedge, hstate⟩ := hop_ok hnext
      have hend : m = none := by
        rcases hn with rfl | rfl
        · exact (Except.ok.inj hedge).symm
        · exact (Except.ok.inj hedge).symm
      subst hend
      rw [run_of_end hnext, hstate]
      rcases hn with rfl | rfl
      · cases handler_writes hu with
        | finalize b hb => rfl
      · cases handler_writes hu with
        | interruptForApproval => rfl

/-- **The decision a review leaves**: the one it writes, or the one it kept. -/
theorem review_policy (deps : Deps) (t : State) :
    (run deps .policyReview t).state.policy =
      match reviewDecision deps t with
      | .ok (some d) => some d
      | _ => t.policy := by
  cases hrd : reviewDecision deps t with
  | error e =>
      have hop := hop_policyReview_error hrd
      rw [run_of_error (e := e) (by rw [hop]), hop]
  | ok decision =>
      have hop := hop_policyReview hrd
      have hreviewed : (reviewed t decision).policy =
          match decision with
          | some d => some d
          | none => t.policy := by
        cases decision <;> simp [reviewed, State.policy]
      -- What comes after the review writes no decision.
      have hwhere : (run deps .policyReview t).state.policy = (reviewed t decision).policy := by
        cases hroute : routeAfterPolicy (reviewed t decision) with
        | none => rw [run_of_end (by rw [hop, hroute]), hop]
        | some n =>
            have hn : n = .finalize ∨ n = .interruptForApproval := by
              unfold routeAfterPolicy at hroute
              split at hroute
              · exact .inl (Option.some.inj hroute).symm
              · split_ifs at hroute
                · exact .inl (Option.some.inj hroute).symm
                · exact .inr (Option.some.inj hroute).symm
            rw [run_of_next (m := n) (by rw [hop, hroute]), hop]
            exact settled_policy hn _
      rw [hwhere, hreviewed]
      cases decision <;> rfl

/-! ## §3. The bundle of a recorded state. -/

/-- A fingerprint and a decision in the state make a bundle about them. -/
theorem bundleOf_recorded (deps : Deps) {t : State} {fp : EnvironmentFingerprint}
    {d : PolicyDecision}
    (henv : t.environmentFingerprint = some (.obj fp.dump)) (hpol : t.policy = some d.dump) :
    ∃ b, bundleOf deps t = .ok b ∧ b.obligationId = t.obligationId.getD "" ∧
      b.environmentFingerprint = fp ∧ b.policy = d ∧ b.approval = t.approval.dict?.getD [] := by
  have hd : policyOf (t.policy.getD []) = d := by
    simp [policyOf, hpol]
  exact ⟨_, bundleOf_fingerprint deps henv, rfl, rfl, hd, rfl⟩

/-! ## §4. Awaiting approval. -/

/-- What an interrupted run leaves behind. -/
structure Interrupted (s : State) (fp : EnvironmentFingerprint) (d : PolicyDecision) : Prop where
  status : s.status = some .awaitingApproval
  required : s.approvalRequired = some true
  fingerprint : s.environmentFingerprint = some (.obj fp.dump)
  policy : s.policy = some d.dump
  needsReview : d.decision = .needsReview

/-- Only the interrupt writes that the run awaits approval, and it is the last node. -/
theorem edge_not_awaiting {n m : Node} {s : State} {u : Update} (hw : Writes deps s n u)
    (hedge : edge n (s.merge u) = .ok (some m)) : u.status ≠ some .awaitingApproval := by
  intro hu
  cases hw with
  | interruptForApproval => cases hedge
  | resumeWithApproval =>
      simp only [Option.some.injEq] at hu
      split at hu <;> cases hu
  | _ => cases hu

/-- **No node of a fresh run reads that it awaits approval.** -/
theorem visited_not_awaiting {s t : State} {n m : Node}
    (hs : s.status ≠ some .awaitingApproval) (ht : (m, t) ∈ (run deps n s).visited) :
    t.status ≠ some .awaitingApproval := by
  refine Graph.visited_invariant (fun t => t.status ≠ some .awaitingApproval) ?_ _ n s hs _ ht
  intro m t m' hnext ht
  obtain ⟨u, hu, hedge, hstate⟩ := hop_ok hnext
  rw [hstate, State.merge_status]
  -- A hop that goes on has not written it.
  have hnew := edge_not_awaiting (handler_writes hu) hedge
  cases hus : u.status with
  | none => simpa [hus] using ht
  | some status => simpa [hus] using hnew

/-- A run that raised left a state one of its nodes read. -/
theorem visited_of_error {s : State} {n : Node} {e : PyError}
    (h : (run deps n s).error = some e) :
    ∃ m, (m, (run deps n s).state) ∈ (run deps n s).visited := by
  obtain ⟨x, hx, hstate, ⟨e', hraise, -⟩ | ⟨-, hnone⟩⟩ :=
    Graph.runFrom_last (rank_falls deps) (rank n + 1) n s (Nat.lt_succ_self _)
  · refine ⟨x.1, ?_⟩
    have hkept : (run deps n s).state = x.2 := hstate.trans (Graph.hop_next_error hraise)
    rw [hkept]
    exact hx
  · have hcontra : (run deps n s).error = none := hnone
    rw [h] at hcontra
    cases hcontra

/-- A fresh run whose state says that it awaits approval did not raise. -/
theorem fresh_awaiting {s : State} {n : Node} (hs : s.status ≠ some .awaitingApproval)
    (h : (run deps n s).state.status = some .awaitingApproval) :
    EndsWith (run deps n s) .awaitingApproval := by
  refine ⟨?_, h⟩
  cases herr : (run deps n s).error with
  | none => rfl
  | some e =>
      obtain ⟨m, hm⟩ := visited_of_error herr
      exact absurd h (visited_not_awaiting hs hm)

/-- A resumed run never ends awaiting approval. -/
theorem resumed_not_awaiting (deps : Deps) (t : State) :
    ¬ EndsWith (run deps .resumeWithApproval t) .awaitingApproval := by
  intro h
  obtain ⟨herr, hst⟩ := h
  by_cases happroval : t.approval = .str "approved"
  · have hcont := run_resume_approved deps happroval
    rw [hcont.error] at herr
    rw [hcont.state] at hst
    cases hb : bundleOf deps (resumed t) with
    | error e => simp [run_finalize_error hb] at herr
    | ok b => simp [run_finalize hb] at hst
  · rw [run_resume_rejected happroval] at hst
    simp at hst

/-- **A run that ends awaiting approval was interrupted.** -/
theorem awaiting_interrupted {checkpoint : Option State} {input : State}
    (h : EndsWith (invoke deps checkpoint input) .awaitingApproval) :
    ∃ fp d, Interrupted (invoke deps checkpoint input).state fp d := by
  rw [invoke_eq_run] at h ⊢
  rcases routeStart_cases (startState checkpoint input) with hroute | hroute
  · rw [hroute] at h ⊢
    rcases reach_review deps (startState checkpoint input) with hun | ⟨l, found, -, -, hcont⟩
    · exact absurd h hun.notAwaiting
    · rw [EndsWith, hcont.state, hcont.error] at h
      rw [hcont.state]
      -- Of the ways a review can go on, only the interrupt leaves this status.
      cases run_policyReview deps (l.atReview (startState checkpoint input) found) with
      | raised e error calls => simp [error] at h
      | refused decision decides refuses state error calls => simp [state, reviewed] at h
      | accepted d b finds accepts bundle state error calls => simp [state] at h
      | interrupted d summary finds reviews summarised state error calls =>
          refine ⟨l.opened.fingerprint, d, ?_, ?_, ?_, ?_, reviews⟩
          · rw [state]
            rfl
          · rw [state]
            rfl
          · rw [state]
            exact l.atReview_fingerprint _ found
          · rw [state]
            rfl
  · rw [hroute] at h
    exact absurd h (resumed_not_awaiting deps _)

end

end ObligationRuntime
