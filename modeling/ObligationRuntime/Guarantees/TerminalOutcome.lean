/-
  ObligationRuntime.Guarantees.TerminalOutcome — the status and the bundle a run
  ends with, against the decision it ended with.

  Only `finalize` appends a bundle, and it writes the status `accepted`.  A run that
  the policy rejects or blocks ends after `policy_review`, with that node's status
  and without a bundle; a human rejection ends after `resume_with_approval`, without
  a bundle; and the bundle of a human approval has no room for a token that is text.

  Main results:
    * `fresh_outcome_iff`, `resumed_outcome` — the two kinds of run,
    * `terminal_outcome_iff` — the decisions that are documented as they should be.
-/
import ObligationRuntime.Guarantees.ResumeSafety
import ObligationRuntime.Runtime.Ends

namespace ObligationRuntime

open Py Flow Handlers

/-! ## §1. Decisions and what should follow from them. -/

/-- A terminal decision: the policy's, or a human's. -/
inductive Verdict where
  | policy (d : Decision)
  | human (a : Approval)
  deriving DecidableEq, Repr

/-- The decision is to accept. -/
def Verdict.accepts : Verdict → Bool
  | .policy d => d = .accepted
  | .human a => a = .approved

/-- The run came to an end with this decision. -/
def Decided (r : Run) : Verdict → Prop
  | .policy d =>
      r.error = none ∧ (∃ t, (.policyReview, t) ∈ r.visited) ∧
        (d = .accepted ∨ d = .rejected ∨ d = .blocked) ∧
        r.state.policy.bind (Dict.get? · "decision") = some (.str d.text)
  | .human a =>
      r.error = none ∧ ∃ t, (.resumeWithApproval, t) ∈ r.visited ∧ t.approval = .str a.text

/-- The bundle carries the decision. -/
def WitnessBundle.CarriesVerdict (b : WitnessBundle) : Verdict → Prop
  | .policy d => b.policy.decision = d
  | .human a => ∃ kv ∈ b.approval, kv.2 = .str a.text

/-- **Terminal outcome**: the status is that of the decision, and the run appended
exactly one bundle, which carries it. -/
structure TerminalOutcome (before : List Json) (r : Run) (v : Verdict) : Prop where
  accepted : r.state.status = some .accepted ↔ v.accepts = true
  refused : v.accepts = false →
    r.state.status = some .rejected ∨ r.state.status = some .failed
  bundle : ∃ b, r.state.artifacts = some (before ++ [bundleArtifact b]) ∧ b.CarriesVerdict v

/-- No terminal outcome has the status of a review. -/
theorem TerminalOutcome.not_auditing {before : List Json} {r : Run} {v : Verdict}
    (h : TerminalOutcome before r v) : r.state.status ≠ some .auditing := by
  intro hstatus
  cases haccepts : v.accepts with
  | true =>
      have hacc := h.accepted.mpr haccepts
      rw [hstatus] at hacc
      cases hacc
  | false =>
      rcases h.refused haccepts with hr | hr
      · rw [hstatus] at hr
        cases hr
      · rw [hstatus] at hr
        cases hr

section

variable {deps : Deps} {s : State}

/-! ## §2. A fresh run. -/

/-- The decision text of a state whose decision is a dump. -/
theorem dumped_decision {t : State} {d : PolicyDecision} {c : Decision}
    (hpol : t.policy = some d.dump)
    (h : t.policy.bind (Dict.get? · "decision") = some (.str c.text)) : d.decision = c := by
  rw [hpol, Option.bind_some, PolicyDecision.dump_get_decision] at h
  exact Decision.text_injective (Json.str.inj (Option.some.inj h))

/-- **A fresh run has the outcome of its decision** exactly when it ends accepted. -/
theorem fresh_outcome_iff {v : Verdict} (h : Decided (run deps .initEnvironment s) v) :
    TerminalOutcome (s.artifacts.getD []) (run deps .initEnvironment s) v ↔
      EndsWith (run deps .initEnvironment s) .accepted := by
  cases v with
  | human a =>
      obtain ⟨-, t, ht, -⟩ := h
      exact absurd ht (fresh_not_resumed deps s t)
  | policy c =>
      obtain ⟨herr, ⟨t, ht⟩, hterminal, htext⟩ := h
      rcases reach_review deps s with hun | ⟨l, found, -, -, hcont⟩
      · exact absurd rfl (hun.visited _ ht)
      · rw [hcont.error] at herr
        rw [hcont.state] at htext
        cases run_policyReview deps (l.atReview s found) with
        | raised e error calls => simp [error] at herr
        | refused decision decides refuses state error calls =>
            -- The status stays the review's: neither accepted nor rejected.
            have hstatus : (run deps .initEnvironment s).state.status = some .auditing := by
              rw [hcont.state, state]
              rfl
            constructor
            · intro hout
              exact absurd hstatus hout.not_auditing
            · intro hacc
              have hend := hacc.2
              rw [hstatus] at hend
              cases hend
        | interrupted d summary finds reviews summarised state error calls =>
            rw [state] at htext
            have hc : d.decision = c := dumped_decision rfl htext
            rw [reviews] at hc
            subst hc
            simp at hterminal
        | accepted d b finds accepts bundle state error calls =>
            have hstatus : (run deps .initEnvironment s).state.status = some .accepted := by
              rw [hcont.state, state]
              rfl
            rw [state] at htext
            have hc : d.decision = c := dumped_decision rfl htext
            rw [accepts] at hc
            subst hc
            refine ⟨fun _ => ⟨hcont.error.trans error, hstatus⟩, fun _ => ⟨?_, ?_, b, ?_, ?_⟩⟩
            · exact ⟨fun _ => rfl, fun _ => hstatus⟩
            · intro hno
              cases hno
            · rw [hcont.state, state]
              simp
            · obtain ⟨b', hb', -, -, hd, -⟩ :=
                bundleOf_recorded deps (t := reviewed (l.atReview s found) (some d.dump))
                  (l.atReview_fingerprint s found) (d := d) rfl
              rw [bundle, Except.ok.injEq] at hb'
              show b.policy.decision = .accepted
              rw [hb', hd, accepts]

/-! ## §3. A resumed run. -/

/-- Equal artifacts have equal approvals. -/
theorem bundleArtifact_approval {b b' : WitnessBundle}
    (h : bundleArtifact b = bundleArtifact b') : b.approval = b'.approval := by
  simp only [bundleArtifact, WitnessBundle.dump, Json.obj.injEq, List.cons.injEq, Prod.mk.injEq,
    and_true, true_and] at h
  have := congrArg (Dict.get? · "approval") h
  simpa [VersionedRecord.dump] using this

/-- **No resumed run has the outcome of its decision**: a rejection appends no
bundle, and an approval one that does not say who approved. -/
theorem resumed_outcome {v : Verdict} (h : Decided (run deps .resumeWithApproval s) v) :
    ¬ TerminalOutcome (s.artifacts.getD []) (run deps .resumeWithApproval s) v := by
  intro hout
  cases v with
  | policy c =>
      obtain ⟨-, ⟨t, ht⟩, -⟩ := h
      exact resumed_not_reviewed deps s t ht
  | human a =>
      obtain ⟨herr, t, ht, happroval⟩ := h
      obtain rfl := resumed_visited ht
      obtain ⟨b, hart, hcarries⟩ := hout.bundle
      cases a with
      | rejected =>
          have hne : t.approval ≠ .str "approved" := by
            rw [happroval]
            decide
          rw [run_resume_rejected hne] at hart
          have hlen := congrArg (fun as => (as.getD []).length) hart
          simp at hlen
      | approved =>
          have hcont := run_resume_approved deps happroval
          cases hb : bundleOf deps (resumed t) with
          | error e =>
              rw [run_finalize_error hb] at hcont
              rw [hcont.error] at herr
              cases herr
          | ok b' =>
              rw [run_finalize hb] at hcont
              rw [hcont.state] at hart
              have hlast : bundleArtifact b' = bundleArtifact b := by
                simpa [resumed] using hart
              -- The token of a resume is a string, and only a mapping is kept.
              have hnone : b'.approval = [] := by
                rw [bundleOf_resumed] at hb
                obtain ⟨fp, -, hb⟩ := bind_eq_ok_iff.mp hb
                cases hb
                simp [happroval, Json.dict?]
              obtain ⟨kv, hkv, -⟩ := hcarries
              rw [← bundleArtifact_approval hlast, hnone] at hkv
              cases hkv

end

/-! ## §4. Every run. -/

/-- **The terminal decisions with the outcome they should have**: in every run that
ends with one, exactly those of a review that lets the run through. -/
theorem terminal_outcome_iff (deps : Deps) (checkpoint : Option State) (input : State)
    (v : Verdict) (h : Decided (invoke deps checkpoint input) v) :
    TerminalOutcome ((startState checkpoint input).artifacts.getD [])
        (invoke deps checkpoint input) v ↔
      ∃ t, (.policyReview, t) ∈ (invoke deps checkpoint input).visited ∧ LetThrough deps t := by
  rw [invoke_eq_run] at h ⊢
  rcases routeStart_cases (startState checkpoint input) with hroute | hroute
  · rw [hroute] at h ⊢
    rw [fresh_outcome_iff h, fresh_accepted_iff]
  · rw [hroute] at h ⊢
    constructor
    · exact fun hout => absurd hout (resumed_outcome h)
    · intro hlet
      obtain ⟨t, ht, -⟩ := hlet
      exact absurd ht (resumed_not_reviewed deps _ t)

/-- The decision of a run without findings, and the outcome it has. -/
theorem terminal_outcome_accepted :
    let deps := Scripted.deps "s1" Scripted.checked Scripted.verified Scripted.pack
    let input := makeInitialState (Scripted.request Scripted.patch)
    Decided (invoke deps none input) (.policy .accepted) ∧
      (TerminalOutcome [] (invoke deps none input) (.policy .accepted) ↔
        ∃ t, (.policyReview, t) ∈ (invoke deps none input).visited ∧ LetThrough deps t) := by
  intro deps input
  have h : Decided (invoke deps none input) (.policy .accepted) :=
    ⟨by decide, visited_of_any (by decide), .inl rfl, by decide⟩
  exact ⟨h, terminal_outcome_iff deps none input (.policy .accepted) h⟩

/-- **A rejected run without a status and without a bundle**: the build fails, the
policy rejects, and the run ends auditing. -/
theorem terminal_outcome_fails :
    let r := invoke Scripted.failingDeps none (makeInitialState (Scripted.request Scripted.patch))
    Decided r (.policy .rejected) ∧ r.state.status = some .auditing ∧
      r.state.artifacts = some [] ∧ ¬ TerminalOutcome [] r (.policy .rejected) := by
  intro r
  have hstatus : r.state.status = some .auditing := by decide
  refine ⟨⟨by decide, visited_of_any (by decide), .inr (.inl rfl), by decide⟩,
    hstatus, by decide, fun hout => ?_⟩
  rcases hout.refused rfl with h | h
  · rw [hstatus] at h
    cases h
  · rw [hstatus] at h
    cases h

end ObligationRuntime
