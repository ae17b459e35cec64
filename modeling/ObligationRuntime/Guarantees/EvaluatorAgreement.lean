/-
  ObligationRuntime.Guarantees.EvaluatorAgreement — evaluators that read the same events.

  `handoff_legality` and `delegation_admissibility` look at claims and delegations; the
  second also compares tasks.  `state_transition_preservation` and
  `side_effect_authorization` differ in the reason they give.  The relations hold of any
  list of JSON values, whatever is left of it after normalisation.

  Main results:
    * `delegation_run` — the delegation machine is the handoff machine with one more test,
    * `delegation_accepts`, `delegation_run_sameTask` — the two over whole lists,
    * `approvedFirst_accepts_iff` — the reason does not matter to acceptance,
    * `evaluators_agree` — the guarantee.
-/
import ObligationRuntime.Policy.EventHistory
import ObligationRuntime.Policy.EventLists

namespace ObligationRuntime

open Py EarlyReturn

namespace ProtocolEvaluator

/-! ## §1. Handoff and delegation. -/

/-- Both events name a task, and not the same one. -/
def taskMismatch (claimTaskId : Json) (ev : Dict) : Prop :=
  claimTaskId ≠ .null ∧ taskId ev ≠ .null ∧ (taskId ev).pyEq claimTaskId = false

/-- The task of the latest claim. -/
def claimedTask (claimTaskId : Json) (ev : Dict) : Json :=
  if kind ev = .str "claim" then taskId ev else claimTaskId

/-- Where handoff stops, delegation stops, with the same decision. -/
theorem delegationStep_of_stop {s t : Json} {ev : Dict} {d : PolicyDecision}
    (h : handoffStep s ev = .ok (.stop d)) : delegationStep (s, t) ev = .ok (.stop d) := by
  unfold handoffStep at h
  simp only [delegationStep]
  split at h
  · cases h
  next hclaim =>
    rw [if_neg hclaim]
    split at h
    next hdelegate =>
      rw [if_pos hdelegate]
      split at h
      next hnull =>
        cases h
        rw [if_pos hnull]
      next hnull =>
        rw [if_neg hnull]
        split at h
        next howner =>
          cases h
          rw [if_pos howner]
        · cases h
    · cases h

/-- Where handoff goes on, delegation goes on too, unless the tasks differ. -/
theorem delegationStep_of_next {s s' t : Json} {ev : Dict}
    (h : handoffStep s ev = .ok (.next s')) :
    delegationStep (s, t) ev = .ok (.next (s', claimedTask t ev)) ∨
      (taskMismatch t ev ∧
        delegationStep (s, t) ev = .ok (.stop (rejected Reason.invalidStateTransition))) := by
  unfold handoffStep at h
  simp only [delegationStep, claimedTask]
  split at h
  next hclaim =>
    cases h
    rw [if_pos hclaim, if_pos hclaim]
    exact .inl rfl
  next hclaim =>
    rw [if_neg hclaim, if_neg hclaim]
    split at h
    next hdelegate =>
      rw [if_pos hdelegate]
      split at h
      · cases h
      next hnull =>
        rw [if_neg hnull]
        split at h
        · cases h
        next howner =>
          cases h
          rw [if_neg howner]
          -- Handoff has no test left; delegation still compares the tasks.
          by_cases htask : taskMismatch t ev
          · exact .inr ⟨htask, if_pos htask⟩
          · exact .inl (if_neg htask)
    next hdelegate =>
      cases h
      rw [if_neg hdelegate]
      exact .inl rfl

/-- **A run that delegation accepts, handoff accepts**, whatever the task it starts with. -/
theorem delegation_run (evs : List Dict) (s t : Json)
    (h : scan delegationStep (fun _ => accepted) (s, t) evs = .ok accepted) :
    scan handoffStep (fun _ => accepted) s evs = .ok accepted := by
  induction evs generalizing s t with
  | nil => rfl
  | cons ev evs ih =>
      obtain ⟨turn, hturn⟩ := handoffStep_total s ev
      cases turn with
      | stop d =>
          rw [scan, delegationStep_of_stop hturn] at h
          rw [scan, hturn]
          exact h
      | next s' =>
          rw [scan, hturn]
          rcases delegationStep_of_next (t := t) hturn with hnext | ⟨-, hstop⟩
          · rw [scan, hnext] at h
            exact ih s' _ h
          · -- Delegation rejected here.
            rw [scan, hstop] at h
            cases h

/-- No two of the events name different tasks. -/
def SameTask (evs : List Dict) : Prop :=
  ∀ ev ∈ evs, ∀ ev' ∈ evs,
    taskId ev = .null ∨ taskId ev' = .null ∨ (taskId ev).pyEq (taskId ev') = true

instance : DecidablePred SameTask := fun evs =>
  inferInstanceAs (Decidable (∀ ev ∈ evs, ∀ ev' ∈ evs,
    taskId ev = .null ∨ taskId ev' = .null ∨ (taskId ev).pyEq (taskId ev') = true))

/-- Over events of one task the two machines do the same.  The invariant: the claimed
task is none, or that of an event of the same list. -/
theorem delegation_run_sameTask (all evs : List Dict) (hall : SameTask all) (hsub : evs ⊆ all)
    (s t : Json) (ht : t = .null ∨ ∃ ev ∈ all, t = taskId ev) :
    scan delegationStep (fun _ => accepted) (s, t) evs =
      scan handoffStep (fun _ => accepted) s evs := by
  induction evs generalizing s t with
  | nil => rfl
  | cons ev evs ih =>
      have hev : ev ∈ all := hsub (List.mem_cons_self ..)
      have hsub' : evs ⊆ all := fun e he => hsub (List.mem_cons_of_mem _ he)
      obtain ⟨turn, hturn⟩ := handoffStep_total s ev
      cases turn with
      | stop d => rw [scan, scan, hturn, delegationStep_of_stop hturn]
      | next s' =>
          rcases delegationStep_of_next (t := t) hturn with hnext | ⟨⟨htn, hev', hne⟩, -⟩
          · rw [scan, scan, hturn, hnext]
            refine ih hsub' s' _ ?_
            unfold claimedTask
            split
            · exact .inr ⟨ev, hev, rfl⟩
            · exact ht
          · -- The claimed task is that of another event of the list.
            obtain ⟨claim, hclaim, rfl⟩ := ht.resolve_left htn
            rcases hall ev hev claim hclaim with h | h | h
            · exact absurd h hev'
            · exact absurd h htn
            · rw [hne] at h
              cases h

/-! ## §2. State transitions and side effects. -/

/-- The reason decides only what a stop says. -/
theorem approvedFirstStep_cases (s : Bool) (ev : Dict) :
    (∃ s', ∀ reason, approvedFirstStep reason s ev = .ok (.next s')) ∨
      ∀ reason, approvedFirstStep reason s ev = .ok (.stop (rejected reason)) := by
  unfold approvedFirstStep
  by_cases hexec : kind ev = .str "execute" ∨ kind ev = .str "recover"
  · cases s with
    | true => exact .inl ⟨true, fun _ => if_pos hexec⟩
    | false => exact .inr fun _ => if_pos hexec
  · simp only [if_neg hexec]
    by_cases happ : kind ev = .str "approve"
    · exact .inl ⟨true, fun _ => if_pos happ⟩
    · exact .inl ⟨s, fun _ => if_neg happ⟩

/-- **The reason does not matter to acceptance.** -/
theorem approvedFirst_accepts_iff (r r' : String) (evs : List Dict) (s : Bool) :
    scan (approvedFirstStep r) (fun _ => accepted) s evs = .ok accepted ↔
      scan (approvedFirstStep r') (fun _ => accepted) s evs = .ok accepted := by
  induction evs generalizing s with
  | nil => rfl
  | cons ev evs ih =>
      rw [scan, scan]
      rcases approvedFirstStep_cases s ev with ⟨s', hnext⟩ | hstop
      · rw [hnext, hnext]
        exact ih s'
      · rw [hstop, hstop]
        simp [accepted, rejected]

/-! ## §3. Where an evaluator rejects. -/

/-- The evaluator rejects. -/
def Rejects (r : Except PyError PolicyDecision) : Prop := ∃ d, r = .ok d ∧ d.decision = .rejected

/-- The evaluator first rejects at an event: it accepts the events before it, and rejects
them with it. -/
def RejectsAt (evaluate : List Json → Except PyError PolicyDecision) (events : List Json)
    (i : Nat) : Prop :=
  Accepts (evaluate (events.take i)) ∧ Rejects (evaluate (events.take (i + 1)))

theorem not_rejects_of_accepts {r : Except PyError PolicyDecision} (h : Accepts r) :
    ¬ Rejects r := by
  obtain ⟨d, rfl, hd⟩ := h
  intro hr
  obtain ⟨d', hd', hr⟩ := hr
  cases hd'
  rw [hd] at hr
  cases hr

/-- The classes that are compared. -/
def compared : List ObligationClass :=
  [.handoffLegality, .delegationAdmissibility, .stateTransitionPreservation,
    .sideEffectAuthorization]

/-- They accept or reject, and never raise. -/
theorem accepts_or_rejects {c : ObligationClass} (hc : c ∈ compared) (events : List Json)
    (pack : PolicyPack) :
    evaluateProtocolObligation c events pack = .ok accepted ∨
      Rejects (evaluateProtocolObligation c events pack) := by
  -- A run ends with an acceptance, or stops with a rejection.
  have run : ∀ {σ : Type} {enabled : Bool} {step : Step σ} {start : σ},
      (∀ s ev, ∃ t, step s ev = .ok t) →
      (∀ s ev d, step s ev = .ok (.stop d) → ∃ reason, d = rejected reason) →
      evaluateWith enabled step start accepted events = .ok accepted ∨
        Rejects (evaluateWith enabled step start accepted events) := by
    intro σ enabled step start htotal hstop
    obtain ⟨d, hd⟩ : ∃ d, evaluateWith enabled step start accepted events = .ok d :=
      evaluateWith_total fun ev _ s => htotal s ev
    rw [hd]
    unfold evaluateWith at hd
    split at hd
    · rcases scan_result (fun d => d = accepted ∨ ∃ reason, d = rejected reason)
        (fun _ => .inl rfl) (fun s ev d hs => .inr (hstop s ev d hs)) _ _ _ hd with
        rfl | ⟨reason, rfl⟩
      · exact .inl rfl
      · exact .inr ⟨_, rfl, rfl⟩
    · exact .inl (congrArg _ (Except.ok.inj hd).symm)
  have happroved : ∀ reason s ev d, approvedFirstStep reason s ev = .ok (.stop d) →
      ∃ reason, d = rejected reason := by
    intro reason s ev d h
    rcases approvedFirstStep_cases s ev with ⟨s', hnext⟩ | hstop
    · rw [hnext] at h
      cases h
    · rw [hstop] at h
      cases h
      exact ⟨reason, rfl⟩
  simp only [compared, List.mem_cons, List.not_mem_nil, or_false] at hc
  rcases hc with rfl | rfl | rfl | rfl
  · refine run handoffStep_total fun s ev d h => ?_
    unfold handoffStep at h
    split_ifs at h <;> cases h <;> exact ⟨_, rfl⟩
  · refine run delegationStep_total fun s ev d h => ?_
    obtain ⟨claimOwner, claimTaskId⟩ := s
    simp only [delegationStep] at h
    split_ifs at h <;> cases h <;> exact ⟨_, rfl⟩
  · exact run (approvedFirstStep_total _) (happroved _)
  · exact run (approvedFirstStep_total _) (happroved _)

theorem rejects_iff_not_accepts {c : ObligationClass} (hc : c ∈ compared) {events : List Json}
    {pack : PolicyPack} :
    Rejects (evaluateProtocolObligation c events pack) ↔
      ¬ Accepts (evaluateProtocolObligation c events pack) := by
  rcases accepts_or_rejects hc events pack with h | h
  · rw [h]
    have hacc : Accepts (.ok accepted) := ⟨accepted, rfl, rfl⟩
    exact ⟨fun hr => absurd hr (not_rejects_of_accepts hacc), fun hn => absurd hacc hn⟩
  · exact ⟨fun _ hacc => not_rejects_of_accepts hacc h, fun _ => h⟩

/-- A rejection of the first `n` events was first one at one of them. -/
theorem exists_rejectsAt {c : ObligationClass} (hc : c ∈ compared) {events : List Json}
    {pack : PolicyPack} {n : Nat}
    (h : Rejects (evaluateProtocolObligation c (events.take n) pack)) :
    ∃ i < n, RejectsAt (evaluateProtocolObligation c · pack) events i := by
  induction n with
  | zero =>
      -- No event is rejected.
      rw [List.take_zero] at h
      have hnil : evaluateProtocolObligation c [] pack = .ok accepted := by
        simp only [compared, List.mem_cons, List.not_mem_nil, or_false] at hc
        rw [evaluate_eq_machine]
        rcases hc with rfl | rfl | rfl | rfl <;> exact ite_self _
      exact absurd h (not_rejects_of_accepts ⟨accepted, hnil, rfl⟩)
  | succ n ih =>
      by_cases hacc : Accepts (evaluateProtocolObligation c (events.take n) pack)
      · exact ⟨n, n.lt_succ_self, hacc, h⟩
      · obtain ⟨i, hi, hat⟩ := ih ((rejects_iff_not_accepts hc).mpr hacc)
        exact ⟨i, by omega, hat⟩

/-- A list is rejected exactly when it is first rejected at one of its events. -/
theorem rejects_iff_rejectsAt {c : ObligationClass} (hc : c ∈ compared) {events : List Json}
    {pack : PolicyPack} :
    Rejects (evaluateProtocolObligation c events pack) ↔
      ∃ i < events.length, RejectsAt (evaluateProtocolObligation c · pack) events i := by
  constructor
  · intro h
    rw [← List.take_length (l := events)] at h
    exact exists_rejectsAt hc h
  · intro hyp
    obtain ⟨i, -, -, d, hd, hdec⟩ := hyp
    refine ⟨d, ?_, hdec⟩
    rw [← List.take_append_drop (i + 1) events]
    refine evaluate_append hd (fun hdone => ?_) _
    -- The compared classes accept at the end.
    simp only [compared, List.mem_cons, List.not_mem_nil, or_false] at hc
    rcases hc with rfl | rfl | rfl | rfl <;> subst hdone <;> cases hdec

/-! ## §4. The guarantee. -/

/-- The pack enables the classes that are compared. -/
structure ComparedOn (pack : PolicyPack) : Prop where
  handoff : pack.singleOwnerHandoff = true
  delegation : pack.delegationAdmissibility = true
  stateTransition : pack.stateTransitionPreservation = true
  sideEffect : pack.sideEffectAuthorization = true

section

variable {pack : PolicyPack} (h : ComparedOn pack) (events : List Json)
include h

theorem delegation_accepts (hacc : Accepts (evaluateDelegationAdmissibility events pack)) :
    Accepts (evaluateHandoffLegality events pack) := by
  have hok : evaluateDelegationAdmissibility events pack = .ok accepted :=
    (accepts_iff fun d hd => evaluate_answer (c := .delegationAdmissibility) hd).mp hacc
  unfold evaluateDelegationAdmissibility evaluateWith at hok
  unfold evaluateHandoffLegality evaluateWith
  rw [if_pos h.delegation] at hok
  rw [if_pos h.handoff]
  exact ⟨accepted, delegation_run _ _ _ hok, rfl⟩

theorem delegation_eq_handoff (hsame : SameTask (validateEvents events)) :
    evaluateDelegationAdmissibility events pack = evaluateHandoffLegality events pack := by
  unfold evaluateDelegationAdmissibility evaluateHandoffLegality evaluateWith
  rw [if_pos h.delegation, if_pos h.handoff]
  exact delegation_run_sameTask _ _ hsame (List.Subset.refl _) _ _ (.inl rfl)

theorem stateTransition_accepts_iff_sideEffect :
    Accepts (evaluateStateTransitionPreservation events pack) ↔
      Accepts (evaluateSideEffectAuthorization events pack) := by
  have hs : Accepts (evaluateStateTransitionPreservation events pack) ↔ _ :=
    accepts_iff fun d hd => evaluate_answer (c := .stateTransitionPreservation) hd
  have he : Accepts (evaluateSideEffectAuthorization events pack) ↔ _ :=
    accepts_iff fun d hd => evaluate_answer (c := .sideEffectAuthorization) hd
  rw [hs, he]
  unfold evaluateStateTransitionPreservation evaluateSideEffectAuthorization evaluateWith
  rw [if_pos h.stateTransition, if_pos h.sideEffect]
  exact approvedFirst_accepts_iff _ _ _ _

end

/-- **Related evaluators agree.**  What delegation accepts handoff accepts, and over events
of one task they decide alike; where handoff first rejects, delegation has rejected; and
state transitions and side effects are accepted alike, and rejected at the same event. -/
theorem evaluators_agree (pack : PolicyPack) (h : ComparedOn pack) (events : List Json) :
    (Accepts (evaluateDelegationAdmissibility events pack) →
      Accepts (evaluateHandoffLegality events pack)) ∧
    (SameTask (validateEvents events) →
      evaluateDelegationAdmissibility events pack = evaluateHandoffLegality events pack) ∧
    (∀ i, RejectsAt (evaluateHandoffLegality · pack) events i →
      ∃ j ≤ i, RejectsAt (evaluateDelegationAdmissibility · pack) events j) ∧
    (Accepts (evaluateStateTransitionPreservation events pack) ↔
      Accepts (evaluateSideEffectAuthorization events pack)) ∧
    (∀ i, RejectsAt (evaluateStateTransitionPreservation · pack) events i ↔
      RejectsAt (evaluateSideEffectAuthorization · pack) events i) := by
  refine ⟨delegation_accepts h events, delegation_eq_handoff h events, fun i hi => ?_,
    stateTransition_accepts_iff_sideEffect h events, fun i => ?_⟩
  · -- Delegation has rejected the events up to there, so it rejected at one of them.
    have hd : (.delegationAdmissibility : ObligationClass) ∈ compared := by simp [compared]
    have hh : (.handoffLegality : ObligationClass) ∈ compared := by simp [compared]
    have hrej : Rejects (evaluateProtocolObligation .delegationAdmissibility
        (events.take (i + 1)) pack) := by
      rw [rejects_iff_not_accepts hd]
      intro hacc
      exact not_rejects_of_accepts (delegation_accepts h _ hacc) hi.2
    obtain ⟨j, hj, hat⟩ := exists_rejectsAt hd hrej
    exact ⟨j, by omega, hat⟩
  · have hs : (.stateTransitionPreservation : ObligationClass) ∈ compared := by simp [compared]
    have he : (.sideEffectAuthorization : ObligationClass) ∈ compared := by simp [compared]
    have hrej : Rejects (evaluateStateTransitionPreservation (events.take (i + 1)) pack) ↔
        Rejects (evaluateSideEffectAuthorization (events.take (i + 1)) pack) := by
      have hs' : Rejects (evaluateProtocolObligation .stateTransitionPreservation
          (events.take (i + 1)) pack) ↔ _ := rejects_iff_not_accepts hs
      have he' : Rejects (evaluateProtocolObligation .sideEffectAuthorization
          (events.take (i + 1)) pack) ↔ _ := rejects_iff_not_accepts he
      exact hs'.trans ((not_congr (stateTransition_accepts_iff_sideEffect h _)).trans he'.symm)
    exact and_congr (stateTransition_accepts_iff_sideEffect h _) hrej

/-- A pack with the classes on. -/
def Scripted.comparing : PolicyPack where
  version := "1"
  name := "all"
  description := ""
  singleOwnerHandoff := true
  delegationAdmissibility := true
  stateTransitionPreservation := true
  sideEffectAuthorization := true

/-- `a` claims one task and delegates another, `b` executes before the approval, and then
delegates what `a` claimed. -/
def Scripted.disputed : List Json :=
  [event .claim "a" "t", event .delegate "a" "u", event .execute "b" "t",
    event .approve "r" "t", event .delegate "b" "t"].map Event.json

theorem evaluators_agree_scripted :
    (∃ j ≤ 4, RejectsAt (evaluateDelegationAdmissibility · Scripted.comparing)
      Scripted.disputed j) ∧
      RejectsAt (evaluateSideEffectAuthorization · Scripted.comparing) Scripted.disputed 2 ∧
      evaluateDelegationAdmissibility (Scripted.disputed.eraseIdx 1) Scripted.comparing =
        evaluateHandoffLegality (Scripted.disputed.eraseIdx 1) Scripted.comparing ∧
      evaluateHandoffLegality (Scripted.disputed.eraseIdx 1) Scripted.comparing =
        .ok (rejected Reason.ownerMismatch) := by
  have hon : ComparedOn Scripted.comparing := ⟨rfl, rfl, rfl, rfl⟩
  have hhandoff : RejectsAt (evaluateHandoffLegality · Scripted.comparing) Scripted.disputed 4 :=
    ⟨⟨accepted, rfl, rfl⟩, ⟨rejected Reason.ownerMismatch, rfl, rfl⟩⟩
  have hstate : RejectsAt (evaluateStateTransitionPreservation · Scripted.comparing)
      Scripted.disputed 2 :=
    ⟨⟨accepted, rfl, rfl⟩, ⟨rejected Reason.invalidStateTransition, rfl, rfl⟩⟩
  have hsame : SameTask (validateEvents (Scripted.disputed.eraseIdx 1)) := by decide
  obtain ⟨-, -, hearlier, -, hposition⟩ :=
    evaluators_agree Scripted.comparing hon Scripted.disputed
  exact ⟨hearlier 4 hhandoff, (hposition 2).mp hstate,
    (evaluators_agree Scripted.comparing hon (Scripted.disputed.eraseIdx 1)).2.1 hsame, rfl⟩

end ProtocolEvaluator

end ObligationRuntime
