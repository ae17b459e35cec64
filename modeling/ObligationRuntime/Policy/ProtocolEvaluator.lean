/-
  ObligationRuntime.Policy.ProtocolEvaluator — protocol_evaluator.py of
  `lean_langchain_policy`: eight obligation classes over a list of events.

  Events are whatever a caller loaded from JSON; `validateEvents` keeps the
  non-empty mappings and makes `actor` and `task` mappings.  Each evaluator is a
  loop over what is left (`EarlyReturn.scan`) with its own state, and each
  returns at once when the pack does not enable its class.

  Two evaluators can raise: the artifact one hashes `kind`, the evidence one
  calls `.get` on the payload of an `execute` event.

  Main results:
    * `evaluate_total` — on well-typed events no evaluator raises,
    * `evaluate_answer` — accepted, rejected or blocked are the only answers.
-/
import ObligationRuntime.Lib.EarlyReturn
import ObligationRuntime.Policy.Models

namespace ObligationRuntime

open Py EarlyReturn

namespace ProtocolEvaluator

/-! ## §1. Events. -/

/-- `v` if it is a mapping, else `{}`. -/
def mappingOr : Json → Json
  | .obj d => .obj d
  | _ => .obj []

/-- `{**d, "actor": actor, "task": task}`. -/
def normalizeEvent (d : Dict) : Dict :=
  (d.set "actor" (mappingOr (d.getD "actor" .null))).set "task"
    (mappingOr (d.getD "task" .null))

/-- `_validate_events`. -/
def validateEvents (events : List Json) : List Dict :=
  events.filterMap fun
    -- An empty mapping is falsy, and is dropped like a value of another type.
    | .obj [] => none
    | .obj d => some (normalizeEvent d)
    | _ => none

/-- `ev.get("kind")`. -/
def kind (ev : Dict) : Json := ev.getD "kind" .null

/-- `(ev.get(key) or {}).get(field)`, and `None` where that is no mapping. -/
def ref (ev : Dict) (key field : String) : Json :=
  match ev.getD key .null with
  | .obj d => Dict.getD d field .null
  | _ => .null

/-- `agent_id`. -/
def agentId (ev : Dict) : Json := ref ev "actor" "agent_id"

/-- `task_id`. -/
def taskId (ev : Dict) : Json := ref ev "task" "task_id"

/-- `ev.get("payload") or {}`. -/
def payload (ev : Dict) : Json := (ev.getD "payload" .null).orElse (.obj [])

/-- Can the value be an element of a set? -/
def hashable : Json → Bool
  | .arr _ => false
  | .obj _ => false
  | _ => true

/-! ## §2. Decisions. -/

/-- An accepted class. -/
def accepted : PolicyDecision := { decision := .accepted, trustLevel := .clean }

/-- A rejected class. -/
def rejected (reason : String) : PolicyDecision :=
  { decision := .rejected, trustLevel := .blocked, reasons := [reason] }

/-- A blocked class. -/
def blocked (reason : String) : PolicyDecision :=
  { decision := .blocked, trustLevel := .blocked, reasons := [reason] }

/-- One turn of an evaluator. -/
abbrev Step (σ : Type) := σ → Dict → Except PyError (Turn σ PolicyDecision)

/-- Run an evaluator, if the pack enables its class. -/
def evaluateWith {σ : Type} (enabled : Bool) (step : Step σ) (start : σ)
    (done : PolicyDecision) (events : List Json) : Except PyError PolicyDecision :=
  if enabled then scan step (fun _ => done) start (validateEvents events) else .ok accepted

/-! ## §3. The evaluators. -/

/-- `evaluate_handoff_legality`; the state is `claim_owner`. -/
def handoffStep : Step Json := fun claimOwner ev =>
  if kind ev = .str "claim" then .ok (.next (agentId ev))
  else if kind ev = .str "delegate" then
    -- A claim without an agent counts as no claim.
    if claimOwner = .null then .ok (.stop (rejected Reason.delegateWithoutPriorClaim))
    else if (agentId ev).pyEq claimOwner = false then .ok (.stop (rejected Reason.ownerMismatch))
    else .ok (.next claimOwner)
  else .ok (.next claimOwner)

/-- `evaluate_handoff_legality`. -/
def evaluateHandoffLegality (events : List Json) (pack : PolicyPack) :=
  evaluateWith pack.singleOwnerHandoff handoffStep .null accepted events

/-- `evaluate_reviewer_gated`. -/
def reviewerStep : Step Unit := fun _ ev =>
  if kind ev = .str "approve" then .ok (.stop accepted) else .ok (.next ())

/-- `evaluate_reviewer_gated`. -/
def evaluateReviewerGated (events : List Json) (pack : PolicyPack) :=
  evaluateWith pack.reviewerGatedExecution reviewerStep () (blocked Reason.missingApprovalToken)
    events

/-- `evaluate_delegation_admissibility`; the state is `(claim_owner,
claim_task_id)`. -/
def delegationStep : Step (Json × Json) := fun (claimOwner, claimTaskId) ev =>
  if kind ev = .str "claim" then .ok (.next (agentId ev, taskId ev))
  else if kind ev = .str "delegate" then
    if claimOwner = .null then .ok (.stop (rejected Reason.delegateWithoutPriorClaim))
    else if (agentId ev).pyEq claimOwner = false then .ok (.stop (rejected Reason.ownerMismatch))
    -- Task ids are compared only where both events have one.
    else if claimTaskId ≠ .null ∧ taskId ev ≠ .null ∧ (taskId ev).pyEq claimTaskId = false then
      .ok (.stop (rejected Reason.invalidStateTransition))
    else .ok (.next (claimOwner, claimTaskId))
  else .ok (.next (claimOwner, claimTaskId))

/-- `evaluate_delegation_admissibility`. -/
def evaluateDelegationAdmissibility (events : List Json) (pack : PolicyPack) :=
  evaluateWith pack.delegationAdmissibility delegationStep (.null, .null) accepted events

/-- Execute and recover only after an approve: the state is `seen_approve`. -/
def approvedFirstStep (reason : String) : Step Bool := fun seenApprove ev =>
  if kind ev = .str "execute" ∨ kind ev = .str "recover" then
    if seenApprove then .ok (.next seenApprove) else .ok (.stop (rejected reason))
  else if kind ev = .str "approve" then .ok (.next true)
  else .ok (.next seenApprove)

/-- `evaluate_state_transition_preservation`. -/
def evaluateStateTransitionPreservation (events : List Json) (pack : PolicyPack) :=
  evaluateWith pack.stateTransitionPreservation (approvedFirstStep Reason.invalidStateTransition)
    false accepted events

/-- `evaluate_artifact_admissibility`: `kind not in {"approve", "execute"}` needs
a hashable `kind`. -/
def artifactStep : Step Unit := fun _ ev =>
  let hasArtifact :=
    match payload ev with
    | .obj d => (Dict.getD d "artifacts" .null).truthy
    | _ => false
  if hasArtifact then
    if hashable (kind ev) then
      if kind ev = .str "approve" ∨ kind ev = .str "execute" then .ok (.next ())
      else .ok (.stop (rejected Reason.artifactNotAdmissible))
    else .error (.typeError "unhashable type")
  else .ok (.next ())

/-- `evaluate_artifact_admissibility`. -/
def evaluateArtifactAdmissibility (events : List Json) (pack : PolicyPack) :=
  evaluateWith pack.artifactAdmissibility artifactStep () accepted events

/-- `evaluate_side_effect_authorization`. -/
def evaluateSideEffectAuthorization (events : List Json) (pack : PolicyPack) :=
  evaluateWith pack.sideEffectAuthorization (approvedFirstStep Reason.sideEffectUnauthorized)
    false accepted events

/-- `evaluate_evidence_complete_execution_token`: the payload of an `execute`
event is read without a look at its type. -/
def evidenceStep : Step Unit := fun _ ev =>
  match payload ev with
  | .obj d =>
      if Dict.getD d "evidence_complete" .null = .bool true then .ok (.stop accepted)
      else .ok (.next ())
  | _ =>
      if kind ev = .str "execute" then .error (.attributeError "get") else .ok (.next ())

/-- `evaluate_evidence_complete_execution_token`. -/
def evaluateEvidenceCompleteExecutionToken (events : List Json) (pack : PolicyPack) :=
  evaluateWith pack.evidenceCompleteExecutionToken evidenceStep ()
    (blocked Reason.evidenceIncomplete) events

/-- `evaluate_lock_ownership_invariant`; the state is `current_holder`. -/
def lockStep : Step Json := fun currentHolder ev =>
  if kind ev = .str "lock" then
    -- The holder may lock again; only another agent conflicts.
    if currentHolder ≠ .null ∧ currentHolder.pyEq (agentId ev) = false then
      .ok (.stop (rejected Reason.lockConflict))
    else .ok (.next (agentId ev))
  else if kind ev = .str "release" then
    if currentHolder = .null then .ok (.stop (rejected Reason.releaseWithoutLock))
    else if (agentId ev).pyEq currentHolder = false then .ok (.stop (rejected Reason.lockConflict))
    else .ok (.next .null)
  else .ok (.next currentHolder)

/-- `evaluate_lock_ownership_invariant`. -/
def evaluateLockOwnershipInvariant (events : List Json) (pack : PolicyPack) :=
  evaluateWith pack.lockOwnershipInvariant lockStep .null accepted events

/-- The obligation classes with an evaluator. -/
inductive ObligationClass where
  | handoffLegality
  | reviewerGated
  | lockOwnershipInvariant
  | delegationAdmissibility
  | stateTransitionPreservation
  | artifactAdmissibility
  | sideEffectAuthorization
  | evidenceCompleteExecutionToken
  deriving DecidableEq, Repr

/-- `evaluate_protocol_obligation`, on the classes it knows. -/
def evaluateProtocolObligation :
    ObligationClass → List Json → PolicyPack → Except PyError PolicyDecision
  | .handoffLegality => evaluateHandoffLegality
  | .reviewerGated => evaluateReviewerGated
  | .lockOwnershipInvariant => evaluateLockOwnershipInvariant
  | .delegationAdmissibility => evaluateDelegationAdmissibility
  | .stateTransitionPreservation => evaluateStateTransitionPreservation
  | .artifactAdmissibility => evaluateArtifactAdmissibility
  | .sideEffectAuthorization => evaluateSideEffectAuthorization
  | .evidenceCompleteExecutionToken => evaluateEvidenceCompleteExecutionToken

/-! ## §4. Well-typed events never raise. -/

/-- An event whose kind is text and whose payload, if any, is a mapping. -/
def WellTyped (ev : Json) : Prop :=
  ∃ d k, ev = .obj d ∧ Dict.get? d "kind" = some (.str k) ∧
    (Dict.get? d "payload" = none ∨ ∃ p, Dict.get? d "payload" = some (.obj p))

/-- Normalisation writes two keys and leaves the others. -/
theorem normalizeEvent_get? (d : Dict) {key : String} (ha : "actor" ≠ key) (ht : "task" ≠ key) :
    Dict.get? (normalizeEvent d) key = Dict.get? d key := by
  rw [normalizeEvent, Dict.get?_set_ne _ ht, Dict.get?_set_ne _ ha]

/-- What normalisation leaves of a well-typed event. -/
theorem validateEvents_wellTyped {events : List Json} (h : ∀ ev ∈ events, WellTyped ev) {ev : Dict}
    (hev : ev ∈ validateEvents events) :
    (∃ k, kind ev = .str k) ∧ ∃ p, payload ev = .obj p := by
  obtain ⟨v, hv, he⟩ := List.mem_filterMap.mp hev
  obtain ⟨d, k, rfl, hk, hp⟩ := h v hv
  -- An event with a kind is not empty, so it was not dropped.
  have hne : ev = normalizeEvent d := by
    cases d with
    | nil => simp at hk
    | cons kv d => exact (Option.some.inj he).symm
  subst hne
  refine ⟨⟨k, ?_⟩, ?_⟩
  · rw [kind, Dict.getD, normalizeEvent_get? d (by decide) (by decide), hk]
    rfl
  · rw [payload, Dict.getD, normalizeEvent_get? d (by decide) (by decide)]
    rcases hp with hp | ⟨p, hp⟩
    · exact ⟨[], by simp [hp, Json.orElse]⟩
    -- An empty payload is falsy, and is replaced by an empty one.
    · cases p with
      | nil => exact ⟨[], by simp [hp, Json.orElse]⟩
      | cons kv p => exact ⟨kv :: p, by simp [hp, Json.orElse]⟩

/-- An evaluator whose turns do not raise does not raise. -/
theorem evaluateWith_total {σ : Type} {enabled : Bool} {step : Step σ} {start : σ}
    {done : PolicyDecision} {events : List Json}
    (h : ∀ ev ∈ validateEvents events, ∀ s, ∃ t, step s ev = .ok t) :
    ∃ d, evaluateWith enabled step start done events = .ok d := by
  unfold evaluateWith
  split
  · exact scan_total _ _ _ h
  · exact ⟨accepted, rfl⟩

/-- No turn raises on any event: of handoff, -/
theorem handoffStep_total (s : Json) (ev : Dict) : ∃ t, handoffStep s ev = .ok t := by
  unfold handoffStep
  split_ifs <;> exact ⟨_, rfl⟩

/-- of reviews, -/
theorem reviewerStep_total (s : Unit) (ev : Dict) : ∃ t, reviewerStep s ev = .ok t := by
  unfold reviewerStep
  split_ifs <;> exact ⟨_, rfl⟩

/-- of delegation, -/
theorem delegationStep_total (s : Json × Json) (ev : Dict) :
    ∃ t, delegationStep s ev = .ok t := by
  obtain ⟨claimOwner, claimTaskId⟩ := s
  simp only [delegationStep]
  split_ifs <;> exact ⟨_, rfl⟩

/-- of the two that wait for an approval, -/
theorem approvedFirstStep_total (reason : String) (s : Bool) (ev : Dict) :
    ∃ t, approvedFirstStep reason s ev = .ok t := by
  unfold approvedFirstStep
  split_ifs <;> exact ⟨_, rfl⟩

/-- of locks. -/
theorem lockStep_total (s : Json) (ev : Dict) : ∃ t, lockStep s ev = .ok t := by
  unfold lockStep
  split_ifs <;> exact ⟨_, rfl⟩

/-- The turn on artifacts does not where the kind is text, -/
theorem artifactStep_total {ev : Dict} (hk : ∃ k, kind ev = .str k) (s : Unit) :
    ∃ t, artifactStep s ev = .ok t := by
  obtain ⟨k, hk⟩ := hk
  simp only [artifactStep, hk, hashable, if_true]
  generalize (match payload ev with
    | .obj d => (Dict.getD d "artifacts" .null).truthy
    | _ => false) = b
  split_ifs <;> exact ⟨_, rfl⟩

/-- and that on evidence where the payload is a mapping. -/
theorem evidenceStep_total {ev : Dict} (hp : ∃ p, payload ev = .obj p) (s : Unit) :
    ∃ t, evidenceStep s ev = .ok t := by
  obtain ⟨p, hp⟩ := hp
  simp only [evidenceStep, hp]
  split_ifs <;> exact ⟨_, rfl⟩

/-- **On well-typed events no evaluator raises.** -/
theorem evaluate_total (c : ObligationClass) {events : List Json}
    (h : ∀ ev ∈ events, WellTyped ev) (pack : PolicyPack) :
    ∃ d, evaluateProtocolObligation c events pack = .ok d := by
  cases c with
  | handoffLegality => exact evaluateWith_total fun ev _ s => handoffStep_total s ev
  | reviewerGated => exact evaluateWith_total fun ev _ s => reviewerStep_total s ev
  | lockOwnershipInvariant => exact evaluateWith_total fun ev _ s => lockStep_total s ev
  | delegationAdmissibility => exact evaluateWith_total fun ev _ s => delegationStep_total s ev
  | stateTransitionPreservation =>
      exact evaluateWith_total fun ev _ s => approvedFirstStep_total _ s ev
  | artifactAdmissibility =>
      exact evaluateWith_total fun ev hev =>
        artifactStep_total (validateEvents_wellTyped h hev).1
  | sideEffectAuthorization => exact evaluateWith_total fun ev _ s => approvedFirstStep_total _ s ev
  | evidenceCompleteExecutionToken =>
      exact evaluateWith_total fun ev hev => evidenceStep_total (validateEvents_wellTyped h hev).2

/-! ## §5. What an evaluator can answer. -/

/-- Accepted, rejected or blocked. -/
def Answer (d : PolicyDecision) : Prop :=
  d = accepted ∨ (∃ reason, d = rejected reason) ∨ ∃ reason, d = blocked reason

/-- An evaluator answers what its turns can answer. -/
theorem evaluateWith_answer {σ : Type} {enabled : Bool} {step : Step σ} {start : σ}
    {done : PolicyDecision} {events : List Json} {d : PolicyDecision} (hdone : Answer done)
    (hstop : ∀ s ev d, step s ev = .ok (.stop d) → Answer d)
    (h : evaluateWith enabled step start done events = .ok d) : Answer d := by
  unfold evaluateWith at h
  split at h
  · exact scan_result Answer (fun _ => hdone) hstop _ _ _ h
  · cases h
    exact .inl rfl

/-- **Accepted, rejected or blocked are the only answers.** -/
theorem evaluate_answer {c : ObligationClass} {events : List Json} {pack : PolicyPack}
    {d : PolicyDecision} (h : evaluateProtocolObligation c events pack = .ok d) : Answer d := by
  have rej : ∀ reason, Answer (rejected reason) := fun r => .inr (.inl ⟨r, rfl⟩)
  have blo : ∀ reason, Answer (blocked reason) := fun r => .inr (.inr ⟨r, rfl⟩)
  -- A loop answers at its end with `done`, and stops only to refuse; two stop to accept.
  cases c with
  | handoffLegality =>
      refine evaluateWith_answer (.inl rfl) (fun s ev d hs => ?_) h
      unfold handoffStep at hs
      split_ifs at hs <;> cases hs <;> exact rej _
  | reviewerGated =>
      refine evaluateWith_answer (blo _) (fun s ev d hs => ?_) h
      unfold reviewerStep at hs
      split_ifs at hs <;> cases hs
      exact .inl rfl
  | lockOwnershipInvariant =>
      refine evaluateWith_answer (.inl rfl) (fun s ev d hs => ?_) h
      unfold lockStep at hs
      split_ifs at hs <;> cases hs <;> exact rej _
  | delegationAdmissibility =>
      refine evaluateWith_answer (.inl rfl) (fun s ev d hs => ?_) h
      obtain ⟨claimOwner, claimTaskId⟩ := s
      simp only [delegationStep] at hs
      split_ifs at hs <;> cases hs <;> exact rej _
  | stateTransitionPreservation =>
      refine evaluateWith_answer (.inl rfl) (fun s ev d hs => ?_) h
      unfold approvedFirstStep at hs
      split_ifs at hs <;> cases hs
      exact rej _
  | artifactAdmissibility =>
      refine evaluateWith_answer (.inl rfl) (fun s ev d hs => ?_) h
      simp only [artifactStep] at hs
      split_ifs at hs <;> cases hs
      exact rej _
  | sideEffectAuthorization =>
      refine evaluateWith_answer (.inl rfl) (fun s ev d hs => ?_) h
      unfold approvedFirstStep at hs
      split_ifs at hs <;> cases hs
      exact rej _
  | evidenceCompleteExecutionToken =>
      refine evaluateWith_answer (blo _) (fun s ev d hs => ?_) h
      unfold evidenceStep at hs
      split at hs <;> split_ifs at hs <;> cases hs
      exact .inl rfl

end ProtocolEvaluator

end ObligationRuntime
