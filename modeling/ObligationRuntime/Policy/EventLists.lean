/-
  ObligationRuntime.Policy.EventLists — the evaluators on longer lists of events.

  Each of the eight evaluators is a machine: a flag of the pack, a state, a step and an
  answer at the end.  What holds of every loop that returns from the middle then holds
  of each of them, and it remains to say what of an event a machine reads.

  Main results:
    * `evaluate_eq_machine` — an evaluator is the run of its machine,
    * `evaluate_append` — an answer from the middle stays with every longer list,
    * `evaluate_inserted` — events the machine does not read change nothing.
-/
import ObligationRuntime.Lib.Insertion
import ObligationRuntime.Policy.ProtocolEvaluator

namespace ObligationRuntime

open Py EarlyReturn Insertion

namespace ProtocolEvaluator

/-! ## §1. The machines. -/

/-- An evaluator: when it runs, how, and what it answers at the end. -/
structure Machine where
  State : Type
  enabled : PolicyPack → Bool
  step : Step State
  start : State
  done : PolicyDecision

/-- The machine of a class. -/
def machine : ObligationClass → Machine
  | .handoffLegality =>
      ⟨Json, PolicyPack.singleOwnerHandoff, handoffStep, .null, accepted⟩
  | .reviewerGated =>
      ⟨Unit, PolicyPack.reviewerGatedExecution, reviewerStep, (),
        blocked Reason.missingApprovalToken⟩
  | .lockOwnershipInvariant =>
      ⟨Json, PolicyPack.lockOwnershipInvariant, lockStep, .null, accepted⟩
  | .delegationAdmissibility =>
      ⟨Json × Json, PolicyPack.delegationAdmissibility, delegationStep, (.null, .null), accepted⟩
  | .stateTransitionPreservation =>
      ⟨Bool, PolicyPack.stateTransitionPreservation,
        approvedFirstStep Reason.invalidStateTransition, false, accepted⟩
  | .artifactAdmissibility =>
      ⟨Unit, PolicyPack.artifactAdmissibility, artifactStep, (), accepted⟩
  | .sideEffectAuthorization =>
      ⟨Bool, PolicyPack.sideEffectAuthorization,
        approvedFirstStep Reason.sideEffectUnauthorized, false, accepted⟩
  | .evidenceCompleteExecutionToken =>
      ⟨Unit, PolicyPack.evidenceCompleteExecutionToken, evidenceStep, (),
        blocked Reason.evidenceIncomplete⟩

/-- The run of a machine over normalised events. -/
def Machine.run (m : Machine) (evs : List Dict) : Except PyError PolicyDecision :=
  scan m.step (fun _ => m.done) m.start evs

/-- **An evaluator is the run of its machine**, where the pack enables it. -/
theorem evaluate_eq_machine (c : ObligationClass) (events : List Json) (pack : PolicyPack) :
    evaluateProtocolObligation c events pack =
      if (machine c).enabled pack then (machine c).run (validateEvents events)
      else .ok accepted := by
  cases c <;> rfl

/-! ## §2. Longer lists. -/

/-- Events are validated one by one. -/
theorem validateEvents_append (xs ys : List Json) :
    validateEvents (xs ++ ys) = validateEvents xs ++ validateEvents ys :=
  List.filterMap_append

/-- **An answer from the middle stays.** -/
theorem evaluate_append {c : ObligationClass} {xs : List Json} {pack : PolicyPack}
    {d : PolicyDecision} (h : evaluateProtocolObligation c xs pack = .ok d)
    (hd : d ≠ (machine c).done) (ys : List Json) :
    evaluateProtocolObligation c (xs ++ ys) pack = .ok d := by
  rw [evaluate_eq_machine] at h ⊢
  split at h
  next hon =>
    rw [if_pos hon, Machine.run, validateEvents_append]
    exact scan_append_of_turns (turns_of_scan h fun _ => hd) _ _
  next hoff =>
    rw [if_neg hoff]
    exact h

/-! ## §3. What an evaluator reads. -/

/-- Does the payload carry artifacts? -/
def hasArtifacts (ev : Dict) : Bool :=
  match payload ev with
  | .obj d => (Dict.getD d "artifacts" .null).truthy
  | _ => false

/-- Is the evidence flagged as complete? -/
def hasEvidence (ev : Dict) : Bool :=
  match payload ev with
  | .obj d => decide (Dict.getD d "evidence_complete" .null = .bool true)
  | _ => false

/-- An `execute` event whose payload is no mapping. -/
def bareExecute (ev : Dict) : Bool :=
  decide (kind ev = .str "execute") && (payload ev).dict?.isNone

/-- The kinds an evaluator looks for. -/
def ownKinds : ObligationClass → List String
  | .handoffLegality => ["claim", "delegate"]
  | .delegationAdmissibility => ["claim", "delegate"]
  | .lockOwnershipInvariant => ["lock", "release"]
  | .stateTransitionPreservation => ["approve", "execute", "recover"]
  | .sideEffectAuthorization => ["approve", "execute", "recover"]
  | .reviewerGated => ["approve"]
  -- These two look at the payload, whatever the kind.
  | .artifactAdmissibility => []
  | .evidenceCompleteExecutionToken => []

/-- There is nothing in the event for the evaluator of a class. -/
def Passes (c : ObligationClass) (ev : Dict) : Prop :=
  match c with
  | .artifactAdmissibility => hasArtifacts ev = false
  | .evidenceCompleteExecutionToken => hasEvidence ev = false ∧ bareExecute ev = false
  | c => ∀ k ∈ ownKinds c, kind ev ≠ .str k

/-- An event the evaluator of a class does not read: no mapping, an empty one, or one
with nothing in it for the evaluator. -/
def Unread (c : ObligationClass) (ev : Json) : Prop :=
  ∀ d, ev = .obj d → d ≠ [] → Passes c d

section Steps

variable (ev : Dict)

/-- The turn of the artifact evaluator, with its test named. -/
theorem artifactStep_eq (s : Unit) :
    artifactStep s ev =
      if hasArtifacts ev then
        if hashable (kind ev) then
          if kind ev = .str "approve" ∨ kind ev = .str "execute" then .ok (.next ())
          else .ok (.stop (rejected Reason.artifactNotAdmissible))
        else .error (.typeError "unhashable type")
      else .ok (.next ()) := rfl

/-- The turn of the evidence evaluator, with its tests named. -/
theorem evidenceStep_eq (s : Unit) :
    evidenceStep s ev =
      if hasEvidence ev then .ok (.stop accepted)
      else if bareExecute ev then .error (.attributeError "get")
      else .ok (.next ()) := by
  unfold evidenceStep hasEvidence bareExecute
  cases payload ev with
  | obj d => simp
  | _ => simp [Json.dict?]

variable {ev}

/-- An event without artifacts is passed over. -/
theorem artifactStep_passes (h : hasArtifacts ev = false) (s : Unit) :
    artifactStep s ev = .ok (.next s) := by
  rw [artifactStep_eq, h]
  rfl

/-- An event without evidence that is no bare execution is passed over. -/
theorem evidenceStep_passes (h : hasEvidence ev = false ∧ bareExecute ev = false) (s : Unit) :
    evidenceStep s ev = .ok (.next s) := by
  rw [evidenceStep_eq, h.1, h.2]
  rfl

/-- Each of the others passes over the kinds it does not look at: handoff, -/
theorem handoffStep_passes (h : ∀ k ∈ ["claim", "delegate"], kind ev ≠ .str k) (s : Json) :
    handoffStep s ev = .ok (.next s) := by
  rw [handoffStep, if_neg (h "claim" (by simp)), if_neg (h "delegate" (by simp))]

/-- delegation, -/
theorem delegationStep_passes (h : ∀ k ∈ ["claim", "delegate"], kind ev ≠ .str k)
    (s : Json × Json) : delegationStep s ev = .ok (.next s) := by
  obtain ⟨claimOwner, claimTaskId⟩ := s
  simp only [delegationStep]
  rw [if_neg (h "claim" (by simp)), if_neg (h "delegate" (by simp))]

/-- locks, -/
theorem lockStep_passes (h : ∀ k ∈ ["lock", "release"], kind ev ≠ .str k) (s : Json) :
    lockStep s ev = .ok (.next s) := by
  rw [lockStep, if_neg (h "lock" (by simp)), if_neg (h "release" (by simp))]

/-- reviews, -/
theorem reviewerStep_passes (h : ∀ k ∈ ["approve"], kind ev ≠ .str k) (s : Unit) :
    reviewerStep s ev = .ok (.next s) := by
  rw [reviewerStep, if_neg (h "approve" (by simp))]

/-- and the two that wait for an approval. -/
theorem approvedFirstStep_passes (reason : String)
    (h : ∀ k ∈ ["approve", "execute", "recover"], kind ev ≠ .str k) (s : Bool) :
    approvedFirstStep reason s ev = .ok (.next s) := by
  rw [approvedFirstStep, if_neg (by simp [h]), if_neg (h "approve" (by simp))]

end Steps

/-- A machine stutters on an event with nothing in it for it. -/
theorem stutters_of_passes {c : ObligationClass} {ev : Dict} (h : Passes c ev)
    (s : (machine c).State) : (machine c).step s ev = .ok (.next s) := by
  cases c with
  | artifactAdmissibility => exact artifactStep_passes h s
  | evidenceCompleteExecutionToken => exact evidenceStep_passes h s
  | handoffLegality => exact handoffStep_passes h s
  | delegationAdmissibility => exact delegationStep_passes h s
  | lockOwnershipInvariant => exact lockStep_passes h s
  | reviewerGated => exact reviewerStep_passes h s
  | stateTransitionPreservation => exact approvedFirstStep_passes _ h s
  | sideEffectAuthorization => exact approvedFirstStep_passes _ h s

/-! ## §4. Events put in. -/

/-- Normalisation leaves the kind and the payload. -/
theorem kind_normalizeEvent (d : Dict) : kind (normalizeEvent d) = kind d := by
  unfold kind Dict.getD
  rw [normalizeEvent_get? d (by decide) (by decide)]

/-- Normalisation leaves the payload. -/
theorem payload_normalizeEvent (d : Dict) : payload (normalizeEvent d) = payload d := by
  unfold payload Dict.getD
  rw [normalizeEvent_get? d (by decide) (by decide)]

/-- What is passed over is passed over when normalised. -/
theorem passes_normalizeEvent {c : ObligationClass} {d : Dict} (h : Passes c d) :
    Passes c (normalizeEvent d) := by
  cases c <;>
    simpa only [Passes, hasArtifacts, hasEvidence, bareExecute, kind_normalizeEvent,
      payload_normalizeEvent] using h

/-- What normalisation makes of an event that is not read. -/
theorem validateEvents_inserted {c : ObligationClass} {xs ys : List Json}
    (h : Inserted (Unread c) xs ys) :
    Inserted (Passes c) (validateEvents xs) (validateEvents ys) := by
  refine h.filterMap fun ev d hunread hd => ?_
  cases ev with
  | obj e =>
      cases e with
      | nil => cases hd
      | cons kv e =>
          obtain rfl : normalizeEvent (kv :: e) = d := Option.some.inj hd
          exact passes_normalizeEvent (hunread _ rfl (List.cons_ne_nil _ _))
  | _ => cases hd

/-- **Events the evaluator does not read change nothing**, put in anywhere. -/
theorem evaluate_inserted {c : ObligationClass} {xs ys : List Json}
    (h : Inserted (Unread c) xs ys) (pack : PolicyPack) :
    evaluateProtocolObligation c ys pack = evaluateProtocolObligation c xs pack := by
  rw [evaluate_eq_machine, evaluate_eq_machine]
  unfold Machine.run
  rw [scan_inserted _ (fun s ev hp => stutters_of_passes hp s) (validateEvents_inserted h)]

end ProtocolEvaluator

end ObligationRuntime
