/-
  ObligationRuntime.Guarantees.VerdictStability — verdicts on a growing list of events,
  and events of any shape.

  Six evaluators look for an event that must not be there, two for one that must: what
  they found stays when events are appended, and events they do not read may be put in
  anywhere.

  An event loaded from a file can have a field of any JSON type.  The normaliser looks at
  `actor` and `task` only, and two evaluators trust the type of another field: the kind of
  an event with artifacts has to be hashable, and the payload of an `execute` event has to
  be a mapping.

  Main results:
    * `prefix_laws` — what later events can change,
    * `artifact_returns_iff`, `evidence_returns_iff` — when these two return,
    * `evaluate_never_raises_iff` — when all of them do, and the node with them.
-/
import ObligationRuntime.Guarantees.ProtocolGate
import ObligationRuntime.Policy.EventHistory
import ObligationRuntime.Policy.EventLists

namespace ObligationRuntime

open Py EarlyReturn Insertion Flow

namespace ProtocolEvaluator

/-! ## §1. Prefix laws. -/

/-- The classes that look for an event that must not be there. -/
def rejecting : List ObligationClass :=
  [.handoffLegality, .delegationAdmissibility, .lockOwnershipInvariant,
    .stateTransitionPreservation, .artifactAdmissibility, .sideEffectAuthorization]

/-- The classes that look for an event that must be there. -/
def admitting : List ObligationClass := [.reviewerGated, .evidenceCompleteExecutionToken]

theorem done_of_rejecting {c : ObligationClass} (hc : c ∈ rejecting) :
    (machine c).done = accepted := by
  simp only [rejecting, List.mem_cons, List.not_mem_nil, or_false] at hc
  rcases hc with rfl | rfl | rfl | rfl | rfl | rfl <;> rfl

theorem done_of_admitting {c : ObligationClass} (hc : c ∈ admitting) :
    ∃ reason, (machine c).done = blocked reason := by
  simp only [admitting, List.mem_cons, List.not_mem_nil, or_false] at hc
  rcases hc with rfl | rfl <;> exact ⟨_, rfl⟩

/-- **What later events can change.**  A rejection stays, with its reason; an acceptance
of the two other classes stays; and events that are not read change nothing. -/
theorem prefix_laws (pack : PolicyPack) (xs ys zs : List Json) :
    (∀ c ∈ rejecting, ∀ d, evaluateProtocolObligation c xs pack = .ok d →
      d.decision = .rejected → evaluateProtocolObligation c (xs ++ ys) pack = .ok d) ∧
    (∀ c ∈ admitting, Accepts (evaluateProtocolObligation c xs pack) →
      Accepts (evaluateProtocolObligation c (xs ++ ys) pack)) ∧
    (∀ c, Inserted (Unread c) xs zs →
      evaluateProtocolObligation c zs pack = evaluateProtocolObligation c xs pack) := by
  refine ⟨fun c hc d hd hdec => ?_, fun c hc hacc => ?_, fun c hins => ?_⟩
  · refine evaluate_append hd (fun hdone => ?_) ys
    rw [hdone, done_of_rejecting hc] at hdec
    cases hdec
  · obtain ⟨d, hd, hdec⟩ := hacc
    refine ⟨d, evaluate_append hd (fun hdone => ?_) ys, hdec⟩
    obtain ⟨reason, hblocked⟩ := done_of_admitting hc
    rw [hdone, hblocked] at hdec
    cases hdec
  · exact evaluate_inserted hins pack

theorem prefix_laws_scripted :
    evaluateProtocolObligation .sideEffectAuthorization
        ([(Scripted.event .execute "a" "t").json] ++ [(Scripted.event .approve "b" "t").json])
        { version := "1", name := "p", description := "", sideEffectAuthorization := true } =
      .ok (rejected Reason.sideEffectUnauthorized) :=
  (prefix_laws _ _ [(Scripted.event .approve "b" "t").json] []).1 .sideEffectAuthorization
    (by simp [rejecting]) _ rfl rfl

/-! ## §2. When an evaluator returns. -/

/-- An event with artifacts that the artifact evaluator has to look at the kind of. -/
def wrongArtifact (ev : Dict) : Bool :=
  hasArtifacts ev && !(decide (kind ev = .str "approve") || decide (kind ev = .str "execute"))

/-- The first event with artifacts that ought not to have any has a hashable kind. -/
def ArtifactsSafe (events : List Json) : Prop :=
  ∀ ev, (validateEvents events).find? wrongArtifact = some ev → hashable (kind ev) = true

/-- Of the events that are flagged or are a bare `execute`, the first is flagged. -/
def EvidenceSafe (events : List Json) : Prop :=
  ∀ ev, (validateEvents events).find? (fun ev => hasEvidence ev || bareExecute ev) = some ev →
    hasEvidence ev = true

theorem hashable_of_kind {ev : Dict} (h : kind ev = .str "approve" ∨ kind ev = .str "execute") :
    hashable (kind ev) = true := by
  rcases h with h | h <;> rw [h] <;> rfl

/-- When the artifact loop returns. -/
theorem artifact_scan_returns_iff (evs : List Dict) (s : Unit) :
    (∃ d, scan artifactStep (fun _ => accepted) s evs = .ok d) ↔
      ∀ ev, evs.find? wrongArtifact = some ev → hashable (kind ev) = true := by
  induction evs generalizing s with
  | nil => simp [scan]
  | cons ev evs ih =>
      rw [scan, artifactStep_eq, List.find?_cons]
      unfold wrongArtifact
      by_cases hart : hasArtifacts ev = true
      · by_cases hkind : kind ev = .str "approve" ∨ kind ev = .str "execute"
        · have hwrong : (!(decide (kind ev = .str "approve") ||
              decide (kind ev = .str "execute"))) = false := by
            rcases hkind with h | h <;> simp [h]
          rw [if_pos hart, if_pos (hashable_of_kind hkind), if_pos hkind, hwrong, Bool.and_false]
          exact ih ()
        · -- The event stops the loop one way or the other.
          have hwrong : (!(decide (kind ev = .str "approve") ||
              decide (kind ev = .str "execute"))) = true := by simpa using hkind
          rw [if_pos hart, hart, hwrong]
          by_cases hhash : hashable (kind ev) = true
          · simp [hhash, if_neg hkind]
          · simp [hhash]
      · rw [if_neg hart, Bool.eq_false_iff.mpr hart]
        exact ih ()

/-- When the evidence loop returns. -/
theorem evidence_scan_returns_iff (done : PolicyDecision) (evs : List Dict) (s : Unit) :
    (∃ d, scan evidenceStep (fun _ => done) s evs = .ok d) ↔
      ∀ ev, evs.find? (fun ev => hasEvidence ev || bareExecute ev) = some ev →
        hasEvidence ev = true := by
  induction evs generalizing s with
  | nil => simp [scan]
  | cons ev evs ih =>
      rw [scan, evidenceStep_eq, List.find?_cons]
      by_cases hev : hasEvidence ev = true
      · simp [hev]
      · rw [Bool.not_eq_true] at hev
        by_cases hbare : bareExecute ev = true
        · simp [hev, hbare]
        · rw [Bool.not_eq_true] at hbare
          simp only [hev, hbare, Bool.or_self]
          exact ih ()

section Returns

variable (events : List Json) (pack : PolicyPack)

/-- **When the artifact evaluator returns.** -/
theorem artifact_returns_iff :
    (∃ d, evaluateProtocolObligation .artifactAdmissibility events pack = .ok d) ↔
      (pack.artifactAdmissibility = true → ArtifactsSafe events) := by
  show (∃ d, evaluateWith pack.artifactAdmissibility artifactStep () accepted events = .ok d) ↔ _
  unfold evaluateWith
  cases pack.artifactAdmissibility with
  | false => simp
  | true =>
      simp only [if_true, forall_const]
      exact artifact_scan_returns_iff _ _

/-- **When the evidence evaluator returns.** -/
theorem evidence_returns_iff :
    (∃ d, evaluateProtocolObligation .evidenceCompleteExecutionToken events pack = .ok d) ↔
      (pack.evidenceCompleteExecutionToken = true → EvidenceSafe events) := by
  show (∃ d, evaluateWith pack.evidenceCompleteExecutionToken evidenceStep () _ events = .ok d) ↔ _
  unfold evaluateWith
  cases pack.evidenceCompleteExecutionToken with
  | false => simp
  | true =>
      simp only [if_true, forall_const]
      exact evidence_scan_returns_iff _ _ _

/-- The six others return on any events. -/
theorem other_returns {c : ObligationClass} (ha : c ≠ .artifactAdmissibility)
    (he : c ≠ .evidenceCompleteExecutionToken) :
    ∃ d, evaluateProtocolObligation c events pack = .ok d := by
  cases c with
  | handoffLegality => exact evaluateWith_total fun ev _ s => handoffStep_total s ev
  | reviewerGated => exact evaluateWith_total fun ev _ s => reviewerStep_total s ev
  | lockOwnershipInvariant => exact evaluateWith_total fun ev _ s => lockStep_total s ev
  | delegationAdmissibility => exact evaluateWith_total fun ev _ s => delegationStep_total s ev
  | stateTransitionPreservation =>
      exact evaluateWith_total fun ev _ s => approvedFirstStep_total _ s ev
  | sideEffectAuthorization => exact evaluateWith_total fun ev _ s => approvedFirstStep_total _ s ev
  | artifactAdmissibility => exact absurd rfl ha
  | evidenceCompleteExecutionToken => exact absurd rfl he

variable {events pack}

/-- Where every evaluator returns, the node returns its update. -/
theorem evaluateProtocol_returns {deps : Deps} {s : State}
    (h : ∀ c, ∃ d, evaluateProtocolObligation c events pack = .ok d)
    (hs : s.protocolEvents = some events)
    (hpack : deps.loadPack (s.packName deps.obrPolicyPack "single_owner_handoff_v1") = .ok pack) :
    ∃ u, (Handlers.evaluateProtocol deps s).result = .ok u := by
  have hout : ∃ found, Handlers.protocolOutcome deps s = .ok found := by
    obtain ⟨found, hfound⟩ := protocolDecision_returns h
    simp only [Handlers.protocolOutcome, hs, Option.getD_some, hpack, hfound]
    split
    · exact ⟨none, rfl⟩
    · exact ⟨found, rfl⟩
  obtain ⟨found, hfound⟩ := hout
  unfold Handlers.evaluateProtocol
  rw [hfound, Eff.lift_ok_bind]
  cases found with
  | none => exact ⟨_, rfl⟩
  | some d => exact ⟨_, rfl⟩

end Returns

/-! ## §3. Every class, by its name. -/

/-- The text of a class. -/
def ObligationClass.text : ObligationClass → String
  | .handoffLegality => "handoff_legality"
  | .reviewerGated => "reviewer_gated"
  | .lockOwnershipInvariant => "lock_ownership_invariant"
  | .delegationAdmissibility => "delegation_admissibility"
  | .stateTransitionPreservation => "state_transition_preservation"
  | .artifactAdmissibility => "artifact_admissibility"
  | .sideEffectAuthorization => "side_effect_authorization"
  | .evidenceCompleteExecutionToken => "evidence_complete_execution_token"

/-- The classes in the order of the dispatch. -/
def dispatchOrder : List ObligationClass :=
  [.handoffLegality, .reviewerGated, .lockOwnershipInvariant, .delegationAdmissibility,
    .stateTransitionPreservation, .artifactAdmissibility, .sideEffectAuthorization,
    .evidenceCompleteExecutionToken]

/-- `evaluate_protocol_obligation`, on any name: one that is not known accepts. -/
def evaluateNamed (obligationClass : String) (events : List Json) (pack : PolicyPack) :
    Except PyError PolicyDecision :=
  match dispatchOrder.find? fun c => c.text = obligationClass with
  | some c => evaluateProtocolObligation c events pack
  | none => .ok accepted

theorem evaluateNamed_text (c : ObligationClass) (events : List Json) (pack : PolicyPack) :
    evaluateNamed c.text events pack = evaluateProtocolObligation c events pack := by
  cases c <;> rfl

/-- The property: every class, whatever its name, returns a decision, and so the node of a
run with these events and this pack returns. -/
def NeverRaises (events : List Json) (pack : PolicyPack) : Prop :=
  (∀ name, ∃ d, evaluateNamed name events pack = .ok d) ∧
    ∀ (deps : Deps) (s : State), s.protocolEvents = some events →
      deps.loadPack (s.packName deps.obrPolicyPack "single_owner_handoff_v1") = .ok pack →
      ∃ u, (Handlers.evaluateProtocol deps s).result = .ok u

/-- **When no evaluation raises**: exactly when the artifact class, if it is on, finds a
hashable kind, and the evidence class, if it is on, finds its flag before an `execute`
event without a mapping. -/
theorem evaluate_never_raises_iff (events : List Json) (pack : PolicyPack) :
    NeverRaises events pack ↔
      (pack.artifactAdmissibility = true → ArtifactsSafe events) ∧
        (pack.evidenceCompleteExecutionToken = true → EvidenceSafe events) := by
  constructor
  · intro h
    have hall : ∀ c : ObligationClass, ∃ d, evaluateProtocolObligation c events pack = .ok d :=
      fun c => evaluateNamed_text c events pack ▸ h.1 c.text
    exact ⟨(artifact_returns_iff events pack).mp (hall _),
      (evidence_returns_iff events pack).mp (hall _)⟩
  · intro h
    have hall : ∀ c : ObligationClass, ∃ d, evaluateProtocolObligation c events pack = .ok d := by
      intro c
      -- Two classes can raise; the other six never do.
      by_cases ha : c = .artifactAdmissibility
      · subst ha
        exact (artifact_returns_iff events pack).mpr h.1
      by_cases he : c = .evidenceCompleteExecutionToken
      · subst he
        exact (evidence_returns_iff events pack).mpr h.2
      exact other_returns events pack ha he
    refine ⟨fun name => ?_, fun deps s hs hpack => evaluateProtocol_returns hall hs hpack⟩
    unfold evaluateNamed
    split
    · exact hall _
    · exact ⟨accepted, rfl⟩

/-- An `execute` event whose payload is a text. -/
def Scripted.textPayload : List Json :=
  [.obj [("kind", .str "execute"), ("payload", .str "done")]]

/-- A pack that wants complete evidence. -/
def Scripted.evidencePack : PolicyPack where
  version := "1"
  name := "evidence"
  description := ""
  evidenceCompleteExecutionToken := true

/-- The evidence class raises on the text, and the property fails. -/
theorem evaluate_raises_scripted :
    evaluateNamed "evidence_complete_execution_token" Scripted.textPayload Scripted.evidencePack =
        .error (.attributeError "get") ∧
      Handlers.protocolDecision Scripted.textPayload Scripted.evidencePack =
        .error (.attributeError "get") ∧
      ¬ NeverRaises Scripted.textPayload Scripted.evidencePack := by
  refine ⟨rfl, rfl, fun h => ?_⟩
  obtain ⟨d, hd⟩ := h.1 "evidence_complete_execution_token"
  cases hd

end ProtocolEvaluator

end ObligationRuntime
