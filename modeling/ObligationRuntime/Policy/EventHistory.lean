/-
  ObligationRuntime.Policy.EventHistory — well-formed protocol events, and the
  evaluators as judgements of their history.

  An event is well formed when its agent and its task have text for an id; the events of
  models.py of `lean_langchain_protocol` are.  The evaluators that keep one value between
  events keep the latest event of a kind: the latest lock or release, claim, or approval.

  Main results:
    * `lock_accepts_iff`, `handoff_accepts_iff`, `delegation_accepts_iff`,
      `stateTransition_accepts_iff`, `sideEffect_accepts_iff` — when an evaluator accepts:
      every event fits the latest event of that kind before it.
-/
import ObligationRuntime.Lib.Monitor
import ObligationRuntime.Policy.ProtocolEvaluator

namespace ObligationRuntime

open Py EarlyReturn Monitor

namespace ProtocolEvaluator

/-! ## §1. Events. -/

/-- The kinds of events. -/
inductive EventKind where
  | claim
  | delegate
  | approve
  | reject
  | lock
  | release
  | execute
  | recover
  deriving DecidableEq, Repr

/-- The literal. -/
def EventKind.text : EventKind → String
  | .claim => "claim"
  | .delegate => "delegate"
  | .approve => "approve"
  | .reject => "reject"
  | .lock => "lock"
  | .release => "release"
  | .execute => "execute"
  | .recover => "recover"

/-- Kinds have different texts. -/
theorem EventKind.text_injective : Function.Injective EventKind.text := by
  intro a b
  cases a <;> cases b <;> decide

/-- `(ev.get(key) or {}).get(field)` is that text. -/
def HasRef (d : Dict) (key field id : String) : Prop :=
  ∃ r, Dict.get? d key = some (.obj r) ∧ Dict.get? r field = some (.str id)

/-- A well-formed event: a mapping whose agent and task have text for an id. -/
structure Event where
  data : Dict
  agent : String
  task : String
  hasAgent : HasRef data "actor" "agent_id" agent
  hasTask : HasRef data "task" "task_id" task

namespace Event

/-- What a caller loaded. -/
def json (e : Event) : Json := .obj e.data

/-- What `_validate_events` makes of it. -/
def normal (e : Event) : Dict := normalizeEvent e.data

/-- The event is of that kind. -/
def is (e : Event) (k : EventKind) : Bool :=
  decide (Dict.getD e.data "kind" .null = .str k.text)

/-- The evaluators see the kind of an event. -/
theorem kind_normal (e : Event) (k : EventKind) (literal : String) (h : k.text = literal) :
    kind e.normal = .str literal ↔ e.is k = true := by
  subst h
  unfold kind normal Dict.getD
  rw [normalizeEvent_get? e.data (by decide) (by decide)]
  exact decide_eq_true_iff.symm

/-- An event has one kind. -/
theorem is_unique {e : Event} {k l : EventKind} (hk : e.is k = true) (hl : e.is l = true) :
    k = l := by
  simp only [is, decide_eq_true_eq] at hk hl
  rw [hk] at hl
  exact EventKind.text_injective (Json.str.inj hl)

/-- An event of one kind is of no other. -/
theorem is_false {e : Event} {k l : EventKind} (hk : e.is k = true) (hne : k ≠ l) :
    e.is l = false := by
  rw [Bool.eq_false_iff]
  exact fun hl => hne (is_unique hk hl)

/-- They see its agent, -/
@[simp] theorem agentId_normal (e : Event) : agentId e.normal = .str e.agent := by
  obtain ⟨actor, hactor, hid⟩ := e.hasAgent
  have hget : Dict.get? e.normal "actor" = some (.obj actor) := by
    unfold normal normalizeEvent
    rw [Dict.get?_set_ne _ (by decide), Dict.get?_set_self, Dict.getD, hactor]
    rfl
  simp [agentId, ref, Dict.getD, hget, hid]

/-- and its task. -/
@[simp] theorem taskId_normal (e : Event) : taskId e.normal = .str e.task := by
  obtain ⟨task, htask, hid⟩ := e.hasTask
  have hget : Dict.get? e.normal "task" = some (.obj task) := by
    unfold normal normalizeEvent
    rw [Dict.get?_set_self, Dict.getD, htask]
    rfl
  simp [taskId, ref, Dict.getD, hget, hid]

/-- Nothing is dropped from a list of well-formed events. -/
theorem validateEvents_json (es : List Event) :
    validateEvents (es.map json) = es.map normal := by
  induction es with
  | nil => rfl
  | cons e es ih =>
      have hone : validateEvents [e.json] = [e.normal] := by
        obtain ⟨actor, hactor, -⟩ := e.hasAgent
        unfold json normal validateEvents
        cases h : e.data with
        | nil => simp [h] at hactor
        | cons kv d => rfl
      calc validateEvents ((e :: es).map json)
          = validateEvents [e.json] ++ validateEvents (es.map json) :=
            List.filterMap_append (l := [e.json])
        _ = (e :: es).map normal := by rw [hone, ih]; rfl

end Event

/-! ## §2. models.py of `lean_langchain_protocol`. -/

/-- `AgentRef`. -/
structure AgentRef where
  agentId : String
  role : String

/-- `TaskRef`. -/
structure TaskRef where
  taskId : String
  taskClass : String

/-- `ProtocolEvent`. -/
structure ProtocolEvent where
  eventId : String
  kind : EventKind
  actor : AgentRef
  task : TaskRef
  payload : Dict := []
  priorEventIds : List String := []

namespace ProtocolEvent

/-- `model_dump(mode="json")`. -/
def dump (e : ProtocolEvent) : Dict :=
  [("event_id", .str e.eventId), ("kind", .str e.kind.text),
    ("actor", .obj [("agent_id", .str e.actor.agentId), ("role", .str e.actor.role)]),
    ("task", .obj [("task_id", .str e.task.taskId), ("task_class", .str e.task.taskClass)]),
    ("payload", .obj e.payload), ("prior_event_ids", strList.dump e.priorEventIds)]

/-- The events of the protocol are well formed. -/
def event (e : ProtocolEvent) : Event where
  data := e.dump
  agent := e.actor.agentId
  task := e.task.taskId
  hasAgent := ⟨_, rfl, rfl⟩
  hasTask := ⟨_, rfl, rfl⟩

end ProtocolEvent

/-- An event of a kind, by an agent, on a task. -/
def Scripted.event (kind : EventKind) (agent task : String) : Event :=
  ProtocolEvent.event
    { eventId := "e"
      kind := kind
      actor := ⟨agent, "worker"⟩
      task := ⟨task, "patch"⟩ }

/-! ## §3. The evaluators on well-formed events. -/

/-- The evaluator accepts. -/
def Accepts (r : Except PyError PolicyDecision) : Prop := ∃ d, r = .ok d ∧ d.decision = .accepted

/-- Of the answers of an evaluator only one accepts. -/
theorem accepts_iff {r : Except PyError PolicyDecision} (h : ∀ d, r = .ok d → Answer d) :
    Accepts r ↔ r = .ok accepted := by
  constructor
  · intro hacc
    obtain ⟨d, hd, hdec⟩ := hacc
    rcases h d hd with rfl | ⟨reason, rfl⟩ | ⟨reason, rfl⟩
    · exact hd
    · cases hdec
    · cases hdec
  · intro hr
    exact ⟨accepted, hr, rfl⟩

/-- **An evaluator that keeps the latest event of a kind.** -/
theorem evaluateWith_accepts_iff {σ : Type} {p : Event → Bool} {fits : Option Event → Event → Prop}
    {keep : Option Event → σ} {step : Step σ}
    (h : Keeps p fits Event.normal keep accepted step)
    {enabled : Bool} (henabled : enabled = true) (es : List Event)
    (hans : ∀ d, evaluateWith enabled step (keep none) accepted (es.map Event.json) = .ok d →
      Answer d) :
    Accepts (evaluateWith enabled step (keep none) accepted (es.map Event.json)) ↔
      Each (byLatest p fits) es := by
  rw [accepts_iff hans, evaluateWith, if_pos henabled, Event.validateEvents_json]
  exact scan_accepts_iff h es

section Lock

/-- A lock or a release. -/
def Event.locking (e : Event) : Bool := e.is .lock || e.is .release

/-- A lock fits unless another agent holds the lock; a release fits the holder. -/
def LockFits (o : Option Event) (e : Event) : Prop :=
  (e.is .lock = true → ∀ q ∈ o, q.is .lock = true → q.agent = e.agent) ∧
    (e.is .release = true → ∃ q ∈ o, q.is .lock = true ∧ q.agent = e.agent)

instance (o : Option Event) (e : Event) : Decidable (LockFits o e) :=
  inferInstanceAs (Decidable (_ ∧ _))

/-- A lock, a release, or neither. -/
theorem Event.lock_release (e : Event) :
    e.is .lock = true ∨ e.is .release = true ∨ (e.is .lock = false ∧ e.is .release = false) := by
  cases e.is .lock <;> cases e.is .release <;> simp

/-- `current_holder`, after the latest lock or release. -/
def holder : Option Event → Json
  | none => .null
  | some q => if q.is .lock then .str q.agent else .null

/-- After a lock its agent is the holder, -/
theorem holder_lock {e : Event} (h : e.is .lock = true) : holder (some e) = .str e.agent :=
  if_pos h

/-- and after anything else no one is. -/
theorem holder_unlocked {e : Event} (h : e.is .lock = false) : holder (some e) = .null :=
  if_neg (by simp [h])

/-- Nobody holds the lock, or the agent of the latest lock does. -/
theorem holder_cases (o : Option Event) :
    (holder o = .null ∧ ∀ q ∈ o, q.is .lock = false) ∨
      ∃ q, o = some q ∧ q.is .lock = true ∧ holder o = .str q.agent := by
  cases o with
  | none => exact .inl ⟨rfl, by simp⟩
  | some q =>
      cases h : q.is .lock with
      | false => exact .inl ⟨holder_unlocked h, by simpa using h⟩
      | true => exact .inr ⟨q, rfl, h, holder_lock h⟩

/-- The step of the evaluator on a well-formed event. -/
theorem lockStep_normal (s : Json) (e : Event) :
    lockStep s e.normal =
      if e.is .lock then
        if s ≠ .null ∧ s.pyEq (.str e.agent) = false then
          .ok (.stop (rejected Reason.lockConflict))
        else .ok (.next (.str e.agent))
      else if e.is .release then
        if s = .null then .ok (.stop (rejected Reason.releaseWithoutLock))
        else if (Json.str e.agent).pyEq s = false then .ok (.stop (rejected Reason.lockConflict))
        else .ok (.next .null)
      else .ok (.next s) := by
  simp only [lockStep, e.kind_normal .lock "lock" rfl, e.kind_normal .release "release" rfl,
    e.agentId_normal]

/-- The loop of the evaluator on locks keeps the latest lock or release. -/
theorem lock_keeps : Keeps Event.locking LockFits Event.normal holder accepted lockStep where
  next := by
    intro o e hfits
    obtain ⟨hlock, hrelease⟩ := hfits
    rw [lockStep_normal]
    rcases e.lock_release with hk | hk | ⟨hk, hk'⟩
    · rcases holder_cases o with ⟨hnull, -⟩ | ⟨q, rfl, hq, hheld⟩
      · simp [hnull, Event.locking, hk, holder_lock hk]
      · simp [hheld, hlock hk q rfl hq, Event.locking, hk, holder_lock hk]
    · have hno : e.is .lock = false := Event.is_false hk (by decide)
      obtain ⟨q, hmem, hq, hagent⟩ := hrelease hk
      cases hmem
      simp [holder_lock hq, hagent, Event.locking, hk, hno, holder_unlocked hno]
    · simp [Event.locking, hk, hk']
  stop := by
    intro o e hfits
    rw [lockStep_normal]
    rcases e.lock_release with hk | hk | ⟨hk, hk'⟩
    · have hno : e.is .release = false := Event.is_false hk (by decide)
      rcases holder_cases o with ⟨-, hfree⟩ | ⟨q, rfl, hq, hheld⟩
      · refine absurd ⟨fun _ q hq hl => ?_, fun h => ?_⟩ hfits
        · simp [hfree q hq] at hl
        · simp [hno] at h
      · have hne : q.agent ≠ e.agent := by
          intro heq
          exact hfits ⟨fun _ r hr _ => by cases hr; exact heq, fun h => by simp [hno] at h⟩
        exact ⟨rejected Reason.lockConflict, by decide, by simp [hheld, hne, hk]⟩
    · have hno : e.is .lock = false := Event.is_false hk (by decide)
      rcases holder_cases o with ⟨hnull, -⟩ | ⟨q, rfl, hq, hheld⟩
      · exact ⟨rejected Reason.releaseWithoutLock, by decide, by simp [hnull, hk, hno]⟩
      · have hne : e.agent ≠ q.agent := by
          intro heq
          exact hfits ⟨fun h => by simp [hno] at h, fun _ => ⟨q, rfl, hq, heq.symm⟩⟩
        exact ⟨rejected Reason.lockConflict, by decide, by simp [hheld, hne, hk, hno]⟩
    · exact absurd ⟨fun h => by simp [hk] at h, fun h => by simp [hk'] at h⟩ hfits

/-- **When the evaluator on locks accepts.** -/
theorem lock_accepts_iff {pack : PolicyPack} (h : pack.lockOwnershipInvariant = true)
    (es : List Event) :
    Accepts (evaluateLockOwnershipInvariant (es.map Event.json) pack) ↔
      Each (byLatest Event.locking LockFits) es :=
  evaluateWith_accepts_iff lock_keeps h es fun _ hd =>
    evaluate_answer (c := .lockOwnershipInvariant) hd

end Lock

section Claims

/-- A delegation fits a claim by its own agent. -/
def HandoffFits (o : Option Event) (e : Event) : Prop :=
  e.is .delegate = true → ∃ c ∈ o, c.agent = e.agent

/-- A delegation fits a claim by its own agent, of its own task. -/
def DelegationFits (o : Option Event) (e : Event) : Prop :=
  e.is .delegate = true → ∃ c ∈ o, c.agent = e.agent ∧ c.task = e.task

instance (o : Option Event) (e : Event) : Decidable (HandoffFits o e) :=
  inferInstanceAs (Decidable (_ → _))

instance (o : Option Event) (e : Event) : Decidable (DelegationFits o e) :=
  inferInstanceAs (Decidable (_ → _))

/-- `claim_owner`, after the latest claim. -/
def claimOwner : Option Event → Json
  | none => .null
  | some c => .str c.agent

/-- `claim_task_id`, after the latest claim. -/
def claimTask : Option Event → Json
  | none => .null
  | some c => .str c.task

/-- A claim, a delegation, or neither. -/
theorem Event.claim_delegate (e : Event) :
    e.is .claim = true ∨ e.is .delegate = true ∨
      (e.is .claim = false ∧ e.is .delegate = false) := by
  cases e.is .claim <;> cases e.is .delegate <;> simp

/-- A turn of the handoff evaluator on a well-formed event. -/
theorem handoffStep_normal (s : Json) (e : Event) :
    handoffStep s e.normal =
      if e.is .claim then .ok (.next (.str e.agent))
      else if e.is .delegate then
        if s = .null then .ok (.stop (rejected Reason.delegateWithoutPriorClaim))
        else if (Json.str e.agent).pyEq s = false then .ok (.stop (rejected Reason.ownerMismatch))
        else .ok (.next s)
      else .ok (.next s) := by
  simp only [handoffStep, e.kind_normal .claim "claim" rfl,
    e.kind_normal .delegate "delegate" rfl, e.agentId_normal]

/-- The loop of the evaluator on handoffs keeps the latest claim. -/
theorem handoff_keeps :
    Keeps (fun e : Event => e.is .claim) HandoffFits Event.normal claimOwner accepted
      handoffStep where
  next := by
    intro o e hfits
    rw [handoffStep_normal]
    -- A claim always fits, and is kept; a delegation is tested; the rest is passed over.
    rcases e.claim_delegate with hk | hk | ⟨hk, hk'⟩
    · simp [hk, claimOwner]
    · have hno : e.is .claim = false := Event.is_false hk (by decide)
      obtain ⟨c, hmem, hagent⟩ := hfits hk
      cases hmem
      simp [hk, hno, claimOwner, hagent]
    · simp [hk, hk']
  stop := by
    intro o e hfits
    rw [handoffStep_normal]
    rcases e.claim_delegate with hk | hk | ⟨hk, hk'⟩
    · have hno : e.is .delegate = false := Event.is_false hk (by decide)
      exact absurd (fun h => by simp [hno] at h) hfits
    · have hno : e.is .claim = false := Event.is_false hk (by decide)
      cases o with
      | none =>
          exact ⟨rejected Reason.delegateWithoutPriorClaim, by decide,
            by simp [claimOwner, hk, hno]⟩
      | some c =>
          have hne : e.agent ≠ c.agent := fun heq => hfits fun _ => ⟨c, rfl, heq.symm⟩
          exact ⟨rejected Reason.ownerMismatch, by decide, by simp [claimOwner, hne, hk, hno]⟩
    · exact absurd (fun h => by simp [hk'] at h) hfits

/-- **When the evaluator on handoffs accepts.** -/
theorem handoff_accepts_iff {pack : PolicyPack} (h : pack.singleOwnerHandoff = true)
    (es : List Event) :
    Accepts (evaluateHandoffLegality (es.map Event.json) pack) ↔
      Each (byLatest (fun e => e.is .claim) HandoffFits) es :=
  evaluateWith_accepts_iff handoff_keeps h es fun _ hd =>
    evaluate_answer (c := .handoffLegality) hd

/-- A turn of the delegation evaluator. -/
theorem delegationStep_normal (s t : Json) (e : Event) :
    delegationStep (s, t) e.normal =
      if e.is .claim then .ok (.next (.str e.agent, .str e.task))
      else if e.is .delegate then
        if s = .null then .ok (.stop (rejected Reason.delegateWithoutPriorClaim))
        else if (Json.str e.agent).pyEq s = false then .ok (.stop (rejected Reason.ownerMismatch))
        else if t ≠ .null ∧ (Json.str e.task).pyEq t = false then
          .ok (.stop (rejected Reason.invalidStateTransition))
        else .ok (.next (s, t))
      else .ok (.next (s, t)) := by
  simp only [delegationStep, e.kind_normal .claim "claim" rfl,
    e.kind_normal .delegate "delegate" rfl, e.agentId_normal, e.taskId_normal, ne_eq,
    reduceCtorEq, not_false_eq_true, true_and]

/-- The loop of the evaluator on delegations keeps the latest claim. -/
theorem delegation_keeps :
    Keeps (fun e : Event => e.is .claim) DelegationFits Event.normal
      (fun o => (claimOwner o, claimTask o)) accepted delegationStep where
  next := by
    intro o e hfits
    rw [delegationStep_normal]
    rcases e.claim_delegate with hk | hk | ⟨hk, hk'⟩
    · simp [hk, claimOwner, claimTask]
    · have hno : e.is .claim = false := Event.is_false hk (by decide)
      obtain ⟨c, hmem, hagent, htask⟩ := hfits hk
      cases hmem
      simp [hk, hno, claimOwner, claimTask, hagent, htask]
    · simp [hk, hk']
  stop := by
    intro o e hfits
    rw [delegationStep_normal]
    rcases e.claim_delegate with hk | hk | ⟨hk, hk'⟩
    · have hno : e.is .delegate = false := Event.is_false hk (by decide)
      exact absurd (fun h => by simp [hno] at h) hfits
    · have hno : e.is .claim = false := Event.is_false hk (by decide)
      cases o with
      | none =>
          exact ⟨rejected Reason.delegateWithoutPriorClaim, by decide,
            by simp [claimOwner, hk, hno]⟩
      | some c =>
          by_cases hagent : e.agent = c.agent
          · have hne : e.task ≠ c.task := fun heq =>
              hfits fun _ => ⟨c, rfl, hagent.symm, heq.symm⟩
            exact ⟨rejected Reason.invalidStateTransition, by decide,
              by simp [claimOwner, claimTask, hagent, hne, hk, hno]⟩
          · exact ⟨rejected Reason.ownerMismatch, by decide,
              by simp [claimOwner, hagent, hk, hno]⟩
    · exact absurd (fun h => by simp [hk'] at h) hfits

/-- **When the evaluator on delegations accepts.** -/
theorem delegation_accepts_iff {pack : PolicyPack} (h : pack.delegationAdmissibility = true)
    (es : List Event) :
    Accepts (evaluateDelegationAdmissibility (es.map Event.json) pack) ↔
      Each (byLatest (fun e => e.is .claim) DelegationFits) es :=
  evaluateWith_accepts_iff delegation_keeps h es fun _ hd =>
    evaluate_answer (c := .delegationAdmissibility) hd

end Claims

section Approvals

/-- An event that only goes after an approval. -/
def Event.gated (e : Event) : Bool := e.is .execute || e.is .recover

/-- A gated event fits any approval. -/
def ApprovalFits (o : Option Event) (e : Event) : Prop := e.gated = true → o.isSome = true

instance (o : Option Event) (e : Event) : Decidable (ApprovalFits o e) :=
  inferInstanceAs (Decidable (_ → _))

/-- A turn of the two evaluators that wait for an approval. -/
theorem approvedFirstStep_normal (reason : String) (s : Bool) (e : Event) :
    approvedFirstStep reason s e.normal =
      if e.gated then
        if s then .ok (.next s) else .ok (.stop (rejected reason))
      else if e.is .approve then .ok (.next true)
      else .ok (.next s) := by
  simp only [approvedFirstStep, e.kind_normal .execute "execute" rfl,
    e.kind_normal .recover "recover" rfl, e.kind_normal .approve "approve" rfl, Event.gated,
    Bool.or_eq_true]

/-- The loop of the evaluators on approvals keeps whether there was one. -/
theorem approvedFirst_keeps (reason : String) :
    Keeps (fun e : Event => e.is .approve) ApprovalFits Event.normal Option.isSome accepted
      (approvedFirstStep reason) where
  next := by
    intro o e hfits
    rw [approvedFirstStep_normal]
    cases hgated : e.gated with
    | true =>
        have happ : e.is .approve = false := by
          rcases Bool.or_eq_true_iff.mp hgated with h | h
          · exact Event.is_false h (by decide)
          · exact Event.is_false h (by decide)
        simp [hfits hgated, happ]
    | false => cases happ : e.is .approve <;> simp
  stop := by
    intro o e hfits
    rw [approvedFirstStep_normal]
    obtain ⟨hgated, hnone⟩ := Classical.not_imp.mp hfits
    refine ⟨rejected reason, by simp [rejected, accepted], ?_⟩
    simp [hgated, hnone]

/-- **When the evaluator on state transitions accepts.** -/
theorem stateTransition_accepts_iff {pack : PolicyPack}
    (h : pack.stateTransitionPreservation = true) (es : List Event) :
    Accepts (evaluateStateTransitionPreservation (es.map Event.json) pack) ↔
      Each (byLatest (fun e => e.is .approve) ApprovalFits) es :=
  evaluateWith_accepts_iff (approvedFirst_keeps _) h es fun _ hd =>
    evaluate_answer (c := .stateTransitionPreservation) hd

/-- **When the evaluator on side effects accepts.** -/
theorem sideEffect_accepts_iff {pack : PolicyPack} (h : pack.sideEffectAuthorization = true)
    (es : List Event) :
    Accepts (evaluateSideEffectAuthorization (es.map Event.json) pack) ↔
      Each (byLatest (fun e => e.is .approve) ApprovalFits) es :=
  evaluateWith_accepts_iff (approvedFirst_keeps _) h es fun _ hd =>
    evaluate_answer (c := .sideEffectAuthorization) hd

end Approvals

end ProtocolEvaluator

end ObligationRuntime
