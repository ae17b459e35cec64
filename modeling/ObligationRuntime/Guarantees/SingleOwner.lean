/-
  ObligationRuntime.Guarantees.SingleOwner — two checks that a task has one owner.

  On a task that is claimed once, `evaluate_handoff_legality` wants every delegation to
  be made by the claimant.  `validate_single_owner` does not read the claim; it wants
  every delegation after the first to be made by the receiver of the one before.  The
  two ask for the same agents as long as the task stays with the claimant: where the
  first delegation is somebody else's, or one that is followed by another hands the task
  away, they agree only when both refuse.

  Main results:
    * `handoff_accepts_delegations`, `validateSingleOwner_delegations` — the two rules,
      on the delegations alone,
    * `single_owner_agree_iff` — when the two checks agree,
    * `single_owner_disagree` — three histories on which they do not.
-/
import ObligationRuntime.Policy.OwnerValidation

namespace ObligationRuntime

open Py Monitor

namespace ProtocolEvaluator

/-! ## §1. Histories of a task that is claimed once. -/

/-- A claim, and what follows it on its task: no further claim, and delegations that
name their receivers. -/
structure ClaimedOnce (claim : ProtocolEvent) (rest : List ProtocolEvent) : Prop where
  claims : claim.kind = .claim
  noFurther : ∀ e ∈ rest, e.kind ≠ .claim
  oneTask : ∀ e ∈ rest, e.taskId = claim.taskId
  named : ∀ e ∈ rest, e.kind = .delegate → (Dict.get? e.payload "to_agent_id").isSome = true

/-- The events as the evaluators read them. -/
def dumped (es : List ProtocolEvent) : List Json := (es.map ProtocolEvent.event).map Event.json

theorem ProtocolEvent.is_event (e : ProtocolEvent) (k : EventKind) :
    e.event.is k = decide (e.kind = k) := by
  have hkind : Dict.getD e.event.data "kind" .null = .str e.kind.text := rfl
  simp only [Event.is, hkind, Json.str.injEq, EventKind.text_injective.eq_iff]

section Rules

variable {claim : ProtocolEvent} {rest : List ProtocolEvent}

/-- The latest claim is the only one. -/
theorem ClaimedOnce.latest_claim (h : ClaimedOnce claim rest) :
    latest (fun e : Event => e.is .claim) ((claim :: rest).map ProtocolEvent.event) =
      some claim.event := by
  have hnone : (rest.map ProtocolEvent.event).filter (fun e => e.is .claim) = [] := by
    rw [List.filter_eq_nil_iff]
    intro e he
    obtain ⟨q, hq, rfl⟩ := List.mem_map.mp he
    simp [q.is_event, h.noFurther q hq]
  rw [latest, List.map_cons, List.filter_cons_of_pos (by simp [claim.is_event, h.claims]), hnone]
  rfl

/-- What holds of a history holds of its beginnings. -/
theorem ClaimedOnce.init {e : ProtocolEvent} (h : ClaimedOnce claim (rest ++ [e])) :
    ClaimedOnce claim rest where
  claims := h.claims
  noFurther q hq := h.noFurther q (List.mem_append_left _ hq)
  oneTask q hq := h.oneTask q (List.mem_append_left _ hq)
  named q hq := h.named q (List.mem_append_left _ hq)

/-- **The rule of the evaluator**: every delegation is made by the claimant. -/
theorem handoff_accepts_delegations {pack : PolicyPack} (hpack : pack.singleOwnerHandoff = true)
    (h : ClaimedOnce claim rest) :
    Accepts (evaluateHandoffLegality (dumped (claim :: rest)) pack) ↔
      ∀ d ∈ delegations rest, d.actor.agentId = claim.actor.agentId := by
  rw [dumped, handoff_accepts_iff hpack]
  induction rest using List.reverseRecOn with
  | nil =>
      have hclaim : claim.event.is .delegate = false := by simp [claim.is_event, h.claims]
      simp [Each, EachFrom, byLatest, HandoffFits, hclaim, delegations]
  | append_singleton rest e ih =>
      rw [← List.cons_append, List.map_append, List.map_singleton, each_concat, ih h.init,
        byLatest, h.init.latest_claim, delegations, delegations, List.filter_append]
      -- The claim is the latest one at every event, so each delegation is compared with it.
      by_cases hk : e.kind = .delegate
      · have he : e.event.is .delegate = true := by simp [e.is_event, hk]
        have hfits : HandoffFits (some claim.event) e.event ↔
            e.actor.agentId = claim.actor.agentId := by
          simp only [HandoffFits, he, true_imp_iff, Option.mem_some_iff, exists_eq_left']
          exact eq_comm
        simp [hfits, ProtocolEvent.delegates, hk, or_imp, forall_and]
      · have he : e.event.is .delegate = false := by simp [e.is_event, hk]
        simp [HandoffFits, he, ProtocolEvent.delegates, hk]

/-- **The rule of the validator**: every delegation but the first is made by the receiver
of the one before. -/
theorem validateSingleOwner_delegations (render : Json → String) (h : ClaimedOnce claim rest) :
    validateSingleOwner render (claim :: rest) = (true, []) ↔
      (delegations rest).IsChain (Passed render) := by
  have hclaim : delegations (claim :: rest) = delegations rest := by
    simp [delegations, ProtocolEvent.delegates, h.claims]
  have htask : ∀ e ∈ claim :: rest, e.taskId = claim.taskId := by simpa using h.oneTask
  rw [validateSingleOwner_iff, ← hclaim]
  constructor
  · intro hall
    have hone := hall claim.taskId
    rwa [on_of_forall _ htask, if_pos rfl] at hone
  · -- The other tasks have no events.
    intro hchain task
    rw [on_of_forall _ htask]
    split
    · exact hchain
    · exact .nil

end Rules

/-! ## §2. When the rules agree. -/

/-- The task stays with the agent: the first delegation is made by it, and none that is
followed by another hands the task to anyone else. -/
def StaysWith (render : Json → String) (agent : String) (ds : List ProtocolEvent) : Prop :=
  (∀ d ∈ ds.head?, d.actor.agentId = agent) ∧ ∀ d ∈ ds.dropLast, receiver render d = agent

/-- Somebody else makes a delegation. -/
def OthersDelegate (agent : String) (ds : List ProtocolEvent) : Prop :=
  ∃ d ∈ ds, d.actor.agentId ≠ agent

/-- Some delegation follows one that names another agent than the one that makes it. -/
def ChainBreaks (render : Json → String) (ds : List ProtocolEvent) : Prop :=
  ∃ pre d e post, ds = pre ++ d :: e :: post ∧ e.actor.agentId ≠ receiver render d

section Chains

variable {render : Json → String} {agent : String}

/-- Delegations that follow one to the agent: a chain needs the agent to make them. -/
theorem isChain_of_receivers : ∀ (ds : List ProtocolEvent) (d : ProtocolEvent),
    (∀ x ∈ (d :: ds).dropLast, receiver render x = agent) →
    ((d :: ds).IsChain (Passed render) ↔ ∀ e ∈ ds, e.actor.agentId = agent)
  | [], d, _ => by simp
  | e :: ds, d, h => by
      rw [List.dropLast_cons_cons, List.forall_mem_cons] at h
      rw [List.isChain_cons_cons, isChain_of_receivers ds e h.2, List.forall_mem_cons, Passed, h.1,
        eq_comm]

/-- Delegations made by the agent: a chain needs them to follow delegations to it. -/
theorem isChain_of_agents : ∀ (ds : List ProtocolEvent) (d : ProtocolEvent),
    (∀ e ∈ ds, e.actor.agentId = agent) →
    ((d :: ds).IsChain (Passed render) ↔ ∀ x ∈ (d :: ds).dropLast, receiver render x = agent)
  | [], d, _ => by simp
  | e :: ds, d, h => by
      rw [List.forall_mem_cons] at h
      rw [List.isChain_cons_cons, isChain_of_agents ds e h.2, List.dropLast_cons_cons,
        List.forall_mem_cons, Passed, h.1]

/-- **Where the task stays with the agent, the two rules are one.** -/
theorem StaysWith.isChain_iff {ds : List ProtocolEvent} (h : StaysWith render agent ds) :
    ds.IsChain (Passed render) ↔ ∀ d ∈ ds, d.actor.agentId = agent := by
  cases ds with
  | nil => simp
  | cons d ds =>
      obtain ⟨hfirst, hreceivers⟩ := h
      have hd : d.actor.agentId = agent := hfirst d rfl
      rw [isChain_of_receivers ds d hreceivers, List.forall_mem_cons, and_iff_right hd]

/-- Delegations that keep both rules leave the task with the agent. -/
theorem staysWith_of_isChain {ds : List ProtocolEvent} (hchain : ds.IsChain (Passed render))
    (hagents : ∀ d ∈ ds, d.actor.agentId = agent) : StaysWith render agent ds := by
  cases ds with
  | nil => simp [StaysWith]
  | cons d ds =>
      obtain ⟨hd, hds⟩ := List.forall_mem_cons.mp hagents
      exact ⟨by simpa using hd, (isChain_of_agents ds d hds).mp hchain⟩

theorem chainBreaks_iff {ds : List ProtocolEvent} :
    ChainBreaks render ds ↔ ¬ ds.IsChain (Passed render) := by
  rw [List.isChain_iff_forall_rel_of_append_cons_cons, ChainBreaks]
  push Not
  constructor
  · intro ⟨pre, d, e, post, hds, hne⟩
    exact ⟨d, e, pre, post, hds, fun h => hne h.symm⟩
  · intro ⟨d, e, pre, post, hds, hne⟩
    exact ⟨pre, d, e, post, hds, fun h => hne h.symm⟩

end Chains

/-- **When the two checks of a single owner agree**: the task stays with the claimant,
or both checks find a delegation that is wrong for them. -/
theorem single_owner_agree_iff (render : Json → String) {pack : PolicyPack}
    (hpack : pack.singleOwnerHandoff = true) {claim : ProtocolEvent} {rest : List ProtocolEvent}
    (h : ClaimedOnce claim rest) :
    (validateSingleOwner render (claim :: rest) = (true, []) ↔
        Accepts (evaluateHandoffLegality (dumped (claim :: rest)) pack)) ↔
      StaysWith render claim.actor.agentId (delegations rest) ∨
        (OthersDelegate claim.actor.agentId (delegations rest) ∧
          ChainBreaks render (delegations rest)) := by
  have hothers : OthersDelegate claim.actor.agentId (delegations rest) ↔
      ¬ ∀ d ∈ delegations rest, d.actor.agentId = claim.actor.agentId := by
    simp [OthersDelegate]
  rw [handoff_accepts_delegations hpack h, validateSingleOwner_delegations render h, hothers,
    chainBreaks_iff]
  constructor
  · intro hagree
    -- Where both accept, the task stayed with the claimant; else both refuse.
    by_cases hagents : ∀ d ∈ delegations rest, d.actor.agentId = claim.actor.agentId
    · exact .inl (staysWith_of_isChain (hagree.mpr hagents) hagents)
    · exact .inr ⟨hagents, fun hchain => hagents (hagree.mp hchain)⟩
  · rintro (hstays | ⟨hagents, hchain⟩)
    · exact hstays.isChain_iff
    · exact iff_of_false hchain hagents

namespace Scripted

/-- A pack that enables the class. -/
def ownerPack : PolicyPack where
  version := "0.1.0"
  name := "single_owner_handoff_v1"
  description := "A task may have exactly one active owner"
  singleOwnerHandoff := true

/-- An event on the task `t1`. -/
def taskEvent (kind : EventKind) (agent : String) (payload : Dict) : ProtocolEvent where
  eventId := "e"
  kind := kind
  actor := ⟨agent, "worker"⟩
  task := ⟨"t1", "patch"⟩
  payload := payload

/-- The claim. -/
def claimBy (agent : String) : ProtocolEvent := taskEvent .claim agent []

/-- A delegation. -/
def delegation (agent other : String) : ProtocolEvent :=
  taskEvent .delegate agent [("to_agent_id", .str other)]

/-- How `None` prints. -/
def printed : Json → String := fun _ => "None"

/-- A claim and delegations, given by their agents and receivers. -/
theorem claimedOnce (agent : String) (ds : List (String × String)) :
    ClaimedOnce (claimBy agent) (ds.map fun d => delegation d.1 d.2) where
  claims := rfl
  noFurther e he := by
    obtain ⟨d, -, rfl⟩ := List.mem_map.mp he
    simp [delegation, taskEvent]
  oneTask e he := by
    obtain ⟨d, -, rfl⟩ := List.mem_map.mp he
    rfl
  named e he _ := by
    obtain ⟨d, -, rfl⟩ := List.mem_map.mp he
    rfl

/-- The claimant hands the task to itself, and then away. -/
theorem single_owner_agree_iff_scripted :
    validateSingleOwner printed
        [claimBy "alice", delegation "alice" "alice", delegation "alice" "bob"] = (true, []) ↔
      Accepts (evaluateHandoffLegality (dumped
        [claimBy "alice", delegation "alice" "alice", delegation "alice" "bob"]) ownerPack) :=
  (single_owner_agree_iff printed rfl
    (claimedOnce "alice" [("alice", "alice"), ("alice", "bob")])).mpr
    (.inl ⟨by decide, by decide⟩)

/-- **Where the two checks disagree.**  A delegation by somebody else, and one by the
receiver, are violations for the evaluator only; a second delegation by the claimant is
one for the validator only. -/
theorem single_owner_disagree :
    (ClaimedOnce (claimBy "alice") [delegation "bob" "carol"] ∧
      validateSingleOwner printed [claimBy "alice", delegation "bob" "carol"] = (true, []) ∧
      ¬ Accepts (evaluateHandoffLegality (dumped
        [claimBy "alice", delegation "bob" "carol"]) ownerPack)) ∧
    (ClaimedOnce (claimBy "alice") [delegation "alice" "bob", delegation "bob" "carol"] ∧
      validateSingleOwner printed
        [claimBy "alice", delegation "alice" "bob", delegation "bob" "carol"] = (true, []) ∧
      ¬ Accepts (evaluateHandoffLegality (dumped
        [claimBy "alice", delegation "alice" "bob", delegation "bob" "carol"]) ownerPack)) ∧
    (ClaimedOnce (claimBy "alice") [delegation "alice" "bob", delegation "alice" "carol"] ∧
      validateSingleOwner printed
        [claimBy "alice", delegation "alice" "bob", delegation "alice" "carol"] =
          (false, ["multiple_active_owners"]) ∧
      Accepts (evaluateHandoffLegality (dumped
        [claimBy "alice", delegation "alice" "bob", delegation "alice" "carol"]) ownerPack)) := by
  have hone := claimedOnce "alice" [("bob", "carol")]
  have hrelayed := claimedOnce "alice" [("alice", "bob"), ("bob", "carol")]
  have htwice := claimedOnce "alice" [("alice", "bob"), ("alice", "carol")]
  refine ⟨⟨hone, rfl, ?_⟩, ⟨hrelayed, rfl, ?_⟩, ⟨htwice, rfl, ?_⟩⟩
  · exact fun h => absurd ((handoff_accepts_delegations rfl hone).mp h) (by decide)
  · exact fun h => absurd ((handoff_accepts_delegations rfl hrelayed).mp h) (by decide)
  · exact (handoff_accepts_delegations rfl htwice).mpr (by decide)

end Scripted

end ProtocolEvaluator

end ObligationRuntime
