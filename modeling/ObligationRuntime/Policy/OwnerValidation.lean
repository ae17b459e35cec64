/-
  ObligationRuntime.Policy.OwnerValidation — validators.py of `lean_langchain_protocol`:
  the owners of tasks, delegation by delegation.

  `validate_single_owner` reads the delegations only.  Each makes its receiver the owner
  of its task, and is a violation where the task has an owner already and another agent
  delegates it.

  Main results:
    * `owners_eq` — the owner of a task is the receiver of its latest delegation,
    * `validateSingleOwner_iff` — there is no violation exactly when the delegations of
      every task form a chain, each made by the receiver of the one before.
-/
import ObligationRuntime.Policy.EventHistory

namespace ObligationRuntime

open Py Monitor

namespace ProtocolEvaluator

/-! ## §1. The validator. -/

variable (render : Json → String)

/-- `str(v)`: text is itself; what another value prints as is left open. -/
def str : Json → String
  | .str s => s
  | v => render v

/-- `str(event.payload.get("to_agent_id"))`, whom a delegation names. -/
def receiver (event : ProtocolEvent) : String :=
  str render (Dict.getD event.payload "to_agent_id" .null)

/-- The mapping from tasks to owners, and the reasons so far. -/
structure Ownership where
  owners : String → Option String := fun _ => none
  reasons : List String := []

/-- One turn of the loop. -/
def ownershipStep (s : Ownership) (event : ProtocolEvent) : Ownership :=
  if event.kind = .delegate then
    { owners := Function.update s.owners event.task.taskId (some (receiver render event))
      reasons :=
        match s.owners event.task.taskId with
        | some owner =>
            if owner ≠ event.actor.agentId then s.reasons ++ ["multiple_active_owners"]
            else s.reasons
        -- The first delegation of a task is free to anybody.
        | none => s.reasons }
  else s

/-- The loop. -/
def ownership (events : List ProtocolEvent) : Ownership := events.foldl (ownershipStep render) {}

/-- `validate_single_owner`. -/
def validateSingleOwner (events : List ProtocolEvent) : Bool × List String :=
  (decide ((ownership render events).reasons.length = 0), (ownership render events).reasons)

/-! ## §2. Chains of delegations. -/

/-- The task of the event. -/
def ProtocolEvent.taskId (e : ProtocolEvent) : String := e.task.taskId

/-- The event delegates its task. -/
def ProtocolEvent.delegates (e : ProtocolEvent) : Bool := decide (e.kind = .delegate)

/-- The delegations of a list. -/
def delegations (es : List ProtocolEvent) : List ProtocolEvent :=
  es.filter ProtocolEvent.delegates

/-- The second delegation is made by the receiver of the first. -/
def Passed (d e : ProtocolEvent) : Prop := receiver render d = e.actor.agentId

instance (d e : ProtocolEvent) : Decidable (Passed render d e) :=
  inferInstanceAs (Decidable (_ = _))

/-- The fold over one event more. -/
theorem ownership_concat (es : List ProtocolEvent) (e : ProtocolEvent) :
    ownership render (es ++ [e]) = ownershipStep render (ownership render es) e := by
  simp [ownership]

/-- **The owner of a task is the receiver of its latest delegation.** -/
theorem owners_eq (es : List ProtocolEvent) (task : String) :
    (ownership render es).owners task =
      (latest (fun e => e.delegates && decide (e.taskId = task)) es).map (receiver render) := by
  induction es using List.reverseRecOn with
  | nil => rfl
  | append_singleton es e ih =>
      rw [ownership_concat, latest_concat, ownershipStep]
      -- Only a delegation of the task changes its owner, and it is the latest one then.
      by_cases hk : e.kind = .delegate
      · by_cases ht : e.taskId = task
        · subst ht
          simp [hk, ProtocolEvent.delegates, ProtocolEvent.taskId]
        · have hne : task ≠ e.task.taskId := fun h => ht h.symm
          simp [hk, ht, ih, Function.update_of_ne hne]
      · simp [hk, ih, ProtocolEvent.delegates]

/-- A delegation is made by the receiver of the latest one of its task, if there is one. -/
def ByOwner (pre : List ProtocolEvent) (e : ProtocolEvent) : Prop :=
  e.delegates = true →
    ∀ d ∈ latest (fun q => q.delegates && decide (q.taskId = e.taskId)) pre, Passed render d e

/-- There are reasons exactly when some delegation is not by the owner. -/
theorem reasons_eq_nil_iff (es : List ProtocolEvent) :
    (ownership render es).reasons = [] ↔ Each (ByOwner render) es := by
  induction es using List.reverseRecOn with
  | nil => simp [ownership]
  | append_singleton es e ih =>
      have howner : (ownership render es).owners e.task.taskId =
          (latest (fun q => q.delegates && decide (q.taskId = e.taskId)) es).map
            (receiver render) := owners_eq render es e.taskId
      rw [ownership_concat, each_concat, ← ih, ByOwner, ownershipStep]
      by_cases hk : e.kind = .delegate
      · rw [if_pos hk, howner]
        -- The turn adds a reason exactly where there is an owner, and it is another agent.
        cases latest (fun q => q.delegates && decide (q.taskId = e.taskId)) es with
        | none => simp
        | some d =>
            by_cases hd : receiver render d = e.actor.agentId
            · simp [hd, Passed]
            · simp [hd, hk, Passed, ProtocolEvent.delegates]
      · simp [hk, ProtocolEvent.delegates]

/-- The validator is content where the fold has found nothing. -/
theorem validateSingleOwner_eq_iff (es : List ProtocolEvent) :
    validateSingleOwner render es = (true, []) ↔ (ownership render es).reasons = [] := by
  rw [validateSingleOwner, Prod.mk.injEq, decide_eq_true_eq, List.length_eq_zero_iff, and_self_iff]

/-- **When the validator finds no violation**: the delegations of every task form a
chain. -/
theorem validateSingleOwner_iff (es : List ProtocolEvent) :
    validateSingleOwner render es = (true, []) ↔
      ∀ task, (delegations (on ProtocolEvent.taskId task es)).IsChain (Passed render) := by
  rw [validateSingleOwner_eq_iff, reasons_eq_nil_iff]
  unfold ByOwner
  rw [← each_keyed_latest ProtocolEvent.taskId ProtocolEvent.delegates
    (fun o e => e.delegates = true → ∀ d ∈ o, Passed render d e)]
  exact forall_congr' fun task => each_isChain _

/-- A turn leaves the reasons, or adds the one there is. -/
theorem ownershipStep_reasons (s : Ownership) (e : ProtocolEvent) :
    (ownershipStep render s e).reasons = s.reasons ∨
      (ownershipStep render s e).reasons = s.reasons ++ ["multiple_active_owners"] := by
  unfold ownershipStep
  split
  · cases s.owners e.task.taskId with
    | none => exact .inl rfl
    | some owner =>
        by_cases h : owner = e.actor.agentId
        · exact .inl (by simp [h])
        · exact .inr (by simp [h])
  · exact .inl rfl

/-- The validator knows one reason. -/
theorem mem_reasons {es : List ProtocolEvent} {reason : String}
    (h : reason ∈ (validateSingleOwner render es).2) : reason = "multiple_active_owners" := by
  change reason ∈ (ownership render es).reasons at h
  induction es using List.reverseRecOn with
  | nil => cases h
  | append_singleton es e ih =>
      rw [ownership_concat] at h
      rcases ownershipStep_reasons render (ownership render es) e with hstep | hstep
      · exact ih (hstep ▸ h)
      · rw [hstep] at h
        rcases List.mem_append.mp h with h | h
        · exact ih h
        · exact List.mem_singleton.mp h

end ProtocolEvaluator

end ObligationRuntime
