/-
  ObligationRuntime.Guarantees.TaskScope — ownership and authorization, task by task.

  Four evaluators judge an event by an earlier one: a delegation by the latest claim, an
  execution or a recovery by an approval.  Each event is of a task, and the earlier event
  should be of the same one; the evaluators take it from the whole list.  So a claim of
  one task hides the claims of the others, and an approval of one approves them all.

  Main results:
    * `tasks_admit_iff` — what the tasks, one by one, ask of each event,
    * `task_scope_iff` — when the whole list is accepted exactly when each task is,
    * `task_scope_fails` — one list for each evaluator, and two for the first.
-/
import ObligationRuntime.Policy.EventHistory

namespace ObligationRuntime

open Py Monitor

namespace ProtocolEvaluator

/-! ## §1. The four classes. -/

/-- The classes that judge an event by an earlier one. -/
inductive TaskClass where
  | handoffLegality
  | delegationAdmissibility
  | stateTransitionPreservation
  | sideEffectAuthorization
  deriving DecidableEq, Repr

namespace TaskClass

/-- The evaluator of the class. -/
def evaluate : TaskClass → List Json → PolicyPack → Except PyError PolicyDecision
  | .handoffLegality => evaluateHandoffLegality
  | .delegationAdmissibility => evaluateDelegationAdmissibility
  | .stateTransitionPreservation => evaluateStateTransitionPreservation
  | .sideEffectAuthorization => evaluateSideEffectAuthorization

/-- The pack enables the class. -/
def enabled : TaskClass → PolicyPack → Bool
  | .handoffLegality => PolicyPack.singleOwnerHandoff
  | .delegationAdmissibility => PolicyPack.delegationAdmissibility
  | .stateTransitionPreservation => PolicyPack.stateTransitionPreservation
  | .sideEffectAuthorization => PolicyPack.sideEffectAuthorization

/-- The evaluator accepts the events. -/
def Admits (c : TaskClass) (pack : PolicyPack) (es : List Event) : Prop :=
  Accepts (c.evaluate (es.map Event.json) pack)

/-- The events the class keeps. -/
def kept : TaskClass → Event → Bool
  | .handoffLegality | .delegationAdmissibility => fun e => e.is .claim
  | .stateTransitionPreservation | .sideEffectAuthorization => fun e => e.is .approve

/-- An event fits the latest of them. -/
def Fits : TaskClass → Option Event → Event → Prop
  | .handoffLegality => HandoffFits
  | .delegationAdmissibility => DelegationFits
  | .stateTransitionPreservation | .sideEffectAuthorization => ApprovalFits

instance (c : TaskClass) (o : Option Event) (e : Event) : Decidable (c.Fits o e) :=
  match c with
  | .handoffLegality => inferInstanceAs (Decidable (HandoffFits o e))
  | .delegationAdmissibility => inferInstanceAs (Decidable (DelegationFits o e))
  | .stateTransitionPreservation => inferInstanceAs (Decidable (ApprovalFits o e))
  | .sideEffectAuthorization => inferInstanceAs (Decidable (ApprovalFits o e))

theorem admits_iff {c : TaskClass} {pack : PolicyPack} (h : c.enabled pack = true)
    (es : List Event) : c.Admits pack es ↔ Each (byLatest c.kept c.Fits) es := by
  cases c with
  | handoffLegality => exact handoff_accepts_iff h es
  | delegationAdmissibility => exact delegation_accepts_iff h es
  | stateTransitionPreservation => exact stateTransition_accepts_iff h es
  | sideEffectAuthorization => exact sideEffect_accepts_iff h es

/-! ## §2. What an event needs. -/

/-- A delegation comes from the agent of the latest claim on the list. -/
def ClaimedOnList (pre : List Event) (e : Event) : Prop :=
  e.is .delegate = true → ∃ c ∈ latest (fun q => q.is .claim) pre, c.agent = e.agent

/-- A delegation comes from the agent of the latest claim of its task. -/
def ClaimedOnTask (pre : List Event) (e : Event) : Prop :=
  e.is .delegate = true →
    ∃ c ∈ latest (fun q => q.is .claim && decide (q.task = e.task)) pre, c.agent = e.agent

/-- A delegation comes while the latest claim on the list is of its task. -/
def LatestOfTask (pre : List Event) (e : Event) : Prop :=
  e.is .delegate = true → ∃ c ∈ latest (fun q => q.is .claim) pre, c.task = e.task

/-- An execution or a recovery comes after an approval. -/
def ApprovedOnList (pre : List Event) (e : Event) : Prop :=
  e.gated = true → ∃ q ∈ pre, q.is .approve = true

/-- An execution or a recovery comes after an approval of its task. -/
def ApprovedOnTask (pre : List Event) (e : Event) : Prop :=
  e.gated = true → ∃ q ∈ pre, q.is .approve = true ∧ q.task = e.task

instance (pre : List Event) (e : Event) : Decidable (ClaimedOnList pre e) :=
  inferInstanceAs (Decidable (_ → _))

instance (pre : List Event) (e : Event) : Decidable (ClaimedOnTask pre e) :=
  inferInstanceAs (Decidable (_ → _))

instance (pre : List Event) (e : Event) : Decidable (LatestOfTask pre e) :=
  inferInstanceAs (Decidable (_ → _))

instance (pre : List Event) (e : Event) : Decidable (ApprovedOnList pre e) :=
  inferInstanceAs (Decidable (_ → _))

instance (pre : List Event) (e : Event) : Decidable (ApprovedOnTask pre e) :=
  inferInstanceAs (Decidable (_ → _))

/-- What an event needs of its own task. -/
def OnTask : TaskClass → Judgement Event
  | .handoffLegality | .delegationAdmissibility => ClaimedOnTask
  | .stateTransitionPreservation | .sideEffectAuthorization => ApprovedOnTask

instance (c : TaskClass) (pre : List Event) (e : Event) : Decidable (c.OnTask pre e) :=
  match c with
  | .handoffLegality => inferInstanceAs (Decidable (ClaimedOnTask pre e))
  | .delegationAdmissibility => inferInstanceAs (Decidable (ClaimedOnTask pre e))
  | .stateTransitionPreservation => inferInstanceAs (Decidable (ApprovedOnTask pre e))
  | .sideEffectAuthorization => inferInstanceAs (Decidable (ApprovedOnTask pre e))

theorem approvalFits_list (pre : List Event) (e : Event) :
    byLatest (fun q => q.is .approve) ApprovalFits pre e ↔ ApprovedOnList pre e := by
  unfold byLatest ApprovalFits ApprovedOnList
  rw [latest_isSome]

theorem approvalFits_task (pre : List Event) (e : Event) :
    ApprovalFits (latest (fun q => q.is .approve && decide (q.task = e.task)) pre) e ↔
      ApprovedOnTask pre e := by
  unfold ApprovalFits ApprovedOnTask
  rw [latest_isSome]
  simp

theorem delegationFits_task (pre : List Event) (e : Event) :
    DelegationFits (latest (fun q => q.is .claim && decide (q.task = e.task)) pre) e ↔
      ClaimedOnTask pre e := by
  constructor
  · intro h hk
    obtain ⟨c, hc, hagent, -⟩ := h hk
    exact ⟨c, hc, hagent⟩
  · intro h hk
    obtain ⟨c, hc, hagent⟩ := h hk
    have htask := (latest_of_mem hc).2
    simp only [Bool.and_eq_true, decide_eq_true_eq] at htask
    exact ⟨c, hc, hagent, htask.2⟩

/-- **What the tasks ask, one by one**: a delegation comes from the agent of the latest
claim of its task, an execution or a recovery after an approval of its task. -/
theorem tasks_admit_iff {c : TaskClass} {pack : PolicyPack} (h : c.enabled pack = true)
    (es : List Event) :
    (∀ task, c.Admits pack (on Event.task task es)) ↔ Each c.OnTask es := by
  rw [forall_congr' fun task => admits_iff h (on Event.task task es),
    each_keyed_latest Event.task c.kept c.Fits es]
  cases c with
  | handoffLegality => exact Iff.rfl
  | delegationAdmissibility => exact each_congr delegationFits_task
  | stateTransitionPreservation => exact each_congr approvalFits_task
  | sideEffectAuthorization => exact each_congr approvalFits_task

/-! ## §3. The whole list, and its tasks. -/

/-- A delegation that the evaluator on delegations lets pass is of the task of the
latest claim, and so is judged as its task would judge it. -/
theorem delegationFits_list (pre : List Event) (e : Event) :
    byLatest (fun q => q.is .claim) DelegationFits pre e ↔
      ClaimedOnTask pre e ∧ LatestOfTask pre e := by
  constructor
  · intro h
    constructor
    · intro hk
      obtain ⟨c, hc, hagent, htask⟩ := h hk
      exact ⟨c, latest_narrow hc (by simpa using htask), hagent⟩
    · intro hk
      obtain ⟨c, hc, -, htask⟩ := h hk
      exact ⟨c, hc, htask⟩
  · intro h hk
    obtain ⟨hclaimed, hlatest⟩ := h
    obtain ⟨c, hc, htask⟩ := hlatest hk
    obtain ⟨c', hc', hagent⟩ := hclaimed hk
    -- The latest claim is of the task, so it is the latest claim of the task.
    have hown : c ∈ latest (fun q => q.is .claim && decide (q.task = e.task)) pre :=
      latest_narrow hc (by simpa using htask)
    obtain rfl : c' = c := Option.mem_unique hc' hown
    exact ⟨c', hc, hagent, htask⟩

/-- An approval of the task is an approval. -/
theorem approvedOnList_of_task (pre : List Event) (e : Event) (h : ApprovedOnTask pre e) :
    ApprovedOnList pre e := by
  intro hk
  obtain ⟨q, hq, happ, -⟩ := h hk
  exact ⟨q, hq, happ⟩

/-- **When the whole list is judged as its tasks are.** -/
def Separates : TaskClass → List Event → Prop
  -- Each delegation has the same answer from the two latest claims, or both fail some.
  | .handoffLegality => fun es =>
      Each (fun pre e => ClaimedOnList pre e ↔ ClaimedOnTask pre e) es ∨
        (Somewhere (fun pre e => ¬ ClaimedOnList pre e) es ∧
          Somewhere (fun pre e => ¬ ClaimedOnTask pre e) es)
  -- A task fails, or no delegation comes after a claim of another task.
  | .delegationAdmissibility => fun es =>
      Somewhere (fun pre e => ¬ ClaimedOnTask pre e) es ∨ Each LatestOfTask es
  -- Something comes before every approval, or everything after one of its task.
  | .stateTransitionPreservation | .sideEffectAuthorization => fun es =>
      Somewhere (fun pre e => ¬ ApprovedOnList pre e) es ∨ Each ApprovedOnTask es

theorem separates_delegation (es : List Event) :
    (Each (byLatest (fun q => q.is .claim) DelegationFits) es ↔ Each ClaimedOnTask es) ↔
      Somewhere (fun pre e => ¬ ClaimedOnTask pre e) es ∨ Each LatestOfTask es := by
  have hsplit : Each (byLatest (fun q => q.is .claim) DelegationFits) es ↔
      Each ClaimedOnTask es ∧ Each LatestOfTask es := by
    rw [each_congr delegationFits_list, each_iff, each_iff, each_iff]
    simp only [forall_and]
  rw [hsplit, ← not_each]
  tauto

theorem separates_approval (es : List Event) :
    (Each (byLatest (fun q => q.is .approve) ApprovalFits) es ↔ Each ApprovedOnTask es) ↔
      Somewhere (fun pre e => ¬ ApprovedOnList pre e) es ∨ Each ApprovedOnTask es := by
  have hmono : Each ApprovedOnTask es → Each ApprovedOnList es := each_mono approvedOnList_of_task
  rw [each_congr approvalFits_list, ← not_each]
  tauto

/-- Every task is accepted, and the list is refused. -/
def Hides (c : TaskClass) (pack : PolicyPack) (es : List Event) : Prop :=
  ¬ c.Admits pack es ∧ ∀ task, c.Admits pack (on Event.task task es)

/-- The list is accepted, and some task is refused. -/
def Borrows (c : TaskClass) (pack : PolicyPack) (es : List Event) : Prop :=
  c.Admits pack es ∧ ¬ ∀ task, c.Admits pack (on Event.task task es)

section

variable {c : TaskClass} {pack : PolicyPack} {es : List Event}

theorem hides_iff (h : c.enabled pack = true) :
    c.Hides pack es ↔ ¬ Each (byLatest c.kept c.Fits) es ∧ Each c.OnTask es := by
  unfold Hides
  rw [tasks_admit_iff h, admits_iff h]

theorem borrows_iff (h : c.enabled pack = true) :
    c.Borrows pack es ↔ Each (byLatest c.kept c.Fits) es ∧ ¬ Each c.OnTask es := by
  unfold Borrows
  rw [tasks_admit_iff h, admits_iff h]

end

end TaskClass

/-- **The whole list is accepted exactly when each task is, exactly when** its tasks
are separate: by the two latest claims, or by the two kinds of approval. -/
theorem task_scope_iff (c : TaskClass) (es : List Event) (pack : PolicyPack)
    (h : c.enabled pack = true) :
    (c.Admits pack es ↔ ∀ task, c.Admits pack (on Event.task task es)) ↔ c.Separates es := by
  rw [TaskClass.tasks_admit_iff h, TaskClass.admits_iff h]
  cases c with
  | handoffLegality => exact each_iff_each es
  | delegationAdmissibility => exact TaskClass.separates_delegation es
  | stateTransitionPreservation => exact TaskClass.separates_approval es
  | sideEffectAuthorization => exact TaskClass.separates_approval es

namespace Scripted

/-- A pack that enables the four classes. -/
def taskPack : PolicyPack where
  version := "0.1.0"
  name := "task_scope"
  description := "Ownership and authorization"
  singleOwnerHandoff := true
  delegationAdmissibility := true
  stateTransitionPreservation := true
  sideEffectAuthorization := true

/-- The claim of another task comes between a claim and its delegation. -/
def hiddenClaim : List Event :=
  [event .claim "a" "t", event .claim "b" "u", event .delegate "a" "t"]

/-- A delegation of a task, after the claim of another. -/
def borrowedClaim : List Event := [event .claim "a" "t", event .delegate "a" "u"]

/-- An execution of a task, after the approval of another. -/
def borrowedApproval : List Event := [event .approve "a" "t", event .execute "b" "u"]

/-- A claim, and a delegation by the same agent. -/
def handedOver : List Event := [event .claim "a" "t", event .delegate "a" "t"]

end Scripted

open Scripted in
/-- A task that is claimed and handed over is separate from all others. -/
theorem task_scope_handedOver :
    TaskClass.handoffLegality.Admits taskPack handedOver ↔
      ∀ task, TaskClass.handoffLegality.Admits taskPack (on Event.task task handedOver) := by
  have hseparates : TaskClass.handoffLegality.Separates handedOver := .inl (by decide)
  exact (task_scope_iff .handoffLegality handedOver taskPack rfl).mpr hseparates

open Scripted in
/-- **Each of the four mixes tasks up.**  A claim of another task hides a claim, or
stands in for one; an approval of another task authorises an execution. -/
theorem task_scope_fails :
    TaskClass.handoffLegality.Hides taskPack hiddenClaim ∧
      TaskClass.handoffLegality.Borrows taskPack borrowedClaim ∧
      TaskClass.delegationAdmissibility.Hides taskPack hiddenClaim ∧
      TaskClass.stateTransitionPreservation.Borrows taskPack borrowedApproval ∧
      TaskClass.sideEffectAuthorization.Borrows taskPack borrowedApproval := by
  rw [TaskClass.hides_iff rfl, TaskClass.borrows_iff rfl, TaskClass.hides_iff rfl,
    TaskClass.borrows_iff rfl, TaskClass.borrows_iff rfl]
  decide

end ProtocolEvaluator

end ObligationRuntime
