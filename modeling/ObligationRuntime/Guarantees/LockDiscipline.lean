/-
  ObligationRuntime.Guarantees.LockDiscipline — locks, resource by resource.

  A resource is held from a lock to the release of it by the same agent, so its history
  is disciplined or not on its own.  The evaluator keeps one holder for all resources: it
  judges a lock or a release by the latest one on the list, whatever it was of.  Where
  that event and the latest one of the same resource judge alike, the two agree.

  Main results:
    * `disciplined_iff` — the discipline of a history, event by event,
    * `lock_discipline_iff` — when the evaluator finds the discipline of every resource,
    * `lock_discipline_one` — of one resource it always does,
    * `lock_discipline_fails` — two agents on two resources, and a release of nothing.
-/
import ObligationRuntime.Policy.EventHistory

namespace ObligationRuntime

open Py Monitor

namespace ProtocolEvaluator

/-! ## §1. The discipline. -/

/-- Who holds the resource after the event. -/
def holderAfter (held : Option String) (e : Event) : Option String :=
  if e.is .lock then some e.agent
  else if e.is .release then none
  else held

/-- A release is by the holder; a lock is not by another agent than the holder. -/
def Permitted (held : Option String) (e : Event) : Prop :=
  (e.is .release = true → held = some e.agent) ∧
    (e.is .lock = true → ∀ agent ∈ held, agent = e.agent)

/-- A disciplined history of one resource. -/
def Disciplined : Option String → List Event → Prop
  | _, [] => True
  | held, e :: es => Permitted held e ∧ Disciplined (holderAfter held e) es

/-- The locks and releases of a resource. -/
def lockHistory (resource : String) (es : List Event) : List Event :=
  (on Event.task resource es).filter Event.locking

/-- The holder after the latest lock or release. -/
def heldBy : Option Event → Option String
  | none => none
  | some q => if q.is .lock then some q.agent else none

theorem permitted_heldBy (o : Option Event) (e : Event) :
    Permitted (heldBy o) e ↔ LockFits o e := by
  unfold Permitted LockFits
  rw [and_comm]
  cases o with
  | none => simp [heldBy]
  | some q => cases hq : q.is .lock <;> simp [heldBy, hq]

theorem holderAfter_heldBy (o : Option Event) (e : Event) :
    holderAfter (heldBy o) e = heldBy (if e.locking then some e else o) := by
  unfold holderAfter
  rcases e.lock_release with hk | hk | ⟨hk, hk'⟩
  · simp [Event.locking, hk, heldBy]
  · have hno : e.is .lock = false := Event.is_false hk (by decide)
    simp [Event.locking, hk, hno, heldBy]
  · simp [Event.locking, hk, hk']

/-- **The discipline, event by event**: each fits the latest lock or release. -/
theorem disciplined_from_iff (pre es : List Event) :
    Disciplined (heldBy (latest Event.locking pre)) es ↔
      EachFrom (byLatest Event.locking LockFits) pre es := by
  induction es generalizing pre with
  | nil => exact Iff.rfl
  | cons e es ih =>
      show Permitted _ e ∧ Disciplined _ es ↔ LockFits _ e ∧ EachFrom _ (pre ++ [e]) es
      rw [permitted_heldBy, holderAfter_heldBy, ← latest_concat, ih]

theorem disciplined_iff (es : List Event) :
    Disciplined none es ↔ Each (byLatest Event.locking LockFits) es :=
  disciplined_from_iff [] es

/-! ## §2. The two judgements. -/

/-- A lock or a release fits the latest one on the list. -/
abbrev FitsList : Judgement Event := byLatest Event.locking LockFits

/-- A lock or a release fits the latest one of its own resource. -/
def FitsResource : Judgement Event := fun pre e =>
  LockFits (latest (fun q => q.locking && decide (q.task = e.task)) pre) e

instance (pre : List Event) (e : Event) : Decidable (FitsResource pre e) :=
  inferInstanceAs (Decidable (LockFits _ e))

/-- **Every resource is disciplined exactly when every event fits its own.** -/
theorem disciplined_resources (es : List Event) :
    (∀ r, Disciplined none (lockHistory r es)) ↔ Each FitsResource es := by
  have hlocking : ∀ o e, Event.locking e = false → LockFits o e := by
    intro o e hno
    obtain ⟨hl, hr⟩ := Bool.or_eq_false_iff.mp hno
    exact ⟨fun h => by simp [hl] at h, fun h => by simp [hr] at h⟩
  have hpart : ∀ r, Disciplined none (lockHistory r es) ↔ Each FitsList (on Event.task r es) := by
    intro r
    unfold lockHistory
    rw [disciplined_iff]
    exact each_filter (fun _ h => h) hlocking (on Event.task r es)
  rw [forall_congr' hpart]
  exact each_keyed_latest Event.task Event.locking LockFits es

/-- **When the list does not mix its resources up**: each lock or release fits the latest
one on the list exactly when it fits the latest one of its resource; or else some fit the
one badly, and some the other. -/
def Unmixed (es : List Event) : Prop :=
  Each (fun pre e => FitsList pre e ↔ FitsResource pre e) es ∨
    (Somewhere (fun pre e => ¬ FitsList pre e) es ∧
      Somewhere (fun pre e => ¬ FitsResource pre e) es)

/-- **The evaluator finds the discipline of every resource, exactly when** the list does
not mix them up. -/
theorem lock_discipline_iff (es : List Event) (pack : PolicyPack)
    (h : pack.lockOwnershipInvariant = true) :
    (Accepts (evaluateLockOwnershipInvariant (es.map Event.json) pack) ↔
        ∀ resource, Disciplined none (lockHistory resource es)) ↔
      Unmixed es := by
  rw [lock_accepts_iff h, disciplined_resources]
  exact each_iff_each es

/-- **Of one resource the evaluator always finds the discipline.** -/
theorem lock_discipline_one {es : List Event} {pack : PolicyPack}
    (h : pack.lockOwnershipInvariant = true) {resource : String}
    (hone : ∀ e ∈ es, e.task = resource) :
    Accepts (evaluateLockOwnershipInvariant (es.map Event.json) pack) ↔
      Disciplined none (lockHistory resource es) := by
  have hall : on Event.task resource es = es := by rw [on_of_forall _ hone, if_pos rfl]
  rw [lock_accepts_iff h, lockHistory, hall, disciplined_iff]
  refine (each_filter (fun _ hl => hl) ?_ es).symm
  intro o e hno
  obtain ⟨hl, hr⟩ := Bool.or_eq_false_iff.mp hno
  exact ⟨fun h => by simp [hl] at h, fun h => by simp [hr] at h⟩

namespace Scripted

/-- A pack that enables the class. -/
def lockPack : PolicyPack where
  version := "0.1.0"
  name := "lock_ownership_invariant_v1"
  description := "One holder per resource"
  lockOwnershipInvariant := true

end Scripted

open Scripted in
/-- One resource after the other is not mixed up. -/
theorem lock_discipline_serial :
    Accepts (evaluateLockOwnershipInvariant
        ([event .lock "a" "r", event .release "a" "r", event .lock "b" "s"].map Event.json)
        lockPack) ↔
      ∀ resource, Disciplined none (lockHistory resource
        [event .lock "a" "r", event .release "a" "r", event .lock "b" "s"]) := by
  have hunmixed : Unmixed [event .lock "a" "r", event .release "a" "r", event .lock "b" "s"] :=
    .inl (by decide)
  exact (lock_discipline_iff _ lockPack rfl).mpr hunmixed

open Scripted in
/-- **Two agents on two resources are refused, and a release of a resource that nobody
holds is accepted.** -/
theorem lock_discipline_fails :
    (¬ Accepts (evaluateLockOwnershipInvariant
          ([event .lock "a" "r", event .lock "b" "s"].map Event.json) lockPack) ∧
        ∀ resource, Disciplined none
          (lockHistory resource [event .lock "a" "r", event .lock "b" "s"])) ∧
      (Accepts (evaluateLockOwnershipInvariant
          ([event .lock "a" "r", event .release "a" "s"].map Event.json) lockPack) ∧
        ¬ ∀ resource, Disciplined none
          (lockHistory resource [event .lock "a" "r", event .release "a" "s"])) := by
  simp only [@lock_accepts_iff lockPack rfl, disciplined_resources]
  decide

end ProtocolEvaluator

end ObligationRuntime
