/-
  ObligationRuntime.Guarantees.ResumeFrame — resuming an interrupted run with its
  decision alone.

  An invocation with only the thread id and the decision keeps the checkpoint: the
  flag the interrupt left routes it to the decision, so nothing is verified again,
  and what is not about the decision stays as it was.

  Main results:
    * `resume_frame` — what such a resume does, for both decisions.
-/
import ObligationRuntime.Runtime.Ends

namespace ObligationRuntime

open Py Flow Handlers

/-- `{"thread_id": .., "approval_decision": ..}`. -/
def decisionInput (threadId : String) (decision : Approval) : State where
  threadId := some threadId
  approvalDecision := some (.str decision.text)

/-- The state without the keys a resume may write. -/
def State.unresumed (s : State) : State :=
  { s with approvalRequired := none, approvalDecision := none, status := none, artifacts := none }

/-- How a resume of `s` ends, by its decision: an approval appends one bundle about
the interrupted run, a rejection keeps the artifacts. -/
def ResumedBy (s s' : State) : Approval → Prop
  | .approved =>
      s'.status = some .accepted ∧
        ∃ b, s'.artifacts = some (s.artifacts.getD [] ++ [bundleArtifact b]) ∧
          b.obligationId = s.obligationId.getD "" ∧ s.policy = some b.policy.dump
  | .rejected =>
      s'.status = some .rejected ∧ s.artifacts.getD [] <+: s'.artifacts.getD []

section

variable {deps : Deps} {s : State} {threadId : String} {decision : Approval}

/-- The state the resume reads. -/
theorem startState_decisionInput :
    startState (some s) (decisionInput threadId decision) =
      { s with threadId := some threadId, approvalDecision := some (.str decision.text) } := rfl

/-- An interrupted state is resumed. -/
theorem routeStart_decisionInput (h : s.approvalRequired = some true) :
    routeStart (startState (some s) (decisionInput threadId decision)) = .resumeWithApproval := by
  rw [startState_decisionInput]
  cases decision <;> simp [routeStart, h, State.approval, Approval.text]

/-- Neither the resume nor the bundle it may append touches another key. -/
theorem unresumed_frame (hid : s.threadId = some threadId) (status : Status)
    (artifacts : Option (List Json)) :
    ((startState (some s) (decisionInput threadId decision)).merge
        { approvalRequired := some false, status := some status
          artifacts := artifacts }).unresumed = s.unresumed := by
  rw [startState_decisionInput]
  simp [State.unresumed, State.merge, hid]

/-- A rejected resume. -/
theorem resume_frame_rejected (hreq : s.approvalRequired = some true)
    (hid : s.threadId = some threadId) :
    let r := invoke deps (some s) (decisionInput threadId .rejected)
    r.error = none ∧ r.calls = [] ∧ r.state.unresumed = s.unresumed ∧
      ResumedBy s r.state .rejected := by
  intro r
  have happroval : (startState (some s) (decisionInput threadId .rejected)).approval ≠
      .str "approved" := by
    rw [startState_decisionInput]
    simp [State.approval, Approval.text]
  have hr : r = run deps .resumeWithApproval
      (startState (some s) (decisionInput threadId .rejected)) := by
    show invoke deps (some s) (decisionInput threadId .rejected) = _
    rw [invoke_eq_run, routeStart_decisionInput hreq]
  rw [hr, run_resume_rejected happroval]
  refine ⟨rfl, rfl, unresumed_frame hid .rejected none, rfl, ?_⟩
  rw [startState_decisionInput]
  exact List.prefix_refl _

/-- An approved resume. -/
theorem resume_frame_approved {fp : EnvironmentFingerprint} {d : PolicyDecision}
    (hs : Interrupted s fp d) (hid : s.threadId = some threadId) :
    let r := invoke deps (some s) (decisionInput threadId .approved)
    r.error = none ∧ r.calls = [] ∧ r.state.unresumed = s.unresumed ∧
      ResumedBy s r.state .approved := by
  intro r
  have happroval : (startState (some s) (decisionInput threadId .approved)).approval =
      .str "approved" := by
    rw [startState_decisionInput]
    rfl
  have hresumed : resumed (startState (some s) (decisionInput threadId .approved)) =
      (startState (some s) (decisionInput threadId .approved)).merge
        { approvalRequired := some false, status := some .accepted } := by
    rw [resumed, happroval]
    rfl
  -- What the bundle is made of is still the interrupted run's.
  have henv : (startState (some s) (decisionInput threadId .approved)).environmentFingerprint =
      some (.obj fp.dump) := hs.fingerprint
  have hpol : (startState (some s) (decisionInput threadId .approved)).policy = some d.dump :=
    hs.policy
  obtain ⟨b, hb, hob, -, hbd, -⟩ := bundleOf_recorded deps henv hpol
  have hcont := run_resume_approved deps happroval
  rw [run_finalize (bundleOf_resumed.trans hb)] at hcont
  have hr : r = run deps .resumeWithApproval
      (startState (some s) (decisionInput threadId .approved)) := by
    show invoke deps (some s) (decisionInput threadId .approved) = _
    rw [invoke_eq_run, routeStart_decisionInput hs.required]
  rw [hr]
  refine ⟨hcont.error, by simpa using hcont.calls, ?_, ?_, b, ?_, hob, ?_⟩
  · rw [hcont.state, hresumed, State.merge_assoc]
    exact unresumed_frame hid .accepted _
  · rw [hcont.state]
    rfl
  · rw [hcont.state, hresumed]
    rfl
  · rw [hbd]
    exact hs.policy

end

/-- **The frame of a resume.**  Resuming a run that awaits approval with nothing but
its thread and the decision makes no gateway call, writes only the approval keys, the
status and the artifacts, and ends as the decision says. -/
theorem resume_frame (deps deps' : Deps) (checkpoint : Option State) (input : State)
    (threadId : String) (decision : Approval)
    (hs : EndsWith (invoke deps checkpoint input) .awaitingApproval)
    (hid : (invoke deps checkpoint input).state.threadId = some threadId) :
    let s := (invoke deps checkpoint input).state
    let r := invoke deps' (some s) (decisionInput threadId decision)
    r.error = none ∧ r.calls = [] ∧ r.state.unresumed = s.unresumed ∧
      ResumedBy s r.state decision := by
  intro s r
  obtain ⟨fp, d, hint⟩ := awaiting_interrupted hs
  cases decision with
  | approved => exact resume_frame_approved hint hid
  | rejected => exact resume_frame_rejected hint.required hid

namespace Scripted

/-- The obligation that protects the patched file. -/
def protecting : Dict :=
  [("policy", .obj [("protected_paths", .arr [.str "Main.lean"])])]

/-- A run whose patch touches a protected file. -/
def protectedInput : State := makeInitialState { request patch with obligation := protecting }

end Scripted

/-- The run of a protected file, interrupted and approved. -/
theorem resume_frame_protected :
    let run := invoke (Scripted.deps "s1" Scripted.checked Scripted.verified Scripted.pack) none
      Scripted.protectedInput
    let resumed := invoke (Scripted.deps "s1" Scripted.checked Scripted.verified Scripted.pack)
      (some run.state) (decisionInput "thread" .approved)
    EndsWith run .awaitingApproval ∧ resumed.error = none ∧ resumed.calls = [] ∧
      resumed.state.unresumed = run.state.unresumed ∧
      ResumedBy run.state resumed.state .approved := by
  intro run resumed
  have hs : EndsWith run .awaitingApproval := by decide
  exact ⟨hs, resume_frame _ _ none Scripted.protectedInput "thread" .approved hs (by decide)⟩

end ObligationRuntime
