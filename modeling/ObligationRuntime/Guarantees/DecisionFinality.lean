/-
  ObligationRuntime.Guarantees.DecisionFinality — whether a decision on a review is
  final.

  Both backends overwrite a decision as they record one: they look for a record, not
  for a review that is still pending.  So a decision is final exactly in the runs of
  the API that never decide a decided review again.

  Main results:
    * `decision_kept` — until the next create, a decision stays where none is made,
    * `decision_final_iff` — the sequences of calls in which decisions are final,
    * `decision_final_fails` — a rejected review, approved and resumed.
-/
import ObligationRuntime.Gateway.Reviews

namespace ObligationRuntime

open Py Transition

namespace Gateway

/-- The decision on record for a thread. -/
def decisionOf (S : ReviewStoreProtocol) (s : S.State) (t : String) : Option Approval :=
  (S.get s t).bind ReviewRecord.decision

/-- **Decisions are final**: after a decision on a thread, and until its review is
created anew, the decision stays, any other is refused, and only this one is posted. -/
structure DecisionsFinal (env : ReviewEnv) (S : ReviewStoreProtocol) (s : S.State)
    (calls : List ReviewCall) : Prop where
  kept : ∀ pre mid post t d, calls = pre ++ (mid ++ post) →
    decisionOf S (run (ReviewCall.step S) s pre) t = some d → NoCreate t mid →
    decisionOf S (run (ReviewCall.step S) s (pre ++ mid)) t = some d
  refused : ∀ pre mid call post t d d', calls = pre ++ (mid ++ call :: post) →
    decisionOf S (run (ReviewCall.step S) s pre) t = some d → NoCreate t mid →
    call.decides t = some d' →
    call.answer env S (run (ReviewCall.step S) s (pre ++ mid)) =
      .error (.apiError 400 "bad_request")
  posted : ∀ pre mid call post t d, calls = pre ++ (mid ++ call :: post) →
    decisionOf S (run (ReviewCall.step S) s pre) t = some d → NoCreate t mid →
    ∀ p ∈ call.posts env S (run (ReviewCall.step S) s (pre ++ mid)), p.threadId = t →
      p.decision = d

/-- The call decides no review that is decided already. -/
def Undecided (S : ReviewStoreProtocol) (s : S.State) (call : ReviewCall) : Prop :=
  ∀ t d, call.decides t = some d → decisionOf S s t = none

section

variable {env : ReviewEnv} {S : ReviewStoreProtocol} {s : S.State}

/-- One call keeps a decision it does not replace. -/
theorem decision_step {call : ReviewCall} {t : String} {d : Approval}
    (hd : decisionOf S s t = some d) (hcreate : call.creates t = none)
    (hcall : Undecided S s call) : decisionOf S (call.step S s) t = some d := by
  have hnone : call.decides t = none := by
    cases hdec : call.decides t with
    | none => rfl
    | some d' =>
        have := hcall t d' hdec
        rw [hd] at this
        cases this
  rw [decisionOf, get_step, hcreate, hnone]
  exact hd

/-- **A decision stays** until its review is created anew, where no decided review is
decided again. -/
theorem decision_kept {calls : List ReviewCall} {t : String} {d : Approval}
    (h : Meets (ReviewCall.step S) (Undecided S) s calls) (hd : decisionOf S s t = some d)
    (hcreate : NoCreate t calls) : decisionOf S (run (ReviewCall.step S) s calls) t = some d := by
  induction calls generalizing s with
  | nil => exact hd
  | cons call calls ih =>
      obtain ⟨hcall, hrest⟩ := h
      refine ih hrest ?_ fun c hc => hcreate c (List.mem_cons_of_mem _ hc)
      exact decision_step hd (hcreate call (List.mem_cons_self ..)) hcall

/-- A decision on a decided review is answered with success. -/
theorem answer_redecide {call : ReviewCall} {t : String} {d d' : Approval}
    (hd : decisionOf S s t = some d) (hcall : call.decides t = some d') :
    call.answer env S s = .ok (.decided t d') := by
  have hsome : (S.get s t).isSome := by
    cases hg : S.get s t with
    | none => simp [decisionOf, hg] at hd
    | some r => rfl
  rw [answer_decide hcall, if_pos hsome]

end

/-- **Where decisions are final**: in the sequences of calls that decide no decided
review again, and in no others, with either backend. -/
theorem decision_final_iff (mode : ReviewStoreMode) (env : ReviewEnv)
    (s : (reviewStore mode).State) (calls : List ReviewCall) :
    DecisionsFinal env (reviewStore mode) s calls ↔
      Meets (ReviewCall.step (reviewStore mode)) (Undecided (reviewStore mode)) s calls := by
  constructor
  · intro hfinal
    refine meets_iff.mpr fun pre call post hcalls t d' hcall => ?_
    cases hd : decisionOf (reviewStore mode) (run (ReviewCall.step (reviewStore mode)) s pre) t with
    | none => rfl
    | some d =>
        -- The backend takes the second decision, which ought to be refused.
        have href := hfinal.refused pre [] call post t d d' hcalls hd (by simp [NoCreate]) hcall
        rw [List.append_nil, answer_redecide hd hcall] at href
        cases href
  · intro hmeets
    have hkept : ∀ pre mid post t d, calls = pre ++ (mid ++ post) →
        decisionOf (reviewStore mode) (run (ReviewCall.step (reviewStore mode)) s pre) t =
          some d → NoCreate t mid →
        decisionOf (reviewStore mode)
          (run (ReviewCall.step (reviewStore mode)) s (pre ++ mid)) t = some d := by
      rintro pre mid post t d rfl hd hcreate
      rw [run_append]
      exact decision_kept (meets_append.mp (meets_append.mp hmeets).2).1 hd hcreate
    refine ⟨hkept, ?_, ?_⟩
    · intro pre mid call post t d d' hcalls hd hcreate hcall
      have hcalls' : calls = (pre ++ mid) ++ call :: post := by rw [hcalls, List.append_assoc]
      have hnone := meets_iff.mp hmeets (pre ++ mid) call post hcalls' t d' hcall
      rw [hkept pre mid (call :: post) t d hcalls hd hcreate] at hnone
      cases hnone
    · intro pre mid call post t d hcalls hd hcreate p hp ht
      obtain ⟨-, hrec⟩ := posts_recorded hp
      have hkeep := hkept pre mid (call :: post) t d hcalls hd hcreate
      rw [← ht] at hkeep
      exact Option.some.inj (hrec.symm.trans hkeep)

namespace Scripted

/-- A gateway with an orchestrator that accepts. -/
def reviewEnv : ReviewEnv where
  now := ⟨"2026-03-01T00:00:00Z", by decide⟩
  obrOrchestratorUrl := some "http://orchestrator/"
  post _ p := .ok { statusCode := 200, json := some (.obj [("thread_id", .str p.threadId)]) }

/-- A pending review of the thread. -/
def pending (threadId : String) : ReviewCall := .create (.obj [("thread_id", .str threadId)])

end Scripted

/-- **A rejected review, approved and resumed**, without a new pending review. -/
theorem decision_final_fails :
    let calls := [Scripted.pending "t", .reject "t", .approve "t", .resume "t"]
    let before := fun n => run (ReviewCall.step memoryStore) memoryStore.empty (calls.take n)
    decisionOf memoryStore (before 2) "t" = some .rejected ∧
      (ReviewCall.approve "t").answer Scripted.reviewEnv memoryStore (before 2) =
        .ok (.decided "t" .approved) ∧
      (ReviewCall.resume "t").posts Scripted.reviewEnv memoryStore (before 3) =
        [⟨"t", .approved⟩] ∧
      ¬ DecisionsFinal Scripted.reviewEnv memoryStore memoryStore.empty calls := by
  intro calls before
  have hdec : decisionOf memoryStore (before 2) "t" = some .rejected := by decide
  have hans : (ReviewCall.approve "t").answer Scripted.reviewEnv memoryStore (before 2) =
      .ok (.decided "t" .approved) := answer_redecide hdec rfl
  refine ⟨hdec, hans, by decide, fun hfinal => ?_⟩
  have href := hfinal.refused (calls.take 2) [] (.approve "t") [.resume "t"] "t" .rejected
    .approved rfl hdec (by simp [NoCreate]) rfl
  rw [List.append_nil] at href
  rw [hans] at href
  cases href

end Gateway

end ObligationRuntime
