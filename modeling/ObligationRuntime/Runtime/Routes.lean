/-
  ObligationRuntime.Runtime.Routes — routes.py of `lean_langchain_orchestrator`:
  where each conditional edge goes.  `none` is `__end__`.
-/
import ObligationRuntime.Runtime.State

namespace ObligationRuntime

open Py

/-- The nodes of the patch-admissibility graph. -/
inductive Node where
  | initEnvironment
  | retrieveContext
  | draftCandidate
  | interactiveCheck
  | batchVerify
  | auditTrust
  | evaluateProtocol
  | policyReview
  | interruptForApproval
  | finalize
  | repairFromDiagnostics
  | repairFromGoals
  | resumeWithApproval
  deriving DecidableEq, Repr

/-- `any(g.get("text") for g in goals)`. -/
def anyText : List Json → Except PyError Bool
  | [] => .ok false
  | g :: gs => do
      let text ← g.pyGet "text"
      if text.truthy then return true else anyText gs

/-- `ir.get("goals") and any(...)`. -/
def goalsOpen (ir : Dict) : Except PyError Bool :=
  if (ir.getD "goals" .null).truthy then do
    let gs ← (ir.getD "goals" (.arr [])).pyIter
    anyText gs
  else .ok false

/-- `route_after_interactive`. -/
def routeAfterInteractive (s : State) : Except PyError Node :=
  match Dict.present s.interactive with
  -- No result, or an empty one: nothing to repair, on to the batch.
  | none => .ok .batchVerify
  | some ir =>
      if (ir.getD "ok" .null).truthy then do
        let goals ← goalsOpen ir
        return if goals then .repairFromGoals else .batchVerify
      else .ok .repairFromDiagnostics

/-- A goal that is still open. -/
def openGoal (gs : List GoalSnapshot) : Bool := gs.any fun g => decide (g.text ≠ "")

/-- Of dumped goals the open ones are found. -/
theorem anyText_dump (gs : List GoalSnapshot) :
    anyText (gs.map GoalSnapshot.codec.dump) = .ok (openGoal gs) := by
  induction gs with
  | nil => rfl
  | cons g gs ih =>
      have ht : (Json.obj g.dump).pyGet "text" = .ok (.str g.text) := by
        simp [GoalSnapshot.dump, Dict.getD]
      simp only [List.map_cons, anyText, GoalSnapshot.codec_dump, ht, ok_bind, ih, pure_eq_ok]
      by_cases hg : g.text = "" <;> simp [openGoal, hg]

/-- On a dumped response: repair what is not ok, then what has an open goal. -/
theorem routeAfterInteractive_dump {s : State} {r : InteractiveCheckApiResponse}
    (h : s.interactive = some r.dump) :
    routeAfterInteractive s = .ok
      (if r.ok then (if openGoal r.goals then .repairFromGoals else .batchVerify)
        else .repairFromDiagnostics) := by
  have hok : Dict.getD r.dump "ok" .null = .bool r.ok := by
    simp [InteractiveCheckApiResponse.dump, InteractiveCheckResult.dump, VersionedRecord.dump,
      Dict.getD]
  have hg : ∀ v, Dict.getD r.dump "goals" v = .arr (r.goals.map GoalSnapshot.codec.dump) := by
    intro v
    simp [InteractiveCheckApiResponse.dump, InteractiveCheckResult.dump, VersionedRecord.dump,
      Dict.getD, Codec.list]
  rw [routeAfterInteractive, h, Dict.present_of_ne (by
    simp [InteractiveCheckApiResponse.dump, InteractiveCheckResult.dump])]
  simp only [hok, Json.truthy_bool, goalsOpen, hg, Json.truthy_arr, Json.pyIter_arr, ok_bind,
    anyText_dump, pure_eq_ok]
  cases r.ok with
  | false => rfl
  | true =>
      -- An empty list is falsy, and its elements are not asked.
      by_cases hn : r.goals = []
      · simp [hn, openGoal]
      · simp [hn]

/-- `route_after_policy`. -/
def routeAfterPolicy (s : State) : Option Node :=
  match Dict.present s.policy with
  -- Without a decision the run is finalised.
  | none => some .finalize
  | some pd =>
      if pd.getD "decision" (.str "failed") = .str "accepted" then some .finalize
      else if pd.getD "decision" (.str "failed") = .str "needs_review" then
        some .interruptForApproval
      -- Every other decision ends the run.
      else none

/-- `route_start`. -/
def routeStart (s : State) : Node :=
  if s.approvalRequired.getD false ∧
      (s.approval = .str "approved" ∨ s.approval = .str "rejected") then .resumeWithApproval
  else .initEnvironment

/-- `route_after_resume`. -/
def routeAfterResume (s : State) : Option Node :=
  if s.approval = .str "approved" then some .finalize else none

end ObligationRuntime
