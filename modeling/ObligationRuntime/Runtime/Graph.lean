/-
  ObligationRuntime.Runtime.Graph — the patch-admissibility graph: graph.py of
  `lean_langchain_orchestrator`, and its invocation on a thread.

  The graph has no cycle, so `rank` falls along every edge (`rank_falls`) and the
  runtime's limit on steps is never reached: a run is `run deps n s`, whatever the
  limit (`invoke_eq_run`).

  Then which updates a node can answer with at all (`handler_writes`), and, node by
  node, what ONE hop does (`hop_*`).  Everything proved about runs further on is
  derived from these, and never unfolds a handler again: `run_inputs`, that no run
  touches the keys it was given, is the first such fact.

  The graph here is the one without a tracer; Runtime.Tracing wraps its nodes.
-/
import ObligationRuntime.Runtime.Handlers
import ObligationRuntime.Runtime.InitialState

namespace ObligationRuntime

open Py Flow Handlers

/-! ## §1. The graph. -/

/-- The handler of a node. -/
def handler (deps : Deps) : Node → Handler
  | .initEnvironment => initEnvironment deps
  | .retrieveContext => retrieveContext
  | .draftCandidate => draftCandidate
  | .interactiveCheck => interactiveCheck deps
  | .batchVerify => batchVerify deps
  | .auditTrust => auditTrust
  | .evaluateProtocol => evaluateProtocol deps
  | .policyReview => policyReview deps
  | .interruptForApproval => interruptForApproval deps
  | .finalize => finalize deps
  | .repairFromDiagnostics => repairFromDiagnostics
  | .repairFromGoals => repairFromGoals
  | .resumeWithApproval => resumeWithApproval

/-- The edge out of a node; `none` is `END`. -/
def edge : Node → State → Except PyError (Option Node)
  | .initEnvironment, _ => .ok (some .retrieveContext)
  | .retrieveContext, _ => .ok (some .draftCandidate)
  | .draftCandidate, _ => .ok (some .interactiveCheck)
  | .interactiveCheck, s => (routeAfterInteractive s).map some
  | .batchVerify, _ => .ok (some .auditTrust)
  | .auditTrust, _ => .ok (some .evaluateProtocol)
  | .evaluateProtocol, _ => .ok (some .policyReview)
  | .policyReview, s => .ok (routeAfterPolicy s)
  | .resumeWithApproval, s => .ok (routeAfterResume s)
  | .finalize, _ => .ok none
  | .interruptForApproval, _ => .ok none
  | .repairFromDiagnostics, _ => .ok none
  | .repairFromGoals, _ => .ok none

/-- `build_patch_admissibility_graph`. -/
def graph (deps : Deps) : Graph Node State Update GatewayCall PyError where
  handler := handler deps
  merge := State.merge
  edge := edge
  limitExceeded := .recursionError

/-- What a run of the graph did. -/
abbrev Run := Flow.Run Node State GatewayCall PyError

/-- The runtime's limit on steps. -/
def recursionLimit : Nat := 25

/-- The state a run starts from: the input merged over the thread's last
checkpoint. -/
def startState (checkpoint : Option State) (input : State) : State :=
  (checkpoint.getD {}).merge input

/-- `graph.invoke(input)` on a thread. -/
def invoke (deps : Deps) (checkpoint : Option State) (input : State) : Run :=
  let s := startState checkpoint input
  (graph deps).runFrom recursionLimit (routeStart s) s

/-- The run ended (it did not raise) with a status. -/
def EndsWith (r : Run) (status : Status) : Prop := r.error = none ∧ r.state.status = some status

instance (r : Run) (status : Status) : Decidable (EndsWith r status) := by
  unfold EndsWith
  infer_instance

/-! ## §2. The graph has no cycle. -/

/-- How many nodes may still run after one. -/
def rank : Node → Nat
  | .initEnvironment => 8
  | .retrieveContext => 7
  | .draftCandidate => 6
  | .interactiveCheck => 5
  | .batchVerify => 4
  | .auditTrust => 3
  | .evaluateProtocol => 2
  | .policyReview => 1
  | .resumeWithApproval => 1
  | .finalize => 0
  | .interruptForApproval => 0
  | .repairFromDiagnostics => 0
  | .repairFromGoals => 0

/-- After the interactive check a run goes on to three nodes. -/
theorem routeAfterInteractive_rank {s : State} {n : Node} (h : routeAfterInteractive s = .ok n) :
    n = .batchVerify ∨ n = .repairFromGoals ∨ n = .repairFromDiagnostics := by
  unfold routeAfterInteractive at h
  split at h
  · cases h
    exact .inl rfl
  · split at h
    · obtain ⟨goals, -, h⟩ := bind_eq_ok_iff.mp h
      cases goals <;> cases h
      · exact .inl rfl
      · exact .inr (.inl rfl)
    · cases h
      exact .inr (.inr rfl)

/-- Every edge goes down in rank. -/
theorem edge_rank {n m : Node} {s : State} (h : edge n s = .ok (some m)) : rank m < rank n := by
  -- Three edges are conditional, every other one is fixed.
  cases n with
  | interactiveCheck =>
      cases hr : routeAfterInteractive s with
      | error e => simp [edge, hr, Except.map] at h
      | ok n' =>
          obtain rfl : n' = m := by simpa [edge, hr, Except.map] using h
          rcases routeAfterInteractive_rank hr with rfl | rfl | rfl <;> decide
  | policyReview =>
      simp only [edge, routeAfterPolicy, Except.ok.injEq] at h
      split at h
      · cases h
        decide
      · split_ifs at h <;> cases h <;> decide
  | resumeWithApproval =>
      simp only [edge, routeAfterResume, Except.ok.injEq] at h
      split_ifs at h
      cases h
      decide
  | _ =>
      first
        | (cases h; decide)
        | cases h

/-- **The rank falls along every hop.** -/
theorem rank_falls (deps : Deps) (n : Node) (s : State) (m : Node)
    (h : ((graph deps).hop n s).next = .ok (some m)) : rank m < rank n := by
  obtain ⟨u, -, he, -⟩ := Graph.hop_next_ok h
  exact edge_rank he

/-- The run from a node, to its end. -/
def run (deps : Deps) (n : Node) (s : State) : Run := (graph deps).runFrom (rank n + 1) n s

section Runs

variable {deps : Deps}

/-- No rank is as high as the limit of the recursion. -/
theorem rank_lt_limit (n : Node) : rank n < recursionLimit := by
  cases n <;> decide

/-- **The limit on steps is never reached.** -/
theorem invoke_eq_run (checkpoint : Option State) (input : State) :
    invoke deps checkpoint input =
      run deps (routeStart (startState checkpoint input)) (startState checkpoint input) :=
  Graph.runFrom_fuel (rank_falls deps) _ _ _ _ (rank_lt_limit _) (Nat.lt_succ_self _)

/-- A run whose node raises ends with the error, -/
theorem run_of_error {n : Node} {s : State} {e : PyError}
    (h : ((graph deps).hop n s).next = .error e) :
    run deps n s =
      ⟨((graph deps).hop n s).state, ((graph deps).hop n s).calls, [(n, s)], some e⟩ :=
  Graph.runFrom_of_error h

/-- one whose node has no successor ends there, -/
theorem run_of_end {n : Node} {s : State} (h : ((graph deps).hop n s).next = .ok none) :
    run deps n s =
      ⟨((graph deps).hop n s).state, ((graph deps).hop n s).calls, [(n, s)], none⟩ :=
  Graph.runFrom_of_end h

/-- and any other goes on at the successor. -/
theorem run_of_next {n m : Node} {s : State} (h : ((graph deps).hop n s).next = .ok (some m)) :
    run deps n s =
      ⟨(run deps m ((graph deps).hop n s).state).state,
        ((graph deps).hop n s).calls ++ (run deps m ((graph deps).hop n s).state).calls,
        (n, s) :: (run deps m ((graph deps).hop n s).state).visited,
        (run deps m ((graph deps).hop n s).state).error⟩ := by
  have hlt := rank_falls deps n s m h
  rw [run, Graph.runFrom_of_next h,
    Graph.runFrom_fuel (rank_falls deps) (rank n) (rank m + 1) m _ hlt (Nat.lt_succ_self _)]
  rfl

/-- A run through a node ends as the run from there. -/
theorem run_of_visited {n m : Node} {s t : State} (h : (m, t) ∈ (run deps n s).visited) :
    ∃ before, (run deps n s).state = (run deps m t).state ∧
      (run deps n s).error = (run deps m t).error ∧
      (run deps n s).calls = before ++ (run deps m t).calls :=
  Graph.run_of_visited (rank_falls deps) _ n s m t (Nat.lt_succ_self _) h

/-- What a run visits after its first node ranks lower. -/
theorem visited_rank {n : Node} {s : State} {x : Node × State}
    (h : x ∈ (run deps n s).visited) : x = (n, s) ∨ rank x.1 < rank n :=
  Graph.visited_rank (rank_falls deps) _ n s x h

end Runs

/-! ## §3. What a node writes. -/

/-- The updates a node can answer with, and when. -/
inductive Writes (deps : Deps) (s : State) : Node → Update → Prop
  | initEnvironment (repoId : Json) (opened : OpenEnvironmentResponse)
      (session : CreateSessionResponse)
      (repo : repoIdOf (s.obligation.getD []) ((Dict.getD (s.obligation.getD [])
        "environment_fingerprint" (.obj [])).orElse (s.environmentFingerprint.getD (.obj []))) =
          .ok repoId)
      (opens : deps.client.openEnvironment repoId (orNone s.repoPath) "HEAD" = .ok opened)
      (creates : deps.client.createSession opened.fingerprintId = .ok session) :
      Writes deps s .initEnvironment
        { sessionId := some (some session.sessionId)
          environmentFingerprint := some (.obj opened.fingerprint.dump)
          status := some .initialized }
  | retrieveContext : Writes deps s .retrieveContext { status := some .retrievingContext }
  | draftCandidate : Writes deps s .draftCandidate { status := some .drafting }
  | unchecked (none : s.session = none) :
      Writes deps s .interactiveCheck { status := some .failed }
  | checked (sid : String) (r : InteractiveCheckApiResponse) (session : s.session = some sid)
      (applies : (applyCurrentPatch deps sid (s.currentPatch.getD [])).result = .ok ())
      (checks : deps.client.interactiveCheck sid (filePath s) = .ok r) :
      Writes deps s .interactiveCheck
        { interactiveResult := some (some r.dump), status := some .checkingInteractive }
  | unverified (none : s.session = none) :
      Writes deps s .batchVerify { status := some .failed }
  | verified (sid : String) (r : BatchVerifyResult) (session : s.session = some sid)
      (verifies : deps.client.batchVerify sid (s.targetFiles.getD [])
        (s.targetDeclarations.getD []) = .ok r) :
      Writes deps s .batchVerify
        { batchResult := some (some r.dump)
          status := some .batchVerifying
          trustLevel := some (.str r.trustLevel.text) }
  | auditTrust : Writes deps s .auditTrust { status := some .auditing }
  | passed (none : protocolOutcome deps s = .ok none) : Writes deps s .evaluateProtocol {}
  | refused (d : PolicyDecision) (found : protocolOutcome deps s = .ok (some d)) :
      Writes deps s .evaluateProtocol
        { policyDecision := some (some d.dump), status := some .auditing }
  | policyReview (decision : Option Dict) (decides : reviewDecision deps s = .ok decision) :
      Writes deps s .policyReview
        { policyDecision := decision.map some, status := some .auditing }
  | interruptForApproval :
      Writes deps s .interruptForApproval
        { approvalRequired := some true, status := some .awaitingApproval }
  | finalize (b : WitnessBundle) (bundle : bundleOf deps s = .ok b) :
      Writes deps s .finalize
        { status := some .accepted
          artifacts := some (s.artifacts.getD [] ++ [bundleArtifact b]) }
  | repairFromDiagnostics : Writes deps s .repairFromDiagnostics { status := some .repairing }
  | repairFromGoals : Writes deps s .repairFromGoals { status := some .repairing }
  | resumeWithApproval :
      Writes deps s .resumeWithApproval
        { approvalRequired := some false
          status := some (if s.approval.orElse (.str "rejected") = .str "approved" then .accepted
            else .rejected) }

section Writing

variable {deps : Deps} {n : Node} {s : State}

/-- **What a node that succeeds has written.** -/
theorem handler_writes {u : Update} (h : (handler deps n s).result = .ok u) :
    Writes deps s n u := by
  cases n with
  | initEnvironment =>
      obtain ⟨repoId, hrepo, h⟩ := Eff.bind_ok_iff.mp h
      obtain ⟨opened, ho, h⟩ := Eff.bind_ok_iff.mp h
      obtain ⟨session, hc, h⟩ := Eff.bind_ok_iff.mp h
      cases h
      exact .initEnvironment repoId opened session hrepo ho hc
  | interactiveCheck =>
      -- Without a session nothing is asked of the gateway.
      replace h : (interactiveCheck deps s).result = .ok u := h
      unfold interactiveCheck at h
      split at h
      next hnone =>
        cases h
        exact .unchecked hnone
      next sid hsid =>
        obtain ⟨⟨⟩, ha, h⟩ := Eff.bind_ok_iff.mp h
        obtain ⟨r, hr, h⟩ := Eff.bind_ok_iff.mp h
        cases h
        exact .checked sid r hsid ha hr
  | batchVerify =>
      replace h : (batchVerify deps s).result = .ok u := h
      unfold batchVerify at h
      split at h
      next hnone =>
        cases h
        exact .unverified hnone
      next sid hsid =>
        obtain ⟨r, hr, h⟩ := Eff.bind_ok_iff.mp h
        cases h
        -- The trust level is read back from the dump of the result.
        have ht : Dict.getD r.dump "trust_level" .null = .str r.trustLevel.text := by
          simp [BatchVerifyResult.dump, VersionedRecord.dump, Dict.getD]
        rw [ht]
        exact .verified sid r hsid hr
  | evaluateProtocol =>
      obtain ⟨found, hf, h⟩ := Eff.bind_ok_iff.mp h
      cases found with
      | none =>
          cases h
          exact .passed hf
      | some d =>
          cases h
          exact .refused d hf
  | policyReview =>
      obtain ⟨decision, hd, h⟩ := Eff.bind_ok_iff.mp h
      cases h
      exact .policyReview decision hd
  | interruptForApproval =>
      -- What the review store answers is not written.
      obtain ⟨summary, -, h⟩ := Eff.bind_ok_iff.mp h
      obtain ⟨-, -, h⟩ := Eff.bind_ok_iff.mp h
      cases h
      exact .interruptForApproval
  | finalize =>
      obtain ⟨b, hb, h⟩ := Eff.bind_ok_iff.mp h
      cases h
      exact .finalize b hb
  | retrieveContext =>
      cases h
      exact .retrieveContext
  | draftCandidate =>
      cases h
      exact .draftCandidate
  | auditTrust =>
      cases h
      exact .auditTrust
  | repairFromDiagnostics =>
      cases h
      exact .repairFromDiagnostics
  | repairFromGoals =>
      cases h
      exact .repairFromGoals
  | resumeWithApproval =>
      cases h
      exact .resumeWithApproval

end Writing

/-! ## §4. What one hop does. -/

section Hops

variable {deps : Deps} {s : State}

/-- A node that goes on after a hop returned an update that took the edge. -/
theorem hop_ok {n : Node} {m : Option Node} (h : ((graph deps).hop n s).next = .ok m) :
    ∃ u, (handler deps n s).result = .ok u ∧ edge n (s.merge u) = .ok m ∧
      ((graph deps).hop n s).state = s.merge u :=
  Graph.hop_next_ok h

/-- A node that has a result merges it, -/
theorem hop_of_result {n : Node} {u : Update} {m : Option Node}
    (h : (handler deps n s).result = .ok u) (he : edge n (s.merge u) = .ok m) :
    (graph deps).hop n s = ⟨(handler deps n s).calls, s.merge u, .ok m⟩ :=
  Graph.hop_of_ok h he

/-- and one that raises leaves the state. -/
theorem hop_of_raise {n : Node} {e : PyError} (h : (handler deps n s).result = .error e) :
    (graph deps).hop n s = ⟨(handler deps n s).calls, s, .error e⟩ :=
  Graph.hop_of_raise h

/-- The nodes that only set the status: retrieval, -/
theorem hop_retrieveContext :
    (graph deps).hop .retrieveContext s =
      ⟨[], s.merge { status := some .retrievingContext }, .ok (some .draftCandidate)⟩ := rfl

/-- drafting, -/
theorem hop_draftCandidate :
    (graph deps).hop .draftCandidate s =
      ⟨[], s.merge { status := some .drafting }, .ok (some .interactiveCheck)⟩ := rfl

/-- and the audit of trust. -/
theorem hop_auditTrust :
    (graph deps).hop .auditTrust s =
      ⟨[], s.merge { status := some .auditing }, .ok (some .evaluateProtocol)⟩ := rfl

/-- **init_environment**: one environment, one session. -/
theorem hop_initEnvironment {m : Option Node}
    (h : ((graph deps).hop .initEnvironment s).next = .ok m) :
    ∃ repoId opened session,
      deps.client.openEnvironment repoId (orNone s.repoPath) "HEAD" = .ok opened ∧
      deps.client.createSession opened.fingerprintId = .ok session ∧
      (graph deps).hop .initEnvironment s =
        ⟨[.openEnvironment repoId (orNone s.repoPath) "HEAD",
            .createSession opened.fingerprintId],
          s.merge
            { sessionId := some (some session.sessionId)
              environmentFingerprint := some (.obj opened.fingerprint.dump)
              status := some .initialized },
          .ok (some .retrieveContext)⟩ := by
  obtain ⟨u, hu, he, -⟩ := hop_ok h
  rw [hop_of_result hu rfl]
  cases handler_writes hu with
  | initEnvironment repoId opened session hrepo ho hc =>
      exact ⟨repoId, opened, session, ho, hc, by simp [handler, initEnvironment, hrepo, ho, hc]⟩

/-- The calls that apply the patch: none for the empty one. -/
def patchCalls (sid : String) (patch : Patch) : List GatewayCall :=
  if patch = [] then [] else [.applyPatch sid patch]

/-- A patch that could be applied was sent to the session. -/
theorem applyCurrentPatch_ok {sid : String} {patch : Patch}
    (h : (applyCurrentPatch deps sid patch).result = .ok ()) :
    applyCurrentPatch deps sid patch = ⟨patchCalls sid patch, .ok ()⟩ := by
  unfold applyCurrentPatch patchCalls at *
  split
  · rfl
  next hp =>
    simp only [hp, if_false] at h
    cases ha : deps.client.applyPatch sid patch with
    | error e => simp [ha] at h
    | ok a => rfl

/-- **interactive_check**: without a session a report of failure, else the patch
is applied and the file checked; then the answer is routed. -/
theorem hop_interactiveCheck {m : Option Node}
    (h : ((graph deps).hop .interactiveCheck s).next = .ok m) :
    (s.session = none ∧ ∃ n,
      routeAfterInteractive (s.merge { status := some .failed }) = .ok n ∧
      (graph deps).hop .interactiveCheck s =
        ⟨[], s.merge { status := some .failed }, .ok (some n)⟩) ∨
    (∃ sid r n, s.session = some sid ∧
      deps.client.interactiveCheck sid (filePath s) = .ok r ∧
      routeAfterInteractive (s.merge
        { interactiveResult := some (some r.dump), status := some .checkingInteractive }) =
          .ok n ∧
      (graph deps).hop .interactiveCheck s =
        ⟨patchCalls sid (s.currentPatch.getD []) ++ [.interactiveCheck sid (filePath s)],
          s.merge
            { interactiveResult := some (some r.dump), status := some .checkingInteractive },
          .ok (some n)⟩) := by
  obtain ⟨u, hu, he, -⟩ := hop_ok h
  obtain ⟨n, hn, rfl⟩ : ∃ n, routeAfterInteractive (s.merge u) = .ok n ∧ m = some n := by
    cases hr : routeAfterInteractive (s.merge u) with
    | error e => simp [edge, hr, Except.map] at he
    | ok n => exact ⟨n, rfl, by simpa [edge, hr, Except.map, eq_comm] using he⟩
  rw [hop_of_result hu he]
  -- What was written tells which of its two branches the node took.
  have hh : handler deps .interactiveCheck s = interactiveCheck deps s := rfl
  rw [hh]
  cases handler_writes hu with
  | unchecked hnone => exact .inl ⟨hnone, n, hn, by simp [interactiveCheck, hnone]⟩
  | checked sid r hsid ha hr =>
      refine .inr ⟨sid, r, n, hsid, hr, hn, ?_⟩
      simp only [interactiveCheck, hsid]
      rw [applyCurrentPatch_ok ha]
      simp [hr]

/-- **batch_verify**: without a session a report of failure, else the lane's
result. -/
theorem hop_batchVerify {m : Option Node} (h : ((graph deps).hop .batchVerify s).next = .ok m) :
    (s.session = none ∧
      (graph deps).hop .batchVerify s =
        ⟨[], s.merge { status := some .failed }, .ok (some .auditTrust)⟩) ∨
    (∃ sid r, s.session = some sid ∧
      deps.client.batchVerify sid (s.targetFiles.getD []) (s.targetDeclarations.getD []) = .ok r ∧
      (graph deps).hop .batchVerify s =
        ⟨[.batchVerify sid (s.targetFiles.getD []) (s.targetDeclarations.getD [])],
          s.merge
            { batchResult := some (some r.dump)
              status := some .batchVerifying
              trustLevel := some (.str r.trustLevel.text) },
          .ok (some .auditTrust)⟩) := by
  obtain ⟨u, hu, he, -⟩ := hop_ok h
  rw [hop_of_result hu rfl]
  have hh : handler deps .batchVerify s = batchVerify deps s := rfl
  rw [hh]
  cases handler_writes hu with
  | unverified hnone => exact .inl ⟨hnone, by simp [batchVerify, hnone]⟩
  | verified sid r hsid hr => exact .inr ⟨sid, r, hsid, hr, by simp [batchVerify, hsid, hr]⟩

/-- What `evaluate_protocol` leaves of a state. -/
def screened (s : State) : Option PolicyDecision → State
  | none => s
  | some d => s.merge { policyDecision := some (some d.dump), status := some .auditing }

/-- **evaluate_protocol**: the refusal, if there is one, and nothing else. -/
theorem hop_evaluateProtocol {found : Option PolicyDecision}
    (h : protocolOutcome deps s = .ok found) :
    (graph deps).hop .evaluateProtocol s = ⟨[], screened s found, .ok (some .policyReview)⟩ := by
  cases found with
  | none =>
      have hr : (handler deps .evaluateProtocol s).result = .ok {} := by
        simp [handler, evaluateProtocol, h]
      rw [hop_of_result hr rfl]
      simp [handler, evaluateProtocol, h, screened]
  | some d =>
      have hr : (handler deps .evaluateProtocol s).result =
          .ok { policyDecision := some (some d.dump), status := some .auditing } := by
        simp [handler, evaluateProtocol, h]
      rw [hop_of_result hr rfl]
      simp [handler, evaluateProtocol, h, screened]

/-- Where the protocol cannot be evaluated the node raises. -/
theorem hop_evaluateProtocol_error {e : PyError} (h : protocolOutcome deps s = .error e) :
    (graph deps).hop .evaluateProtocol s = ⟨[], s, .error e⟩ := by
  have hr : (handler deps .evaluateProtocol s).result = .error e := by
    simp [handler, evaluateProtocol, h]
  rw [hop_of_raise hr]
  simp [handler, evaluateProtocol, h]

/-- What `policy_review` leaves of a state. -/
def reviewed (s : State) (decision : Option Dict) : State :=
  s.merge { policyDecision := decision.map some, status := some .auditing }

/-- **policy_review**: the decision it writes or keeps, and the way from there. -/
theorem hop_policyReview {decision : Option Dict} (h : reviewDecision deps s = .ok decision) :
    (graph deps).hop .policyReview s =
      ⟨[], reviewed s decision, .ok (routeAfterPolicy (reviewed s decision))⟩ := by
  have hr : (handler deps .policyReview s).result =
      .ok { policyDecision := decision.map some, status := some .auditing } := by
    simp [handler, policyReview, h]
  rw [hop_of_result hr rfl]
  simp [handler, policyReview, h, reviewed]

/-- Where the review cannot be made the node raises. -/
theorem hop_policyReview_error {e : PyError} (h : reviewDecision deps s = .error e) :
    (graph deps).hop .policyReview s = ⟨[], s, .error e⟩ := by
  have hr : (handler deps .policyReview s).result = .error e := by
    simp [handler, policyReview, h]
  rw [hop_of_raise hr]
  simp [handler, policyReview, h]

/-- **interrupt_for_approval** awaits approval, whatever happens to the payload. -/
theorem hop_interruptForApproval {summary : PatchSummary} (h : patchSummary deps s = .ok summary) :
    (graph deps).hop .interruptForApproval s =
      ⟨(pushReview deps (reviewPayload s summary ++ policyAudit s)).calls,
        s.merge { approvalRequired := some true, status := some .awaitingApproval },
        .ok none⟩ := by
  -- A payload that does not validate, or is not delivered, raises nothing.
  have hp : (pushReview deps (reviewPayload s summary ++ policyAudit s)).result = .ok () := by
    unfold pushReview
    split <;> rfl
  have hr : (handler deps .interruptForApproval s).result =
      .ok { approvalRequired := some true, status := some .awaitingApproval } := by
    simp [handler, interruptForApproval, h, Eff.bind_of_ok hp]
  rw [hop_of_result hr rfl]
  simp [handler, interruptForApproval, h, Eff.bind_of_ok hp]

/-- **finalize** appends a bundle and accepts. -/
theorem hop_finalize {bundle : WitnessBundle} (h : bundleOf deps s = .ok bundle) :
    (graph deps).hop .finalize s =
      ⟨[], s.merge
        { status := some .accepted
          artifacts := some (s.artifacts.getD [] ++ [bundleArtifact bundle]) }, .ok none⟩ := by
  have hr : (handler deps .finalize s).result = .ok
      { status := some .accepted
        artifacts := some (s.artifacts.getD [] ++ [bundleArtifact bundle]) } := by
    simp [handler, finalize, h]
  rw [hop_of_result hr rfl]
  simp [handler, finalize, h]

/-- Where no bundle can be built the node raises. -/
theorem hop_finalize_error {e : PyError} (h : bundleOf deps s = .error e) :
    (graph deps).hop .finalize s = ⟨[], s, .error e⟩ := by
  have hr : (handler deps .finalize s).result = .error e := by
    simp [handler, finalize, h]
  rw [hop_of_raise hr]
  simp [handler, finalize, h]

/-- What `resume_with_approval` leaves of a state. -/
def resumed (s : State) : State :=
  s.merge
    { approvalRequired := some false
      status := some (if s.approval.orElse (.str "rejected") = .str "approved" then .accepted
        else .rejected) }

/-- A resumed run merges the decision and goes where it says. -/
theorem hop_resumeWithApproval :
    (graph deps).hop .resumeWithApproval s =
      ⟨[], resumed s, .ok (routeAfterResume (resumed s))⟩ := rfl

end Hops

/-! ## §5. What no node writes. -/

/-- The keys a run is given: the state without those the nodes write. -/
def State.inputs (s : State) : State :=
  { s with
    sessionId := none, environmentFingerprint := none, interactiveResult := none
    batchResult := none, policyDecision := none, trustLevel := none
    approvalRequired := none, status := none, artifacts := none }

/-- The inputs are merged as the state is. -/
theorem State.inputs_merge (s u : State) : (s.merge u).inputs = s.inputs.merge u.inputs := rfl

section Inputs

variable {deps : Deps} {n : Node} {s : State}

/-- **No node writes an input.** -/
theorem Writes.inputs {u : Update} (h : Writes deps s n u) : u.inputs = {} := by
  cases h <;> rfl

/-- **A run leaves its inputs alone**, in every state it reads and in the one it
ends in. -/
theorem run_inputs (deps : Deps) (n : Node) (s : State) :
    (run deps n s).state.inputs = s.inputs ∧
      ∀ x ∈ (run deps n s).visited, x.2.inputs = s.inputs := by
  refine Graph.runFrom_invariant (fun t => t.inputs = s.inputs) ?_ _ n s rfl
  intro m t u hu ht
  show (t.merge u).inputs = s.inputs
  rw [State.inputs_merge, (handler_writes hu).inputs, State.merge_empty, ht]

/-- The token of a run is the one it was given. -/
theorem run_approval (deps : Deps) (n : Node) (s : State) :
    (run deps n s).state.approval = s.approval := by
  have h := congrArg State.approval (run_inputs deps n s).1
  exact h

end Inputs

/-! ## §6. A scripted gateway.

A gateway that gives every session the same answers, for closed runs. -/

namespace Scripted

/-- The time of the run. -/
def now : Timestamp := ⟨"2026-01-01T00:00:00Z", by decide⟩

/-- The fingerprint of its only repository. -/
def fingerprint : EnvironmentFingerprint where
  createdAt := now
  repoId := "demo"
  commitSha := "c0ffee"
  leanToolchain := "leanprover/lean4"
  lakefileHash := "1a2b"

/-- An interactive check without diagnostics or goals. -/
def checked : InteractiveCheckApiResponse := { createdAt := now, ok := true, lspRequired := true }

/-- A command that succeeded. -/
def command : CommandResult := { createdAt := now, ok := true, command := ["lake", "build"] }

/-- An audit without findings. -/
def audit : AxiomAuditResult := { createdAt := now, ok := true, trustLevel := .clean }

/-- A batch result in which everything succeeded. -/
def verified : BatchVerifyResult where
  createdAt := now
  ok := true
  build := command
  axiomAudit := audit
  freshChecker := command
  trustLevel := .clean
  axiomEvidenceReal := true
  freshEvidenceReal := true

/-- The client: `sessionId`, `check` and `result` are its answers. -/
def client (sessionId : String) (check : InteractiveCheckApiResponse)
    (result : BatchVerifyResult) : GatewayClient where
  openEnvironment _ _ _ := .ok ⟨fingerprint, "fp", "/snapshots/fp"⟩
  createSession fid := .ok ⟨sessionId, fid, "/workspaces/" ++ sessionId⟩
  applyPatch sid files := .ok { sessionId := sid, changedFiles := files.paths }
  interactiveCheck _ _ := .ok check
  batchVerify _ _ _ := .ok result
  createPendingReview _ := .ok { threadId := "thread" }

/-- A run over that client, with one policy pack. -/
def deps (sessionId : String) (check : InteractiveCheckApiResponse) (result : BatchVerifyResult)
    (pack : PolicyPack) : Deps where
  client := client sessionId check result
  loadPack _ := .ok pack
  sha256 := id
  now := now
  hex := "0123456789abcdef"

/-- A pack with the defaults of its fields. -/
def pack : PolicyPack :=
  { version := "0.1.0", name := "strict_patch_gate_v1", description := "Strict" }

/-- A request for one patched file. -/
def request (patch : Patch) : RunRequest where
  threadId := "thread"
  obligationId := "obligation"
  obligation := []
  targetFiles := ["Main.lean"]
  currentPatch := some patch

/-- A patch without imports. -/
def patch : Patch := [("Main.lean", "theorem one : 1 = 1 := rfl")]

end Scripted

end ObligationRuntime
