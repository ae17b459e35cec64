/-
  ObligationRuntime.Runtime.Runs — whole runs of the graph.

  A run that starts at `init_environment` goes down one lane: environment,
  session, interactive check, batch verification, audit.  `Lane` records what it
  was answered on the way, and `Lane.Valid` that these are the client's answers.
  Such a run raises, or ends repairing, or reaches `evaluate_protocol` in the
  state `l.audited s` of its lane: `fresh_run`.

  From there on the run is `run_evaluateProtocol`, `run_policyReview`,
  `run_finalize` and `run_interruptForApproval`; a run that starts with a human
  decision is `run_resumeWithApproval`.

  Main results:
    * `fresh_run` — the three ends of a run's lane,
    * `run_policyReview`, `review_accepted_iff` — how a run that reaches
      `policy_review` ends,
    * `fresh_accepted_iff` — a fresh run is accepted exactly when its review lets
      it through,
    * `run_resume_approved`, `run_resume_rejected` — how a resumed run ends.
-/
import ObligationRuntime.Runtime.Graph
import ObligationRuntime.Runtime.Review

namespace ObligationRuntime

open Py Flow Handlers

/-! ## §1. The lane. -/

/-- What a run was answered before `evaluate_protocol`: no check and no result
where there was no session. -/
structure Lane where
  repoId : Json
  opened : OpenEnvironmentResponse
  session : CreateSessionResponse
  checked : Option InteractiveCheckApiResponse
  verified : Option BatchVerifyResult

namespace Lane

variable (l : Lane) (deps : Deps) (s : State)

/-- The state after `init_environment`. -/
def started : State :=
  s.merge
    { sessionId := some (some l.session.sessionId)
      environmentFingerprint := some (.obj l.opened.fingerprint.dump)
      status := some .initialized }

/-- The state after `retrieve_context`. -/
def retrieved : State := (l.started s).merge { status := some .retrievingContext }

/-- The state after `draft_candidate`. -/
def drafted : State := (l.retrieved s).merge { status := some .drafting }

/-- The state after `interactive_check`. -/
def checkedState : State :=
  match l.checked with
  | none => (l.drafted s).merge { status := some .failed }
  | some r => (l.drafted s).merge
      { interactiveResult := some (some r.dump), status := some .checkingInteractive }

/-- The state after `batch_verify`. -/
def verifiedState : State :=
  match l.verified with
  | none => (l.checkedState s).merge { status := some .failed }
  | some r => (l.checkedState s).merge
      { batchResult := some (some r.dump)
        status := some .batchVerifying
        trustLevel := some (.str r.trustLevel.text) }

/-- The state after `audit_trust`. -/
def audited : State := (l.verifiedState s).merge { status := some .auditing }

/-- Everything the lane writes. -/
def update : Update where
  sessionId := some (some l.session.sessionId)
  environmentFingerprint := some (.obj l.opened.fingerprint.dump)
  interactiveResult := l.checked.map fun r => some r.dump
  batchResult := l.verified.map fun r => some r.dump
  trustLevel := l.verified.map fun r => .str r.trustLevel.text
  status := some .auditing

/-- **The lane as one update**: the keys it does not write stay as they were. -/
theorem audited_eq : l.audited s = s.merge l.update := by
  unfold audited verifiedState checkedState drafted retrieved started update
  cases l.checked <;> cases l.verified <;> simp only [State.merge_assoc] <;> rfl

/-- The nodes of the lane, with the states they read. -/
def visited : List (Node × State) :=
  [(.initEnvironment, s), (.retrieveContext, l.started s), (.draftCandidate, l.retrieved s),
    (.interactiveCheck, l.drafted s), (.batchVerify, l.checkedState s),
    (.auditTrust, l.verifiedState s)]

/-- The calls of the lane. -/
def calls : List GatewayCall :=
  [.openEnvironment l.repoId (orNone s.repoPath) "HEAD", .createSession l.opened.fingerprintId] ++
    (match l.checked with
      | none => []
      | some _ => patchCalls l.session.sessionId (s.currentPatch.getD []) ++
          [.interactiveCheck l.session.sessionId (filePath s)]) ++
    (match l.verified with
      | none => []
      | some _ => [.batchVerify l.session.sessionId (s.targetFiles.getD [])
          (s.targetDeclarations.getD [])])

/-- The answers are the client's, and the checks let the lane through. -/
structure Valid : Prop where
  opens : deps.client.openEnvironment l.repoId (orNone s.repoPath) "HEAD" = .ok l.opened
  creates : deps.client.createSession l.opened.fingerprintId = .ok l.session
  noCheck : l.checked = none ↔ l.session.sessionId = ""
  checks : ∀ r, l.checked = some r →
    deps.client.interactiveCheck l.session.sessionId (filePath s) = .ok r
  noResult : l.verified = none ↔ l.session.sessionId = ""
  verifies : ∀ r, l.verified = some r →
    deps.client.batchVerify l.session.sessionId (s.targetFiles.getD [])
      (s.targetDeclarations.getD []) = .ok r
  routes : routeAfterInteractive (l.checkedState s) = .ok .batchVerify

end Lane

/-- The nodes that may only run before `evaluate_protocol`, or repair. -/
def Node.early : Node → Bool
  | .evaluateProtocol => false
  | .policyReview => false
  | .interruptForApproval => false
  | .finalize => false
  | .resumeWithApproval => false
  | _ => true

/-- A call that creates a review. -/
def GatewayCall.isReview : GatewayCall → Bool
  | .createPendingReview _ => true
  | _ => false

section

variable {deps : Deps} {s : State}

/-- The calls of a patch are about no review, -/
theorem patchCalls_not_review {sid : String} {p : Patch} {c : GatewayCall}
    (h : c ∈ patchCalls sid p) : c.isReview = false := by
  unfold patchCalls at h
  split at h
  · cases h
  · obtain rfl := List.mem_singleton.mp h
    rfl

/-- and neither are those of a lane. -/
theorem Lane.calls_not_review {l : Lane} {c : GatewayCall} (h : c ∈ l.calls s) :
    c.isReview = false := by
  simp only [Lane.calls, List.mem_append, List.mem_cons, List.not_mem_nil, or_false] at h
  rcases h with (h | h) | h
  · rcases h with rfl | rfl <;> rfl
  · cases hc : l.checked with
    | none => simp [hc] at h
    | some r =>
        simp only [hc, List.mem_append, List.mem_singleton] at h
        rcases h with h | rfl
        · exact patchCalls_not_review h
        · rfl
  · cases hv : l.verified with
    | none => simp [hv] at h
    | some r =>
        simp only [hv, List.mem_singleton] at h
        subst h
        rfl

/-- Early nodes create no review. -/
theorem early_not_review (deps : Deps) (s : State) {n : Node} (hn : n.early = true) :
    Eff.Only (fun c => c.isReview = false) (handler deps n s) := by
  -- The calls of a node are those of its parts; none of the early ones makes a review.
  cases n with
  | initEnvironment =>
      refine Eff.only_bind (Eff.only_lift _ _) fun _ => ?_
      refine Eff.only_bind (Eff.only_call (by rfl) _) fun _ => ?_
      exact Eff.only_bind (Eff.only_call (by rfl) _) fun _ => Eff.only_pure _ _
  | interactiveCheck =>
      show Eff.Only _ (interactiveCheck deps s)
      unfold interactiveCheck
      split
      · exact Eff.only_pure _ _
      · refine Eff.only_bind ?_ fun _ => ?_
        · unfold applyCurrentPatch
          split
          · exact Eff.only_pure _ _
          · exact Eff.only_bind (Eff.only_call (by rfl) _) fun _ => Eff.only_pure _ _
        · exact Eff.only_bind (Eff.only_call (by rfl) _) fun _ => Eff.only_pure _ _
  | batchVerify =>
      show Eff.Only _ (batchVerify deps s)
      unfold batchVerify
      split
      · exact Eff.only_pure _ _
      · exact Eff.only_bind (Eff.only_call (by rfl) _) fun _ => Eff.only_pure _ _
  | retrieveContext => exact Eff.only_pure _ _
  | draftCandidate => exact Eff.only_pure _ _
  | auditTrust => exact Eff.only_pure _ _
  | repairFromDiagnostics => exact Eff.only_pure _ _
  | repairFromGoals => exact Eff.only_pure _ _
  | evaluateProtocol => cases hn
  | policyReview => cases hn
  | interruptForApproval => cases hn
  | finalize => cases hn
  | resumeWithApproval => cases hn

/-! ## §2. The ends of the lane. -/

/-- A run that only ran early nodes: it created no review. -/
structure Early (r : Run) : Prop where
  visited : ∀ x ∈ r.visited, x.1.early = true
  calls : ∀ c ∈ r.calls, c.isReview = false

/-- A run that only ran early nodes and then raised, or ended repairing. -/
def Stopped (r : Run) : Prop := Early r ∧ ((∃ e, r.error = some e) ∨ EndsWith r .repairing)

/-- Stopped after one more early node is stopped. -/
theorem Stopped.next {n m : Node} {cs : List GatewayCall} {t : State} (hn : n.early = true)
    (h : (graph deps).hop n s = ⟨cs, t, .ok (some m)⟩) (hr : Stopped (run deps m t)) :
    Stopped (run deps n s) := by
  obtain ⟨⟨hv, hc⟩, he⟩ := hr
  have hcs : ∀ c ∈ cs, c.isReview = false := by
    have := early_not_review deps s hn
    rwa [Eff.Only, show handler deps n s = (graph deps).handler n s from rfl, ← Graph.hop_calls,
      h] at this
  rw [run_of_next (m := m) (by rw [h]), h]
  refine ⟨⟨?_, ?_⟩, he⟩
  · intro x hx
    rcases List.mem_cons.mp hx with rfl | hx
    · exact hn
    · exact hv x hx
  · intro c hc'
    rcases List.mem_append.mp hc' with h' | h'
    · exact hcs c h'
    · exact hc c h'

/-- An early node that raises stops the run. -/
theorem Stopped.raise {n : Node} {e : PyError} (hn : n.early = true)
    (h : ((graph deps).hop n s).next = .error e) : Stopped (run deps n s) := by
  rw [run_of_error h]
  refine ⟨⟨?_, ?_⟩, .inl ⟨e, rfl⟩⟩
  · intro x hx
    obtain rfl := List.mem_singleton.mp hx
    exact hn
  · intro c hc
    rw [Graph.hop_calls] at hc
    exact early_not_review deps s hn c hc

/-- A repair node stops the run. -/
theorem Stopped.repair {n : Node} (hn : n = .repairFromGoals ∨ n = .repairFromDiagnostics) :
    Stopped (run deps n s) := by
  rcases hn with rfl | rfl
  all_goals
    rw [run_of_end (by rfl)]
    refine ⟨⟨?_, ?_⟩, .inr ⟨rfl, rfl⟩⟩
    · intro x hx
      obtain rfl := List.mem_singleton.mp hx
      rfl
    · intro c hc
      cases hc

/-- `r` is what `visited` and `calls` did, and then `tail`. -/
structure Continues (r : Run) (visited : List (Node × State)) (calls : List GatewayCall)
    (tail : Run) : Prop where
  state : r.state = tail.state
  error : r.error = tail.error
  calls : r.calls = calls ++ tail.calls
  visited : r.visited = visited ++ tail.visited

/-- A run continues itself. -/
theorem Continues.refl (r : Run) : Continues r [] [] r := ⟨rfl, rfl, rfl, rfl⟩

/-- One hop, and then the rest. -/
theorem Continues.next {n m : Node} {t : State} {cs calls : List GatewayCall}
    {visited : List (Node × State)} {tail : Run}
    (h : (graph deps).hop n s = ⟨cs, t, .ok (some m)⟩)
    (hr : Continues (run deps m t) visited calls tail) :
    Continues (run deps n s) ((n, s) :: visited) (cs ++ calls) tail := by
  rw [run_of_next (m := m) (by rw [h]), h]
  exact ⟨hr.state, hr.error, by simp [hr.calls], by simp [hr.visited]⟩

/-- The session a lane's nodes find. -/
def Lane.sid (l : Lane) : Option String :=
  if l.session.sessionId = "" then none else some l.session.sessionId

/-- A lane has no session where the id is empty, -/
theorem Lane.sid_eq_none {l : Lane} : l.sid = none ↔ l.session.sessionId = "" := by
  simp [Lane.sid]

/-- and else the session of that id. -/
theorem Lane.sid_eq_some {l : Lane} {sid : String} :
    l.sid = some sid ↔ l.session.sessionId ≠ "" ∧ sid = l.session.sessionId := by
  by_cases h : l.session.sessionId = ""
  · simp [Lane.sid, h]
  · simp [Lane.sid, h, eq_comm]

/-- Both checks find the session of the lane. -/
theorem Lane.session_eq (l : Lane) (s : State) :
    (l.drafted s).session = l.sid ∧ (l.checkedState s).session = l.sid := by
  constructor
  · simp [Lane.drafted, Lane.retrieved, Lane.started, State.session, Lane.sid]
  · cases hc : l.checked <;>
      simp [Lane.checkedState, hc, Lane.drafted, Lane.retrieved, Lane.started, State.session,
        Lane.sid]

/-- One hop from `interactive_check`: a check exactly where there is a session. -/
theorem Lane.hop_interactiveCheck (l : Lane) (s : State) {m : Option Node}
    (h : ((graph deps).hop .interactiveCheck (l.drafted s)).next = .ok m) :
    ∃ checked n,
      (checked = none ↔ l.session.sessionId = "") ∧
      (∀ r, checked = some r →
        deps.client.interactiveCheck l.session.sessionId (filePath s) = .ok r) ∧
      routeAfterInteractive ({ l with checked := checked }.checkedState s) = .ok n ∧
      (graph deps).hop .interactiveCheck (l.drafted s) =
        ⟨match checked with
          | none => []
          | some _ => patchCalls l.session.sessionId (s.currentPatch.getD []) ++
              [.interactiveCheck l.session.sessionId (filePath s)],
          { l with checked := checked }.checkedState s, .ok (some n)⟩ := by
  rcases ObligationRuntime.hop_interactiveCheck h with
    ⟨hnone, n, hroute, hop⟩ | ⟨sid, r, n, hsid, hr, hroute, hop⟩
  · rw [(l.session_eq s).1] at hnone
    exact ⟨none, n, by simp [Lane.sid_eq_none.mp hnone], by simp, hroute, hop⟩
  · rw [(l.session_eq s).1] at hsid
    obtain ⟨hne, rfl⟩ := Lane.sid_eq_some.mp hsid
    refine ⟨some r, n, by simp [hne], ?_, hroute, hop⟩
    intro r' hr'
    cases hr'
    exact hr

/-- One hop from `batch_verify`: a result exactly where there is a session. -/
theorem Lane.hop_batchVerify (l : Lane) (s : State) {m : Option Node}
    (h : ((graph deps).hop .batchVerify (l.checkedState s)).next = .ok m) :
    ∃ verified,
      (verified = none ↔ l.session.sessionId = "") ∧
      (∀ r, verified = some r → deps.client.batchVerify l.session.sessionId
        (s.targetFiles.getD []) (s.targetDeclarations.getD []) = .ok r) ∧
      (graph deps).hop .batchVerify (l.checkedState s) =
        ⟨match verified with
          | none => []
          | some _ => [.batchVerify l.session.sessionId (s.targetFiles.getD [])
              (s.targetDeclarations.getD [])],
          { l with verified := verified }.verifiedState s, .ok (some .auditTrust)⟩ := by
  -- The files and declarations to verify are inputs: the check left them alone.
  have hin : (l.checkedState s).targetFiles = s.targetFiles ∧
      (l.checkedState s).targetDeclarations = s.targetDeclarations := by
    unfold Lane.checkedState
    split <;> exact ⟨rfl, rfl⟩
  rcases ObligationRuntime.hop_batchVerify h with ⟨hnone, hop⟩ | ⟨sid, r, hsid, hr, hop⟩
  · rw [(l.session_eq s).2] at hnone
    exact ⟨none, by simp [Lane.sid_eq_none.mp hnone], by simp, hop⟩
  · rw [(l.session_eq s).2] at hsid
    obtain ⟨hne, rfl⟩ := Lane.sid_eq_some.mp hsid
    rw [hin.1, hin.2] at hr hop
    refine ⟨some r, by simp [hne], ?_, hop⟩
    intro r' hr'
    cases hr'
    exact hr

/-- **How a fresh run starts**: it stops early, or it goes down its lane and on
from `evaluate_protocol`. -/
theorem fresh_run (deps : Deps) (s : State) :
    Stopped (run deps .initEnvironment s) ∨
      ∃ l : Lane, l.Valid deps s ∧
        Continues (run deps .initEnvironment s) (l.visited s) (l.calls s)
          (run deps .evaluateProtocol (l.audited s)) := by
  cases hi : ((graph deps).hop .initEnvironment s).next with
  | error e => exact .inl (.raise rfl hi)
  | ok m =>
      obtain ⟨repoId, opened, session, ho, hc, hinit⟩ := hop_initEnvironment hi
      -- The lane so far: nothing is checked or verified yet.
      let l₀ : Lane := ⟨repoId, opened, session, none, none⟩
      have stop : Stopped (run deps .interactiveCheck (l₀.drafted s)) →
          Stopped (run deps .initEnvironment s) := fun h =>
        .next rfl hinit (.next rfl hop_retrieveContext (.next rfl hop_draftCandidate h))
      cases hk : ((graph deps).hop .interactiveCheck (l₀.drafted s)).next with
      | error e => exact .inl (stop (.raise rfl hk))
      | ok m =>
          obtain ⟨checked, n, hnone, hr, hroute, hcheck⟩ := l₀.hop_interactiveCheck s hk
          let l₁ : Lane := { l₀ with checked := checked }
          rcases routeAfterInteractive_rank hroute with rfl | hrep
          · cases hb : ((graph deps).hop .batchVerify (l₁.checkedState s)).next with
            | error e => exact .inl (stop (.next rfl hcheck (.raise rfl hb)))
            | ok m =>
                obtain ⟨verified, hvnone, hvr, hverify⟩ := l₁.hop_batchVerify s hb
                let l : Lane := { l₁ with verified := verified }
                have h := Continues.next hinit (.next hop_retrieveContext (.next hop_draftCandidate
                  (.next hcheck (.next hverify (.next hop_auditTrust (.refl _))))))
                refine .inr ⟨l, ⟨ho, hc, hnone, hr, hvnone, hvr, hroute⟩, h.state, h.error, ?_,
                  h.visited⟩
                rw [h.calls]
                simp only [List.nil_append, List.append_nil, Lane.calls, List.append_assoc]
                rfl
          -- A route to repair.
          · exact .inl (stop (.next rfl hcheck (.repair hrep)))

/-! ## §3. From `evaluate_protocol` on. -/

/-- The events are screened, then reviewed. -/
theorem run_evaluateProtocol {t : State} {found : Option PolicyDecision}
    (h : protocolOutcome deps t = .ok found) :
    Continues (run deps .evaluateProtocol t) [(.evaluateProtocol, t)] []
      (run deps .policyReview (screened t found)) :=
  .next (hop_evaluateProtocol h) (.refl _)

/-- A run ends where the protocol cannot be evaluated, -/
theorem run_evaluateProtocol_error {t : State} {e : PyError}
    (h : protocolOutcome deps t = .error e) :
    run deps .evaluateProtocol t = ⟨t, [], [(.evaluateProtocol, t)], some e⟩ := by
  rw [run_of_error (e := e) (by rw [hop_evaluateProtocol_error h]), hop_evaluateProtocol_error h]

/-- `finalize` ends the run accepted, with one more artifact. -/
theorem run_finalize {t : State} {b : WitnessBundle} (h : bundleOf deps t = .ok b) :
    run deps .finalize t =
      ⟨t.merge
        { status := some .accepted
          artifacts := some (t.artifacts.getD [] ++ [bundleArtifact b]) },
        [], [(.finalize, t)], none⟩ := by
  rw [run_of_end (by rw [hop_finalize h]), hop_finalize h]

/-- and where no bundle can be built. -/
theorem run_finalize_error {t : State} {e : PyError} (h : bundleOf deps t = .error e) :
    run deps .finalize t = ⟨t, [], [(.finalize, t)], some e⟩ := by
  rw [run_of_error (e := e) (by rw [hop_finalize_error h]), hop_finalize_error h]

/-- `interrupt_for_approval` ends the run awaiting approval. -/
theorem run_interruptForApproval {t : State} {summary : PatchSummary}
    (h : patchSummary deps t = .ok summary) :
    run deps .interruptForApproval t =
      ⟨t.merge { approvalRequired := some true, status := some .awaitingApproval },
        (pushReview deps (reviewPayload t summary ++ policyAudit t)).calls,
        [(.interruptForApproval, t)], none⟩ := by
  rw [run_of_end (by rw [hop_interruptForApproval h]), hop_interruptForApproval h]

/-- At most one review is pushed. -/
theorem pushReview_calls (payload : Dict) :
    (pushReview deps payload).calls = [] ∨
      ∃ p, (pushReview deps payload).calls = [.createPendingReview p] := by
  unfold pushReview
  split
  · exact .inl rfl
  · exact .inr ⟨_, rfl⟩

/-! ## §4. The review. -/

/-- A kept refusal ends the run. -/
theorem route_of_refused {t : State} (h : alreadyRefused t = true) :
    routeAfterPolicy (reviewed t none) = none := by
  have hp : (reviewed t none).policy = t.policy := by simp [reviewed, State.policy]
  unfold routeAfterPolicy
  rw [hp]
  cases hd : t.policy with
  | none => simp [alreadyRefused, hd, Dict.getD] at h
  | some pd =>
      cases pd with
      | nil => simp [alreadyRefused, hd, Dict.getD] at h
      | cons kv pd =>
          simp only [alreadyRefused, hd, Option.getD_some, Bool.or_eq_true,
            decide_eq_true_eq] at h
          have hdef : Dict.getD (kv :: pd) "decision" (.str "failed") =
              Dict.getD (kv :: pd) "decision" .null := by
            unfold Dict.getD at h ⊢
            cases hk : Dict.get? (kv :: pd) "decision" with
            | none => simp [hk] at h
            | some v => rfl
          rcases h with h | h <;> simp [hdef, h]

/-- A missing token ends the run. -/
theorem route_of_missingToken (t : State) :
    routeAfterPolicy (reviewed t (some missingToken)) = none := by
  have hp : (reviewed t (some missingToken)).policy = some missingToken := by
    simp [reviewed, State.policy]
  rw [routeAfterPolicy, hp]
  rfl

/-- What is found decides the way. -/
theorem route_of_found (t : State) (d : PolicyDecision) :
    routeAfterPolicy (reviewed t (some d.dump)) =
      match d.decision with
      | .accepted => some .finalize
      | .needsReview => some .interruptForApproval
      | _ => none := by
  have hp : (reviewed t (some d.dump)).policy = some d.dump := by
    simp [reviewed, State.policy]
  have hd : Dict.getD d.dump "decision" (.str "failed") = .str d.decision.text := by
    simp [Dict.getD]
  rw [routeAfterPolicy, hp, Dict.present_of_ne (by simp [PolicyDecision.dump])]
  simp only [hd]
  cases d.decision <;> simp [Decision.text]

/-- The patch is summarised alike before and after the review. -/
theorem patchSummary_reviewed (t : State) (decision : Option Dict) :
    patchSummary deps (reviewed t decision) = patchSummary deps t := by
  simp [patchSummary, State.protectedPaths, reviewed]

/-- A review that finds something had a summary. -/
theorem patchSummary_of_finds {t : State} {d : PolicyDecision} (h : Finds deps t d) :
    ∃ summary, patchSummary deps t = .ok summary := by
  obtain ⟨summary, hs, -⟩ := bind_eq_ok_iff.mp h.evaluates
  exact ⟨summary, hs⟩

/-- How a run from `policy_review` can end. -/
inductive Reviewed (deps : Deps) (t : State) : Run → Prop
  | raised {r : Run} (e : PyError) (error : r.error = some e) (calls : r.calls = []) :
      Reviewed deps t r
  | refused {r : Run} (decision : Option Dict)
      (decides : reviewDecision deps t = .ok decision)
      (refuses : ∀ d, Finds deps t d → d.decision ≠ .accepted ∧ d.decision ≠ .needsReview)
      (state : r.state = reviewed t decision) (error : r.error = none) (calls : r.calls = []) :
      Reviewed deps t r
  | accepted {r : Run} (d : PolicyDecision) (b : WitnessBundle) (finds : Finds deps t d)
      (accepts : d.decision = .accepted)
      (bundle : bundleOf deps (reviewed t (some d.dump)) = .ok b)
      (state : r.state = (reviewed t (some d.dump)).merge
        { status := some .accepted
          artifacts := some (t.artifacts.getD [] ++ [bundleArtifact b]) })
      (error : r.error = none) (calls : r.calls = []) :
      Reviewed deps t r
  | interrupted {r : Run} (d : PolicyDecision) (summary : PatchSummary) (finds : Finds deps t d)
      (reviews : d.decision = .needsReview) (summarised : patchSummary deps t = .ok summary)
      (state : r.state = (reviewed t (some d.dump)).merge
        { approvalRequired := some true, status := some .awaitingApproval })
      (error : r.error = none)
      (calls : r.calls = (pushReview deps (reviewPayload (reviewed t (some d.dump)) summary ++
        policyAudit (reviewed t (some d.dump)))).calls) :
      Reviewed deps t r

/-- **How a run from `policy_review` ends.** -/
theorem run_policyReview (deps : Deps) (t : State) :
    Reviewed deps t (run deps .policyReview t) := by
  -- Raised, kept, blocked for the token, or found: then as the decision says.
  cases hrd : reviewDecision deps t with
  | error e =>
      have hop := hop_policyReview_error hrd
      rw [run_of_error (e := e) (by rw [hop]), hop]
      exact .raised e rfl rfl
  | ok decision =>
      have hop := hop_policyReview hrd
      -- Where the route is the end, the run stops in the reviewed state.
      have stop : routeAfterPolicy (reviewed t decision) = none →
          (∀ d, Finds deps t d → d.decision ≠ .accepted ∧ d.decision ≠ .needsReview) →
          Reviewed deps t (run deps .policyReview t) := by
        intro hroute href
        rw [run_of_end (by rw [hop, hroute]), hop]
        exact .refused decision hrd href rfl rfl rfl
      have go : ∀ n, routeAfterPolicy (reviewed t decision) = some n →
          Continues (run deps .policyReview t) [(.policyReview, t)] []
            (run deps n (reviewed t decision)) := fun n hroute =>
        .next (by rw [hop, hroute]) (.refl _)
      rcases reviewDecision_cases hrd with ⟨href, rfl⟩ | ⟨hnot, hgate, hmiss, rfl⟩ | ⟨d, hd, rfl⟩
      · refine stop (route_of_refused href) fun d hd => ?_
        have := hd.notRefused
        simp [href] at this
      · refine stop (route_of_missingToken t) fun d hd => ?_
        have := hd.token hgate
        simp [hmiss] at this
      · have hroute := route_of_found t d
        -- The evaluation is a function: there is one decision to find.
        have huniq : ∀ d', Finds deps t d' → d' = d := fun d' hd' => by
          have := hd'.evaluates
          rw [hd.evaluates] at this
          exact (Except.ok.inj this).symm
        cases hdec : d.decision with
        | accepted =>
            have h := go .finalize (by rw [hroute, hdec])
            cases hb : bundleOf deps (reviewed t (some d.dump)) with
            | error e =>
                rw [run_finalize_error hb] at h
                exact .raised e h.error h.calls
            | ok b =>
                rw [run_finalize hb] at h
                refine .accepted d b hd hdec hb ?_ h.error h.calls
                rw [h.state]
                simp [reviewed]
        | needsReview =>
            have h := go .interruptForApproval (by rw [hroute, hdec])
            obtain ⟨summary, hs⟩ := patchSummary_of_finds hd
            rw [run_interruptForApproval (by rw [patchSummary_reviewed]; exact hs)] at h
            exact .interrupted d summary hd hdec hs h.state h.error (by simpa using h.calls)
        | rejected | blocked | lowerTrust | failed =>
            refine stop (by rw [hroute, hdec]) fun d' hd' => ?_
            rw [huniq d' hd', hdec]
            exact ⟨by decide, by decide⟩

/-- **A run that reaches `policy_review` ends accepted** exactly when the review
finds acceptance and the bundle can be built. -/
theorem review_accepted_iff {t : State} :
    EndsWith (run deps .policyReview t) .accepted ↔
      ∃ d b, Finds deps t d ∧ d.decision = .accepted ∧
        bundleOf deps (reviewed t (some d.dump)) = .ok b := by
  constructor
  · intro hyp
    obtain ⟨herr, hst⟩ := hyp
    cases run_policyReview deps t with
    | raised e error calls => simp [error] at herr
    | refused decision decides refuses state error calls =>
        simp [state, reviewed] at hst
    | accepted d b finds accepts bundle state error calls => exact ⟨d, b, finds, accepts, bundle⟩
    | interrupted d summary finds reviews summarised state error calls => simp [state] at hst
  · intro hyp
    obtain ⟨d, b, hd, hacc, hb⟩ := hyp
    have hop := hop_policyReview (reviewDecision_of_finds hd)
    have h : Continues (run deps .policyReview t) [(.policyReview, t)] []
        (run deps .finalize (reviewed t (some d.dump))) :=
      .next (by rw [hop, route_of_found, hacc]) (.refl _)
    rw [run_finalize hb] at h
    exact ⟨h.error, by rw [h.state]; rfl⟩

/-- A refusal that stands when the review starts is the end of the run. -/
theorem run_refused {t : State} (h : alreadyRefused t = true) :
    run deps .policyReview t = ⟨reviewed t none, [], [(.policyReview, t)], none⟩ := by
  have hrd : reviewDecision deps t = .ok none := by simp [reviewDecision, h]
  have hop := hop_policyReview hrd
  rw [run_of_end (by rw [hop, route_of_refused h]), hop]

/-! ## §5. Fresh runs, up to their review. -/

/-- The state in which the lane's run reaches `policy_review`. -/
def Lane.atReview (l : Lane) (s : State) (found : Option PolicyDecision) : State :=
  screened (l.audited s) found

/-- The fingerprint that the lane opened is on record at the review. -/
@[simp] theorem Lane.atReview_fingerprint (l : Lane) (s : State)
    (found : Option PolicyDecision) :
    (l.atReview s found).environmentFingerprint = some (.obj l.opened.fingerprint.dump) := by
  cases found <;> simp [Lane.atReview, screened, Lane.audited_eq, Lane.update]

/-- Neither the lane nor the review appends an artifact. -/
@[simp] theorem Lane.atReview_artifacts (l : Lane) (s : State)
    (found : Option PolicyDecision) : (l.atReview s found).artifacts = s.artifacts := by
  cases found <;> simp [Lane.atReview, screened, Lane.audited_eq, Lane.update]

/-- Neither touches what the run was given. -/
theorem Lane.atReview_inputs (l : Lane) (s : State) (found : Option PolicyDecision) :
    (l.atReview s found).inputs = s.inputs := by
  cases found <;> simp [Lane.atReview, screened, Lane.audited_eq, Lane.update, State.inputs]

/-- The nodes before the review. -/
def Lane.visitedBefore (l : Lane) (s : State) : List (Node × State) :=
  l.visited s ++ [(.evaluateProtocol, l.audited s)]

/-- A run that never came to a review, nor to a good end. -/
structure Unreviewed (r : Run) : Prop where
  visited : ∀ x ∈ r.visited, x.1 ≠ .policyReview
  calls : ∀ c ∈ r.calls, c.isReview = false
  notAccepted : ¬ EndsWith r .accepted
  notAwaiting : ¬ EndsWith r .awaitingApproval

/-- A stopped run was not reviewed. -/
theorem Stopped.unreviewed {r : Run} (h : Stopped r) : Unreviewed r := by
  obtain ⟨⟨hvisited, hcalls⟩, hend⟩ := h
  have hno : ∀ status, status ≠ .repairing → ¬ EndsWith r status := by
    rintro status hne ⟨herr, hst⟩
    -- It raised, or its status is that of a repair.
    rcases hend with ⟨e, he⟩ | ⟨-, hrep⟩
    · simp [he] at herr
    · exact hne (Option.some.inj (hst.symm.trans hrep))
  refine ⟨fun x hx hn => ?_, hcalls, hno _ (by decide), hno _ (by decide)⟩
  have := hvisited x hx
  simp [hn, Node.early] at this

/-- **How a fresh run comes to its review**: not at all, or down its lane and past
the protocol check. -/
theorem reach_review (deps : Deps) (s : State) :
    Unreviewed (run deps .initEnvironment s) ∨
      ∃ (l : Lane) (found : Option PolicyDecision),
        l.Valid deps s ∧ protocolOutcome deps (l.audited s) = .ok found ∧
        Continues (run deps .initEnvironment s) (l.visitedBefore s) (l.calls s)
          (run deps .policyReview (l.atReview s found)) := by
  rcases fresh_run deps s with hstop | ⟨l, hl, hlane⟩
  · exact .inl hstop.unreviewed
  · cases hp : protocolOutcome deps (l.audited s) with
    | error e =>
        rw [run_evaluateProtocol_error hp] at hlane
        -- Ill-typed events make the protocol check raise: the run has no good end.
        have hno : ∀ status, ¬ EndsWith (run deps .initEnvironment s) status := by
          rintro status ⟨herr, -⟩
          simp [hlane.error] at herr
        refine .inl ⟨?_, ?_, hno _, hno _⟩
        · intro x hx
          rw [hlane.visited] at hx
          simp only [Lane.visited, List.cons_append, List.nil_append, List.mem_cons,
            List.not_mem_nil, or_false] at hx
          rcases hx with rfl | rfl | rfl | rfl | rfl | rfl | rfl <;> simp
        · intro c hc
          rw [hlane.calls, List.append_nil] at hc
          exact Lane.calls_not_review hc
    | ok found =>
        have hscreen := run_evaluateProtocol hp
        exact .inr ⟨l, found, hl, hp,
          ⟨hlane.state.trans hscreen.state, hlane.error.trans hscreen.error,
            by rw [hlane.calls, hscreen.calls, List.nil_append]; rfl,
            by rw [hlane.visited, hscreen.visited, Lane.visitedBefore, List.append_assoc]; rfl⟩⟩

/-- The review of a run that came down its lane is in the lane's state. -/
theorem Continues.review_state {l : Lane} {found : Option PolicyDecision} {t : State}
    (h : Continues (run deps .initEnvironment s) (l.visitedBefore s) (l.calls s)
      (run deps .policyReview (l.atReview s found)))
    (ht : (.policyReview, t) ∈ (run deps .initEnvironment s).visited) :
    t = l.atReview s found := by
  rw [h.visited] at ht
  rcases List.mem_append.mp ht with ht | ht
  · simp [Lane.visitedBefore, Lane.visited] at ht
  -- Past the lane the ranks fall, so the review comes once.
  · rcases visited_rank ht with ht | ht
    · exact (Prod.mk.inj ht).2
    · simp [rank] at ht

/-- The review the run came to is one of its nodes. -/
theorem Continues.review_mem {l : Lane} {found : Option PolicyDecision}
    (h : Continues (run deps .initEnvironment s) (l.visitedBefore s) (l.calls s)
      (run deps .policyReview (l.atReview s found))) :
    (.policyReview, l.atReview s found) ∈ (run deps .initEnvironment s).visited := by
  rw [h.visited]
  refine List.mem_append_right _ ?_
  have hhead : ∀ t, (Node.policyReview, t) ∈ (run deps .policyReview t).visited := by
    intro t
    cases hn : ((graph deps).hop .policyReview t).next with
    | error e => simp [run_of_error hn]
    | ok m =>
        cases m with
        | none => simp [run_of_end hn]
        | some m => simp [run_of_next hn]
  exact hhead _

/-- The bundle of a state with a fingerprint on record. -/
theorem bundleOf_fingerprint (deps : Deps) {t : State} {fp : EnvironmentFingerprint}
    (h : t.environmentFingerprint = some (.obj fp.dump)) :
    bundleOf deps t = .ok
      { createdAt := deps.now
        bundleId := newId "wit" deps.hex
        obligationId := t.obligationId.getD ""
        environmentFingerprint := fp
        interactive := interactiveOf deps (t.interactive.getD [])
        acceptance := acceptanceOf deps t.batch
        policy := policyOf (t.policy.getD [])
        approval := t.approval.dict?.getD [] } := by
  -- The client's fingerprint is not empty, and validates as itself.
  have hor : (Json.obj fp.dump).orElse (.obj []) = .obj fp.dump := by
    simp [Json.orElse, EnvironmentFingerprint.dump]
  have hfp : fingerprintOf deps (.obj fp.dump) = .ok fp := by
    simp [fingerprintOf]
  simp only [bundleOf, h, Option.getD_some, hor, hfp, ok_bind, pure_eq_ok]

/-- The fingerprint a lane opened always makes a bundle. -/
theorem Lane.bundle_ok (l : Lane) (deps : Deps) (s : State) (found : Option PolicyDecision)
    (decision : Option Dict) :
    ∃ b, bundleOf deps (reviewed (l.atReview s found) decision) = .ok b :=
  ⟨_, bundleOf_fingerprint deps (l.atReview_fingerprint s found)⟩

/-- **A fresh run ends accepted** exactly when it comes to a review that lets it
through. -/
theorem fresh_accepted_iff {s : State} :
    EndsWith (run deps .initEnvironment s) .accepted ↔
      ∃ t, (.policyReview, t) ∈ (run deps .initEnvironment s).visited ∧ LetThrough deps t := by
  rcases reach_review deps s with hun | ⟨l, found, -, -, hcont⟩
  · refine ⟨fun h => absurd h hun.notAccepted, ?_⟩
    intro hyp
    obtain ⟨t, ht, -⟩ := hyp
    exact absurd rfl (hun.visited _ ht)
  · have hsame : EndsWith (run deps .initEnvironment s) .accepted ↔
        EndsWith (run deps .policyReview (l.atReview s found)) .accepted := by
      rw [EndsWith, EndsWith, hcont.state, hcont.error]
    rw [hsame, review_accepted_iff]
    constructor
    · intro hyp
      obtain ⟨d, b, hd, hacc, -⟩ := hyp
      exact ⟨_, hcont.review_mem, letThrough_iff.mpr ⟨d, hd, hacc⟩⟩
    · intro hyp
      obtain ⟨t, ht, hlet⟩ := hyp
      obtain rfl := hcont.review_state ht
      obtain ⟨d, hd, hacc⟩ := letThrough_iff.mp hlet
      obtain ⟨b, hb⟩ := l.bundle_ok deps s found (some d.dump)
      exact ⟨d, b, hd, hacc, hb⟩

/-- An accepted run keeps the batch result it was reviewed with. -/
theorem fresh_accepted_batch {s t : State}
    (h : EndsWith (run deps .initEnvironment s) .accepted)
    (ht : (.policyReview, t) ∈ (run deps .initEnvironment s).visited) :
    (run deps .initEnvironment s).state.batch = t.batch := by
  rcases reach_review deps s with hun | ⟨l, found, -, -, hcont⟩
  · exact absurd h hun.notAccepted
  · obtain rfl := hcont.review_state ht
    rw [EndsWith, hcont.state, hcont.error] at h
    rw [hcont.state]
    cases run_policyReview deps (l.atReview s found) with
    | raised e error calls => simp [error] at h
    | refused decision decides refuses state error calls =>
        simp [state, reviewed] at h
    | accepted d b finds accepts bundle state error calls =>
        simp [state, reviewed, State.batch]
    | interrupted d summary finds reviews summarised state error calls => simp [state] at h

/-! ## §6. Resuming. -/

/-- Resuming does not touch what the bundle is made of. -/
theorem bundleOf_resumed : bundleOf deps (resumed s) = bundleOf deps s := by
  simp [bundleOf, resumed, State.interactive, State.batch, State.policy, State.approval]

/-- How a run from `resume_with_approval` ends when the token is an approval. -/
theorem run_resume_approved (deps : Deps) {t : State} (h : t.approval = .str "approved") :
    Continues (run deps .resumeWithApproval t) [(.resumeWithApproval, t)] []
      (run deps .finalize (resumed t)) := by
  have hroute : routeAfterResume (resumed t) = some .finalize := by
    simp only [State.approval] at h
    simp [routeAfterResume, resumed, State.approval, h]
  have hop : (graph deps).hop .resumeWithApproval t = ⟨[], resumed t, .ok (some .finalize)⟩ := by
    rw [hop_resumeWithApproval, hroute]
  exact .next hop (.refl _)

/-- Without an approval a resumed run is rejected. -/
theorem run_resume_rejected {t : State} (h : t.approval ≠ .str "approved") :
    run deps .resumeWithApproval t =
      ⟨t.merge { approvalRequired := some false, status := some .rejected }, [],
        [(.resumeWithApproval, t)], none⟩ := by
  have hroute : routeAfterResume (resumed t) = none := by
    simp only [State.approval] at h
    simp [routeAfterResume, resumed, State.approval, h]
  -- `approval or "rejected"` is an approval only where the token is.
  have hor : t.approval.orElse (.str "rejected") ≠ .str "approved" := by
    unfold Json.orElse
    split
    · exact h
    · decide
  rw [run_of_end (by rw [hop_resumeWithApproval, hroute]), hop_resumeWithApproval]
  simp [resumed, hor]

end

end ObligationRuntime
