/-
  ObligationRuntime.Guarantees.AcceptanceSoundness — what an accepted run, or one
  that awaits approval, has behind it.

  A run from `make_initial_state` is fresh: nothing is approved yet, so it starts
  at `init_environment`, whatever the thread's checkpoint held.  With a session
  it cannot reach a good end except down its whole lane, on one session, with
  every check passed; and a review is created only by a run that ends awaiting
  approval.

  Main results:
    * `admitted_of_finds` — what a review that lets a run through has seen,
    * `acceptance_sound` — the guarantee over whole runs.
-/
import ObligationRuntime.Runtime.Runs

namespace ObligationRuntime

open Py Flow Handlers PolicyEngine

/-! ## §1. The evidence of a run. -/

/-- The answers a run was given, and the decision it came to. -/
structure Evidence where
  repoId : Json
  opened : OpenEnvironmentResponse
  session : CreateSessionResponse
  checked : InteractiveCheckApiResponse
  verified : BatchVerifyResult
  decision : PolicyDecision

/-- The file an initial state has checked. -/
def RunRequest.filePath (req : RunRequest) : String := req.targetFiles.headD "Main.lean"

/-- The run made its calls on one session, in order (`reviews` last), was
answered `e`, and every check of the evidence passed. -/
structure Admitted (deps : Deps) (req : RunRequest) (r : Run) (e : Evidence)
    (reviews : List GatewayCall) : Prop where
  opens : deps.client.openEnvironment e.repoId (orNone (some req.repoPath)) "HEAD" = .ok e.opened
  creates : deps.client.createSession e.opened.fingerprintId = .ok e.session
  checks : deps.client.interactiveCheck e.session.sessionId req.filePath = .ok e.checked
  verifies : deps.client.batchVerify e.session.sessionId req.targetFiles
    (req.targetDeclarations.getD []) = .ok e.verified
  calls : r.calls =
    [.openEnvironment e.repoId (orNone (some req.repoPath)) "HEAD",
      .createSession e.opened.fingerprintId] ++
    patchCalls e.session.sessionId (req.currentPatch.getD []) ++
    [.interactiveCheck e.session.sessionId req.filePath,
      .batchVerify e.session.sessionId req.targetFiles (req.targetDeclarations.getD [])] ++
    reviews
  interactiveOk : e.checked.ok = true
  noErrors : ∀ d ∈ e.checked.diagnostics, d.severity ≠ .error
  noGoals : ∀ g ∈ e.checked.goals, g.text = ""
  batchOk : e.verified.ok = true
  auditClean : e.verified.axiomAudit.blockedReasons = []
  interactive : r.state.interactive = some e.checked.dump
  batch : r.state.batch = some e.verified.dump
  policy : r.state.policy = some e.decision.dump

/-- Every session the gateway creates has a name. -/
def NamesSessions (deps : Deps) : Prop :=
  ∀ fid c, deps.client.createSession fid = .ok c → c.sessionId ≠ ""

section

variable {deps : Deps}

/-! ## §2. Fresh runs. -/

/-- An initial state starts at `init_environment`. -/
theorem routeStart_initial (checkpoint : Option State) (req : RunRequest) :
    routeStart (startState checkpoint (makeInitialState req)) = .initEnvironment := by
  simp [routeStart, startState, makeInitialState]

/-- Screening does not touch the evidence. -/
theorem screened_evidence (t : State) (found : Option PolicyDecision) :
    (screened t found).interactive = t.interactive ∧ (screened t found).batch = t.batch := by
  cases found <;> simp [screened, State.interactive, State.batch]

/-- **What a review that lets a run through has seen.** -/
theorem admitted_of_finds {s : State} {l : Lane} (hl : l.Valid deps s)
    (hsid : l.session.sessionId ≠ "") {found : Option PolicyDecision} {d : PolicyDecision}
    (hd : Finds deps (l.atReview s found) d)
    (hdec : d.decision = .accepted ∨ d.decision = .needsReview) :
    ∃ checked verified,
      l.checked = some checked ∧ l.verified = some verified ∧
      (l.atReview s found).interactive = some checked.dump ∧
      (l.atReview s found).batch = some verified.dump ∧
      checked.ok = true ∧ (∀ d ∈ checked.diagnostics, d.severity ≠ .error) ∧
      (∀ g ∈ checked.goals, g.text = "") ∧ verified.ok = true ∧
      verified.axiomAudit.blockedReasons = [] := by
  -- With a session there is a check and a result.
  obtain ⟨checked, hc⟩ := Option.ne_none_iff_exists'.mp fun h => hsid (hl.noCheck.mp h)
  obtain ⟨verified, hv⟩ := Option.ne_none_iff_exists'.mp fun h => hsid (hl.noResult.mp h)
  have hci : (l.checkedState s).interactive = some checked.dump := by
    simp [Lane.checkedState, hc, State.interactive]
  have hti : (l.atReview s found).interactive = some checked.dump := by
    rw [Lane.atReview, (screened_evidence _ _).1]
    simp [Lane.audited, Lane.verifiedState, Lane.checkedState, hc, hv, State.interactive]
  have htb : (l.atReview s found).batch = some verified.dump := by
    rw [Lane.atReview, (screened_evidence _ _).2]
    simp [Lane.audited, Lane.verifiedState, hv, State.batch]
  refine ⟨checked, verified, hc, hv, hti, htb, ?_⟩
  -- The route to `batch_verify` says that nothing was left to repair.
  have hroute := hl.routes
  rw [routeAfterInteractive_dump hci] at hroute
  have hok : checked.ok = true ∧ openGoal checked.goals = false := by
    cases ho : checked.ok <;> cases hg : openGoal checked.goals <;> simp [ho, hg] at hroute ⊢
  -- The gates that did not fire say the rest.
  obtain ⟨summary, -, hev⟩ := bind_eq_ok_iff.mp hd.evaluates
  rw [hti, htb] at hev
  obtain ⟨hgi, hgo, hga⟩ := evaluate_admits (batch_dump_present verified) hev hdec
  refine ⟨hok.1, ?_, ?_, batchOkGate_dump_pass.mp hgo, axiomGate_dump_pass.mp hga⟩
  · have := interactiveGate_dump_pass.mp hgi
    simpa [errorDiagnostics, List.filter_eq_nil_iff] using this
  · simpa [openGoal] using hok.2

/-- The tail of a run that the review let through, put together with its lane. -/
theorem admitted_of_tail {checkpoint : Option State} {req : RunRequest} {r tail : Run} {l : Lane}
    {found : Option PolicyDecision} {d : PolicyDecision} {vis : List (Node × State)}
    (hl : l.Valid deps (startState checkpoint (makeInitialState req)))
    (hsid : l.session.sessionId ≠ "")
    (hd : Finds deps (l.atReview (startState checkpoint (makeInitialState req)) found) d)
    (hdec : d.decision = .accepted ∨ d.decision = .needsReview)
    (hr : Continues r vis (l.calls (startState checkpoint (makeInitialState req))) tail)
    (hi : tail.state.interactive =
      (l.atReview (startState checkpoint (makeInitialState req)) found).interactive)
    (hb : tail.state.batch =
      (l.atReview (startState checkpoint (makeInitialState req)) found).batch)
    (hp : tail.state.policy = some d.dump) :
    ∃ e, Admitted deps req r e tail.calls ∧ e.decision = d := by
  obtain ⟨checked, verified, hc, hv, hti, htb, hok, herr, hgoal, hbok, haud⟩ :=
    admitted_of_finds hl hsid hd hdec
  -- The fields of the request reach the lane through the initial state.
  have hpatch : (startState checkpoint (makeInitialState req)).currentPatch =
      some (req.currentPatch.getD []) := by simp [startState, makeInitialState]
  have hfiles : (startState checkpoint (makeInitialState req)).targetFiles =
      some req.targetFiles := by simp [startState, makeInitialState]
  have hdecls : (startState checkpoint (makeInitialState req)).targetDeclarations =
      some (req.targetDeclarations.getD []) := by simp [startState, makeInitialState]
  have hrepo : (startState checkpoint (makeInitialState req)).repoPath = some req.repoPath := by
    simp [startState, makeInitialState]
  have hfile : filePath (startState checkpoint (makeInitialState req)) = req.filePath := by
    simp [filePath, hfiles, RunRequest.filePath]
  refine ⟨⟨l.repoId, l.opened, l.session, checked, verified, d⟩, ?_, rfl⟩
  exact {
    opens := by simpa [hrepo] using hl.opens
    creates := hl.creates
    checks := by simpa [hfile] using hl.checks checked hc
    verifies := by simpa [hfiles, hdecls] using hl.verifies verified hv
    calls := by
      rw [hr.calls]
      simp [Lane.calls, hc, hv, hrepo, hpatch, hfile, hfiles, hdecls]
    interactiveOk := hok
    noErrors := herr
    noGoals := hgoal
    batchOk := hbok
    auditClean := haud
    interactive := by rw [hr.state, hi, hti]
    batch := by rw [hr.state, hb, htb]
    policy := by rw [hr.state, hp] }

/-! ## §3. The guarantee. -/

/-- What a run from an initial state comes to: no review and no good end, or an
admitted acceptance, or an admitted interrupt with at most one review. -/
theorem fresh_outcome (deps : Deps) (checkpoint : Option State) (req : RunRequest)
    (hsid : NamesSessions deps) :
    let r := invoke deps checkpoint (makeInitialState req)
    ((∀ c ∈ r.calls, c.isReview = false) ∧ ¬ EndsWith r .accepted ∧
        ¬ EndsWith r .awaitingApproval) ∨
      (EndsWith r .accepted ∧ ∃ e, Admitted deps req r e [] ∧ e.decision.decision = .accepted) ∨
      (EndsWith r .awaitingApproval ∧ ∃ e reviews, Admitted deps req r e reviews ∧
        e.decision.decision = .needsReview ∧
        (reviews = [] ∨ ∃ p, reviews = [.createPendingReview p])) := by
  intro r
  have hr : r = run deps .initEnvironment (startState checkpoint (makeInitialState req)) := by
    rw [← routeStart_initial checkpoint req]
    exact invoke_eq_run _ _
  generalize hs : startState checkpoint (makeInitialState req) = s at hr
  rcases reach_review deps s with hun | ⟨l, found, hl, -, hcont⟩
  · rw [hr]
    exact .inl ⟨hun.calls, hun.notAccepted, hun.notAwaiting⟩
  · have hne : l.session.sessionId ≠ "" := hsid _ _ hl.creates
    rw [← hr] at hcont
    -- The lane creates no review, so a quiet tail means a quiet run.
    have quiet : (run deps .policyReview (l.atReview s found)).calls = [] →
        ∀ c ∈ r.calls, c.isReview = false := by
      intro ht c hc
      rw [hcont.calls, ht, List.append_nil] at hc
      exact Lane.calls_not_review hc
    cases run_policyReview deps (l.atReview s found) with
    | raised e error calls =>
        refine .inl ⟨quiet calls, ?_, ?_⟩ <;>
          exact fun h => by simpa [hcont.error, error] using h.1
    | refused decision decides refuses state error calls =>
        refine .inl ⟨quiet calls, ?_, ?_⟩ <;>
          exact fun h => by simpa [hcont.state, state, reviewed] using h.2
    | accepted d b finds accepts bundle state error calls =>
        subst hs
        obtain ⟨e, he, rfl⟩ := admitted_of_tail hl hne finds (.inl accepts) hcont
          (by rw [state]; simp [reviewed, State.interactive])
          (by rw [state]; simp [reviewed, State.batch])
          (by rw [state]; simp [reviewed, State.policy])
        rw [calls] at he
        exact .inr (.inl ⟨⟨hcont.error.trans error, by rw [hcont.state, state]; rfl⟩, e, he,
          accepts⟩)
    | interrupted d summary finds reviews summarised state error calls =>
        subst hs
        obtain ⟨e, he, rfl⟩ := admitted_of_tail hl hne finds (.inr reviews) hcont
          (by rw [state]; simp [reviewed, State.interactive])
          (by rw [state]; simp [reviewed, State.batch])
          (by rw [state]; simp [reviewed, State.policy])
        rw [calls] at he
        exact .inr (.inr ⟨⟨hcont.error.trans error, by rw [hcont.state, state]; rfl⟩, e, _, he,
          reviews, pushReview_calls _⟩)

/-- An admitted run's calls before its reviews are none. -/
theorem Admitted.reviews_eq {req : RunRequest} {r : Run} {e : Evidence}
    {reviews : List GatewayCall} (h : Admitted deps req r e reviews)
    (hr : reviews = [] ∨ ∃ p, reviews = [.createPendingReview p]) :
    r.calls.filter GatewayCall.isReview = reviews := by
  have hp : (patchCalls e.session.sessionId (req.currentPatch.getD [])).filter
      GatewayCall.isReview = [] := by
    simp only [List.filter_eq_nil_iff]
    intro c hc
    simp [patchCalls_not_review hc]
  rw [h.calls]
  simp only [List.filter_append, hp]
  rcases hr with rfl | ⟨p, rfl⟩ <;> rfl

/-- **Acceptance soundness.**  A run from an initial state that ends accepted, or
awaiting approval, is admitted with that decision; a run creates at most one
review, and only when it is admitted and ends awaiting approval. -/
theorem acceptance_sound (checkpoint : Option State) (req : RunRequest)
    (hsid : NamesSessions deps) :
    let r := invoke deps checkpoint (makeInitialState req)
    (EndsWith r .accepted →
      ∃ e, Admitted deps req r e [] ∧ e.decision.decision = .accepted) ∧
    (EndsWith r .awaitingApproval →
      ∃ e reviews, Admitted deps req r e reviews ∧ e.decision.decision = .needsReview) ∧
    (r.calls.filter GatewayCall.isReview).length ≤ 1 ∧
    ((∃ c ∈ r.calls, c.isReview = true) →
      EndsWith r .awaitingApproval ∧
      ∃ e reviews, Admitted deps req r e reviews ∧ e.decision.decision = .needsReview) := by
  intro r
  rcases fresh_outcome deps checkpoint req hsid with
    ⟨hq, hna, hnw⟩ | ⟨hacc, e, he, hdec⟩ | ⟨hawait, e, reviews, he, hdec, hreviews⟩
  · have hq' : r.calls.filter GatewayCall.isReview = [] := by
      simp only [List.filter_eq_nil_iff]
      intro c hc
      simp [hq c hc]
    refine ⟨fun h => absurd h hna, fun h => absurd h hnw, by simp [hq'], ?_⟩
    intro hyp
    obtain ⟨c, hc, hrev⟩ := hyp
    simp [hq c hc] at hrev
  · have hq' := he.reviews_eq (.inl rfl)
    refine ⟨fun _ => ⟨e, he, hdec⟩, ?_, by simp [r, hq'], ?_⟩
    · intro hyp
      obtain ⟨-, hst⟩ := hyp
      exact absurd (hst.symm.trans hacc.2) (by decide)
    · intro hyp
      obtain ⟨c, hc, hrev⟩ := hyp
      -- An accepted run's reviews are none.
      have hmem := List.mem_filter.mpr ⟨hc, hrev⟩
      simp [r, hq'] at hmem
  · have hq' := he.reviews_eq hreviews
    refine ⟨?_, fun _ => ⟨e, reviews, he, hdec⟩, ?_, fun _ => ⟨hawait, e, reviews, he, hdec⟩⟩
    · intro hyp
      obtain ⟨-, hst⟩ := hyp
      exact absurd (hst.symm.trans hawait.2) (by decide)
    · rw [show r.calls.filter GatewayCall.isReview = reviews from hq']
      rcases hreviews with rfl | ⟨p, rfl⟩ <;> simp

/-- The scripted run is accepted, and so it is admitted. -/
theorem acceptance_sound_scripted :
    let deps := Scripted.deps "s1" Scripted.checked Scripted.verified Scripted.pack
    let r := invoke deps none (makeInitialState (Scripted.request Scripted.patch))
    EndsWith r .accepted ∧
      ∃ e, Admitted deps (Scripted.request Scripted.patch) r e [] ∧
        e.decision.decision = .accepted := by
  have hsid : NamesSessions
      (Scripted.deps "s1" Scripted.checked Scripted.verified Scripted.pack) := by
    intro fid c h
    cases h
    exact (by decide : "s1" ≠ "")
  have hacc : EndsWith (invoke
      (Scripted.deps "s1" Scripted.checked Scripted.verified Scripted.pack) none
      (makeInitialState (Scripted.request Scripted.patch))) .accepted := by decide
  exact ⟨hacc, (acceptance_sound none (Scripted.request Scripted.patch) hsid).1 hacc⟩

end

end ObligationRuntime
