/-
  ObligationRuntime.Guarantees.HistoryIndependence — what an earlier run of a thread
  leaves to the next one.

  The input of a run writes every key of the state but two: the pack name and the
  protocol events are written only when they are given.  A run without one of them
  is a run with the thread's last one (`startState_makeInitialState`), which the
  protocol check and the review then read.

  Main results:
    * `independent_of_given` — with both keys given, the thread's past is gone,
    * `history_independence` — for which requests it is gone, over every gateway,
    * `history_independence_fails` — a gate that an earlier run has opened.
-/
import ObligationRuntime.Guarantees.ProtocolGate
import ObligationRuntime.Runtime.Ends
import ObligationRuntime.Runtime.Threads

namespace ObligationRuntime

open Py Flow Handlers

/-! ## §1. Two histories, one request. -/

/-- What of a run is compared. -/
structure Outcome where
  policy : Option Dict
  status : Option Status
  calls : List GatewayCall
  deriving DecidableEq

/-- The outcome of a run. -/
def outcome (r : Run) : Outcome := ⟨r.state.policy, r.state.status, r.calls⟩

/-- **Independence of history**: a request has one outcome, whatever the thread went
through. -/
def Independent (deps : Deps) (threadId : String) (request : RunRequest) (overrides : Update) :
    Prop :=
  ∀ h h' : List (Deps × ThreadOp),
    outcome (invoke deps (latestCheckpoint threadId h) (makeInitialState request overrides)) =
      outcome (invoke deps (latestCheckpoint threadId h') (makeInitialState request overrides))

/-- The repository of a request, as the first node reads it. -/
def RunRequest.repoId (request : RunRequest) : Except PyError Json :=
  repoIdOf request.obligation
    ((request.obligation.getD "environment_fingerprint" (.obj [])).orElse
      (request.obligation.getD "environment_fingerprint" (.obj [])))

section

variable {deps : Deps} {request : RunRequest}

/-! ## §2. Both keys are given. -/

/-- An input with both keys replaces any checkpoint. -/
theorem startState_given (checkpoint : Option State) {overrides : Update}
    (hpack : (makeInitialState request overrides).policyPackName.isSome)
    (hevents : (makeInitialState request overrides).protocolEvents.isSome) :
    startState checkpoint (makeInitialState request overrides) =
      makeInitialState request overrides := by
  obtain ⟨n, hn⟩ := Option.isSome_iff_exists.mp hpack
  obtain ⟨evs, he⟩ := Option.isSome_iff_exists.mp hevents
  simp only [makeInitialState, State.merge_policyPackName, State.merge_protocolEvents] at hn he
  simp [startState, makeInitialState, State.merge, hn, he]

/-- **With both keys given nothing of the thread is left.** -/
theorem independent_of_given (deps : Deps) (threadId : String) {overrides : Update}
    (hpack : (makeInitialState request overrides).policyPackName.isSome)
    (hevents : (makeInitialState request overrides).protocolEvents.isSome) :
    Independent deps threadId request overrides := by
  intro h h'
  rw [invoke_eq_run, invoke_eq_run, startState_given _ hpack hevents,
    startState_given _ hpack hevents]

/-! ## §3. The repository cannot be read. -/

/-- A run whose repository cannot be read ends at once. -/
theorem independent_of_unread (deps : Deps) (threadId : String) {e : PyError}
    (h : request.repoId = .error e) : Independent deps threadId request {} := by
  have hraise : ∀ checkpoint, outcome (invoke deps checkpoint (makeInitialState request)) =
      ⟨none, some .initialized, []⟩ := by
    intro checkpoint
    have hr : (request.filled checkpoint).repoId = .error e := h
    have hhandler : handler deps .initEnvironment
        (makeInitialState (request.filled checkpoint)) = ⟨[], .error e⟩ := by
      show initEnvironment deps _ = _
      simp only [RunRequest.repoId] at hr
      simp [initEnvironment, makeInitialState, State.merge, hr]
    have hop : (graph deps).hop .initEnvironment (makeInitialState (request.filled checkpoint)) =
        ⟨_, _, .error e⟩ := hop_of_raise (by rw [hhandler])
    rw [invoke_filled, run_of_error (e := e) (by rw [hop]), hop, hhandler]
    rfl
  intro h₁ h₂
  rw [hraise, hraise]

/-! ## §4. Runs without a session.

A gateway that opens every environment and creates no session takes a run down to
its review without evidence: there the pack and the events alone decide. -/

/-- That gateway, with a loader of packs. -/
def Scripted.sessionless (loadPack : String → Except PyError PolicyPack) : Deps :=
  { Scripted.deps "" Scripted.checked Scripted.verified Scripted.pack with loadPack := loadPack }

/-- The lane of a run without a session. -/
def Scripted.emptyLane (repoId : Json) : Lane where
  repoId := repoId
  opened := ⟨Scripted.fingerprint, "fp", "/snapshots/fp"⟩
  session := ⟨"", "fp", "/workspaces/"⟩
  checked := none
  verified := none

/-- The state in which a run without a session comes to its protocol check. -/
def Scripted.unchecked (request : RunRequest) (repoId : Json) : State :=
  (Scripted.emptyLane repoId).audited (makeInitialState request)

theorem Scripted.unchecked_eq (request : RunRequest) (repoId : Json) :
    Scripted.unchecked request repoId =
      (makeInitialState request).merge (Scripted.emptyLane repoId).update :=
  Lane.audited_eq _ _

/-- A run without a session, down to its protocol check. -/
theorem Scripted.sessionless_run {loadPack : String → Except PyError PolicyPack} {repoId : Json}
    (hrepo : request.repoId = .ok repoId) :
    (run (Scripted.sessionless loadPack) .initEnvironment (makeInitialState request)).state =
      (run (Scripted.sessionless loadPack) .evaluateProtocol
        (Scripted.unchecked request repoId)).state := by
  let l := Scripted.emptyLane repoId
  let s := makeInitialState request
  have hinit : (graph (Scripted.sessionless loadPack)).hop .initEnvironment s =
      ⟨[.openEnvironment repoId (orNone s.repoPath) "HEAD", .createSession "fp"],
        l.started s, .ok (some .retrieveContext)⟩ := by
    have hhandler : handler (Scripted.sessionless loadPack) .initEnvironment s =
        ⟨[.openEnvironment repoId (orNone s.repoPath) "HEAD", .createSession "fp"],
          .ok
            { sessionId := some (some "")
              environmentFingerprint := some (.obj Scripted.fingerprint.dump)
              status := some .initialized }⟩ := by
      show initEnvironment _ _ = _
      simp only [RunRequest.repoId] at hrepo
      simp [initEnvironment, s, makeInitialState, State.merge, hrepo, Scripted.sessionless,
        Scripted.deps, Scripted.client]
    rw [hop_of_result (by rw [hhandler]) rfl, hhandler]
    rfl
  -- Neither lane finds a session, and without a result there is nothing to repair.
  have hcheck : (graph (Scripted.sessionless loadPack)).hop .interactiveCheck (l.drafted s) =
      ⟨[], l.checkedState s, .ok (some .batchVerify)⟩ := rfl
  have hverify : (graph (Scripted.sessionless loadPack)).hop .batchVerify (l.checkedState s) =
      ⟨[], l.verifiedState s, .ok (some .auditTrust)⟩ := rfl
  exact (Continues.next hinit (.next hop_retrieveContext (.next hop_draftCandidate
    (.next hcheck (.next hverify (.next hop_auditTrust (.refl _))))))).state

/-- The decision of a run without a session. -/
theorem Scripted.sessionless_policy {loadPack : String → Except PyError PolicyPack}
    {repoId : Json} {found : Option PolicyDecision} (hrepo : request.repoId = .ok repoId)
    (hfound : protocolOutcome (Scripted.sessionless loadPack)
      (Scripted.unchecked request repoId) = .ok found) :
    (run (Scripted.sessionless loadPack) .initEnvironment
        (makeInitialState request)).state.policy =
      match reviewDecision (Scripted.sessionless loadPack)
        (screened (Scripted.unchecked request repoId) found) with
      | .ok (some d) => some d
      | _ => (screened (Scripted.unchecked request repoId) found).policy := by
  rw [Scripted.sessionless_run hrepo, (run_evaluateProtocol hfound).state]
  refine (review_policy _ _).trans ?_
  rcases reviewDecision (Scripted.sessionless loadPack)
    (screened (Scripted.unchecked request repoId) found) with e | (_ | d) <;> rfl

/-- No decision is found before the check. -/
theorem Scripted.unchecked_policy (request : RunRequest) (repoId : Json) :
    (Scripted.unchecked request repoId).policy = none := rfl

/-- No token is there before the check. -/
theorem Scripted.unchecked_approval (request : RunRequest) (repoId : Json) :
    (Scripted.unchecked request repoId).approval = .null := rfl

/-- The check passes with a pack that enables no class. -/
theorem protocolDecision_off (events : List Json) {pack : PolicyPack}
    (h : ∀ c ∈ protocolClasses, c.2 pack = false) : protocolDecision events pack = .ok none := by
  rw [protocolDecision, EarlyReturn.first_none_iff]
  intro g hg
  obtain ⟨c, hc, rfl⟩ := List.mem_map.mp hg
  simp [classGate, h c hc]

/-- Events are not screened where no pack enables a class. -/
theorem protocolOutcome_off (t : State)
    (h : ∀ name pack, deps.loadPack name = .ok pack → ∀ c ∈ protocolClasses, c.2 pack = false) :
    protocolOutcome deps t = .ok none := by
  simp only [protocolOutcome]
  split
  · rfl
  · split
    · rfl
    next pack hpack => exact protocolDecision_off _ (h _ pack hpack)

/-- What is evaluated is never the missing token. -/
theorem evaluated_ne_missingToken (t : State) {pd : Dict}
    (h : (evaluateState deps t).map (fun d => some d.dump) = .ok (some pd)) :
    pd ≠ missingToken := by
  intro heq
  cases he : evaluateState deps t with
  | error e => simp [he, Except.map] at h
  | ok d =>
      have hd : d.dump = missingToken := by
        rw [← heq]
        simpa [he, Except.map] using h
      have hlen := congrArg List.length hd
      simp [PolicyDecision.dump, missingToken] at hlen

/-! ## §5. A key is missing. -/

/-- A gate that only the pack `gated` has. -/
def Scripted.gatedByName : String → Except PyError PolicyPack := fun name =>
  .ok { Scripted.pack with reviewerGatedExecution := decide (name = "gated") }

/-- A gate, and a check of handoffs, in every pack. -/
def Scripted.gatedHandoff : String → Except PyError PolicyPack := fun _ =>
  .ok { Scripted.pack with reviewerGatedExecution := true, singleOwnerHandoff := true }

/-- The decision of a run without a session, by its pack: the missing token exactly
under the gated one. -/
theorem Scripted.gatedByName_policy (request : RunRequest) {repoId : Json}
    (hrepo : request.repoId = .ok repoId) :
    (run (Scripted.sessionless Scripted.gatedByName) .initEnvironment
        (makeInitialState request)).state.policy = some missingToken ↔
      request.policyPackName = some "gated" := by
  let t := Scripted.unchecked request repoId
  have hname : t.policyPackName = request.policyPackName := by
    show (Scripted.unchecked request repoId).policyPackName = _
    rw [Scripted.unchecked_eq]
    simp [makeInitialState, Scripted.emptyLane, Lane.update]
  -- No class of the pack is on, whatever the events.
  have hfound : protocolOutcome (Scripted.sessionless Scripted.gatedByName) t = .ok none := by
    refine protocolOutcome_off t ?_
    intro name pack hpack c hc
    cases hpack
    simp only [protocolClasses, List.mem_cons, List.not_mem_nil, or_false] at hc
    rcases hc with rfl | rfl | rfl | rfl | rfl | rfl | rfl <;> rfl
  rw [Scripted.sessionless_policy hrepo hfound]
  show (match reviewDecision _ t with
    | .ok (some d) => some d
    | _ => t.policy) = some missingToken ↔ _
  -- Of the packs only `gated` asks for a token.
  have hpack : (loadPackForReview (Scripted.sessionless Scripted.gatedByName) t
      ).reviewerGatedExecution = decide (request.policyPackName = some "gated") := by
    show decide (t.packName none "strict_patch_gate_v1" = "gated") = _
    rw [State.packName, hname]
    cases request.policyPackName with
    | none => decide
    | some n => by_cases hn : n = "" <;> simp [hn]
  by_cases hgated : request.policyPackName = some "gated"
  · have hrd : reviewDecision (Scripted.sessionless Scripted.gatedByName) t =
        .ok (some missingToken) := by
      simp [reviewDecision, hpack, hgated, alreadyRefused, tokenMissing, t,
        Scripted.unchecked_policy, Scripted.unchecked_approval, Dict.getD]
    simp [hrd, hgated]
  · have hrd : reviewDecision (Scripted.sessionless Scripted.gatedByName) t =
        (evaluateState (Scripted.sessionless Scripted.gatedByName) t).map
          fun d => some d.dump := by
      simp [reviewDecision, hpack, hgated, alreadyRefused, t, Scripted.unchecked_policy,
        Dict.getD]
    simp only [hgated, iff_false]
    rw [hrd]
    intro hmiss
    split at hmiss
    next d hd => exact evaluated_ne_missingToken t hd (Option.some.inj hmiss)
    next => cases hmiss

/-- The decision of a run without a session, by its events. -/
theorem Scripted.gatedHandoff_policy (request : RunRequest) {repoId : Json}
    (hrepo : request.repoId = .ok repoId) :
    (request.protocolEvents = none →
      (run (Scripted.sessionless Scripted.gatedHandoff) .initEnvironment
        (makeInitialState request)).state.policy = some missingToken) ∧
    (request.protocolEvents = some orphanDelegation →
      (run (Scripted.sessionless Scripted.gatedHandoff) .initEnvironment
        (makeInitialState request)).state.policy =
          some (ProtocolEvaluator.rejected Reason.delegateWithoutPriorClaim).dump) := by
  have hevents : (Scripted.unchecked request repoId).protocolEvents = request.protocolEvents := by
    rw [Scripted.unchecked_eq]
    simp [makeInitialState, Scripted.emptyLane, Lane.update]
  constructor
  · intro hnone
    have hfound : protocolOutcome (Scripted.sessionless Scripted.gatedHandoff)
        (Scripted.unchecked request repoId) = .ok none := by
      rw [hnone] at hevents
      simp [protocolOutcome, hevents]
    rw [Scripted.sessionless_policy hrepo hfound]
    rfl
  · intro hsome
    have hfound : protocolOutcome (Scripted.sessionless Scripted.gatedHandoff)
        (Scripted.unchecked request repoId) =
          .ok (some (ProtocolEvaluator.rejected Reason.delegateWithoutPriorClaim)) := by
      rw [hsome] at hevents
      have hrefused : protocolDecision orphanDelegation
          { Scripted.pack with reviewerGatedExecution := true, singleOwnerHandoff := true } =
            .ok (some (ProtocolEvaluator.rejected Reason.delegateWithoutPriorClaim)) := by
        decide
      simp only [protocolOutcome, hevents, Option.getD_some]
      exact hrefused
    rw [Scripted.sessionless_policy hrepo hfound]
    rfl

/-- The checkpoint that one run leaves. -/
theorem latestCheckpoint_run (threadId : String) (request : RunRequest) :
    (latestCheckpoint threadId [(deps, .run request {})]).bind State.policyPackName =
        request.policyPackName ∧
      (latestCheckpoint threadId [(deps, .run request {})]).bind State.protocolEvents =
        request.protocolEvents := by
  have hin : (invoke deps none (makeInitialState request)).state.inputs =
      (makeInitialState request).inputs := by
    rw [invoke_filled, (run_inputs _ _ _).1]
    simp [RunRequest.filled]
  constructor
  · exact (congrArg State.policyPackName hin).trans (by simp [State.inputs, makeInitialState])
  · exact (congrArg State.protocolEvents hin).trans (by simp [State.inputs, makeInitialState])

/-- A run without a pack name depends on its thread. -/
theorem not_independent_of_pack {repoId : Json} (threadId : String)
    (hrepo : request.repoId = .ok repoId) (hpack : request.policyPackName = none) :
    ¬ Independent (Scripted.sessionless Scripted.gatedByName) threadId request {} := by
  intro hind
  have h := congrArg Outcome.policy (hind
    [(Scripted.sessionless Scripted.gatedByName,
      .run { request with policyPackName := some "gated" } {})] [])
  simp only [outcome, invoke_filled] at h
  have hrepo' : ∀ checkpoint, (request.filled checkpoint).repoId = .ok repoId := fun _ => hrepo
  -- The thread's pack is gated; without a thread the default is not.
  have hgated : (run (Scripted.sessionless Scripted.gatedByName) .initEnvironment
      (makeInitialState (request.filled (latestCheckpoint threadId
        [(Scripted.sessionless Scripted.gatedByName,
          .run { request with policyPackName := some "gated" } {})])))).state.policy =
      some missingToken := by
    refine (Scripted.gatedByName_policy _ (hrepo' _)).mpr ?_
    rw [RunRequest.filled, (latestCheckpoint_run threadId _).1, hpack]
    rfl
  rw [hgated] at h
  have hname := (Scripted.gatedByName_policy _ (hrepo' _)).mp h.symm
  simp [RunRequest.filled, hpack, latestCheckpoint] at hname

/-- A run without events depends on its thread. -/
theorem not_independent_of_events {repoId : Json} (threadId : String)
    (hrepo : request.repoId = .ok repoId) (hevents : request.protocolEvents = none) :
    ¬ Independent (Scripted.sessionless Scripted.gatedHandoff) threadId request {} := by
  intro hind
  have h := congrArg Outcome.policy (hind
    [(Scripted.sessionless Scripted.gatedHandoff,
      .run { request with protocolEvents := some orphanDelegation } {})] [])
  simp only [outcome, invoke_filled] at h
  have hrepo' : ∀ checkpoint, (request.filled checkpoint).repoId = .ok repoId := fun _ => hrepo
  have hstale : (request.filled (latestCheckpoint threadId
      [(Scripted.sessionless Scripted.gatedHandoff,
        .run { request with protocolEvents := some orphanDelegation } {})])).protocolEvents =
      some orphanDelegation := by
    rw [RunRequest.filled, (latestCheckpoint_run threadId _).2, hevents]
    rfl
  have hfresh : (request.filled (latestCheckpoint threadId [])).protocolEvents = none := by
    simp [RunRequest.filled, hevents, latestCheckpoint]
  rw [(Scripted.gatedHandoff_policy _ (hrepo' _)).2 hstale,
    (Scripted.gatedHandoff_policy _ (hrepo' _)).1 hfresh] at h
  have hlen := congrArg (fun d => (d.getD []).length) h
  simp [PolicyDecision.dump, missingToken] at hlen

end

/-! ## §6. Every request. -/

/-- **Which requests are independent of their thread's history**: those that give
both keys, whatever else they override; and, over every gateway, no others whose
repository can be read. -/
theorem history_independence (request : RunRequest) :
    (∀ (overrides : Update) (deps : Deps) (threadId : String),
      (makeInitialState request overrides).policyPackName.isSome →
      (makeInitialState request overrides).protocolEvents.isSome →
      Independent deps threadId request overrides) ∧
    ((∀ (deps : Deps) (threadId : String), Independent deps threadId request {}) ↔
      (request.policyPackName.isSome ∧ request.protocolEvents.isSome) ∨
        ∃ e, request.repoId = .error e) := by
  refine ⟨fun overrides deps threadId => independent_of_given deps threadId, ?_, ?_⟩
  · intro hind
    cases hrepo : request.repoId with
    | error e => exact .inr ⟨e, rfl⟩
    | ok repoId =>
        left
        constructor
        · rw [Option.isSome_iff_ne_none]
          intro hpack
          -- A gateway whose packs differ by name tells the kept name from the default.
          exact not_independent_of_pack "" hrepo hpack (hind _ _)
        · rw [Option.isSome_iff_ne_none]
          intro hevents
          -- One that refuses the kept events tells them from none.
          exact not_independent_of_events "" hrepo hevents (hind _ _)
  · rintro (⟨hpack, hevents⟩ | ⟨e, he⟩) deps threadId
    · refine independent_of_given deps threadId ?_ ?_
      · simpa [makeInitialState] using hpack
      · simpa [makeInitialState] using hevents
    · exact independent_of_unread deps threadId he

namespace Scripted

/-- A gateway whose default pack is reviewer-gated, and whose pack `open` is not. -/
def gatedByDefault : Deps :=
  { deps "s1" checked verified pack with
    loadPack := fun name => .ok { pack with reviewerGatedExecution := decide (name ≠ "open") } }

/-- A thread that was once run under the pack `open`. -/
def openedThread : List (Deps × ThreadOp) :=
  [(gatedByDefault, .run { request patch with policyPackName := some "open" } {})]

end Scripted

/-- **A gate an earlier run has opened**: a run that names no pack is blocked on a
new thread, and accepted where the thread was once run under a weaker pack. -/
theorem history_independence_fails :
    let again := fun history => invoke Scripted.gatedByDefault (latestCheckpoint "thread" history)
      (makeInitialState (Scripted.request Scripted.patch))
    (again []).state.policy = some missingToken ∧
      EndsWith (again Scripted.openedThread) .accepted ∧
      ¬ Independent Scripted.gatedByDefault "thread" (Scripted.request Scripted.patch) {} := by
  intro again
  have hblocked : (again []).state.status = some .auditing := by decide
  have haccepted : EndsWith (again Scripted.openedThread) .accepted := by decide
  refine ⟨by decide, haccepted, fun hind => ?_⟩
  have h : (again []).state.status = (again Scripted.openedThread).state.status :=
    congrArg Outcome.status (hind [] Scripted.openedThread)
  rw [hblocked, haccepted.2] at h
  cases h

end ObligationRuntime
