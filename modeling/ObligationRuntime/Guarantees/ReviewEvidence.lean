/-
  ObligationRuntime.Guarantees.ReviewEvidence — what a reviewer is shown of an
  interrupted run.

  The payload is validated five times on its way: when it is built, when the gateway
  takes it, when the gateway serves it, and when the client reads it back.  Its
  coercing validators replace what they do not expect by all-good defaults.  On the
  evidence of a run none of them does, so the payload that arrives is the run's.

  Whether it arrives is another matter: the client puts the thread id into the path
  as it is, so a thread is found under its id only where the id survives as one
  segment of a path.

  Main results:
    * `pushed_shows` — what the pushed payload shows,
    * `readBack_created` — what is read back of it, after any calls,
    * `review_evidence_iff` — the threads whose evidence can be read back,
    * `review_evidence_fails` — a thread id with a slash in it.
-/
import ObligationRuntime.Gateway.Reviews
import ObligationRuntime.Guarantees.WitnessFidelity
import ObligationRuntime.Runtime.Payload
import ObligationRuntime.Sdk.Client

namespace ObligationRuntime

open Py Flow Handlers Gateway

/-! ## §1. What a payload shows. -/

/-- **The payload shows the run**: its obligation, patch, evidence and decision as the
state has them, and the status of its review. -/
structure Shown (t : State) (e : RecordedEvidence) (decision : Option Approval)
    (p : ReviewPayload) : Prop where
  obligation : p.obligationSummary.obligation = t.obligation.getD []
  targetFiles : p.obligationSummary.targetFiles = t.targetFiles.getD []
  targetDeclarations : p.obligationSummary.targetDeclarations = t.targetDeclarations.getD []
  currentPatch : p.patchMetadata.currentPatch = t.currentPatch.getD []
  diagnostics : p.diagnosticsSummary = e.check.diagnostics.map Diagnostic.dump
  axiomAudit : p.axiomAuditSummary = e.batch.axiomAudit
  batchOk : p.batchSummary.ok = e.batch.ok
  batchTrust : p.batchSummary.trustLevel = e.batch.trustLevel.text
  batchReasons : p.batchSummary.reasons = e.batch.reasons
  build : p.batchSummary.build = e.batch.build.dump
  freshChecker : p.batchSummary.freshChecker = e.batch.freshChecker.dump
  policy : p.policySummary = e.policy
  trustLevel : optStr.dump p.trustDelta = t.trustLevel.getD .null
  reasons : p.reasons = e.policy.reasons
  status : p.status = match decision with
    | none => "awaiting_review"
    | some d => d.text

/-- A new stamp shows the same. -/
theorem Shown.restamped {t : State} {e : RecordedEvidence} {d : Option Approval}
    {p : ReviewPayload} (h : Shown t e d p) (now : Timestamp) : Shown t e d (p.restamped now) :=
  ⟨h.obligation, h.targetFiles, h.targetDeclarations, h.currentPatch, h.diagnostics, h.axiomAudit,
    h.batchOk, h.batchTrust, h.batchReasons, h.build, h.freshChecker, h.policy, h.trustLevel,
    h.reasons, h.status⟩

/-- A decision changes the status alone. -/
theorem Shown.decide {t : State} {e : RecordedEvidence} {p : ReviewPayload}
    (h : Shown t e none p) (d : Approval) : Shown t e (some d) { p with status := d.text } :=
  ⟨h.obligation, h.targetFiles, h.targetDeclarations, h.currentPatch, h.diagnostics, h.axiomAudit,
    h.batchOk, h.batchTrust, h.batchReasons, h.build, h.freshChecker, h.policy, h.trustLevel,
    h.reasons, rfl⟩

/-! ## §2. The pushed payload. -/

section

variable {deps : Deps} {t : State} {e : RecordedEvidence}

/-- **What the pushed payload shows**: no validator replaces anything. -/
theorem pushed_shows {summary : PatchSummary} {p : ReviewPayload} (hc : Carries t e)
    (h : ReviewPayload.validate deps.now (.obj (reviewPayload t summary ++ policyAudit t)) =
      .ok p) :
    p.threadId = t.threadId.getD "" ∧ Shown t e none p := by
  -- The evidence as the payload holds it, before it is validated.
  have hbatch : t.batch.getD [] = e.batch.dump := by rw [hc.batch]; rfl
  have hcheck : t.interactive.getD [] = e.check.dump := by rw [hc.check]; rfl
  have hpolicy : t.policy.getD [] = e.policy.dump := by rw [hc.policy]; rfl
  simp only [ReviewPayload.validate, asDict_obj, ok_bind, reviewPayload, hbatch, hcheck, hpolicy,
    List.cons_append, List.nil_append] at h
  obtain ⟨threadId, hthread, h⟩ := bind_eq_ok_iff.mp h
  obtain ⟨obligationId, -, h⟩ := bind_eq_ok_iff.mp h
  obtain ⟨obligation, hobligation, h⟩ := bind_eq_ok_iff.mp h
  obtain ⟨environment, -, h⟩ := bind_eq_ok_iff.mp h
  obtain ⟨patch, hpatch, h⟩ := bind_eq_ok_iff.mp h
  obtain ⟨diff, -, h⟩ := bind_eq_ok_iff.mp h
  obtain ⟨audit, haudit, h⟩ := bind_eq_ok_iff.mp h
  obtain ⟨batch, hbatch', h⟩ := bind_eq_ok_iff.mp h
  obtain ⟨policy, hpolicy', h⟩ := bind_eq_ok_iff.mp h
  obtain ⟨trust, htrust, h⟩ := bind_eq_ok_iff.mp h
  obtain ⟨reasons, hreasons, h⟩ := bind_eq_ok_iff.mp h
  obtain ⟨status, hstatus, h⟩ := bind_eq_ok_iff.mp h
  obtain ⟨trail, -, h⟩ := bind_eq_ok_iff.mp h
  obtain rfl := Except.ok.inj h
  -- Each part is read from the key the interrupt wrote it under.
  have hobligation' : ReviewObligationSummary.validate (.obj
      [("obligation", .obj (t.obligation.getD [])), ("target_files", optStrings t.targetFiles),
        ("target_declarations", optStrings t.targetDeclarations)]) = .ok obligation := hobligation
  rw [obligationSummary_read, Except.ok.injEq] at hobligation'
  have haudit' : ReviewPayload.coerceAxiom deps.now (.obj e.batch.axiomAudit.dump) = .ok audit :=
    haudit
  rw [ReviewPayload.coerceAxiom_dump, Except.ok.injEq] at haudit'
  have hbatch'' : ReviewPayload.coerceBatch deps.now (.obj e.batch.dump) = .ok batch := hbatch'
  rw [ReviewPayload.coerceBatch_of_get (a :=
    { createdAt := deps.now, ok := e.batch.ok, trustLevel := e.batch.trustLevel.text
      reasons := e.batch.reasons, build := e.batch.build.dump
      axiomAudit := e.batch.axiomAudit.dump, freshChecker := e.batch.freshChecker.dump })
    rfl rfl rfl rfl rfl rfl, Except.ok.injEq] at hbatch''
  have hpolicy'' : ReviewPayload.coercePolicy (.obj e.policy.dump) = .ok policy := hpolicy'
  rw [ReviewPayload.coercePolicy_dump, Except.ok.injEq] at hpolicy''
  have hreasons' : strList.validate (strList.dump e.policy.reasons) = .ok reasons :=
    Codec.atField_eq_ok_iff.mp hreasons
  rw [strList.validate_dump, Except.ok.injEq] at hreasons'
  have htrust' : optStr.validate (t.trustLevel.getD .null) = .ok trust :=
    Codec.atField_eq_ok_iff.mp htrust
  subst hobligation' haudit' hbatch'' hpolicy'' hreasons'
  refine ⟨(Except.ok.inj hthread).symm, rfl, rfl, rfl, patchMetadata_read hpatch, ?_, rfl, rfl, rfl,
    rfl, rfl, rfl, rfl, optStr_dump_of_validate htrust', rfl, (Except.ok.inj hstatus).symm⟩
  show ReviewPayload.coerceDiagnostics (.arr (e.check.diagnostics.map Diagnostic.codec.dump)) = _
  rw [← ReviewPayload.coerceDiagnostics_dump (e.check.diagnostics.map Diagnostic.dump),
    List.map_map]
  rfl

end

/-! ## §3. Reading it back. -/

/-- What the gateway shows of the stored payload. -/
theorem shown_dump (p : ReviewPayload) (decision : Option Approval) :
    (ReviewRecord.shown ⟨p.dump, decision⟩) =
      (match decision with
        | none => p
        | some d => { p with status := d.text }).dump := by
  cases decision with
  | none => rfl
  | some d => simp [ReviewRecord.shown, ReviewPayload.dump, Dict.set]

/-- `GET /reviews/{thread_id}` through the client, at a gateway with this store. -/
def readBack (http : String → Option String) (env : ReviewEnv) (now : Timestamp)
    (S : ReviewStoreProtocol) (s : S.State) (threadId : String) : Except PyError ReviewPayload :=
  Sdk.getReviewPayload now http (serveGet env S s) threadId

section

variable {http : String → Option String} {env : ReviewEnv} {now : Timestamp}
  {S : ReviewStoreProtocol} {s : S.State} {t : State} {e : RecordedEvidence}

/-- A review that is served is the one of the thread in the path. -/
theorem readBack_of_route (env : ReviewEnv) (now : Timestamp) {threadId received : String}
    (h : (http (Sdk.pathReview threadId)).bind reviewRoute = some received) :
    readBack http env now S s threadId =
      (getReview env S s received).bind fun p => ReviewPayload.validate now (.obj p.dump) := by
  obtain ⟨path, hpath, hroute⟩ := Option.bind_eq_some_iff.mp h
  simp only [readBack, Sdk.getReviewPayload, Sdk.get, hpath, serveGet, hroute]
  cases getReview env S s received <;> rfl

/-- Where no review is routed to, nothing is read back. -/
theorem readBack_of_no_route (env : ReviewEnv) (now : Timestamp) {threadId : String}
    (h : (http (Sdk.pathReview threadId)).bind reviewRoute = none) :
    ∃ err, readBack http env now S s threadId = .error err := by
  cases hpath : http (Sdk.pathReview threadId) with
  | none =>
      refine ⟨.osError "request failed", ?_⟩
      simp only [readBack, Sdk.getReviewPayload, Sdk.get, hpath]
      rfl
  | some path =>
      rw [hpath, Option.bind_some] at h
      refine ⟨.apiError 404 "unknown", ?_⟩
      simp only [readBack, Sdk.getReviewPayload, Sdk.get, hpath, serveGet, h]
      rfl

/-- **What is read back of a pushed payload**, after any calls that do not create the
review anew: the run's evidence, with the last decision. -/
theorem readBack_created {p : ReviewPayload} {calls : List ReviewCall}
    (hshown : Shown t e none p) (hcreate : NoCreate p.threadId calls)
    (hroute : (http (Sdk.pathReview p.threadId)).bind reviewRoute = some p.threadId) :
    ∃ q, readBack http env now S
        (Transition.run (ReviewCall.step S) ((ReviewCall.create (.obj p.dump)).step S s) calls)
        p.threadId =
          .ok q ∧ Shown t e (latestDecision p.threadId calls) q := by
  have hrec : S.get ((ReviewCall.create (.obj p.dump)).step S s) p.threadId =
      some ⟨p.dump, none⟩ := by
    rw [get_step, creates_dump, if_pos rfl]
  -- No later call creates the record anew, so only decisions change it.
  have hrun := get_run hcreate hrec
  rw [Option.or_none] at hrun
  rw [readBack_of_route env now hroute]
  simp only [getReview, ReviewStoreProtocol.getPayload, hrun, Option.map_some, shown_dump]
  cases latestDecision p.threadId calls with
  | none =>
      refine ⟨(p.restamped env.now).restamped now, ?_, ?_⟩
      · simp [Except.bind]
      · exact (hshown.restamped env.now).restamped now
  | some d =>
      refine ⟨(({ p with status := d.text } : ReviewPayload).restamped env.now).restamped now,
        ?_, ?_⟩
      · simp [Except.bind]
      · exact ((hshown.decide d).restamped env.now).restamped now

end

/-! ## §4. Which threads are found. -/

/-- **The threads whose evidence can be read back.**  After an interrupt whose create
succeeded, with either backend and until the next create, the client reads the run's
evidence back exactly where the path it asks for leads to the thread. -/
theorem review_evidence_iff (http : String → Option String) (deps : Deps) (t : State)
    (e : RecordedEvidence) (threadId : String) (body : Dict) (hcarries : Carries t e)
    (hid : t.threadId = some threadId)
    (hpush : (interruptForApproval deps t).calls = [.createPendingReview body]) :
    (∀ (mode : ReviewStoreMode) (env : ReviewEnv) (now : Timestamp)
        (s : (reviewStore mode).State) (calls : List ReviewCall), NoCreate threadId calls →
      ∃ p, readBack http env now (reviewStore mode)
          (Transition.run (ReviewCall.step (reviewStore mode))
            ((ReviewCall.create (.obj body)).step (reviewStore mode) s) calls) threadId = .ok p ∧
        Shown t e (latestDecision threadId calls) p) ↔
      (http (Sdk.pathReview threadId)).bind reviewRoute = some threadId := by
  obtain ⟨summary, p, hp, rfl⟩ := interrupt_pushes hpush
  obtain ⟨hpid, hshown⟩ := pushed_shows hcarries hp
  have hthread : p.threadId = threadId := by rw [hpid, hid]; rfl
  constructor
  · intro hread
    let env : ReviewEnv := ⟨deps.now, none, fun _ _ => .error .recursionError⟩
    obtain ⟨q, hq, -⟩ := hread .memory env deps.now memoryStore.empty [] (by simp [NoCreate])
    cases hroute : (http (Sdk.pathReview threadId)).bind reviewRoute with
    | none =>
        obtain ⟨err, herr⟩ := readBack_of_no_route env deps.now
          (S := memoryStore)
          (s := (ReviewCall.create (.obj p.dump)).step memoryStore memoryStore.empty) hroute
        have hcontra := herr.symm.trans hq
        cases hcontra
    | some received =>
        -- In an empty store only the thread itself has a review.
        by_cases hsame : received = threadId
        · rw [hsame]
        · have hnone : memoryStore.get ((ReviewCall.create (.obj p.dump)).step memoryStore
              memoryStore.empty) received = none := by
            have hne : ¬ p.threadId = received := by
              rw [hthread]
              exact fun h => hsame h.symm
            rw [get_step, creates_dump, if_neg hne]
            exact memoryStore.get_empty received
          have hcontra := (readBack_of_route env deps.now (S := memoryStore)
            (s := (ReviewCall.create (.obj p.dump)).step memoryStore memoryStore.empty)
            hroute).symm.trans hq
          simp [getReview, ReviewStoreProtocol.getPayload, hnone, Except.bind] at hcontra
  · intro hroute mode env now s calls hcreate
    rw [← hthread] at hroute hcreate ⊢
    exact readBack_created hshown hcreate hroute

namespace Scripted

/-- A state of a run that touched a protected file, on a thread. -/
def interrupted (threadId : String) : State :=
  { makeInitialState { request patch with
      threadId := threadId
      obligation := [("policy", .obj [("protected_paths", .arr [.str "Main.lean"])])] } with
    environmentFingerprint := some (.obj fingerprint.dump)
    interactiveResult := some (some checked.dump)
    batchResult := some (some verified.dump)
    policyDecision := some (some protectedDecision.dump)
    trustLevel := some (.str "clean") }
where
  /-- The decision that asked for the reviewer. -/
  protectedDecision : PolicyDecision :=
    { decision := .needsReview, trustLevel := .warning, reasons := ["protected_path_touched"] }

/-- The evidence of that state. -/
def interruptedEvidence : RecordedEvidence where
  batch := verified
  check := checked
  policy := interrupted.protectedDecision
  fingerprint := fingerprint

/-- The scripted gateway of that run. -/
def interruptedDeps : Deps := deps "s1" checked verified pack

end Scripted

/-- The state carries its evidence, and its interrupt pushes a payload. -/
theorem Scripted.interrupted_pushes (threadId : String) :
    Carries (Scripted.interrupted threadId) Scripted.interruptedEvidence ∧
      ∃ body, (interruptForApproval Scripted.interruptedDeps
        (Scripted.interrupted threadId)).calls = [.createPendingReview body] :=
  ⟨⟨rfl, rfl, rfl, rfl⟩, _, rfl⟩

/-- A plain id, on a path that arrives as it was sent. -/
theorem review_evidence_plain :
    ∃ body, (interruptForApproval Scripted.interruptedDeps (Scripted.interrupted "thread")).calls =
        [.createPendingReview body] ∧
      ∃ p, readBack some ⟨Scripted.now, none, fun _ _ => .error .recursionError⟩ Scripted.now
          (reviewStore .postgres)
          ((ReviewCall.create (.obj body)).step (reviewStore .postgres)
            (reviewStore .postgres).empty) "thread" = .ok p ∧
        Shown (Scripted.interrupted "thread") Scripted.interruptedEvidence none p := by
  obtain ⟨hcarries, body, hpush⟩ := Scripted.interrupted_pushes "thread"
  have hroute : ((some (Sdk.pathReview "thread")).bind reviewRoute) = some "thread" := by decide
  obtain ⟨p, hp, hshown⟩ := (review_evidence_iff some Scripted.interruptedDeps
    (Scripted.interrupted "thread") Scripted.interruptedEvidence "thread" body hcarries rfl
    hpush).mpr hroute .postgres ⟨Scripted.now, none, fun _ _ => .error .recursionError⟩
      Scripted.now (reviewStore .postgres).empty [] (by simp [NoCreate])
  exact ⟨body, hpush, p, hp, hshown⟩

/-- **A thread id with a slash**: the review is created, and cannot be read back. -/
theorem review_evidence_fails :
    Carries (Scripted.interrupted "team/42") Scripted.interruptedEvidence ∧
    ∃ body, (interruptForApproval Scripted.interruptedDeps (Scripted.interrupted "team/42")).calls =
        [.createPendingReview body] ∧
      (createPendingReview memoryStore memoryStore.empty (.obj body)).2 = .ok "team/42" ∧
      readBack some ⟨Scripted.now, none, fun _ _ => .error .recursionError⟩ Scripted.now memoryStore
        ((ReviewCall.create (.obj body)).step memoryStore memoryStore.empty) "team/42" =
          .error (.apiError 404 "unknown") :=
  ⟨⟨rfl, rfl, rfl, rfl⟩, _, rfl, rfl, rfl⟩

end ObligationRuntime
