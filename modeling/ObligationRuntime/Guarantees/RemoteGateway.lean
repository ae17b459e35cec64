/-
  ObligationRuntime.Guarantees.RemoteGateway — the SDK client over a gateway is the gateway's
  own functions.

  An operation makes a path from a template, the path is split again and looked up among the
  routes, the body is read by the endpoint's model, and the answer is dumped, or an error is
  put into an envelope, and read back on the other side.  With ids that stand for themselves
  in a path, nothing of this is left: whatever the functions behind the routes do, the caller
  has what the function returned, or an error with the status, the code and the message of
  what it raised.

  Main results:
    * `send_reaches`, `perform_locally` — one request, and one operation,
    * `remote_gateway` — any calls, in any order.
-/
import ObligationRuntime.Lib.Transition
import ObligationRuntime.Sdk.Operations

namespace ObligationRuntime

open Py Gateway

namespace Sdk

/-! ## §1. Paths that arrive. -/

theorem PlainId.fits {id : String} (h : PlainId id) : FitsPath id := by
  simp only [PlainId, plainSegment, Bool.and_eq_true, decide_eq_true_eq] at h
  obtain ⟨⟨⟨hne, hall⟩, -⟩, -⟩ := h
  refine ⟨fun hnil => hne (by rw [hnil]; rfl), fun hslash => ?_⟩
  have hreserved : isUnreserved '/' = true := List.all_eq_true.mp hall _ hslash
  revert hreserved
  decide

/-- A literal that arrives as it is sent; a hole is filled later. -/
def plainLiteral : Route.Segment → Bool
  | .lit text => plainSegment text
  | .hole _ => true

/-- The literals of the templates are plain, after the empty one in front. -/
theorem template_plain (e : Endpoint) :
    ∃ t, Route.template e.entry.text = .lit [] :: t ∧
      ∀ text, .lit text ∈ t → plainSegment text = true := by
  have hall : ∀ t : List Route.Segment, t.all plainLiteral = true →
      ∀ text, .lit text ∈ t → plainSegment text = true :=
    fun t ht text htext => List.all_eq_true.mp ht _ htext
  cases e <;> exact ⟨_, rfl, hall _ (by decide)⟩

/-- **A path made from a template** is plain, where its values are. -/
theorem plainPath_fill (e : Endpoint) {values : Route.Values}
    (hv : ∀ name v, values name = some v → plainSegment v = true) {path : String}
    (h : Route.fill values e.entry.text = some path) : PlainPath path := by
  obtain ⟨ss, hss, rfl⟩ := Option.map_eq_some_iff.mp h
  obtain ⟨t, ht, hlit⟩ := template_plain e
  rw [ht] at hss
  obtain ⟨s, rest, hs, hrest, rfl⟩ := Route.fillSegments_cons hss
  obtain rfl := Option.some.inj hs
  exact ⟨rest, rfl, List.all_eq_true.mpr (Route.forall_mem_fillSegments hv hlit hrest)⟩

/-! ## §2. What an endpoint answers with. -/

/-- The answers of an endpoint. -/
def Answers : Endpoint → Answer → Prop
  | .openEnvironment, a => ∃ r, a = .environment r
  | .createSession, a => ∃ r, a = .session r
  | .applyPatch, a => ∃ r, a = .patched r
  | .interactiveCheck, a => ∃ r, a = .checked r
  | .goal, a => ∃ r, a = .goal r
  | .hover, a => ∃ r, a = .hover r
  | .definition, a => ∃ r, a = .definition r
  | .batchVerify, a => ∃ r, a = .verified r
  | .getReview, a => ∃ r, a = .review r
  | .createPendingReview, a => ∃ r, a = .created r
  | .approveReview, a => ∃ r, a = .decided r
  | .rejectReview, a => ∃ r, a = .decided r
  | .resumeReview, a => ∃ r, a = .resumed r

section

variable {σ α β : Type} {s : σ} {a : Answer}

theorem answering_ok {fn : RouteFn σ α} {wrap : α → Answer}
    (h : (fn.answering wrap s).2 = .ok a) : ∃ r, a = wrap r := by
  unfold RouteFn.answering at h
  cases hfn : (fn s).2 with
  | error e => rw [hfn] at h; cases h
  | ok r =>
      rw [hfn] at h
      exact ⟨r, (Except.ok.inj h).symm⟩

theorem withBody_ok {validate : Json → Except PyError β} {body : Json}
    {route : β → σ → σ × Except Refusal Answer} (h : (withBody validate body route s).2 = .ok a) :
    ∃ payload, (route payload s).2 = .ok a := by
  unfold withBody at h
  split at h
  · cases h
  next payload _ => exact ⟨payload, h⟩

/-- **An endpoint answers with its own kind of answer.** -/
theorem run_answers {H : Handlers σ} {e : Endpoint} {id : String} {body : Json}
    (h : (e.run H id body s).2 = .ok a) : Answers e a := by
  cases e with
  | getReview => exact answering_ok h
  | approveReview => exact answering_ok h
  | rejectReview => exact answering_ok h
  | resumeReview => exact answering_ok h
  | _ =>
      obtain ⟨payload, hpayload⟩ := withBody_ok h
      exact answering_ok hpayload

end

/-! ## §3. What a client makes of it. -/

section

variable {now : Timestamp} {a : Answer}

/-- The answer of an operation on a session is read back. -/
theorem readSession_dump (op : SessionOperation) (h : Answers op.endpoint a) :
    Call.readSession now (.obj a.dump) op = .ok (readAt now a) := by
  cases op with
  | applyPatch =>
      obtain ⟨r, rfl⟩ := h
      simp [Call.readSession, Answer.dump, readAt, Except.map]
  | interactiveCheck =>
      obtain ⟨r, rfl⟩ := h
      simp [Call.readSession, Answer.dump, readAt, Except.map]
  | getGoal =>
      obtain ⟨r, rfl⟩ := h
      simp [Call.readSession, Answer.dump, readAt, Except.map]
  | hover =>
      obtain ⟨r, rfl⟩ := h
      have hread : SessionHoverResponse.validate (.obj (SessionHoverResponse.dump r)) = .ok r :=
        PositionResponse.validate_dump (by decide) r
      simp [Call.readSession, Answer.dump, readAt, hread, Except.map]
  | definition =>
      obtain ⟨r, rfl⟩ := h
      have hread :
          SessionDefinitionResponse.validate (.obj (SessionDefinitionResponse.dump r)) = .ok r :=
        PositionResponse.validate_dump (by decide) r
      simp [Call.readSession, Answer.dump, readAt, hread, Except.map]
  | batchVerify =>
      obtain ⟨r, rfl⟩ := h
      simp [Call.readSession, Answer.dump, readAt, batchVerify_dump, Except.map]

/-- The endpoint an operation is for, with its path parameter. -/
def Call.target : Call → Option (Endpoint × String)
  | .openEnvironment _ => some (.openEnvironment, "")
  | .createSession _ => some (.createSession, "")
  | .session op sessionId _ => some (op.endpoint, sessionId)
  | .getReviewPayload threadId => some (.getReview, threadId)
  | .createPendingReview _ => some (.createPendingReview, "")
  | .submitReviewDecision threadId decision _ =>
      if decision = "approve" then some (.approveReview, threadId)
      else if decision = "reject" then some (.rejectReview, threadId)
      else none
  | .resume threadId => some (.resumeReview, threadId)

/-- **An operation's answer** is read back. -/
theorem read_dump {call : Call} {e : Endpoint} {id : String} (htarget : call.target = some (e, id))
    (h : Answers e a) : call.read now (.obj a.dump) = .ok (readAt now a) := by
  cases call with
  | session op sessionId payload =>
      obtain ⟨rfl, rfl⟩ := Prod.mk.inj (Option.some.inj htarget)
      exact readSession_dump op h
  | submitReviewDecision threadId decision payload =>
      have hdecided : ∃ r, a = .decided r := by
        simp only [Call.target] at htarget
        split_ifs at htarget
        · obtain ⟨rfl, rfl⟩ := Prod.mk.inj (Option.some.inj htarget)
          exact h
        · obtain ⟨rfl, rfl⟩ := Prod.mk.inj (Option.some.inj htarget)
          exact h
      obtain ⟨r, rfl⟩ := hdecided
      simp [Call.read, Answer.dump, readAt, Except.map]
  | _ =>
      obtain ⟨rfl, rfl⟩ := Prod.mk.inj (Option.some.inj htarget)
      obtain ⟨r, rfl⟩ := h
      simp [Call.read, Answer.dump, readAt, Except.map]

variable {code message : Json} {requestId : String}

/-- A model that forbids other keys does not read an error. -/
theorem strict_envelope {α : Type} {fields : List String} (h : "error" ∉ fields)
    {rest : Dict → Except PyError α} :
    ∃ e, (do
      let d ← asDict (.obj (errorEnvelope code message requestId))
      forbidExtra fields d
      rest d) = .error e := by
  obtain ⟨l, hl⟩ := forbidExtra_envelope h code message requestId
  exact ⟨_, by rw [asDict_obj, ok_bind, hl]; rfl⟩

theorem map_error {α β : Type} {x : Except PyError α} {f : α → β} (h : ∃ e, x = .error e) :
    ∃ e, x.map f = .error e := by
  obtain ⟨e, rfl⟩ := h
  exact ⟨e, rfl⟩

/-- **No operation reads an error** for an answer. -/
theorem read_envelope (call : Call) :
    ∃ e, call.read now (.obj (errorEnvelope code message requestId)) = .error e := by
  cases call with
  | getReviewPayload threadId => exact ⟨_, rfl⟩
  | session op sessionId payload =>
      simp only [Call.read]
      cases op with
      | _ =>
          simp only [Call.readSession]
          apply map_error
          apply strict_envelope
          decide
  | _ =>
      simp only [Call.read]
      apply map_error
      apply strict_envelope
      decide

end

/-! ## §4. One operation. -/

section

variable {σ : Type} {http : String → Option String} {env : ServiceEnv} {now : Timestamp}
  {H : Handlers σ} {requestId : String} {s : σ}

/-- What an operation makes of what an endpoint did. -/
def tell (env : ServiceEnv) (now : Timestamp) (requestId : String) (call : Call) :
    Except Refusal Answer → Except SdkError Answer
  | .ok a => (call.read now (.obj a.dump)).mapError fun _ => .unreadable
  | .error (.raised r) => .error (told (r.answer env) requestId)
  | .error (.body e) => .error (plainRefusal 422 (env.bodyErrors e))

/-- A refusal of the framework arrives as such. -/
theorem received_plain {statusCode : Nat} (h : 400 ≤ statusCode) (detail : Json) :
    received statusCode (.json (.obj [("detail", detail)])) =
      .error (plainRefusal statusCode detail) := by
  simp [received, h, parseErrorResponse, Dict.getD, errorBody, apiError, plainRefusal,
    Json.orElse, Json.truthy]

/-- **An answer on the other side.** -/
theorem received_reply (call : Call) (result : Except Refusal Answer) :
    (do
      let v ← received (replyOf env requestId result).status
        (.json (replyOf env requestId result).body)
      (call.read now v).mapError fun _ => SdkError.unreadable) =
      tell env now requestId call result := by
  cases result with
  | ok a => rfl
  | error r =>
      cases r with
      | body e =>
          simp only [replyOf, received_plain (show 400 ≤ 422 by decide)]
          rfl
      | raised r =>
          by_cases h : 400 ≤ (r.answer env).status
          · simp [replyOf, ErrorAnswer.reply, received, h, tell, told, parseErrorResponse,
              errorEnvelope, Dict.getD, errorBody]
          · -- An error with a status below 400 is taken for an answer.
            have hunread : ∃ e, call.read now (.obj (errorEnvelope (r.answer env).code
                (r.answer env).message requestId)) = .error e := read_envelope call
            obtain ⟨e, he⟩ := hunread
            simp [replyOf, ErrorAnswer.reply, received, h, tell, told, he, Except.mapError]

/-- **An operation that reaches an endpoint.** -/
theorem send_route (hhttp : Delivers http) {call : Call} {path : String}
    (hpath : call.path = some path) (hplain : PlainPath path) {e : Endpoint}
    {bound : List (List Char × List Char)}
    (hroute : Route.lookup routes call.method path = .route e bound) :
    call.send http env now H requestId s =
      ((e.run H (pathParameter bound) call.body s).1,
        tell env now requestId call (e.run H (pathParameter bound) call.body s).2) := by
  have harrives : call.path.bind http = some path := by
    rw [hpath]
    exact hhttp path hplain
  rw [Call.send, harrives]
  simp only [serve, hroute]
  exact congrArg _ (received_reply call _)

/-- **The path of an operation** reaches its endpoint, with its id. -/
theorem path_target {call : Call} (hplain : call.Plain) {e : Endpoint} {id : String}
    (htarget : call.target = some (e, id)) :
    ∃ path bound, call.path = some path ∧ PlainPath path ∧
      Route.lookup routes call.method path = .route e bound ∧ pathParameter bound = id := by
  -- An endpoint without a parameter, and one with the plain id of a session or a thread.
  have hfixed : ∀ e : Endpoint, e.parameter = none → call.method = e.decorator.1 →
      call.path = some (apiPrefix ++ e.decorator.2) →
      ∃ path bound, call.path = some path ∧ PlainPath path ∧
        Route.lookup routes call.method path = .route e bound ∧ pathParameter bound = "" := by
    intro e he hmethod hpath
    obtain ⟨hfill, bound, hlookup, hbound⟩ := lookup_plain he
    have hvalues : ∀ hole v, (fun _ => none : Route.Values) hole = some v →
        plainSegment v = true :=
      fun _ _ h => nomatch h
    exact ⟨_, bound, hpath, plainPath_fill e hvalues hfill, hmethod ▸ hlookup, hbound⟩
  have hnamed : ∀ (e : Endpoint) (name id : String), e.parameter = some name → PlainId id →
      call.method = e.decorator.1 →
      call.path = (Route.fill (only name id) e.decorator.2).map (apiPrefix ++ ·) →
      ∃ path bound, call.path = some path ∧ PlainPath path ∧
        Route.lookup routes call.method path = .route e bound ∧ pathParameter bound = id := by
    intro e name id he hid hmethod hpath
    obtain ⟨path, hfill, bound, hlookup, hbound⟩ := lookup_parameter he hid.fits
    have hvalues : ∀ hole v, only name id hole = some v → plainSegment v = true := by
      intro hole v hv
      unfold only at hv
      split at hv
      · obtain rfl := Option.some.inj hv
        exact hid
      · cases hv
    refine ⟨path, bound, ?_, plainPath_fill e hvalues hfill, hmethod ▸ hlookup, hbound⟩
    rw [hpath, ← fill_entry, hfill]
  cases call with
  | openEnvironment payload =>
      obtain ⟨rfl, rfl⟩ := Prod.mk.inj (Option.some.inj htarget)
      exact hfixed .openEnvironment rfl rfl rfl
  | createSession payload =>
      obtain ⟨rfl, rfl⟩ := Prod.mk.inj (Option.some.inj htarget)
      exact hfixed .createSession rfl rfl rfl
  | createPendingReview payload =>
      obtain ⟨rfl, rfl⟩ := Prod.mk.inj (Option.some.inj htarget)
      exact hfixed .createPendingReview rfl rfl rfl
  | session op sessionId payload =>
      obtain ⟨rfl, rfl⟩ := Prod.mk.inj (Option.some.inj htarget)
      cases op <;> exact hnamed _ "session_id" sessionId rfl hplain rfl rfl
  | getReviewPayload threadId =>
      obtain ⟨rfl, rfl⟩ := Prod.mk.inj (Option.some.inj htarget)
      exact hnamed .getReview "thread_id" threadId rfl hplain rfl rfl
  | resume threadId =>
      obtain ⟨rfl, rfl⟩ := Prod.mk.inj (Option.some.inj htarget)
      exact hnamed .resumeReview "thread_id" threadId rfl hplain rfl rfl
  | submitReviewDecision threadId decision payload =>
      simp only [Call.target] at htarget
      split_ifs at htarget with happrove hreject
      · obtain ⟨rfl, rfl⟩ := Prod.mk.inj (Option.some.inj htarget)
        exact hnamed .approveReview "thread_id" threadId rfl hplain.1 rfl (if_pos happrove)
      · obtain ⟨rfl, rfl⟩ := Prod.mk.inj (Option.some.inj htarget)
        exact hnamed .rejectReview "thread_id" threadId rfl hplain.1 rfl
          ((if_neg happrove).trans (if_pos hreject))

/-- What a caller is told of an endpoint that the operation is for. -/
theorem tell_target {call : Call} {e : Endpoint} {id : String}
    (htarget : call.target = some (e, id)) :
    tell env now requestId call (e.run H id call.body s).2 =
      (reach H e id call.body s).2.seen env now requestId := by
  rw [reach]
  cases hrun : (e.run H id call.body s).2 with
  | ok a =>
      rw [tell, read_dump htarget (run_answers hrun)]
      rfl
  | error r => cases r <;> rfl

/-- What a caller is told who sends a resume as a decision. -/
theorem tell_misread (threadId decision : String) (payload : Dict) :
    tell env now requestId (.submitReviewDecision threadId decision payload)
        (Endpoint.resumeReview.run H threadId (.obj payload) s).2 =
      (reach H .resumeReview threadId (.obj payload) s).2.misread.seen env now requestId := by
  rw [reach]
  cases hrun : (Endpoint.resumeReview.run H threadId (.obj payload) s).2 with
  | ok a =>
      obtain ⟨r, rfl⟩ := run_answers hrun
      obtain ⟨e, he⟩ := ReviewResumeProxyResponse.dump_not_decision r
      simp [tell, Call.read, Answer.dump, he, Except.map, Except.mapError, Outcome.ofResult,
        Outcome.misread, Outcome.seen]
  | error r => cases r <;> rfl

theorem reaches_target {call : Call} {e : Endpoint} {id : String}
    (htarget : call.target = some (e, id)) : call.reaches H s = reach H e id call.body s := by
  cases call with
  | submitReviewDecision threadId decision payload =>
      simp only [Call.target] at htarget
      simp only [Call.reaches]
      split_ifs at htarget with happrove hreject
      · obtain ⟨rfl, rfl⟩ := Prod.mk.inj (Option.some.inj htarget)
        rw [if_pos happrove]
      · obtain ⟨rfl, rfl⟩ := Prod.mk.inj (Option.some.inj htarget)
        rw [if_neg happrove, if_pos hreject]
  | _ =>
      obtain ⟨rfl, rfl⟩ := Prod.mk.inj (Option.some.inj htarget)
      rfl

/-- **A decision that is neither** is sent below the review's path: it resumes the review, or
reaches nothing. -/
theorem send_decision (hhttp : Delivers http) {threadId decision : String} {payload : Dict}
    (ht : PlainId threadId) (hd : PlainId decision) (happrove : ¬ decision = "approve")
    (hreject : ¬ decision = "reject") :
    let call : Call := .submitReviewDecision threadId decision payload
    call.send http env now H requestId s =
      ((call.reaches H s).1, (call.reaches H s).2.seen env now requestId) := by
  intro call
  have hpath : call.path = some (apiPrefix ++ ("/reviews/" ++ threadId) ++ ("/" ++ decision)) := by
    simp only [call, Call.path]
    rw [if_neg happrove, if_neg hreject, pathReview_byThread]
    rfl
  have hplain : PlainPath (apiPrefix ++ ("/reviews/" ++ threadId) ++ ("/" ++ decision)) := by
    refine ⟨["v1".toList, "reviews".toList, threadId.toList, decision.toList],
      path_below_review threadId decision, ?_⟩
    have hv1 : plainSegment "v1".toList = true := by decide
    have hreviews : plainSegment "reviews".toList = true := by decide
    simp only [List.all_cons, List.all_nil, hv1, hreviews, Bool.true_and, Bool.and_true,
      Bool.and_eq_true]
    exact ⟨ht, hd⟩
  by_cases hresume : decision = "resume"
  · subst hresume
    obtain ⟨path, hfill, bound, hlookup, hbound⟩ :=
      lookup_parameter (e := .resumeReview) rfl ht.fits
    have hsame : path = apiPrefix ++ ("/reviews/" ++ threadId) ++ ("/" ++ "resume") := by
      have hresumePath := pathReview_resume threadId
      rw [Gateway.pathReview] at hresumePath
      rw [fill_entry] at hfill
      exact Option.some.inj (hfill.symm.trans hresumePath)
    subst hsame
    rw [send_route hhttp hpath hplain hlookup, hbound]
    simp only [call, Call.reaches]
    rw [if_neg happrove, if_neg hreject, if_true]
    exact congrArg _ (tell_misread threadId "resume" payload)
  · have hword : decision ∉ decisionWords := by simp [decisionWords, happrove, hreject, hresume]
    have harrives : call.path.bind http =
        some (apiPrefix ++ ("/reviews/" ++ threadId) ++ ("/" ++ decision)) := by
      rw [hpath]
      exact hhttp _ hplain
    have hmethod : call.method = .post := rfl
    rw [Call.send, harrives]
    simp only [serve, hmethod, lookup_decision ht.fits hd.fits hword,
      received_plain (show 400 ≤ 404 by decide), error_bind]
    simp only [call, Call.reaches]
    rw [if_neg happrove, if_neg hreject, if_neg hresume]
    rfl

/-- **One request**: the function it is for, and what the caller is told of that. -/
theorem send_reaches (hhttp : Delivers http) {call : Call} (hplain : call.Plain) :
    call.send http env now H requestId s =
      ((call.reaches H s).1, (call.reaches H s).2.seen env now requestId) := by
  cases htarget : call.target with
  | some target =>
      obtain ⟨path, bound, hpath, hplainPath, hlookup, hbound⟩ := path_target hplain htarget
      rw [send_route hhttp hpath hplainPath hlookup, hbound, reaches_target htarget,
        tell_target htarget]
      rfl
  | none =>
      cases call with
      | submitReviewDecision threadId decision payload =>
          simp only [Call.target] at htarget
          split_ifs at htarget with happrove hreject
          exact send_decision hhttp hplain.1 hplain.2 happrove hreject
      | _ => cases htarget

/-- **One operation** over a gateway: a call that raises makes no request. -/
theorem perform_locally (hhttp : Delivers http) {call : Call} (hplain : call.Plain) :
    call.perform http env now H requestId s = call.locally env now H requestId s := by
  unfold Call.perform Call.locally
  cases call.argumentTwice with
  | some name => rfl
  | none => simp only [send_reaches hhttp hplain]

end

/-! ## §5. Any calls. -/

section

variable {σ : Type}

/-- A call on its way, with its ids plain: what the functions of the gateway do at that time,
the time, and the id its request is given. -/
structure Sent (σ : Type) where
  handlers : Handlers σ
  now : Timestamp
  requestId : String
  call : Call
  plain : call.Plain

/-- The call over the gateway. -/
def remoteCall (http : String → Option String) (env : ServiceEnv) (s : σ) (c : Sent σ) :
    σ × Except CallError Answer :=
  c.call.perform http env c.now c.handlers c.requestId s

/-- The same call on the functions of the gateway. -/
def localCall (env : ServiceEnv) (s : σ) (c : Sent σ) : σ × Except CallError Answer :=
  c.call.locally env c.now c.handlers c.requestId s

/-- **Clients of a gateway**, in any order and whatever the functions behind its routes do:
each call does what the function does that it is for, and returns what that returned, or
raises the error of what that raised; a call with a keyword argument that is a parameter of
its method raises and does nothing. -/
theorem remote_gateway {http : String → Option String} (hhttp : Delivers http) (env : ServiceEnv)
    (s : σ) (calls : List (Sent σ)) :
    Transition.answers (remoteCall http env) s calls =
        Transition.answers (localCall env) s calls ∧
      Transition.run (fun s c => (remoteCall http env s c).1) s calls =
        Transition.run (fun s c => (localCall env s c).1) s calls := by
  have hcall : remoteCall http env = localCall env (σ := σ) := by
    funext s c
    exact perform_locally hhttp c.plain
  rw [hcall]
  exact ⟨rfl, rfl⟩

end

namespace Scripted

/-- The error of a session that is not there. -/
def sessionNotFound : Gateway.Raised :=
  .http 404 (.obj [("code", .str "session_not_found"), ("message", .str "Session not found")])

/-- The error of a review that is not there. -/
def noPendingReview : Gateway.Raised :=
  .http 400 (.obj [("code", .str "bad_request"), ("message", .str "No pending review for thread")])

/-- A gateway without sessions and snapshots; its state is the threads with a review. -/
def sessionless : Handlers (List String) where
  openEnvironment _ s := (s, .error (.exception .other "token=abc was refused"))
  createSession p s :=
    (s, .error (.exception .lookup ("Snapshot not found for " ++ p.fingerprintId)))
  applyPatch _ _ s := (s, .error sessionNotFound)
  interactiveCheck _ _ s := (s, .error sessionNotFound)
  goal _ _ s := (s, .error sessionNotFound)
  hover _ _ s := (s, .error sessionNotFound)
  definition _ _ s := (s, .error sessionNotFound)
  batchVerify _ _ s := (s, .error sessionNotFound)
  getReview _ s := (s, .error noPendingReview)
  createPendingReview p s := (p.threadId :: s, .ok { threadId := p.threadId })
  approveReview t s :=
    (s, if t ∈ s then .ok { threadId := t, decision := .approved } else .error noPendingReview)
  rejectReview t s :=
    (s, if t ∈ s then .ok { threadId := t, decision := .rejected } else .error noPendingReview)
  resumeReview _ s := (s, .error noPendingReview)

/-- A service whose characters are those of ASCII. -/
def service : ServiceEnv := ⟨fun _ => "", Char.isAlphanum, fun _ => .arr []⟩

/-- A call at some time. -/
def sent (call : Call) (h : call.Plain) : Sent (List String) :=
  ⟨sessionless, ⟨"2026-08-01", by decide⟩, "req_1", call, h⟩

/-- A review is approved before and after it is there; the text of an error has a secret. -/
def calls : List (Sent (List String)) :=
  [sent (.submitReviewDecision "t-1" "approve" []) (by exact ⟨by decide, by decide⟩),
    sent (.createPendingReview [("thread_id", .str "t-1")]) trivial,
    sent (.submitReviewDecision "t-1" "approve" []) (by exact ⟨by decide, by decide⟩),
    sent (.session .applyPatch "sess_1" [("files", .obj [])]) (show PlainId "sess_1" by decide),
    sent (.openEnvironment [("repo_id", .str "r")]) trivial,
    sent (.session .hover "sess_1" [("session_id", .str "sess_2")])
      (show PlainId "sess_1" by decide)]

/-- The error of an operation: its status, code and message. -/
def errorOf : Except CallError Answer → Option (Nat × Json × Json)
  | .error (.request (.api status code message _)) => some (status, code, message)
  | _ => none

/-- What the callers are told. -/
theorem remote_gateway_scripted :
    (Transition.answers (remoteCall some service) [] calls).map errorOf =
      [some (400, .str "bad_request", .str "No pending review for thread"), none, none,
        some (404, .str "session_not_found", .str "Session not found"),
        some (500, .str "internal_error", .str "token=*** was refused"), none] :=
  (congrArg _ (remote_gateway (fun _ _ => rfl) service [] calls).1).trans (by decide)

end Scripted

end Sdk

end ObligationRuntime
