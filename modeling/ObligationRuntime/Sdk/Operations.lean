/-
  ObligationRuntime.Sdk.Operations — the operations of the SDK client, client.py and
  exceptions.py of `lean_langchain_sdk`.

  An operation makes the path of its endpoint, posts its payload as it is, and reads the
  answer by the model of the endpoint.  An answer of 400 or more is raised, with the code
  and the message of the gateway's error when the body has one.  The payload is that of the
  keyword arguments, so that a key which is a parameter of the method is no payload: the
  call itself raises.

  Main definitions:
    * `Call`, `Call.perform` — an operation, and what it does over a gateway,
    * `Call.reaches`, `Outcome.seen`, `Call.locally` — the same without the wire: which
      function of the gateway the operation is for, and what the caller is told.
-/
import ObligationRuntime.Gateway.Service
import ObligationRuntime.Sdk.Client

namespace ObligationRuntime

open Py Gateway

namespace Sdk

/-! ## §1. exceptions.py -/

/-- What a request raises: `ObligationRuntimeAPIError`, or else that the answer is not one of
the endpoint, or that there is none. -/
inductive SdkError where
  | api (statusCode : Nat) (code message body : Json)
  | unreadable
  | unreachable
  deriving DecidableEq

/-- What an operation raises: a `TypeError` for an argument that is given twice, or what its
request raises. -/
inductive CallError where
  | multipleValues (argument : String)
  | request (e : SdkError)
  deriving DecidableEq

/-- `ObligationRuntimeAPIError(..)`: without a code it is `unknown`. -/
def apiError (statusCode : Nat) (code message body : Json) : SdkError :=
  .api statusCode (code.orElse (.str "unknown")) message (body.orElse (.obj []))

/-! ## §2. Answers. -/

/-- The content of an answer. -/
inductive Content where
  | empty
  | json (v : Json)
  | text (s : String)

/-- `f"HTTP {status_code}"`. -/
def httpStatus (statusCode : Nat) : String := "HTTP " ++ toString statusCode

/-- `_parse_error_response`: the code and the message. -/
def parseErrorResponse (statusCode : Nat) : Content → Json × Json
  | .empty => (.str "unknown", .str (httpStatus statusCode))
  | .json (.obj data) =>
      match Dict.getD data "error" .null with
      | .obj err => (Dict.getD err "code" (.str "unknown"),
          Dict.getD err "message" (.str (httpStatus statusCode)))
      | _ => (.str "unknown", .str (httpStatus statusCode))
  | .json _ => (.str "unknown", .str (httpStatus statusCode))
  | .text s => (.str "unknown", .str (String.ofList (s.toList.take 500)))

/-- `resp.json() if resp.content else {}`, or `{}` where that raises. -/
def errorBody : Content → Json
  | .json v => v
  | _ => .obj []

/-- What becomes of an answer: it is raised, or it is the operation's to read. -/
def received (statusCode : Nat) (content : Content) : Except SdkError Json :=
  if 400 ≤ statusCode then
    let (code, message) := parseErrorResponse statusCode content
    .error (apiError statusCode code message (errorBody content))
  else
    match content with
    | .json v => .ok v
    | _ => .error .unreadable

/-! ## §3. Operations. -/

/-- The operations on a session. -/
inductive SessionOperation where
  | applyPatch
  | interactiveCheck
  | getGoal
  | hover
  | definition
  | batchVerify
  deriving DecidableEq, Repr

/-- The template of the path. -/
def SessionOperation.template : SessionOperation → String
  | .applyPatch => pathSessionApplyPatch
  | .interactiveCheck => pathSessionInteractiveCheck
  | .getGoal => pathSessionGoal
  | .hover => pathSessionHover
  | .definition => pathSessionDefinition
  | .batchVerify => pathSessionBatchVerify

/-- The endpoint that the operation is for. -/
def SessionOperation.endpoint : SessionOperation → Endpoint
  | .applyPatch => .applyPatch
  | .interactiveCheck => .interactiveCheck
  | .getGoal => .goal
  | .hover => .hover
  | .definition => .definition
  | .batchVerify => .batchVerify

/-- A call of the client; the payload is that of its keyword arguments. -/
inductive Call where
  | openEnvironment (payload : Dict)
  | createSession (payload : Dict)
  | session (op : SessionOperation) (sessionId : String) (payload : Dict)
  | getReviewPayload (threadId : String)
  | createPendingReview (payload : Dict)
  | submitReviewDecision (threadId decision : String) (payload : Dict)
  | resume (threadId : String)

namespace Call

/-- `_post` or `_get`. -/
def method : Call → Method
  | .getReviewPayload _ => .get
  | _ => .post

/-- The path of the request. -/
def path : Call → Option String
  | .openEnvironment _ => some (apiPrefix ++ pathEnvironmentsOpen)
  | .createSession _ => some (apiPrefix ++ pathSessions)
  | .session op sessionId _ => pathSession sessionId op.template
  | .getReviewPayload threadId => Gateway.pathReview threadId pathReviewByThread
  | .createPendingReview _ => some (apiPrefix ++ pathReviews)
  | .submitReviewDecision threadId decision _ =>
      if decision = "approve" then Gateway.pathReview threadId pathReviewApprove
      else if decision = "reject" then Gateway.pathReview threadId pathReviewReject
      -- Any other decision is put at the end of the review's path as it is.
      else (Gateway.pathReview threadId pathReviewByThread).map (· ++ ("/" ++ decision))
  | .resume threadId => Gateway.pathReview threadId pathReviewResume

/-- The body of the request. -/
def body : Call → Json
  | .openEnvironment payload => .obj payload
  | .createSession payload => .obj payload
  | .session _ _ payload => .obj payload
  | .getReviewPayload _ => .null
  | .createPendingReview payload => .obj payload
  | .submitReviewDecision _ _ payload => .obj payload
  | .resume _ => .obj []

/-- The model an operation on a session reads its answer by. -/
def readSession (now : Timestamp) (v : Json) : SessionOperation → Except PyError Answer
  | .applyPatch => (ApplyPatchResponse.validate v).map .patched
  | .interactiveCheck => (InteractiveCheckApiResponse.validate now v).map .checked
  | .getGoal => (SessionGoalResponse.validate v).map .goal
  | .hover => (SessionHoverResponse.validate v).map .hover
  | .definition => (SessionDefinitionResponse.validate v).map .definition
  | .batchVerify => (batchVerify now v).map .verified

/-- The model an operation reads its answer by. -/
def read (now : Timestamp) (v : Json) : Call → Except PyError Answer
  | .openEnvironment _ => (OpenEnvironmentResponse.validate now v).map .environment
  | .createSession _ => (CreateSessionResponse.validate v).map .session
  | .session op _ _ => readSession now v op
  | .getReviewPayload _ => (ReviewPayload.validate now v).map .review
  | .createPendingReview _ => (CreatePendingReviewResponse.validate v).map .created
  | .submitReviewDecision _ _ _ => (ReviewDecisionResponse.validate v).map .decided
  | .resume _ => (ReviewResumeProxyResponse.validate v).map .resumed

/-- The parameters of the method, beside its `**payload`. -/
def parameters : Call → List String
  | .openEnvironment _ | .createSession _ => ["self"]
  | .session _ _ _ => ["self", "session_id"]
  | .submitReviewDecision _ _ _ => ["self", "thread_id", "decision"]
  | .getReviewPayload _ | .createPendingReview _ | .resume _ => []

/-- The keyword arguments; `create_pending_review` takes its payload as one argument. -/
def keywords : Call → Dict
  | .openEnvironment payload | .createSession payload => payload
  | .session _ _ payload => payload
  | .submitReviewDecision _ _ payload => payload
  | .getReviewPayload _ | .createPendingReview _ | .resume _ => []

/-- The first keyword argument that is a parameter as well: `TypeError`. -/
def argumentTwice (call : Call) : Option String :=
  (call.keywords.map Prod.fst).find? fun key => decide (key ∈ call.parameters)

variable {σ : Type}

/-- The request of an operation, and what becomes of its answer: `http` is how a path
arrives, `requestId` the id that the request is given. -/
def send (http : String → Option String) (env : ServiceEnv) (now : Timestamp) (H : Handlers σ)
    (requestId : String) (call : Call) (s : σ) : σ × Except SdkError Answer :=
  match call.path.bind http with
  | none => (s, .error .unreachable)
  | some arrived =>
      let served := serve env H ⟨call.method, arrived, call.body, requestId⟩ s
      (served.1, do
        let v ← received served.2.status (.json served.2.body)
        (call.read now v).mapError fun _ => .unreadable)

/-- **An operation over a gateway.** -/
def perform (http : String → Option String) (env : ServiceEnv) (now : Timestamp) (H : Handlers σ)
    (requestId : String) (call : Call) (s : σ) : σ × Except CallError Answer :=
  match call.argumentTwice with
  | some name => (s, .error (.multipleValues name))
  | none =>
      let sent := call.send http env now H requestId s
      (sent.1, sent.2.mapError .request)

end Call

/-! ## §4. Without the wire. -/

/-- How an operation ends on the gateway's side. -/
inductive Outcome where
  | answered (a : Answer)
  | refused (r : Refusal)
  -- The endpoint answers, but not with what the operation reads.
  | other
  | noRoute

/-- What an endpoint did. -/
def Outcome.ofResult : Except Refusal Answer → Outcome
  | .ok a => .answered a
  | .error r => .refused r

/-- The answer is not the operation's. -/
def Outcome.misread : Outcome → Outcome
  | .answered _ => .other
  | o => o

section

variable {σ : Type}

/-- What an endpoint does, as the end of an operation. -/
def reach (H : Handlers σ) (e : Endpoint) (id : String) (body : Json) (s : σ) : σ × Outcome :=
  ((e.run H id body s).1, .ofResult (e.run H id body s).2)

/-- The function of the gateway that an operation is for. -/
def Call.reaches (H : Handlers σ) (call : Call) (s : σ) : σ × Outcome :=
  match call with
  | .openEnvironment _ => reach H .openEnvironment "" call.body s
  | .createSession _ => reach H .createSession "" call.body s
  | .session op sessionId _ => reach H op.endpoint sessionId call.body s
  | .getReviewPayload threadId => reach H .getReview threadId call.body s
  | .createPendingReview _ => reach H .createPendingReview "" call.body s
  | .submitReviewDecision threadId decision _ =>
      if decision = "approve" then reach H .approveReview threadId call.body s
      else if decision = "reject" then reach H .rejectReview threadId call.body s
      else if decision = "resume" then
        -- The review is resumed, and the answer is not that of a decision.
        let r := reach H .resumeReview threadId call.body s
        (r.1, r.2.misread)
      else (s, .noRoute)
  | .resume threadId => reach H .resumeReview threadId call.body s

/-- The answer as it is read: a review's batch summary is stamped anew. -/
def readAt (now : Timestamp) : Answer → Answer
  | .review r => .review (r.restamped now)
  | a => a

/-- What the caller is told of an error. -/
def told (a : ErrorAnswer) (requestId : String) : SdkError :=
  if 400 ≤ a.status then
    apiError a.status a.code a.message (.obj (errorEnvelope a.code a.message requestId))
  else .unreadable

/-- A refusal of the framework, which has no error in the gateway's form. -/
def plainRefusal (statusCode : Nat) (detail : Json) : SdkError :=
  .api statusCode (.str "unknown") (.str (httpStatus statusCode)) (.obj [("detail", detail)])

/-- **What the caller is told.** -/
def Outcome.seen (env : ServiceEnv) (now : Timestamp) (requestId : String) :
    Outcome → Except SdkError Answer
  | .answered a => .ok (readAt now a)
  | .refused (.raised r) => .error (told (r.answer env) requestId)
  | .refused (.body e) => .error (plainRefusal 422 (env.bodyErrors e))
  | .other => .error .unreadable
  | .noRoute => .error (plainRefusal 404 (.str "Not Found"))

/-- **An operation without the wire.** -/
def Call.locally (env : ServiceEnv) (now : Timestamp) (H : Handlers σ) (requestId : String)
    (call : Call) (s : σ) : σ × Except CallError Answer :=
  match call.argumentTwice with
  | some name => (s, .error (.multipleValues name))
  | none =>
      let reached := call.reaches H s
      (reached.1, (reached.2.seen env now requestId).mapError .request)

end

/-! ## §5. Ids. -/

/-- The characters that stand for themselves anywhere in a URL. -/
def isUnreserved (c : Char) : Bool := c.isAlphanum || decide (c ∈ ['-', '.', '_', '~'])

/-- A segment of a path that arrives as it is sent: it is not empty, has unreserved
characters only, and is neither of the dots. -/
def plainSegment (cs : List Char) : Bool :=
  decide (cs ≠ []) && cs.all isUnreserved && decide (cs ≠ ['.']) && decide (cs ≠ ['.', '.'])

/-- An id that stands for itself in a path. -/
def PlainId (id : String) : Prop := plainSegment id.toList = true

instance (id : String) : Decidable (PlainId id) := inferInstanceAs (Decidable (_ = true))

/-- A path of such segments. -/
def PlainPath (path : String) : Prop :=
  ∃ ss : List (List Char), path = Route.path ([] :: ss) ∧ ss.all plainSegment = true

/-- The HTTP stack delivers such paths unchanged. -/
def Delivers (http : String → Option String) : Prop :=
  ∀ path, PlainPath path → http path = some path

/-- The ids of a call stand for themselves. -/
def Call.Plain : Call → Prop
  | .session _ sessionId _ => PlainId sessionId
  | .getReviewPayload threadId | .resume threadId => PlainId threadId
  | .submitReviewDecision threadId decision _ => PlainId threadId ∧ PlainId decision
  | .openEnvironment _ | .createSession _ | .createPendingReview _ => True

end Sdk

end ObligationRuntime
