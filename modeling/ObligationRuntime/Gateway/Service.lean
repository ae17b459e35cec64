/-
  ObligationRuntime.Gateway.Service — the gateway as an HTTP service: the paths of
  api_paths.py, the routers and exception handlers of app.py, and errors.py.

  A request goes to the first route that matches.  The route reads its body by the model of
  the endpoint, and calls the function behind it; what that returns is dumped, and what it
  raises becomes an error with a status, a code and a message.

  The functions behind the routes are `Handlers`, over any state of the gateway.

  Main results:
    * `lookup_parameter`, `lookup_plain` — a path that is made from the template of a route
      reaches the route, and the parameter arrives,
    * `lookup_decision` — the path of a review with any other word at its end reaches none.
-/
import ObligationRuntime.Gateway.GatewayApi
import ObligationRuntime.Gateway.LogRedaction
import ObligationRuntime.Lib.RouteTable

namespace ObligationRuntime

open Py

namespace Gateway

/-! ## §1. api_paths.py -/

/-- `PREFIX`. -/
def apiPrefix : String := "/v1"

/-- `PATH_ENVIRONMENTS_OPEN`. -/
def pathEnvironmentsOpen : String := "/environments/open"

/-- `PATH_SESSIONS`. -/
def pathSessions : String := "/sessions"

/-- `PATH_SESSION_APPLY_PATCH`. -/
def pathSessionApplyPatch : String := "/sessions/\x7bsession_id\x7d/apply-patch"

/-- `PATH_SESSION_INTERACTIVE_CHECK`. -/
def pathSessionInteractiveCheck : String := "/sessions/\x7bsession_id\x7d/interactive-check"

/-- `PATH_SESSION_GOAL`. -/
def pathSessionGoal : String := "/sessions/\x7bsession_id\x7d/goal"

/-- `PATH_SESSION_HOVER`. -/
def pathSessionHover : String := "/sessions/\x7bsession_id\x7d/hover"

/-- `PATH_SESSION_DEFINITION`. -/
def pathSessionDefinition : String := "/sessions/\x7bsession_id\x7d/definition"

/-- `PATH_SESSION_BATCH_VERIFY`. -/
def pathSessionBatchVerify : String := "/sessions/\x7bsession_id\x7d/batch-verify"

/-- `PATH_REVIEWS`. -/
def pathReviews : String := "/reviews"

/-- `PATH_REVIEW_BY_THREAD`. -/
def pathReviewByThread : String := "/reviews/\x7bthread_id\x7d"

/-- `PATH_REVIEW_APPROVE`. -/
def pathReviewApprove : String := "/reviews/\x7bthread_id\x7d/approve"

/-- `PATH_REVIEW_REJECT`. -/
def pathReviewReject : String := "/reviews/\x7bthread_id\x7d/reject"

/-- `PATH_REVIEW_RESUME`. -/
def pathReviewResume : String := "/reviews/\x7bthread_id\x7d/resume"

/-- One value, for the holes of one name. -/
def only (name value : String) : Route.Values :=
  fun hole => if hole = name.toList then some value.toList else none

/-- `path_session`. -/
def pathSession (sessionId template : String) : Option String :=
  (Route.fill (only "session_id" sessionId) template).map (apiPrefix ++ ·)

/-- `path_review`. -/
def pathReview (threadId template : String) : Option String :=
  (Route.fill (only "thread_id" threadId) template).map (apiPrefix ++ ·)

/-! ## §2. Routes. -/

/-- The method of a request. -/
inductive Method where
  | get
  | post
  deriving DecidableEq, Repr

/-- What a route leads to. -/
inductive Endpoint where
  | openEnvironment
  | createSession
  | applyPatch
  | interactiveCheck
  | goal
  | hover
  | definition
  | batchVerify
  | getReview
  | createPendingReview
  | approveReview
  | rejectReview
  | resumeReview
  deriving DecidableEq, Repr

/-- The decorator of an endpoint. -/
def Endpoint.decorator : Endpoint → Method × String
  | .openEnvironment => (.post, pathEnvironmentsOpen)
  | .createSession => (.post, pathSessions)
  | .applyPatch => (.post, pathSessionApplyPatch)
  | .interactiveCheck => (.post, pathSessionInteractiveCheck)
  | .goal => (.post, pathSessionGoal)
  | .hover => (.post, pathSessionHover)
  | .definition => (.post, pathSessionDefinition)
  | .batchVerify => (.post, pathSessionBatchVerify)
  | .getReview => (.get, pathReviewByThread)
  | .createPendingReview => (.post, pathReviews)
  | .approveReview => (.post, pathReviewApprove)
  | .rejectReview => (.post, pathReviewReject)
  | .resumeReview => (.post, pathReviewResume)

/-- The route of an endpoint, below the prefix its router is included with. -/
def Endpoint.entry (e : Endpoint) : Route.Entry Method Endpoint :=
  ⟨e.decorator.1, apiPrefix ++ e.decorator.2, e⟩

/-- The routers: environments, sessions, batch, reviews. -/
def endpoints : List Endpoint :=
  [.openEnvironment, .createSession, .applyPatch, .interactiveCheck, .goal, .hover, .definition,
    .batchVerify, .getReview, .createPendingReview, .approveReview, .rejectReview, .resumeReview]

/-- The routes of the application, in the order they are included. -/
def routes : List (Route.Entry Method Endpoint) := endpoints.map Endpoint.entry

/-! ## §3. Errors. -/

/-- What `unhandled_exception` tells apart: the errors of a lookup (a missing file among
them), the other errors of a value, and the rest. -/
inductive ErrorClass where
  | lookup
  | value
  | other
  deriving DecidableEq, Repr

/-- What a route raises. -/
inductive Raised where
  | http (statusCode : Nat) (detail : Json)
  | exception (cls : ErrorClass) (text : String)
  deriving DecidableEq

/-- What the service depends on: `str(..)` of a value, `str.isalnum` of a character, and
how the framework lists what is wrong with a body. -/
structure ServiceEnv where
  str : Json → String
  isAlnum : Char → Bool
  bodyErrors : PyError → Json

/-- An answer, on its way. -/
structure Reply where
  status : Nat
  body : Json
  deriving DecidableEq

/-- What an error tells a client. -/
structure ErrorAnswer where
  status : Nat
  code : Json
  message : Json
  deriving DecidableEq

section

variable (env : ServiceEnv)

/-- `_detail_code_and_message`. -/
def detailCodeAndMessage : Json → Json × Json
  | .obj d => (Dict.getD d "code" (.str "bad_request"),
      Dict.getD d "message" (.str (env.str (.obj d))))
  | detail => (.str "bad_request", .str (env.str detail))

/-- `http_exception_handler`. -/
def httpExceptionHandler (statusCode : Nat) (detail : Json) : ErrorAnswer :=
  ⟨statusCode, (detailCodeAndMessage env detail).1, (detailCodeAndMessage env detail).2⟩

/-- `unhandled_exception`: the text goes out without its secrets. -/
def unhandledException (cls : ErrorClass) (text : String) : ErrorAnswer :=
  let message := String.ofList (redactSecrets env.isAlnum text.toList)
  match cls with
  | .lookup => ⟨404, .str "not_found", .str message⟩
  | .value =>
      let code := if contains "escapes" (lower text) then "path_traversal" else "validation_error"
      ⟨400, .str code, .str message⟩
  | .other => ⟨500, .str "internal_error", .str message⟩

/-- What the exception handlers answer. -/
def Raised.answer : Raised → ErrorAnswer
  | .http statusCode detail => httpExceptionHandler env statusCode detail
  | .exception cls text => unhandledException env cls text

/-- The error on its way. -/
def ErrorAnswer.reply (a : ErrorAnswer) (requestId : String) : Reply :=
  ⟨a.status, .obj (errorEnvelope a.code a.message requestId)⟩

end

/-! ## §4. The functions behind the routes. -/

/-- A route function: it may change the state of the gateway. -/
abbrev RouteFn (σ α : Type) := σ → σ × Except Raised α

/-- The route functions, over a state. -/
structure Handlers (σ : Type) where
  openEnvironment : OpenEnvironmentRequest → RouteFn σ OpenEnvironmentResponse
  createSession : CreateSessionRequest → RouteFn σ CreateSessionResponse
  applyPatch : String → ApplyPatchRequest → RouteFn σ ApplyPatchResponse
  interactiveCheck : String → InteractiveCheckRequest → RouteFn σ InteractiveCheckApiResponse
  goal : String → SessionGoalRequest → RouteFn σ SessionGoalResponse
  hover : String → SessionHoverRequest → RouteFn σ SessionHoverResponse
  definition : String → SessionDefinitionRequest → RouteFn σ SessionDefinitionResponse
  batchVerify : String → BatchVerifyRequest → RouteFn σ BatchVerifyResult
  getReview : String → RouteFn σ ReviewPayload
  createPendingReview : CreatePendingReviewRequest → RouteFn σ CreatePendingReviewResponse
  approveReview : String → RouteFn σ ReviewDecisionResponse
  rejectReview : String → RouteFn σ ReviewDecisionResponse
  resumeReview : String → RouteFn σ ReviewResumeProxyResponse

/-- What an endpoint answers. -/
inductive Answer where
  | environment (r : OpenEnvironmentResponse)
  | session (r : CreateSessionResponse)
  | patched (r : ApplyPatchResponse)
  | checked (r : InteractiveCheckApiResponse)
  | goal (r : SessionGoalResponse)
  | hover (r : SessionHoverResponse)
  | definition (r : SessionDefinitionResponse)
  | verified (r : BatchVerifyResult)
  | review (r : ReviewPayload)
  | created (r : CreatePendingReviewResponse)
  | decided (r : ReviewDecisionResponse)
  | resumed (r : ReviewResumeProxyResponse)
  deriving DecidableEq

/-- `model_dump(mode="json")`. -/
def Answer.dump : Answer → Dict
  | .environment r => r.dump
  | .session r => r.dump
  | .patched r => r.dump
  | .checked r => r.dump
  | .goal r => r.dump
  | .hover r => SessionHoverResponse.dump r
  | .definition r => SessionDefinitionResponse.dump r
  | .verified r => r.dump
  | .review r => r.dump
  | .created r => r.dump
  | .decided r => r.dump
  | .resumed r => r.dump

/-- Why an endpoint does not answer. -/
inductive Refusal where
  | raised (r : Raised)
  | body (e : PyError)

section

variable {σ α β : Type}

/-- A route function, among the answers of all. -/
def RouteFn.answering (fn : RouteFn σ α) (wrap : α → Answer) (s : σ) : σ × Except Refusal Answer :=
  ((fn s).1, ((fn s).2.map wrap).mapError .raised)

/-- A route with a body: one that the model refuses is refused. -/
def withBody (validate : Json → Except PyError β) (body : Json)
    (route : β → σ → σ × Except Refusal Answer) (s : σ) : σ × Except Refusal Answer :=
  match validate body with
  | .error e => (s, .error (.body e))
  | .ok payload => route payload s

/-- **An endpoint**, with its path parameter and the body. -/
def Endpoint.run (H : Handlers σ) (id : String) (body : Json) :
    Endpoint → σ → σ × Except Refusal Answer
  | .openEnvironment =>
      withBody OpenEnvironmentRequest.validate body fun p =>
        (H.openEnvironment p).answering .environment
  | .createSession =>
      withBody CreateSessionRequest.validate body fun p => (H.createSession p).answering .session
  | .applyPatch =>
      withBody ApplyPatchRequest.validate body fun p => (H.applyPatch id p).answering .patched
  | .interactiveCheck =>
      withBody InteractiveCheckRequest.validate body fun p =>
        (H.interactiveCheck id p).answering .checked
  | .goal => withBody SessionGoalRequest.validate body fun p => (H.goal id p).answering .goal
  | .hover => withBody FilePosition.validate body fun p => (H.hover id p).answering .hover
  | .definition =>
      withBody FilePosition.validate body fun p => (H.definition id p).answering .definition
  | .batchVerify =>
      withBody BatchVerifyRequest.validate body fun p => (H.batchVerify id p).answering .verified
  | .getReview => (H.getReview id).answering .review
  | .createPendingReview =>
      withBody CreatePendingReviewRequest.validate body fun p =>
        (H.createPendingReview p).answering .created
  | .approveReview => (H.approveReview id).answering .decided
  | .rejectReview => (H.rejectReview id).answering .decided
  | .resumeReview => (H.resumeReview id).answering .resumed

/-! ## §5. The service. -/

/-- A request; the id is the one it is given on arrival. -/
structure HttpRequest where
  method : Method
  path : String
  body : Json
  requestId : String

/-- What an endpoint's result becomes. -/
def replyOf (env : ServiceEnv) (requestId : String) : Except Refusal Answer → Reply
  | .ok a => ⟨200, .obj a.dump⟩
  | .error (.raised r) => (r.answer env).reply requestId
  | .error (.body e) => ⟨422, .obj [("detail", env.bodyErrors e)]⟩

/-- The path parameter of a route: no template has two. -/
def pathParameter (bound : List (List Char × List Char)) : String :=
  (bound.head?.map fun kv => String.ofList kv.2).getD ""

/-- **The service.** -/
def serve (env : ServiceEnv) (H : Handlers σ) (r : HttpRequest) (s : σ) : σ × Reply :=
  match Route.lookup routes r.method r.path with
  | .route e bound =>
      let served := e.run H (pathParameter bound) r.body s
      (served.1, replyOf env r.requestId served.2)
  -- These two are the framework's own.
  | .methodNotAllowed => (s, ⟨405, .obj [("detail", .str "Method Not Allowed")]⟩)
  | .notFound => (s, ⟨404, .obj [("detail", .str "Not Found")]⟩)

end

/-! ## §6. Which route a path reaches. -/

/-- The routes do not compete for a path. -/
theorem routes_separated : Route.Separated routes := by decide

/-- Every endpoint has its route. -/
theorem mem_routes (e : Endpoint) : e.entry ∈ routes :=
  List.mem_map_of_mem (by cases e <;> decide)

/-- An id that can stand in a path: it is not empty, and has no slash. -/
def FitsPath (id : String) : Prop := id ≠ "" ∧ '/' ∉ id.toList

/-- An id that fits a path fits the one parameter of a route. -/
theorem FitsPath.fitting {id : String} (h : FitsPath id) (name : String) :
    Route.Fitting (only name id) := by
  intro hole v hv
  unfold only at hv
  split at hv
  · obtain rfl := Option.some.inj hv
    exact ⟨fun hnil => h.1 (String.toList_injective hnil), h.2⟩
  · cases hv

/-- A template below the prefix is filled like the template. -/
theorem fill_entry (e : Endpoint) (values : Route.Values) :
    Route.fill values e.entry.text = (Route.fill values e.decorator.2).map (apiPrefix ++ ·) := by
  have hslash : ∃ cs, e.decorator.2.toList = '/' :: cs := by cases e <;> exact ⟨_, rfl⟩
  obtain ⟨cs, hcs⟩ := hslash
  exact Route.fill_append (by decide) hcs

/-- **The route of an endpoint**: a path made from its own template reaches it. -/
theorem lookup_entry (e : Endpoint) {values : Route.Values} (hv : Route.Fitting values)
    {path : String} (h : Route.fill values e.entry.text = some path) :
    Route.lookup routes e.decorator.1 path =
      .route e (Route.bindings values (Route.template e.entry.text)) :=
  Route.lookup_fill routes_separated (mem_routes e) hv h

/-- The parameter of an endpoint's path. -/
def Endpoint.parameter : Endpoint → Option String
  | .openEnvironment | .createSession | .createPendingReview => none
  | .applyPatch | .interactiveCheck | .goal | .hover | .definition | .batchVerify =>
      some "session_id"
  | .getReview | .approveReview | .rejectReview | .resumeReview => some "thread_id"

/-- The template of an endpoint has its parameter, and no other. -/
theorem fill_decorator {e : Endpoint} {name : String} (he : e.parameter = some name)
    (id : String) :
    (∃ path, Route.fill (only name id) e.decorator.2 = some path) ∧
      pathParameter (Route.bindings (only name id) (Route.template e.entry.text)) = id := by
  cases e <;> first
    | (obtain rfl := Option.some.inj he; exact ⟨⟨_, rfl⟩, String.ofList_toList⟩)
    | cases he

/-- **The route of a path with a parameter**, and the parameter that arrives. -/
theorem lookup_parameter {e : Endpoint} {name : String} (he : e.parameter = some name)
    {id : String} (hid : FitsPath id) :
    ∃ path, Route.fill (only name id) e.entry.text = some path ∧
      ∃ bound, Route.lookup routes e.decorator.1 path = .route e bound ∧
        pathParameter bound = id := by
  obtain ⟨⟨path, hpath⟩, hbound⟩ := fill_decorator he id
  have hfill : Route.fill (only name id) e.entry.text = some (apiPrefix ++ path) := by
    rw [fill_entry, hpath]
    rfl
  exact ⟨_, hfill, _, lookup_entry e (hid.fitting name) hfill, hbound⟩

/-- **The route of a path without one.** -/
theorem lookup_plain {e : Endpoint} (he : e.parameter = none) :
    Route.fill (fun _ => none) e.entry.text = some (apiPrefix ++ e.decorator.2) ∧
      ∃ bound, Route.lookup routes e.decorator.1 (apiPrefix ++ e.decorator.2) = .route e bound ∧
        pathParameter bound = "" := by
  let values : Route.Values := fun _ => none
  have hfits : Route.Fitting values := fun _ _ h => nomatch h
  have hdecorator : Route.fill values e.decorator.2 = some e.decorator.2 ∧
      pathParameter (Route.bindings values (Route.template e.entry.text)) = "" := by
    cases e <;> first
      | exact ⟨rfl, rfl⟩
      | cases he
  have hfill : Route.fill values e.entry.text = some (apiPrefix ++ e.decorator.2) := by
    rw [fill_entry, hdecorator.1]
    rfl
  exact ⟨hfill, _, lookup_entry e hfits hfill, hdecorator.2⟩

/-- The words a review's path may end in. -/
def decisionWords : List String := ["approve", "reject", "resume"]

/-- The path of a review. -/
theorem pathReview_byThread (threadId : String) :
    pathReview threadId pathReviewByThread = some (apiPrefix ++ ("/reviews/" ++ threadId)) := by
  have hfill : Route.fill (only "thread_id" threadId) pathReviewByThread =
      some (Route.path [[], "reviews".toList, threadId.toList]) := rfl
  have hpath : Route.path [[], "reviews".toList, threadId.toList] = "/reviews/" ++ threadId := by
    apply String.toList_injective
    simp [Route.path]
  rw [pathReview, hfill, hpath]
  rfl

/-- The segments of what is put below a review's path. -/
theorem path_below_review (threadId word : String) :
    apiPrefix ++ ("/reviews/" ++ threadId) ++ ("/" ++ word) =
      Route.path [[], "v1".toList, "reviews".toList, threadId.toList, word.toList] := by
  apply String.toList_injective
  simp [Route.path, apiPrefix]

/-- The path of a resume. -/
theorem pathReview_resume (threadId : String) :
    pathReview threadId pathReviewResume =
      some (apiPrefix ++ ("/reviews/" ++ threadId) ++ ("/" ++ "resume")) := by
  have hfill : Route.fill (only "thread_id" threadId) pathReviewResume =
      some (Route.path [[], "reviews".toList, threadId.toList, "resume".toList]) := rfl
  rw [pathReview, hfill, path_below_review, Option.map_some, Option.some.injEq]
  apply String.toList_injective
  simp [Route.path, apiPrefix]

/-- **Any other word** below a review's path is not found. -/
theorem lookup_decision {threadId word : String} (ht : FitsPath threadId) (hw : FitsPath word)
    (hword : word ∉ decisionWords) :
    Route.lookup routes .post (apiPrefix ++ ("/reviews/" ++ threadId) ++ ("/" ++ word)) =
      .notFound := by
  simp only [decisionWords, List.mem_cons, List.not_mem_nil, or_false, not_or] at hword
  obtain ⟨happrove, hreject, hresume⟩ := hword
  let t : List Route.Segment :=
    [.lit [], .lit "v1".toList, .lit "reviews".toList, .hole "thread_id".toList, .lit word.toList]
  have hlit : ∀ text, .lit text ∈ t → '/' ∉ text := by
    intro text htext
    simp only [t, List.mem_cons, Route.Segment.lit.injEq, List.not_mem_nil, or_false,
      reduceCtorEq, false_or] at htext
    rcases htext with rfl | rfl | rfl | rfl
    · decide
    · decide
    · decide
    · exact hw.2
  have hapart : ∀ e ∈ routes, Route.apart t (Route.template e.text) = true := by
    intro r hr
    obtain ⟨e, -, rfl⟩ := List.mem_map.mp hr
    have hother : ∀ other : String, ¬ word = other →
        Route.apart t [.lit [], .lit "v1".toList, .lit "reviews".toList,
          .hole "thread_id".toList, .lit other.toList] = true := by
      intro other h
      have hne : word.toList ≠ other.toList := fun heq => h (String.toList_injective heq)
      simp [t, Route.apart, Route.Segment.differs, hne]
    cases e with
    | approveReview => exact hother "approve" happrove
    | rejectReview => exact hother "reject" hreject
    | resumeReview => exact hother "resume" hresume
    | _ => rfl
  have hfill : Route.fillSegments (only "thread_id" threadId) t =
      some [[], "v1".toList, "reviews".toList, threadId.toList, word.toList] := rfl
  rw [path_below_review]
  exact Route.lookup_notFound (ht.fitting "thread_id") hlit (by simp [t]) hfill hapart .post

end Gateway

end ObligationRuntime
