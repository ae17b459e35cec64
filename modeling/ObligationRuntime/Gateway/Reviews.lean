/-
  ObligationRuntime.Gateway.Reviews — the review routes: routes_reviews.py, over
  either backend of the store.

  A call answers, and may change the store; only `resume` calls out, to the
  orchestrator.  `ReviewCall.step` is a call's effect on the store and
  `ReviewCall.answer` what it returned.  What follows about sequences of calls is
  derived from `get_step`: what ONE call does to the record of a thread.

  Webhook notifications are left out: they are sent after the answer, and nothing
  reads what becomes of them.

  Main results:
    * `get_step` — the record of a thread after a call,
    * `answer_decide`, `posts_recorded` — what a decision is answered, and what a
      resume sends,
    * `get_run` — the record of a thread after calls that do not create it anew.
-/
import ObligationRuntime.Gateway.ReviewStore
import ObligationRuntime.Lib.Flow
import ObligationRuntime.Lib.Text
import ObligationRuntime.Lib.Transition
import ObligationRuntime.Schemas.Review

namespace ObligationRuntime

open Py Flow

namespace Gateway

/-! ## §1. What the routes depend on. -/

/-- An answer of the orchestrator: `json` is its body, when that is JSON. -/
structure HttpResponse where
  statusCode : Nat
  json : Option Json
  text : String := ""

/-- `client.post(url, json={"decision": ..})`, for a thread. -/
structure ResumePost where
  threadId : String
  decision : Approval
  deriving DecidableEq, Repr

/-- The path of the post. -/
def ResumePost.path (p : ResumePost) : String := "/v1/reviews/" ++ p.threadId ++ "/resume"

/-- What the routes depend on besides the store. -/
structure ReviewEnv where
  now : Timestamp
  obrOrchestratorUrl : Option String
  post : String → ResumePost → Except PyError HttpResponse

/-! ## §2. Requests and responses. -/

/-- `CreatePendingReviewRequest`: any further keys are kept. -/
structure CreatePendingReviewRequest where
  threadId : String
  extra : Dict

namespace CreatePendingReviewRequest

/-- `model_validate`. -/
def validate (v : Json) : Except PyError CreatePendingReviewRequest := do
  let d ← asDict v
  let threadId ← req Codec.str d "thread_id"
  return { threadId, extra := d.filter fun kv => decide (kv.1 ≠ "thread_id") }

/-- `model_dump(mode="json")`: the declared field first, then the others. -/
def dump (r : CreatePendingReviewRequest) : Dict := ("thread_id", .str r.threadId) :: r.extra

end CreatePendingReviewRequest

/-- `ReviewResumeProxyResponse`. -/
structure ReviewResumeProxyResponse where
  ok : Bool := true
  threadId : String
  status : Json := .null
  artifactsCount : Int := 0
  deriving DecidableEq

/-- `ReviewResumeProxyResponse.model_validate`. -/
def ReviewResumeProxyResponse.validate (v : Json) : Except PyError ReviewResumeProxyResponse := do
  let d ← asDict v
  forbidExtra ["ok", "thread_id", "status", "artifacts_count"] d
  let ok ← opt Codec.bool d "ok" true
  let threadId ← req Codec.str d "thread_id"
  let status ← opt Codec.any d "status" .null
  let artifactsCount ← opt Codec.int d "artifacts_count" 0
  return { ok, threadId, status, artifactsCount }

/-- What a route answers with. -/
inductive ReviewAnswer where
  | payload (p : ReviewPayload)
  | created (threadId : String)
  | decided (threadId : String) (decision : Approval)
  | resumed (r : ReviewResumeProxyResponse)
  deriving DecidableEq

/-! ## §3. The routes. -/

section Routes

variable (env : ReviewEnv) (S : ReviewStoreProtocol)

/-- `get_review`. -/
def getReview (s : S.State) (threadId : String) : Except PyError ReviewPayload :=
  match S.getPayload s threadId with
  | none => .error (.apiError 404 "review_not_found")
  | some raw => ReviewPayload.validate env.now (.obj raw)

/-- `create_pending_review`: the store, and the answer. -/
def createPendingReview (s : S.State) (body : Json) : S.State × Except PyError String :=
  match CreatePendingReviewRequest.validate body with
  | .error e => (s, .error e)
  | .ok payload => (S.put s payload.threadId payload.dump, .ok payload.threadId)

/-- `approve_review` and `reject_review`. -/
def decideReview (s : S.State) (threadId : String) (decision : Approval) :
    S.State × Except PyError ReviewAnswer :=
  match S.setDecision s threadId decision with
  | (s', true) => (s', .ok (.decided threadId decision))
  | (s', false) => (s', .error (.apiError 400 "bad_request"))

/-- `approve_review`. -/
def approveReview (s : S.State) (threadId : String) := decideReview S s threadId .approved

/-- `reject_review`. -/
def rejectReview (s : S.State) (threadId : String) := decideReview S s threadId .rejected

/-- `(os.environ.get("OBR_ORCHESTRATOR_URL") or "").rstrip("/")`. -/
def orchestratorUrl : String :=
  String.ofList ((env.obrOrchestratorUrl.getD "").toList.rdropWhile fun c => c = '/')

/-- The code of the error a failed post is passed on with. -/
def detailCode (r : HttpResponse) : String :=
  let body := r.json.getD (.obj [("message", .str r.text)])
  let detail := match body with
    | .obj d => Dict.getD d "detail" (.obj d)
    | _ => .obj [("message", .str r.text)]
  match detail with
  | .obj d =>
      match Dict.getD d "code" (.str "bad_request") with
      | .str code => code
      | _ => "bad_request"
  | _ => "bad_request"

/-- What `resume_review` makes of the orchestrator's answer. -/
def proxied (r : HttpResponse) : Except PyError ReviewResumeProxyResponse :=
  if r.statusCode ≠ 200 then .error (.apiError r.statusCode (detailCode r))
  else
    match r.json with
    | none => .error (.valueError "response body")
    | some (.obj d) => ReviewResumeProxyResponse.validate (.obj d)
    | some _ => .error (.apiError 503 "service_unavailable")

/-- `resume_review`: the stored decision is posted to the orchestrator. -/
def resumeReview (s : S.State) (threadId : String) :
    Eff ResumePost PyError ReviewResumeProxyResponse :=
  match S.get s threadId with
  | none => Eff.lift (.error (.apiError 404 "review_not_found"))
  | some rec =>
      match rec.decision with
      | none => Eff.lift (.error (.apiError 400 "bad_request"))
      | some decision =>
          if orchestratorUrl env = "" then Eff.lift (.error (.apiError 503 "service_unavailable"))
          else
            match env.post (orchestratorUrl env) ⟨threadId, decision⟩ with
            -- Whatever goes wrong with the request is a 503.
            | .error _ => ⟨[⟨threadId, decision⟩], .error (.apiError 503 "service_unavailable")⟩
            | .ok response => ⟨[⟨threadId, decision⟩], proxied response⟩

end Routes

/-! ## §4. Calls. -/

/-- A call of the review API. -/
inductive ReviewCall where
  | get (threadId : String)
  | create (body : Json)
  | approve (threadId : String)
  | reject (threadId : String)
  | resume (threadId : String)

namespace ReviewCall

/-- The store after the call. -/
def step (S : ReviewStoreProtocol) (s : S.State) : ReviewCall → S.State
  | .get _ => s
  | .create body => (createPendingReview S s body).1
  | .approve t => (approveReview S s t).1
  | .reject t => (rejectReview S s t).1
  | .resume _ => s

/-- What the call answers. -/
def answer (env : ReviewEnv) (S : ReviewStoreProtocol) (s : S.State) :
    ReviewCall → Except PyError ReviewAnswer
  | .get t => (getReview env S s t).map .payload
  | .create body => (createPendingReview S s body).2.map .created
  | .approve t => (approveReview S s t).2
  | .reject t => (rejectReview S s t).2
  | .resume t => (resumeReview env S s t).result.map .resumed

/-- What the call posts to the orchestrator. -/
def posts (env : ReviewEnv) (S : ReviewStoreProtocol) (s : S.State) :
    ReviewCall → List ResumePost
  | .resume t => (resumeReview env S s t).calls
  | _ => []

/-- The call is a decision on the thread. -/
def decides (t : String) : ReviewCall → Option Approval
  | .approve u => if u = t then some .approved else none
  | .reject u => if u = t then some .rejected else none
  | _ => none

/-- The call creates a pending review of the thread, with this payload. -/
def creates (t : String) : ReviewCall → Option Dict
  | .create body =>
      match CreatePendingReviewRequest.validate body with
      | .error _ => none
      | .ok payload => if payload.threadId = t then some payload.dump else none
  | _ => none

/-- The thread of the review the call creates. -/
def createdThread : ReviewCall → Option String
  | .create body =>
      match CreatePendingReviewRequest.validate body with
      | .error _ => none
      | .ok payload => some payload.threadId
  | _ => none

/-- A call creates a review of one thread. -/
theorem creates_isSome {call : ReviewCall} {t : String} :
    (call.creates t).isSome ↔ call.createdThread = some t := by
  cases call with
  | create body =>
      simp only [creates, createdThread]
      cases CreatePendingReviewRequest.validate body with
      | error e => simp
      | ok payload =>
          by_cases h : payload.threadId = t
          · simp [h]
          · simp [h]
  | get u => simp [creates, createdThread]
  | approve u => simp [creates, createdThread]
  | reject u => simp [creates, createdThread]
  | resume u => simp [creates, createdThread]

end ReviewCall

section

variable {env : ReviewEnv} {S : ReviewStoreProtocol} {s : S.State}

/-- What a decision leaves in the store. -/
theorem decideReview_step (t u : String) (d : Approval) :
    S.get (decideReview S s t d).1 u =
      if u = t then (S.get s t).map (·.decide d) else S.get s u := by
  rw [← S.get_setDecision s t d u]
  unfold decideReview
  split <;> simp_all

/-- **The record of a thread after a call**: created anew, decided, or as it was. -/
theorem get_step (call : ReviewCall) (t : String) :
    S.get (call.step S s) t =
      match call.creates t, call.decides t with
      | some payload, _ => some ⟨payload, none⟩
      | none, some d => (S.get s t).map (·.decide d)
      | none, none => S.get s t := by
  cases call with
  | get u => rfl
  | resume u => rfl
  | create body =>
      simp only [ReviewCall.step, createPendingReview, ReviewCall.creates, ReviewCall.decides]
      cases CreatePendingReviewRequest.validate body with
      | error e => rfl
      | ok payload =>
          simp only [S.get_put]
          -- A record of another thread is not touched.
          by_cases h : t = payload.threadId
          · simp [h]
          · have h' : ¬ payload.threadId = t := fun e => h e.symm
            simp [h, h']
  | approve u =>
      simp only [ReviewCall.step, approveReview, decideReview_step, ReviewCall.creates,
        ReviewCall.decides]
      by_cases h : t = u
      · simp [h]
      · have h' : ¬ u = t := fun e => h e.symm
        simp [h, h']
  | reject u =>
      simp only [ReviewCall.step, rejectReview, decideReview_step, ReviewCall.creates,
        ReviewCall.decides]
      by_cases h : t = u
      · simp [h]
      · have h' : ¬ u = t := fun e => h e.symm
        simp [h, h']

/-- It is answered where the thread is known. -/
theorem decideReview_answer (t : String) (d : Approval) :
    (decideReview S s t d).2 =
      if (S.get s t).isSome then .ok (.decided t d) else .error (.apiError 400 "bad_request") := by
  rw [← S.setDecision_found s t d]
  unfold decideReview
  split
  next s' h => simp [h]
  next s' h => simp [h]

/-- **What a decision is answered**: whether there is a record, whatever is in it. -/
theorem answer_decide {call : ReviewCall} {t : String} {d : Approval}
    (h : call.decides t = some d) :
    call.answer env S s =
      if (S.get s t).isSome then .ok (.decided t d) else .error (.apiError 400 "bad_request") := by
  cases call with
  | get u => cases h
  | create body => cases h
  | resume u => cases h
  | approve u =>
      simp only [ReviewCall.decides] at h
      split at h
      next hu =>
        cases h
        subst hu
        exact decideReview_answer u .approved
      next => cases h
  | reject u =>
      simp only [ReviewCall.decides] at h
      split at h
      next hu =>
        cases h
        subst hu
        exact decideReview_answer u .rejected
      next => cases h

/-- A pushed payload is kept as it is, under its thread. -/
theorem creates_dump (p : ReviewPayload) (t : String) :
    (ReviewCall.create (.obj p.dump)).creates t =
      if p.threadId = t then some p.dump else none := by
  have hread : CreatePendingReviewRequest.validate (.obj p.dump) =
      .ok ⟨p.threadId, p.dump.tail⟩ := by
    simp [CreatePendingReviewRequest.validate, ReviewPayload.dump, req]
  simp only [ReviewCall.creates, hread]
  rfl

/-- **What a call posts**: the decision on record. -/
theorem posts_recorded {call : ReviewCall} {p : ResumePost} (h : p ∈ call.posts env S s) :
    call = .resume p.threadId ∧
      (S.get s p.threadId).bind ReviewRecord.decision = some p.decision := by
  cases call with
  | resume t =>
      simp only [ReviewCall.posts, resumeReview] at h
      split at h
      · cases h
      next rec hrec =>
        split at h
        · cases h
        next d hd =>
          split at h
          · cases h
          · have hp : p = ⟨t, d⟩ := by
              split at h <;> exact List.mem_singleton.mp h
            subst hp
            exact ⟨rfl, by rw [hrec]; exact hd⟩
  | get t => cases h
  | create body => cases h
  | approve t => cases h
  | reject t => cases h

end

/-! ## §5. Sequences of calls. -/

/-- None of the calls creates a review of the thread. -/
def NoCreate (t : String) (calls : List ReviewCall) : Prop := ∀ call ∈ calls, call.creates t = none

/-- The last decision on the thread among the calls. -/
def latestDecision (t : String) : List ReviewCall → Option Approval
  | [] => none
  | call :: calls => (latestDecision t calls).or (call.decides t)

/-- **The record of a thread after calls** that do not create it anew: its payload,
and the last decision. -/
theorem get_run {S : ReviewStoreProtocol} {s : S.State} {t : String} {calls : List ReviewCall}
    {r : ReviewRecord} (hcreate : NoCreate t calls) (hr : S.get s t = some r) :
    S.get (Transition.run (ReviewCall.step S) s calls) t =
      some { r with decision := (latestDecision t calls).or r.decision } := by
  induction calls generalizing s r with
  | nil => exact hr
  | cons call calls ih =>
      have hnone : call.creates t = none := hcreate call (List.mem_cons_self ..)
      have hrest : NoCreate t calls := fun c hc => hcreate c (List.mem_cons_of_mem _ hc)
      have hstep := get_step call t (S := S) (s := s)
      rw [hnone, hr] at hstep
      rw [Transition.run_cons]
      cases hd : call.decides t with
      | none =>
          rw [hd] at hstep
          rw [ih hrest hstep]
          simp [latestDecision, hd]
      | some d =>
          rw [hd] at hstep
          rw [ih hrest hstep]
          simp [latestDecision, hd, ReviewRecord.decide]

/-! ## §6. Over HTTP. -/

/-- The thread of `GET /v1/reviews/{thread_id}`: a path parameter is one segment, and
not empty. -/
def reviewRoute (path : String) : Option String :=
  match path.toList.dropPrefix? "/v1/reviews/".toList with
  | some segment => if segment = [] ∨ '/' ∈ segment then none else some (String.ofList segment)
  | none => none

/-- What the gateway answers to a `GET`. -/
def serveGet (env : ReviewEnv) (S : ReviewStoreProtocol) (s : S.State) (path : String) :
    Except PyError Json :=
  match reviewRoute path with
  -- No other route of the gateway serves a payload.
  | none => .error (.apiError 404 "unknown")
  | some threadId => (getReview env S s threadId).map fun p => .obj p.dump

end Gateway

end ObligationRuntime
