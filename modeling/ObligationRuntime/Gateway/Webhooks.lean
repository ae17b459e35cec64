/-
  ObligationRuntime.Gateway.Webhooks — what the review routes tell a webhook: webhooks.py.

  A call that is answered adds one notification to the background tasks; a call that is
  refused adds none, since its tasks go with its response.  An event is posted up to three
  times, with pauses in between, until an answer below 400 comes; after that it is given up
  with a warning.

  A receiver reads the events from the bodies, and drops those that it has already, by
  event, thread and timestamp.

  Main results:
    * `emitEvent_posts`, `emitEvent_warned` — which attempts are made, and when an event is
      given up,
    * `readEvent_body` — a receiver reads back the event that was posted.
-/
import ObligationRuntime.Gateway.Reviews
import ObligationRuntime.Lib.JsonText
import ObligationRuntime.Lib.Redelivery

namespace ObligationRuntime

open Py

namespace Gateway

/-! ## §1. Events. -/

/-- What the routes notify. -/
inductive WebhookEvent where
  | created (threadId : String) (payload : Dict)
  | decision (threadId : String) (decision : Approval)
  | resumed (threadId : String) (status artifactsCount : Json)

namespace WebhookEvent

/-- `event_type`. -/
def name : WebhookEvent → String
  | .created _ _ => "review.created"
  | .decision _ _ => "review.decision"
  | .resumed _ _ _ => "review.resumed"

/-- `thread_id`. -/
def threadId : WebhookEvent → String
  | .created t _ => t
  | .decision t _ => t
  | .resumed t _ _ => t

/-- `payload`, of `_emit_event`. -/
def payload : WebhookEvent → Dict
  | .created _ payload => [("payload", .obj payload)]
  | .decision _ d => [("decision", .str d.text)]
  | .resumed _ status artifactsCount =>
      [("status", status), ("artifacts_count", artifactsCount)]

/-- `body`: no key of a payload is one of the first three. -/
def body (timestamp : String) (e : WebhookEvent) : Dict :=
  [("event", .str e.name), ("thread_id", .str e.threadId), ("timestamp", .str timestamp)] ++
    e.payload

/-- The payload is JSON without floats, and its keys are unique. -/
def Sendable (e : WebhookEvent) : Prop :=
  Json.UniqueKeys (.obj e.payload) ∧ Json.all Json.integral (.obj e.payload) = true

instance (e : WebhookEvent) : Decidable e.Sendable := inferInstanceAs (Decidable (_ ∧ _))

end WebhookEvent

/-! ## §2. What a call notifies. -/

section

variable (env : ReviewEnv) (S : ReviewStoreProtocol)

/-- What a resume notifies, on the orchestrator's answer. -/
def resumedEvents (threadId : String) (r : HttpResponse) : List WebhookEvent :=
  match proxied r, r.json with
  -- An answer that is not valid is an error after the task was added: the task goes with it.
  | .ok _, some (.obj d) =>
      [.resumed threadId (Dict.getD d "status" (.str "")) (Dict.getD d "artifacts_count" (.int 0))]
  | _, _ => []

/-- The background tasks of a call. -/
def ReviewCall.notifies (s : S.State) : ReviewCall → List WebhookEvent
  | .get _ => []
  | .create body =>
      match CreatePendingReviewRequest.validate body with
      | .error _ => []
      | .ok payload => [.created payload.threadId payload.dump]
  | .approve t => if (approveReview S s t).2.isOk then [.decision t .approved] else []
  | .reject t => if (rejectReview S s t).2.isOk then [.decision t .rejected] else []
  | .resume t =>
      match S.get s t with
      | none => []
      | some rec =>
          match rec.decision with
          | none => []
          | some decision =>
              if orchestratorUrl env = "" then []
              else
                match env.post (orchestratorUrl env) ⟨t, decision⟩ with
                | .error _ => []
                | .ok response => resumedEvents t response

end

/-! ## §3. Posting an event. -/

/-- What `_emit_event` reads from outside; `hmac` is HMAC-SHA256 of a secret and a body, in
hexadecimal. -/
structure WebhookEnv where
  url : Option String
  secret : Option String
  hmac : String → String → String

/-- `_webhook_url`. -/
def WebhookEnv.webhookUrl (w : WebhookEnv) : Option String :=
  (some (strip (w.url.getD ""))).filter (· ≠ "")

/-- `_webhook_secret`. -/
def WebhookEnv.webhookSecret (w : WebhookEnv) : Option String :=
  (some (strip (w.secret.getD ""))).filter (· ≠ "")

/-- A post. -/
structure WebhookPost where
  url : String
  body : String
  headers : List (String × String)
  deriving DecidableEq, Repr

/-- What comes back from a post, and whether the receiver took it. -/
structure Answered where
  statusCode : Option Nat
  taken : Bool
  deriving DecidableEq, Repr

/-- `resp.status_code < 400`; an exception has no status code. -/
def Answered.accepted (a : Answered) : Bool := a.statusCode.any (· < 400)

/-- The attempt, as the receiver and the sender see it. -/
def Answered.trial (a : Answered) : Redelivery.Trial := ⟨a.taken, a.accepted⟩

/-- `_WEBHOOK_RETRIES`. -/
def webhookRetries : Nat := 2

/-- `_WEBHOOK_BACKOFF`, in seconds. -/
def webhookBackoff : List Nat := [1, 2]

/-- What becomes of an event: its posts with what came back, the pauses, and the warning. -/
structure Emission where
  posts : List (WebhookPost × Answered) := []
  slept : List Nat := []
  warned : Bool := false

/-- The loop of `_emit_event`: `fuel` attempts are left. -/
def attempts (post : WebhookPost) (endpoint : Nat → Answered) : Nat → Nat → Emission
  | 0, _ => { warned := true }
  | fuel + 1, attempt =>
      let answered := endpoint attempt
      if answered.accepted then { posts := [(post, answered)] }
      else
        let rest := attempts post endpoint fuel (attempt + 1)
        { posts := (post, answered) :: rest.posts
          slept := (if attempt < webhookRetries then webhookBackoff[attempt]?.toList else []) ++
            rest.slept
          warned := rest.warned }

section

variable (F : JsonText.FloatText)

/-- The post of an event. -/
def WebhookEnv.post (w : WebhookEnv) (url timestamp : String) (e : WebhookEvent) : WebhookPost :=
  let bodyBytes := JsonText.dumps F JsonText.compact (.obj (e.body timestamp))
  { url
    body := bodyBytes
    headers := ("Content-Type", "application/json") ::
      match w.webhookSecret with
      | some secret => [("X-Webhook-Signature", "sha256=" ++ w.hmac secret bodyBytes)]
      | none => [] }

/-- `_emit_event`. -/
def emitEvent (w : WebhookEnv) (timestamp : String) (e : WebhookEvent)
    (endpoint : Nat → Answered) : Emission :=
  match w.webhookUrl with
  | none => {}
  | some url => attempts (w.post F url timestamp e) endpoint (webhookRetries + 1) 0

end

/-- What would come back from all three attempts. -/
def attemptAnswers (endpoint : Nat → Answered) : List Answered :=
  (List.range (webhookRetries + 1)).map endpoint

/-- The attempts of an endpoint. -/
def trials (endpoint : Nat → Answered) : List Redelivery.Trial :=
  (attemptAnswers endpoint).map Answered.trial

section

variable {F : JsonText.FloatText} {w : WebhookEnv} {url timestamp : String} {e : WebhookEvent}
  {endpoint : Nat → Answered}

/-- **The loop**, from any attempt on. -/
theorem attempts_eq (post : WebhookPost) (endpoint : Nat → Answered) (fuel attempt : Nat) :
    let later := (List.range' attempt fuel).map fun i => (endpoint i).trial
    (attempts post endpoint fuel attempt).posts.map (fun p => (p.1, p.2.trial)) =
        (Redelivery.tries later).map (Prod.mk post) ∧
      (attempts post endpoint fuel attempt).warned =
        !later.any Redelivery.Trial.acknowledged := by
  induction fuel generalizing attempt with
  | zero => exact ⟨rfl, rfl⟩
  | succ fuel ih =>
      obtain ⟨hposts, hwarned⟩ := ih (attempt + 1)
      have hack : (endpoint attempt).trial.acknowledged = (endpoint attempt).accepted := rfl
      rw [List.range'_succ]
      simp only [attempts, List.map_cons, Redelivery.tries, List.any_cons, hack]
      by_cases h : (endpoint attempt).accepted = true
      · simp [h]
      · rw [Bool.not_eq_true] at h
        simp only [h, Bool.false_eq_true, if_false, Bool.false_or, List.map_cons]
        exact ⟨by rw [hposts], hwarned⟩

/-- The trials of a delivery, numbered. -/
theorem trials_eq (endpoint : Nat → Answered) :
    trials endpoint = (List.range' 0 (webhookRetries + 1)).map fun i => (endpoint i).trial := by
  simp [trials, attemptAnswers, List.range_eq_range', Function.comp_def]

/-- **Which attempts are made**: the same post each time, up to the first answer below 400. -/
theorem emitEvent_posts (h : w.webhookUrl = some url) (timestamp : String) (e : WebhookEvent)
    (endpoint : Nat → Answered) :
    (emitEvent F w timestamp e endpoint).posts.map (fun p => (p.1, p.2.trial)) =
      (Redelivery.tries (trials endpoint)).map (Prod.mk (w.post F url timestamp e)) := by
  rw [emitEvent, h, trials_eq]
  exact (attempts_eq _ endpoint _ 0).1

/-- **When an event is given up**: no attempt would be answered below 400. -/
theorem emitEvent_warned (h : w.webhookUrl = some url) :
    (emitEvent F w timestamp e endpoint).warned =
      !(trials endpoint).any Redelivery.Trial.acknowledged := by
  rw [emitEvent, h, trials_eq]
  exact (attempts_eq _ endpoint _ 0).2

end

/-! ## §4. Receivers. -/

/-- A text member. -/
def textMember (d : Dict) (key : String) : Option String :=
  match d.get? key with
  | some (.str s) => some s
  | _ => none

/-- The decision of a text. -/
def approvalOf (text : String) : Option Approval :=
  if text = "approved" then some .approved else if text = "rejected" then some .rejected else none

/-- The event of a body. -/
def readEvent (d : Dict) : Option WebhookEvent := do
  let name ← textMember d "event"
  let threadId ← textMember d "thread_id"
  if name = "review.created" then
    match d.get? "payload" with
    | some (.obj payload) => some (.created threadId payload)
    | _ => none
  else if name = "review.decision" then do
    let text ← textMember d "decision"
    return .decision threadId (← approvalOf text)
  else if name = "review.resumed" then
    return .resumed threadId (← d.get? "status") (← d.get? "artifacts_count")
  else none

/-- Event, thread and timestamp of a body. -/
def bodyKey (d : Dict) : Option String × Option String × Option String :=
  (textMember d "event", textMember d "thread_id", textMember d "timestamp")

/-- The body of a post, read. -/
def WebhookPost.read (F : JsonText.FloatText) (p : WebhookPost) : Dict :=
  match JsonText.loads F p.body with
  | .ok (.obj d) => d
  | _ => []

/-- The key by which a receiver knows a post. -/
def WebhookPost.key (F : JsonText.FloatText) (p : WebhookPost) :
    Option String × Option String × Option String :=
  bodyKey (p.read F)

section

variable {F : JsonText.FloatText} {w : WebhookEnv} {url timestamp : String} {e : WebhookEvent}

/-- **An event is read back** from its body. -/
theorem readEvent_body (timestamp : String) (e : WebhookEvent) :
    readEvent (e.body timestamp) = some e := by
  cases e with
  | created t payload => rfl
  | decision t d => cases d <;> rfl
  | resumed t status artifactsCount => rfl

/-- The key of an event is read from its body. -/
theorem bodyKey_body (timestamp : String) (e : WebhookEvent) :
    bodyKey (e.body timestamp) = (some e.name, some e.threadId, some timestamp) := by
  cases e <;> rfl

/-- A body is JSON without floats, and its keys are unique, where its payload is such. -/
theorem sendable_body (timestamp : String) (h : e.Sendable) :
    Json.UniqueKeys (.obj (e.body timestamp)) ∧
      Json.all Json.integral (.obj (e.body timestamp)) = true := by
  obtain ⟨hkeys, hint⟩ := h
  refine ⟨Json.uniqueKeys_obj.mpr ⟨?_, (Json.uniqueKeys_obj.mp hkeys).2⟩, hint⟩
  cases e with
  | created t payload =>
      show ["event", "thread_id", "timestamp", "payload"].Nodup
      decide
  | decision t d =>
      show ["event", "thread_id", "timestamp", "decision"].Nodup
      decide
  | resumed t status artifactsCount =>
      show ["event", "thread_id", "timestamp", "status", "artifacts_count"].Nodup
      decide

/-- **A receiver reads** the body that was posted. -/
theorem read_post (h : e.Sendable) : (w.post F url timestamp e).read F = e.body timestamp := by
  obtain ⟨hkeys, hint⟩ := sendable_body timestamp h
  have hloads : JsonText.loads F (JsonText.dumps F JsonText.compact (.obj (e.body timestamp))) =
      .ok (.obj (e.body timestamp)) := JsonText.loads_dumps hkeys hint
  unfold WebhookPost.read
  rw [WebhookEnv.post]
  simp only [hloads]

end

end Gateway

end ObligationRuntime
