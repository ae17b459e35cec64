/-
  ObligationRuntime.Guarantees.WebhookLog — the webhook as a log of the review store.

  Every call that changes the store notifies an event, so that the events of a run, replayed,
  give the store.  A decision is notified of a review that was created, and a resume of a
  review that was decided since it was created.

  Posts may be lost, and posts that the receiver took may be sent again.  A receiver that
  drops what it has already keeps each event once, in order; an event that it never got was
  given up with a warning.

  Main results:
    * `webhook_log_rebuilds_store` — the events of a run rebuild the store,
    * `webhook_receiver_rebuilds_store` — so does what a receiver keeps, where no event was
      given up.
-/
import ObligationRuntime.Gateway.Webhooks

namespace ObligationRuntime

open Py Transition Redelivery

namespace Gateway

/-! ## §1. The log. -/

/-- The records of the threads. -/
abbrev ReviewView := String → Option ReviewRecord

/-- The records after an event. -/
def replay (v : ReviewView) : WebhookEvent → ReviewView
  | .created t payload => Function.update v t (some ⟨payload, none⟩)
  | .decision t d => Function.update v t ((v t).map (·.decide d))
  | .resumed _ _ _ => v

/-- When an event may come: a decision on a review, a resume of a decided one. -/
def Legal (v : ReviewView) : WebhookEvent → Prop
  | .created _ _ => True
  | .decision t _ => (v t).isSome
  | .resumed t _ _ => ((v t).bind ReviewRecord.decision).isSome

/-- The call only reads a review. -/
def ReviewCall.reads : ReviewCall → Bool
  | .get _ => true
  | _ => false

section

variable (S : ReviewStoreProtocol)

/-- The notifications of a run; each call has the world it is made in. -/
def notifications (s : S.State) : List (ReviewEnv × ReviewCall) → List WebhookEvent
  | [] => []
  | c :: calls => c.2.notifies c.1 S s ++ notifications (c.2.step S s) calls

/-- The store after the calls. -/
def storeAfter (s : S.State) (calls : List (ReviewEnv × ReviewCall)) : S.State :=
  run (fun s c => c.2.step S s) s calls

end

section

variable {S : ReviewStoreProtocol} {s : S.State} {env : ReviewEnv}

/-- What one call notifies: its effect on the store, and nothing that may not come. -/
structure Tells (env : ReviewEnv) (S : ReviewStoreProtocol) (s : S.State) (call : ReviewCall)
    (es : List WebhookEvent) : Prop where
  replays : S.get (call.step S s) = run replay (S.get s) es
  legal : Meets replay Legal (S.get s) es
  count : es.length = if (call.answer env S s).isOk && !call.reads then 1 else 0

/-- A call that does not change the store. -/
theorem Tells.quiet {call : ReviewCall} (hstep : S.get (call.step S s) = S.get s)
    (hcount : ((call.answer env S s).isOk && !call.reads) = false) : Tells env S s call [] :=
  ⟨hstep, trivial, by simp [hcount]⟩

theorem tells_create (body : Json) :
    Tells env S s (.create body) ((ReviewCall.create body).notifies env S s) := by
  cases hbody : CreatePendingReviewRequest.validate body with
  | error e =>
      rw [ReviewCall.notifies, hbody]
      refine .quiet ?_ ?_
      · rw [ReviewCall.step, createPendingReview, hbody]
      · simp [ReviewCall.answer, createPendingReview, hbody, Except.map, Except.isOk,
          Except.toBool]
  | ok payload =>
      rw [ReviewCall.notifies, hbody]
      refine ⟨?_, ⟨trivial, trivial⟩, ?_⟩
      · rw [ReviewCall.step, createPendingReview, hbody]
        funext u
        show S.get (S.put s payload.threadId payload.dump) u =
          Function.update (S.get s) payload.threadId (some ⟨payload.dump, none⟩) u
        rw [S.get_put, Function.update_apply]
      · simp [ReviewCall.answer, createPendingReview, hbody, Except.map, Except.isOk,
          Except.toBool, ReviewCall.reads]

/-- A decision, recorded or refused. -/
theorem tells_decide {call : ReviewCall} {t : String} {d : Approval}
    (hstep : call.step S s = (decideReview S s t d).1)
    (hanswer : call.answer env S s = (decideReview S s t d).2) (hreads : call.reads = false) :
    Tells env S s call (if (decideReview S s t d).2.isOk then [.decision t d] else []) := by
  have hget : S.get (call.step S s) =
      Function.update (S.get s) t ((S.get s t).map (·.decide d)) := by
    funext u
    rw [hstep, decideReview_step, Function.update_apply]
  have hok : (decideReview S s t d).2.isOk = (S.get s t).isSome := by
    rw [decideReview_answer]
    cases S.get s t <;> rfl
  cases hrec : S.get s t with
  | none =>
      have hfalse : (decideReview S s t d).2.isOk = false := by rw [hok, hrec]; rfl
      rw [hfalse]
      refine .quiet ?_ (by rw [hanswer, hfalse]; rfl)
      rw [hget, hrec, Option.map_none, ← hrec, Function.update_eq_self]
  | some r =>
      have htrue : (decideReview S s t d).2.isOk = true := by rw [hok, hrec]; rfl
      rw [htrue, if_pos rfl]
      refine ⟨hget, ⟨?_, trivial⟩, by rw [hanswer, htrue, hreads]; rfl⟩
      show (S.get s t).isSome = true
      rw [hrec]
      rfl

/-- What a resume notifies, and whether it is answered. -/
theorem tells_resume (t : String) :
    Tells env S s (.resume t) ((ReviewCall.resume t).notifies env S s) := by
  have hanswer : (ReviewCall.answer env S s (.resume t)).isOk =
      (resumeReview env S s t).result.isOk := by
    show ((resumeReview env S s t).result.map ReviewAnswer.resumed).isOk = _
    cases (resumeReview env S s t).result <;> rfl
  have hrefused (e : PyError) (he : (resumeReview env S s t).result = .error e) :
      Tells env S s (.resume t) [] := .quiet rfl (by rw [hanswer, he]; rfl)
  cases hrec : S.get s t with
  | none =>
      simp only [ReviewCall.notifies, hrec]
      exact hrefused (.apiError 404 "review_not_found")
        (by simp [resumeReview, hrec, Flow.Eff.lift])
  | some r =>
      cases hd : r.decision with
      | none =>
          simp only [ReviewCall.notifies, hrec, hd]
          exact hrefused (.apiError 400 "bad_request")
            (by simp [resumeReview, hrec, hd, Flow.Eff.lift])
      | some d =>
          by_cases hurl : orchestratorUrl env = ""
          · simp only [ReviewCall.notifies, hrec, hd, hurl, if_true]
            exact hrefused (.apiError 503 "service_unavailable")
              (by simp [resumeReview, hrec, hd, hurl, Flow.Eff.lift])
          · cases hpost : env.post (orchestratorUrl env) ⟨t, d⟩ with
            | error e =>
                simp only [ReviewCall.notifies, hrec, hd, hurl, if_false, hpost]
                exact hrefused (.apiError 503 "service_unavailable")
                  (by simp [resumeReview, hrec, hd, hurl, hpost])
            | ok response =>
                simp only [ReviewCall.notifies, hrec, hd, hurl, if_false, hpost]
                have hresult : (resumeReview env S s t).result = proxied response := by
                  simp [resumeReview, hrec, hd, hurl, hpost]
                unfold resumedEvents
                split
                next hok hjson =>
                  refine ⟨rfl, ⟨?_, trivial⟩, by rw [hanswer, hresult, hok]; rfl⟩
                  show ((S.get s t).bind ReviewRecord.decision).isSome = true
                  rw [hrec, Option.bind_some, hd]
                  rfl
                next hnot =>
                  refine .quiet rfl ?_
                  rw [hanswer, hresult]
                  -- An answer is valid only with a mapping for its body.
                  cases hproxied : proxied response with
                  | error e => rfl
                  | ok a =>
                      exfalso
                      unfold proxied at hproxied
                      split at hproxied
                      · cases hproxied
                      · split at hproxied
                        next => cases hproxied
                        next d' hjson =>
                          exact hnot a d' (by rw [proxied.eq_def]; simp_all) hjson
                        next => cases hproxied

/-- **What a call notifies.** -/
theorem tells (call : ReviewCall) : Tells env S s call (call.notifies env S s) := by
  cases call with
  | get t => exact .quiet rfl (by simp [ReviewCall.reads])
  | create body => exact tells_create body
  | approve t => exact tells_decide rfl rfl rfl
  | reject t => exact tells_decide rfl rfl rfl
  | resume t => exact tells_resume t

/-- The events of a run, replayed. -/
theorem replay_notifications (s : S.State) (calls : List (ReviewEnv × ReviewCall)) :
    S.get (storeAfter S s calls) = run replay (S.get s) (notifications S s calls) ∧
      Meets replay Legal (S.get s) (notifications S s calls) := by
  induction calls generalizing s with
  | nil => exact ⟨rfl, trivial⟩
  | cons c calls ih =>
      have htells : Tells c.1 S s c.2 (c.2.notifies c.1 S s) := tells c.2
      obtain ⟨hget, hlegal⟩ := ih (c.2.step S s)
      rw [notifications, run_append, meets_append, ← htells.replays]
      exact ⟨hget, htells.legal, hlegal⟩

end

/-- **The events of a run rebuild the store**, on either backend: replayed, they give the
record of every thread; each comes where it may; and a call notifies one event where it is
answered and more than a read, and none otherwise. -/
theorem webhook_log_rebuilds_store (mode : ReviewStoreMode)
    (calls : List (ReviewEnv × ReviewCall)) :
    let S := reviewStore mode
    let events := notifications S S.empty calls
    S.get (storeAfter S S.empty calls) = run replay (fun _ => none) events ∧
      Meets replay Legal (fun _ => none) events ∧
      ∀ before env call after, calls = before ++ (env, call) :: after →
        let s := storeAfter S S.empty before
        (call.notifies env S s).length =
          if (call.answer env S s).isOk && !call.reads then 1 else 0 := by
  intro S events
  have hempty : S.get S.empty = fun _ => none := funext S.get_empty
  obtain ⟨hget, hlegal⟩ := replay_notifications S.empty calls
  rw [hempty] at hget hlegal
  exact ⟨hget, hlegal, fun before env call after _ => (tells call).count⟩

/-! ## §2. What a receiver keeps. -/

/-- A notification on its way: when it is sent, and what comes back. -/
structure Delivery where
  event : WebhookEvent
  timestamp : String
  endpoint : Nat → Answered

section

variable (F : JsonText.FloatText) (w : WebhookEnv) (url : String)

/-- The posts of a notification that the receiver took. -/
def Delivery.received (x : Delivery) : List WebhookPost :=
  ((emitEvent F w x.timestamp x.event x.endpoint).posts.filter fun p => p.2.taken).map Prod.fst

/-- The post of a notification. -/
def Delivery.post (x : Delivery) : WebhookPost := w.post F url x.timestamp x.event

/-- How often the receiver took a notification. -/
def Delivery.times (x : Delivery) : Nat := arrivals (trials x.endpoint)

/-- The notification was given up. -/
def Delivery.givenUp (x : Delivery) : Bool :=
  (emitEvent F w x.timestamp x.event x.endpoint).warned

/-- What the receiver keeps of the notifications, sent one after the other. -/
def kept (xs : List Delivery) : List WebhookPost :=
  keepFirst (WebhookPost.key F) [] (xs.flatMap (Delivery.received F w))

/-- Event, thread and timestamp of a notification. -/
def Delivery.key (x : Delivery) : String × String × String :=
  (x.event.name, x.event.threadId, x.timestamp)

variable {F w url}

/-- The receiver took copies of one post. -/
theorem received_eq (hurl : w.webhookUrl = some url) (x : Delivery) :
    x.received F w = List.replicate x.times (x.post F w url) := by
  have hposts := emitEvent_posts (F := F) hurl x.timestamp x.event x.endpoint
  have hfilter := congrArg
    (fun ps => (ps.filter fun p : WebhookPost × Trial => p.2.arrives).map Prod.fst) hposts
  simp only [List.filter_map, List.map_map, Function.comp_def] at hfilter
  rw [Delivery.received]
  refine Eq.trans ?_ (hfilter.trans ?_)
  · rfl
  · rw [List.map_const', Delivery.times, arrivals, List.countP_eq_length_filter]
    rfl

theorem key_post {x : Delivery} (h : x.event.Sendable) :
    (x.post F w url).key F = (some x.key.1, some x.key.2.1, some x.key.2.2) := by
  rw [WebhookPost.key, Delivery.post, read_post h, bodyKey_body]
  rfl

/-- **What the receiver keeps**: each notification it took, once, in order. -/
theorem kept_eq (hurl : w.webhookUrl = some url) {xs : List Delivery}
    (hsendable : ∀ x ∈ xs, x.event.Sendable) (hkeys : (xs.map Delivery.key).Nodup) :
    kept F w xs =
      (xs.filter fun x => decide (0 < x.times)).map (Delivery.post F w url) := by
  let sent := xs.map fun x => (x.post F w url, x.times)
  have hflat : xs.flatMap (Delivery.received F w) =
      sent.flatMap fun s => List.replicate s.2 s.1 := by
    rw [List.flatMap_map]
    exact congrArg (fun f => xs.flatMap f) (funext fun x => received_eq hurl x)
  have hnodup : (sent.map fun s => s.1.key F).Nodup := by
    have hmap : sent.map (fun s => s.1.key F) =
        (xs.map Delivery.key).map fun k => (some k.1, some k.2.1, some k.2.2) := by
      simp only [sent, List.map_map]
      refine List.map_congr_left fun x hx => ?_
      exact key_post (hsendable x hx)
    rw [hmap]
    refine hkeys.map ?_
    rintro ⟨a, b, c⟩ ⟨a', b', c'⟩ h
    simpa using h
  rw [kept, hflat, keepFirst_copies _ sent [] hnodup fun _ _ => List.not_mem_nil]
  simp only [sent, List.filter_map, List.map_map]
  rfl

/-- A notification that the receiver never took was given up. -/
theorem givenUp_of_times (hurl : w.webhookUrl = some url) {x : Delivery}
    (hhonest : ∀ n, (x.endpoint n).accepted = true → (x.endpoint n).taken = true)
    (h : x.times = 0) : x.givenUp F w = true := by
  rw [Delivery.givenUp, emitEvent_warned hurl]
  cases hany : (trials x.endpoint).any Trial.acknowledged with
  | false => rfl
  | true =>
      refine absurd (arrivals_pos ?_ hany) (by rw [← Delivery.times, h]; exact lt_irrefl 0)
      intro a ha hack
      obtain ⟨b, hb, rfl⟩ := List.mem_map.mp ha
      obtain ⟨n, -, rfl⟩ := List.mem_map.mp hb
      exact hhonest n hack

end

/-- **A receiver rebuilds the store.**  Let the notifications of a run be sent one after the
other, to a receiver that takes what it answers below 400, and no two with the same event,
thread and timestamp.  What it keeps are the notifications it took, once each and in order,
and one it never took was given up with a warning; so where none was given up, the events it
reads are those of the run, and replayed they give the store. -/
theorem webhook_receiver_rebuilds_store (F : JsonText.FloatText) {w : WebhookEnv} {url : String}
    (hurl : w.webhookUrl = some url) (mode : ReviewStoreMode)
    (calls : List (ReviewEnv × ReviewCall)) {xs : List Delivery}
    (hxs : xs.map Delivery.event =
      notifications (reviewStore mode) (reviewStore mode).empty calls)
    (hsendable : ∀ x ∈ xs, x.event.Sendable) (hkeys : (xs.map Delivery.key).Nodup)
    (hhonest : ∀ x ∈ xs, ∀ n, (x.endpoint n).accepted = true → (x.endpoint n).taken = true) :
    kept F w xs = (xs.filter fun x => decide (0 < x.times)).map (Delivery.post F w url) ∧
      (∀ x ∈ xs, x.times = 0 → x.givenUp F w = true) ∧
      ((∀ x ∈ xs, x.givenUp F w = false) →
        let events := (kept F w xs).filterMap fun p => readEvent (p.read F)
        events = notifications (reviewStore mode) (reviewStore mode).empty calls ∧
          run replay (fun _ => none) events =
            (reviewStore mode).get
              (storeAfter (reviewStore mode) (reviewStore mode).empty calls)) := by
  have hkept := kept_eq (F := F) hurl hsendable hkeys
  have hlost : ∀ x ∈ xs, x.times = 0 → x.givenUp F w = true :=
    fun x hx => givenUp_of_times hurl (hhonest x hx)
  refine ⟨hkept, hlost, fun hnone => ?_⟩
  have hall : (xs.filter fun x => decide (0 < x.times)) = xs := by
    refine List.filter_eq_self.mpr fun x hx => ?_
    rw [decide_eq_true_eq]
    by_contra h0
    have hgiven := hlost x hx (by omega)
    rw [hnone x hx] at hgiven
    cases hgiven
  have hevents : (kept F w xs).filterMap (fun p => readEvent (p.read F)) =
      xs.map Delivery.event := by
    rw [hkept, hall, List.filterMap_map]
    rw [← List.filterMap_eq_map]
    refine List.filterMap_congr fun x hx => ?_
    show readEvent ((x.post F w url).read F) = some x.event
    rw [Delivery.post, read_post (hsendable x hx), readEvent_body]
  have hempty : (reviewStore mode).get (reviewStore mode).empty = fun _ => none :=
    funext (reviewStore mode).get_empty
  have hreplay := (replay_notifications (S := reviewStore mode) (reviewStore mode).empty calls).1
  dsimp only
  rw [hevents, hxs, hreplay, hempty]
  exact ⟨rfl, rfl⟩

namespace Scripted

/-- A world without an orchestrator. -/
def webhookWorld : ReviewEnv where
  now := ⟨"2031-01-05T08:00:00Z", by decide⟩
  obrOrchestratorUrl := none
  post _ _ := .error (.osError "no route")

/-- A webhook with a secret. -/
def webhook : WebhookEnv where
  url := some " http://localhost:8000 "
  secret := some "key"
  hmac secret body := secret ++ ":" ++ body

/-- A review that is created and approved. -/
def webhookCalls : List (ReviewEnv × ReviewCall) :=
  [(webhookWorld, .create (.obj [("thread_id", .str "t")])), (webhookWorld, .approve "t")]

/-- The first post of the one is taken, and answered with an error; the other is fine. -/
def webhookDeliveries : List Delivery :=
  [⟨.created "t" [("thread_id", .str "t")], "08:00:01",
      fun n => if n = 0 then ⟨some 500, true⟩ else ⟨some 200, true⟩⟩,
    ⟨.decision "t" .approved, "08:00:02", fun _ => ⟨some 204, true⟩⟩]

/-- Four posts arrive, and two are kept. -/
theorem webhook_receiver_rebuilds_store_scripted :
    kept JsonText.noFloats webhook webhookDeliveries =
      webhookDeliveries.map (Delivery.post JsonText.noFloats webhook "http://localhost:8000") := by
  have hurl : webhook.webhookUrl = some "http://localhost:8000" := by decide
  have hxs : webhookDeliveries.map Delivery.event =
      notifications (reviewStore .memory) (reviewStore .memory).empty webhookCalls := rfl
  have hsendable : ∀ x ∈ webhookDeliveries, x.event.Sendable := by
    intro x hx
    simp only [webhookDeliveries, List.mem_cons, List.not_mem_nil, or_false] at hx
    rcases hx with rfl | rfl
    · decide
    · decide
  have hhonest : ∀ x ∈ webhookDeliveries,
      ∀ n, (x.endpoint n).accepted = true → (x.endpoint n).taken = true := by
    intro x hx n _
    simp only [webhookDeliveries, List.mem_cons, List.not_mem_nil, or_false] at hx
    rcases hx with rfl | rfl
    · show (if n = 0 then (⟨some 500, true⟩ : Answered) else ⟨some 200, true⟩).taken = true
      split <;> rfl
    · rfl
  exact (webhook_receiver_rebuilds_store JsonText.noFloats hurl .memory webhookCalls hxs
    hsendable (by decide) hhonest).1

end Scripted

end Gateway

end ObligationRuntime
