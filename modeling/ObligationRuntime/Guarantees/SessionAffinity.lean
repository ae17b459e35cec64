/-
  ObligationRuntime.Guarantees.SessionAffinity — which session a tool call uses, over
  every run of calls, failures of the gateway and restarts.

  The sessions that were created are kept beside the server, the most recent first: each
  with the thread its call named, or else the thread the context still had.  The store
  finds a thread's session by either.

  Main results:
    * `Recorded.call` — after every call the store finds what was created,
    * `session_affinity` — the session a call uses,
    * `affinity_fails` — a context with a session answers for every thread, and a session
      without a thread takes the place of the last one's.
-/
import ObligationRuntime.Lib.Transition
import ObligationRuntime.Runtime.McpServer

namespace ObligationRuntime

open Py Transition

namespace Mcp

/-! ## §1. Runs. -/

/-- A call of a client, or a restart. -/
inductive McpCall where
  | createSession (fingerprintId : String) (threadId : Option String)
      (reply : Except PyError Server.SessionReply)
  | tool (tool : Server.SessionTool) (sessionId threadId : Option String)
  | restart

/-- A session that was created: for the thread that the call named, or else with the
thread that the context had. -/
structure Creation where
  sessionId : String
  named : Option String
  carried : Option String
  deriving DecidableEq, Repr

/-- The creation of a call whose context had a thread, or none. -/
def Creation.of (contextThread threadId : Option String) (out : Server.SessionReply) :
    Creation where
  sessionId := out.sessionId
  named := truthy threadId
  carried := if (truthy threadId).isSome then none else truthy contextThread

/-- The server, and the sessions created so far, the most recent first. -/
structure History where
  server : Server
  created : List Creation

/-- A fresh server with an empty store. -/
def History.start : History := ⟨{ store := some ∅ }, []⟩

/-- A call. -/
def History.call (h : History) : McpCall → History
  | .createSession fp thread reply =>
      { server := (h.server.createSession fp thread reply).1
        created :=
          match reply with
          | .ok out => .of h.server.ctx.threadId thread out :: h.created
          | .error _ => h.created }
  | .tool tool id thread => { h with server := (h.server.callTool tool id thread).1 }
  | .restart => { h with server := h.server.restart }

/-- **The session created most recently for a thread**, or the session of that id. -/
def sessionFor (created : List Creation) (t : String) : Option String :=
  (created.find? fun c => c.sessionId = t ∨ c.named = some t).map Creation.sessionId

/-- The most recent creation whose record the store has under a key. -/
def stored (created : List Creation) (key : String) : Option Creation :=
  created.find? fun c => c.sessionId = key ∨ c.named = some key ∨ c.carried = some key

/-- Since the session for the thread was created, another one came without a thread, while
the context had this one. -/
def Overtaken (created : List Creation) (t : String) : Prop :=
  ∃ c, stored created t = some c ∧ c.sessionId ≠ t ∧ c.named ≠ some t

/-- The session that the store finds for a thread. -/
def Server.resolves (s : Server) (t : String) : Option String :=
  (s.store.bind (·.get t)).map SessionRecord.sessionId

/-- A tool's answer: its request for the session, or no session. -/
def Server.SessionTool.answer (tool : Server.SessionTool) :
    Option String → Except PyError Server.Request
  | some sid => .ok (tool.request sid)
  | none => .error Server.noSession

/-- **Session affinity.** -/
structure Affinity (h : History) : Prop where
  /-- A call that names a session uses it. -/
  named : ∀ tool id thread, id ≠ "" →
    (h.server.callTool tool (some id) thread).2 = .ok (tool.request id)
  /-- A call with a thread only uses the session of the context, if there is one. -/
  context : ∀ tool id t sid, truthy id = none → truthy h.server.ctx.sessionId = some sid →
    (h.server.callTool tool id (some t)).2 = .ok (tool.request sid)
  /-- Otherwise it uses the session created most recently for the thread, or fails. -/
  restored : ∀ tool id t, truthy id = none → t ≠ "" → truthy h.server.ctx.sessionId = none →
    ¬ Overtaken h.created t →
    (h.server.callTool tool id (some t)).2 = tool.answer (truthy (sessionFor h.created t))
  /-- A `create_session` without a thread changes the session of no thread but the one that
  the context has. -/
  unnamed : ∀ fp thread reply t, truthy thread = none → truthy h.server.ctx.threadId ≠ some t →
    (∀ out, reply = .ok out → out.sessionId ≠ t) →
    (h.server.createSession fp thread reply).1.resolves t = h.server.resolves t

/-! ## §2. What the store finds. -/

/-- **The invariant**: the store finds the sessions that were created. -/
def Recorded (h : History) : Prop :=
  ∃ store, h.server.store = some store ∧
    ∀ key, (store.get key).map SessionRecord.sessionId =
      (stored h.created key).map Creation.sessionId

theorem recorded_start : Recorded History.start := ⟨∅, rfl, fun _ => rfl⟩

/-- The thread of the record is the one the creation has. -/
theorem thread_of (contextThread threadId : Option String) (out : Server.SessionReply)
    (key : String) :
    truthy (orId threadId contextThread) = some key ↔
      (Creation.of contextThread threadId out).named = some key ∨
        (Creation.of contextThread threadId out).carried = some key := by
  rw [Server.truthy_orId]
  show _ ↔ truthy threadId = some key ∨
    (if (truthy threadId).isSome then none else truthy contextThread) = some key
  cases truthy threadId with
  | none => simp
  | some t => simp

/-- What the store finds after a successful `create_session`. -/
theorem createSession_store {s : Server} {store : InMemoryStore} (hstore : s.store = some store)
    (fp : String) (thread : Option String) (out : Server.SessionReply) :
    ∃ store', (s.createSession fp thread (.ok out)).1.store = some store' ∧
      ∀ key, (store'.get key).map SessionRecord.sessionId =
        if out.sessionId = key ∨ truthy (orId thread s.ctx.threadId) = some key then
          some out.sessionId
        else (store.get key).map SessionRecord.sessionId := by
  have hset : (s.createSession fp thread (.ok out)).1.store = s.store.map (·.set
      ⟨out.sessionId, orId thread s.ctx.threadId, out.fingerprintId.getD fp,
        out.workspacePath.getD ""⟩) := rfl
  rw [hstore, Option.map_some] at hset
  refine ⟨_, hset, fun key => ?_⟩
  rw [InMemoryStore.get_set]
  show Option.map _ (if out.sessionId = key ∨ truthy (orId thread s.ctx.threadId) = some key
    then _ else _) = _
  split <;> rfl

theorem callTool_store (s : Server) (tool : Server.SessionTool) (id thread : Option String) :
    (s.callTool tool id thread).1.store = s.store := by
  have hsession : (s.sessionId id thread).1.store = s.store := by
    unfold Server.sessionId
    dsimp only
    split <;> simp
  unfold Server.callTool
  split
  next heq => rw [← hsession, heq]
  next heq => rw [← hsession, heq]

/-- **One call**: the store finds what was created. -/
theorem Recorded.call {h : History} (hrec : Recorded h) (c : McpCall) : Recorded (h.call c) := by
  obtain ⟨store, hstore, hfinds⟩ := hrec
  cases c with
  | createSession fp thread reply =>
      cases reply with
      | error e => exact ⟨store, hstore, hfinds⟩
      | ok out =>
          obtain ⟨store', hstore', hset⟩ := createSession_store hstore fp thread out
          refine ⟨store', hstore', fun key => ?_⟩
          rw [hset key, hfinds key]
          show _ = (List.find? _ (Creation.of h.server.ctx.threadId thread out :: h.created)).map _
          rw [List.find?_cons]
          -- A session is stored under its id and, where the call has one, under the thread.
          by_cases hid : out.sessionId = key
          · simp [hid, Creation.of]
          · have hthread := thread_of h.server.ctx.threadId thread out key
            have hsid : (Creation.of h.server.ctx.threadId thread out).sessionId = out.sessionId :=
              rfl
            by_cases hkey : truthy (orId thread h.server.ctx.threadId) = some key
            · simp [hkey, hthread.mp hkey, hsid]
            · have hnone := not_or.mp (mt hthread.mpr hkey)
              simp [hid, hkey, hnone.1, hnone.2, hsid, stored]
  | tool tool id thread =>
      refine ⟨store, ?_, hfinds⟩
      show (h.server.callTool tool id thread).1.store = some store
      rw [callTool_store, hstore]
  | restart => exact ⟨store, hstore, hfinds⟩

/-- Where no other creation came in between, the store finds the thread's own session. -/
theorem stored_eq_sessionFor {created : List Creation} {t : String}
    (h : ¬ Overtaken created t) :
    (stored created t).map Creation.sessionId = sessionFor created t := by
  have hweak : ∀ c : Creation, (c.sessionId = t ∨ c.named = some t) →
      c.sessionId = t ∨ c.named = some t ∨ c.carried = some t :=
    fun c hc => hc.imp_right Or.inl
  unfold sessionFor
  congr 1
  unfold Overtaken at h
  induction created with
  | nil => rfl
  | cons c created ih =>
      by_cases hc : c.sessionId = t ∨ c.named = some t
      · rw [stored, List.find?_cons_of_pos (by simpa using hweak c hc),
          List.find?_cons_of_pos (by simpa using hc)]
      · by_cases hcarried : c.carried = some t
        · -- A creation that only carried the thread overtakes it.
          rw [not_or] at hc
          exact absurd ⟨c, List.find?_cons_of_pos (by simp [hcarried]), hc⟩ h
        · -- A creation that does not concern the thread is passed over by both.
          have hmiss : ¬ (c.sessionId = t ∨ c.named = some t ∨ c.carried = some t) := by
            rw [← or_assoc]
            exact not_or.mpr ⟨hc, hcarried⟩
          have htail : stored (c :: created) t = stored created t :=
            List.find?_cons_of_neg (by simpa using hmiss)
          rw [htail, List.find?_cons_of_neg (by simpa using hc)]
          rw [htail] at h
          exact ih h

/-! ## §3. Affinity. -/

theorem callTool_of_sessionId {s : Server} {tool : Server.SessionTool}
    {id thread : Option String} (answer : Option String)
    (h : (s.sessionId id thread).2 = Server.chosen answer) :
    (s.callTool tool id thread).2 = tool.answer answer := by
  unfold Server.callTool
  cases answer with
  | some sid =>
      split
      next heq => rw [heq] at h; cases h; rfl
      next heq => rw [heq] at h; cases h
  | none =>
      split
      next heq => rw [heq] at h; cases h
      next heq => rw [heq] at h; cases h; rfl

theorem Recorded.affinity {h : History} (hrec : Recorded h) : Affinity h := by
  obtain ⟨store, hstore, hfinds⟩ := hrec
  refine ⟨?_, ?_, ?_, ?_⟩
  · intro tool id thread hid
    exact callTool_of_sessionId (some id) (h.server.sessionId_named hid thread)
  · intro tool id t sid hid hctx
    exact callTool_of_sessionId (some sid) (Server.sessionId_context hctx hid (some t))
  · intro tool id t hid ht hctx hkept
    refine callTool_of_sessionId _ ?_
    rw [Server.sessionId_restored hstore hctx hid ht, hfinds t, stored_eq_sessionFor hkept]
  · intro fp thread reply t hthread hctx hfresh
    cases reply with
    | error e => rfl
    | ok out =>
        obtain ⟨store', hstore', hset⟩ := createSession_store hstore fp thread out
        -- The record is written under the context's thread, which is another one.
        have hother : truthy (orId thread h.server.ctx.threadId) ≠ some t := by
          rwa [Server.truthy_orId, hthread, Option.none_or]
        unfold Server.resolves
        rw [hstore', hstore, Option.bind_some, Option.bind_some, hset t,
          if_neg (not_or.mpr ⟨hfresh out rfl, hother⟩)]

/-- **Session affinity**, after every run of calls, failed creations and restarts. -/
theorem session_affinity (calls : List McpCall) : Affinity (run History.call .start calls) := by
  have hrec : Recorded (run History.call .start calls) :=
    run_invariant (C := fun _ _ => True) (fun _ c hrec _ => hrec.call c) recorded_start
      (meets_iff.mpr fun _ _ _ _ => trivial)
  exact hrec.affinity

/-- Two threads create a session each: the first one's next call uses the second one's.  A
thread creates a session, and another one is created without a thread: a restart later, the
thread's call uses that. -/
theorem affinity_fails :
    let taken := run History.call .start
      [.createSession "fp" (some "t1") (.ok { sessionId := "s1" }),
        .createSession "fp" (some "t2") (.ok { sessionId := "s2" })]
    let alone := run History.call .start
      [.createSession "fp" (some "t") (.ok { sessionId := "s1" })]
    let later := run History.call alone
      [.createSession "fp" none (.ok { sessionId := "s2" }), .restart]
    (sessionFor taken.created "t1" = some "s1" ∧
        (taken.server.sessionId none (some "t1")).2 = .ok "s2") ∧
      alone.server.resolves "t" = some "s1" ∧ later.server.resolves "t" = some "s2" ∧
      sessionFor later.created "t" = some "s1" ∧
      (later.server.sessionId none (some "t")).2 = .ok "s2" :=
  ⟨⟨by decide, rfl⟩, rfl, rfl, by decide, rfl⟩

end Mcp

end ObligationRuntime
