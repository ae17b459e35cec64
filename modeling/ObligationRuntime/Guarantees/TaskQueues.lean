/-
  ObligationRuntime.Guarantees.TaskQueues — the coordination queues over whole runs.

  Any number of clients put tasks into the queues and take them out, one call after another,
  in any order.  On either backend each item is handed out once, in the order in which the
  items came, and what is handed out is the item's text.

  The Redis server of the queues is the one of the MCP session store as well: both find it
  by `OBR_REDIS_URL`.  Their keys differ in their prefixes, so neither sees the other,
  whatever the server does to a value, and however long it keeps one.

  Main results:
    * `task_queue_exactly_once` — every item is handed out once, in order,
    * `shared_redis_separate` — on one server, queues and sessions are each answered as if
      the other were not there.
-/
import ObligationRuntime.Gateway.Coordination

namespace ObligationRuntime

open Py

namespace Gateway

namespace Coordination

/-! ## §1. Every item once. -/

section

variable {C : Type}

/-- The calls of the clients, with the texts that go over. -/
def wired (F : JsonText.FloatText) (calls : List (C × Fifo.Op String Item)) :
    List (C × Fifo.Op String String) :=
  calls.map fun c => (c.1, wire F c.2)

/-- What is sent are the texts of the items. -/
theorem sent_wired (F : JsonText.FloatText) (calls : List (C × Fifo.Op String Item))
    (q : String) : Fifo.sent q (wired F calls) = (Fifo.sent q calls).map (Item.wire F) := by
  induction calls with
  | nil => rfl
  | cons c calls ih =>
      have hone : (wire F c.2).sent q = (c.2.sent q).map (Item.wire F) := by
        cases c.2 with
        | put q' item =>
            show (if q' = q then [item.wire F] else []) = _
            by_cases h : q' = q <;> simp [Fifo.Op.sent, h]
        | take q' => rfl
        | size q' => rfl
      show (wire F c.2).sent q ++ Fifo.sent q (wired F calls) = _
      rw [hone, ih]
      simp [Fifo.sent]

/-- **Every item is handed out once, in order**: the texts that clients were handed from a
queue, followed by those that are left in it, are the texts of the items that were put in.
A client is told that the queue is empty exactly when all of them have been handed out; and
the one who is handed a dictionary's text reads back that dictionary. -/
theorem task_queue_exactly_once {R : RedisServer} (L : ListCommands R) (b : Backend)
    (F : JsonText.FloatText) (calls : List (C × Fifo.Op String Item)) (q : String) :
    let handed := (b.queues L).handed q (b.empty L) (wired F calls)
    let final := (b.queues L).run (b.empty L) (wired F calls)
    let items := Fifo.sent q calls
    handed.map Prod.snd ++ (b.queues L).view final q = items.map (Item.wire F) ∧
      (((b.queues L).call final (.take q)).2 = .taken none ↔ handed.length = items.length) ∧
      ∀ (i : Nat) client text, handed[i]? = some (client, text) →
        ∃ item : Item, items[i]? = some item ∧ text = item.wire F ∧
          ∀ d, item = .dict d → Json.UniqueKeys (.obj d) → Json.all Json.integral (.obj d) = true →
            JsonText.loads F text = .ok (.obj d) := by
  intro handed final items
  have hall : handed.map Prod.snd ++ (b.queues L).view final q = items.map (Item.wire F) := by
    rw [← sent_wired, ← Fifo.System.conservation, b.view_empty, List.nil_append]
  refine ⟨hall, ?_, ?_⟩
  · rw [Fifo.System.taken_none (b.view_empty L), sent_wired]
    constructor
    · intro h
      simpa [items] using congrArg List.length h
    · intro h
      -- As many as were put in: none is left.
      have hnil : (b.queues L).view final q = [] := by
        have hlength := congrArg List.length hall
        simp only [List.length_append, List.length_map] at hlength
        exact List.eq_nil_of_length_eq_zero (by omega)
      rw [hnil, List.append_nil] at hall
      exact hall
  · intro i client text hi
    have htext : (items.map (Item.wire F))[i]? = some text := by
      have hlt : i < (handed.map Prod.snd).length := by
        rw [List.length_map]
        exact (List.getElem?_eq_some_iff.mp hi).1
      rw [← hall, List.getElem?_append_left hlt, List.getElem?_map, hi]
      rfl
    rw [List.getElem?_map] at htext
    obtain ⟨item, hitem, rfl⟩ := Option.map_eq_some_iff.mp htext
    refine ⟨item, hitem, rfl, ?_⟩
    rintro d rfl hkeys hint
    exact Item.loads_wire hkeys hint

end

namespace Scripted

/-- A value of a key that is a text or a list; no value of the keys here has a lifetime. -/
def lists : RedisServer where
  Value := String ⊕ List String
  rpush x
    | .inl _ => .error ⟨"WRONGTYPE"⟩
    | .inr xs => .ok (.inr (xs ++ [x]))
  lpop
    | .inl _ => .error ⟨"WRONGTYPE"⟩
    | .inr xs => .ok (.inr xs.tail, xs.head?)
  llen
    | .inl _ => .error ⟨"WRONGTYPE"⟩
    | .inr xs => .ok xs.length
  setex _ t _ := .ok (.inl t)
  get
    | .inl t => .ok (some t)
    | .inr [] => .ok none
    | .inr (_ :: _) => .error ⟨"WRONGTYPE"⟩
  del _ := .ok (.inr [])
  elapse _ v := v

/-- Its list commands are the documented ones. -/
def listCommands : ListCommands lists where
  absent := .inr []
  items := Sum.getRight?
  items_absent := rfl
  rpush := by
    rintro x (t | xs) ys ⟨⟩
    exact ⟨_, rfl, rfl⟩
  lpop := by
    rintro (t | xs) ys ⟨⟩
    exact ⟨_, rfl, rfl⟩
  llen := by
    rintro (t | xs) ys ⟨⟩
    rfl

/-- One client puts a text and a dictionary in; the other one takes both. -/
def jobs : List (Nat × Fifo.Op String Item) :=
  [(1, .put "jobs" (.text "a")), (1, .put "jobs" (.dict [("n", .int 1)])), (2, .take "jobs"),
    (2, .take "jobs")]

/-- It reads the dictionary that was put in. -/
theorem task_queue_exactly_once_scripted :
    let text := JsonText.dumps JsonText.noFloats JsonText.spaced (.obj [("n", .int 1)])
    (Backend.redis.queues listCommands).handed "jobs" (Backend.redis.empty listCommands)
        (wired JsonText.noFloats jobs) = [(2, "a"), (2, text)] ∧
      JsonText.loads JsonText.noFloats text = .ok (.obj [("n", .int 1)]) := by
  intro text
  have hhanded : (Backend.redis.queues listCommands).handed "jobs"
      (Backend.redis.empty listCommands) (wired JsonText.noFloats jobs) =
        [(2, "a"), (2, text)] := rfl
  refine ⟨hhanded, ?_⟩
  have hevery := (task_queue_exactly_once listCommands .redis JsonText.noFloats jobs
    "jobs").2.2 1 2 text
  obtain ⟨item, hitem, -, hread⟩ := hevery (by rw [hhanded]; rfl)
  obtain rfl : Item.dict [("n", .int 1)] = item := Option.some.inj hitem
  exact hread _ rfl rfl rfl

end Scripted

/-! ## §2. One server for queues and sessions. -/

section

open Mcp.RedisStore (redisKey redisKey_inj)

/-- The two prefixes differ. -/
theorem redisKey_ne_queueKey (key q : String) : redisKey key ≠ queueKey q := by
  intro h
  have hchars := congrArg (fun s => s.toList[4]?) h
  simp [redisKey, queueKey, String.toList_append] at hchars

variable (R : RedisServer) (F : JsonText.FloatText)

-- `json.loads`, none where it raises; `str` of a value; and the store's `ttl_seconds`.
variable (loads : String → Option Json) (str : Json → String) (ttl : Nat)

/-- `RedisMCPSessionStore.get`; what is raised is caught. -/
def sessionGet (s : R.State) (key : String) : Option Json :=
  match R.get (s (redisKey key)) with
  | .ok (some raw) => loads raw
  | _ => none

/-- A command on a key of the store. -/
def sessionCommand (command : R.Value → Except RedisError R.Value) (s : R.State)
    (key : String) : Except RedisError R.State :=
  (command (s (redisKey key))).map fun v => Function.update s (redisKey key) v

/-- `RedisMCPSessionStore.set`; where the first command is refused there is no second. -/
def sessionSet (s : R.State) (r : Mcp.SessionRecord) : R.State :=
  let val := JsonText.dumps F JsonText.spaced (.obj r.dict)
  match sessionCommand R (R.setex ttl val) s r.sessionId with
  | .error _ => s
  | .ok s =>
      match r.thread with
      | none => s
      | some t =>
          match sessionCommand R (R.setex ttl val) s t with
          | .error _ => s
          | .ok s => s

/-- `rec.get("thread_id")`, where it is true; nothing else that is read is a dictionary. -/
def threadOf (rec? : Option Json) : Option Json :=
  ((rec?.bind Json.dict?).bind (·.get? "thread_id")).filter Json.truthy

/-- `RedisMCPSessionStore.delete`. -/
def sessionDelete (s : R.State) (sessionId : String) : R.State :=
  let rec? := sessionGet R loads s sessionId
  match sessionCommand R R.del s sessionId with
  | .error _ => s
  | .ok s =>
      match threadOf rec? with
      | none => s
      | some t =>
          match sessionCommand R R.del s (str t) with
          | .error _ => s
          | .ok s => s

/-- A call of a queue or of a session store, or some seconds that pass. -/
inductive SharedCall where
  | queue (op : Fifo.Op String String)
  | getSession (key : String)
  | setSession (record : Mcp.SessionRecord)
  | deleteSession (sessionId : String)
  | elapse (seconds : Nat)

/-- What such a call answers. -/
inductive SharedAnswer where
  | queue (a : Except RedisError (Fifo.Answer String))
  | record (r : Option Json)
  | done

/-- A call, on one server. -/
def sharedCall (s : R.State) : SharedCall → R.State × SharedAnswer
  | .queue op =>
      match R.queueCall s op with
      | .ok (s, a) => (s, .queue (.ok a))
      | .error e => (s, .queue (.error e))
  | .getSession key => (s, .record (sessionGet R loads s key))
  | .setSession r => (sessionSet R F ttl s r, .done)
  | .deleteSession id => (sessionDelete R loads str s id, .done)
  | .elapse seconds => (fun key => R.elapse seconds (s key), .done)

/-- The calls without those of the session store. -/
def SharedCall.ofQueues : SharedCall → Bool
  | .queue _ | .elapse _ => true
  | .getSession _ | .setSession _ | .deleteSession _ => false

/-- The calls without those of the queues. -/
def SharedCall.ofSessions : SharedCall → Bool
  | .queue _ => false
  | .getSession _ | .setSession _ | .deleteSession _ | .elapse _ => true

variable {R}

/-- Two servers with the same queues. -/
def SameQueues (s s' : R.State) : Prop := ∀ q, s (queueKey q) = s' (queueKey q)

/-- Two servers with the same sessions. -/
def SameSessions (s s' : R.State) : Prop := ∀ key, s (redisKey key) = s' (redisKey key)

variable {F loads str ttl} {s s' : R.State}

/-- A queue's key is none of the session store. -/
theorem SameSessions.update (h : SameSessions s s') (q : String) (v : R.Value) :
    SameSessions (Function.update s (queueKey q) v) s' := by
  intro key
  rw [Function.update_of_ne (redisKey_ne_queueKey key q)]
  exact h key

theorem SameSessions.both (h : SameSessions s s') (key : String) (v : R.Value) :
    SameSessions (Function.update s (redisKey key) v) (Function.update s' (redisKey key) v) := by
  intro key'
  by_cases hkey : key' = key
  · subst hkey
    simp
  · rw [Function.update_of_ne (mt redisKey_inj.mp hkey),
      Function.update_of_ne (mt redisKey_inj.mp hkey)]
    exact h key'

theorem SameQueues.update (h : SameQueues s s') (key : String) (v : R.Value) :
    SameQueues (Function.update s (redisKey key) v) s' := by
  intro q
  rw [Function.update_of_ne (redisKey_ne_queueKey key q).symm]
  exact h q

theorem SameQueues.both (h : SameQueues s s') (q : String) (v : R.Value) :
    SameQueues (Function.update s (queueKey q) v) (Function.update s' (queueKey q) v) := by
  intro q'
  by_cases hq : q' = q
  · subst hq
    simp
  · rw [Function.update_of_ne (mt queueKey_inj.mp hq),
      Function.update_of_ne (mt queueKey_inj.mp hq)]
    exact h q'

/-- What a queue does to servers with the same queues. -/
theorem SameQueues.queue (h : SameQueues s s') (op : Fifo.Op String String) :
    SameQueues (sharedCall R F loads str ttl s (.queue op)).1
        (sharedCall R F loads str ttl s' (.queue op)).1 ∧
      (sharedCall R F loads str ttl s (.queue op)).2 =
        (sharedCall R F loads str ttl s' (.queue op)).2 := by
  cases op with
  | put q v =>
      simp only [sharedCall, RedisServer.queueCall, h q]
      cases R.rpush v (s' (queueKey q)) with
      | ok v' => exact ⟨h.both q v', rfl⟩
      | error e => exact ⟨h, rfl⟩
  | take q =>
      simp only [sharedCall, RedisServer.queueCall, h q]
      cases R.lpop (s' (queueKey q)) with
      | ok r => exact ⟨h.both q r.1, rfl⟩
      | error e => exact ⟨h, rfl⟩
  | size q =>
      simp only [sharedCall, RedisServer.queueCall, h q]
      cases R.llen (s' (queueKey q)) with
      | ok n => exact ⟨h, rfl⟩
      | error e => exact ⟨h, rfl⟩

/-- What a queue does to the sessions: nothing. -/
theorem SameSessions.queue (h : SameSessions s s') (op : Fifo.Op String String) :
    SameSessions (sharedCall R F loads str ttl s (.queue op)).1 s' := by
  cases op with
  | put q v =>
      simp only [sharedCall, RedisServer.queueCall]
      cases R.rpush v (s (queueKey q)) with
      | ok v' => exact h.update q v'
      | error e => exact h
  | take q =>
      simp only [sharedCall, RedisServer.queueCall]
      cases R.lpop (s (queueKey q)) with
      | ok r => exact h.update q r.1
      | error e => exact h
  | size q =>
      simp only [sharedCall, RedisServer.queueCall]
      cases R.llen (s (queueKey q)) with
      | ok n => exact h
      | error e => exact h

/-- What a command of the store does to servers with the same sessions: both refuse it, or
they have the same sessions after it. -/
theorem SameSessions.command (h : SameSessions s s')
    (command : R.Value → Except RedisError R.Value) (key : String) :
    (∃ e, sessionCommand R command s key = .error e ∧
        sessionCommand R command s' key = .error e) ∨
      ∃ t t', sessionCommand R command s key = .ok t ∧
        sessionCommand R command s' key = .ok t' ∧ SameSessions t t' := by
  unfold sessionCommand
  rw [h key]
  cases command (s' (redisKey key)) with
  | error e => exact .inl ⟨e, rfl, rfl⟩
  | ok v => exact .inr ⟨_, _, rfl, rfl, h.both key v⟩

/-- What a command of the store does to the queues: nothing. -/
theorem SameQueues.command (h : SameQueues s s')
    {command : R.Value → Except RedisError R.Value} {key : String} {t : R.State}
    (ht : sessionCommand R command s key = .ok t) : SameQueues t s' := by
  unfold sessionCommand at ht
  cases hv : command (s (redisKey key)) with
  | error e =>
      rw [hv] at ht
      cases ht
  | ok v =>
      rw [hv] at ht
      cases ht
      exact h.update key v

theorem SameSessions.get (h : SameSessions s s') (key : String) :
    sessionGet R loads s key = sessionGet R loads s' key := by
  unfold sessionGet
  rw [h key]

theorem SameSessions.set (h : SameSessions s s') (r : Mcp.SessionRecord) :
    SameSessions (sessionSet R F ttl s r) (sessionSet R F ttl s' r) := by
  unfold sessionSet
  dsimp only
  obtain ⟨e, hs, hs'⟩ | ⟨t, t', hs, hs', ht⟩ := h.command (R.setex ttl _) r.sessionId
  · rw [hs, hs']
    exact h
  · rw [hs, hs']
    cases r.thread with
    | none => exact ht
    | some thread =>
        dsimp only
        obtain ⟨e, hs, hs'⟩ | ⟨u, u', hs, hs', hu⟩ := ht.command (R.setex ttl _) thread
        · rw [hs, hs']
          exact ht
        · rw [hs, hs']
          exact hu

theorem SameSessions.delete (h : SameSessions s s') (id : String) :
    SameSessions (sessionDelete R loads str s id) (sessionDelete R loads str s' id) := by
  unfold sessionDelete
  dsimp only
  rw [h.get id]
  obtain ⟨e, hs, hs'⟩ | ⟨t, t', hs, hs', ht⟩ := h.command R.del id
  · rw [hs, hs']
    exact h
  · rw [hs, hs']
    cases threadOf (sessionGet R loads s' id) with
    | none => exact ht
    | some thread =>
        dsimp only
        obtain ⟨e, hs, hs'⟩ | ⟨u, u', hs, hs', hu⟩ := ht.command R.del (str thread)
        · rw [hs, hs']
          exact ht
        · rw [hs, hs']
          exact hu

theorem SameQueues.set (h : SameQueues s s') (r : Mcp.SessionRecord) :
    SameQueues (sessionSet R F ttl s r) s' := by
  unfold sessionSet
  dsimp only
  split
  next => exact h
  next t ht =>
    have hfirst : SameQueues t s' := h.command ht
    split
    next => exact hfirst
    next =>
      split
      next => exact hfirst
      next hu => exact hfirst.command hu

theorem SameQueues.delete (h : SameQueues s s') (id : String) :
    SameQueues (sessionDelete R loads str s id) s' := by
  unfold sessionDelete
  dsimp only
  split
  next => exact h
  next t ht =>
    have hfirst : SameQueues t s' := h.command ht
    split
    next => exact hfirst
    next =>
      split
      next => exact hfirst
      next hu => exact hfirst.command hu

/-- **Queues and sessions on one server** do not disturb each other: whatever the order of
the calls, and whatever the commands and the time do to the value of a key, the queues
answer as if the session store were not there, and the session store as if the queues were
not. -/
theorem shared_redis_separate (R : RedisServer) (F : JsonText.FloatText)
    (loads : String → Option Json) (str : Json → String) (ttl : Nat) (s : R.State)
    (calls : List SharedCall) :
    let call := sharedCall R F loads str ttl
    Transition.answersAt SharedCall.ofQueues call s calls =
        Transition.answers call s (calls.filter SharedCall.ofQueues) ∧
      Transition.answersAt SharedCall.ofSessions call s calls =
        Transition.answers call s (calls.filter SharedCall.ofSessions) := by
  intro call
  constructor
  · have hself : SameQueues s s := fun _ => rfl
    refine Transition.answersAt_filter ?_ ?_ hself calls
    · rintro s s' (op | key | r | id | seconds) hkeep h
      · exact h.queue op
      · cases hkeep
      · cases hkeep
      · cases hkeep
      · exact ⟨fun q => congrArg (R.elapse seconds) (h q), rfl⟩
    · rintro s s' (op | key | r | id | seconds) hskip h
      · cases hskip
      · exact h
      · exact h.set r
      · exact h.delete id
      · cases hskip
  · have hself : SameSessions s s := fun _ => rfl
    refine Transition.answersAt_filter ?_ ?_ hself calls
    · rintro s s' (op | key | r | id | seconds) hkeep h
      · cases hkeep
      · exact ⟨h, congrArg SharedAnswer.record (h.get key)⟩
      · exact ⟨h.set r, rfl⟩
      · exact ⟨h.delete id, rfl⟩
      · exact ⟨fun key => congrArg (R.elapse seconds) (h key), rfl⟩
    · rintro s s' (op | key | r | id | seconds) hskip h
      · exact h.queue op
      · cases hskip
      · cases hskip
      · cases hskip
      · cases hskip

end

end Coordination

end Gateway

end ObligationRuntime
