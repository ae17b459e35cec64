/-
  ObligationRuntime.Gateway.Coordination — queues for the distribution of tasks:
  coordination/queue.py.

  In memory there is a deque for each name, made where it is first looked at.  In Redis
  there is a list under a key of its own.  The Redis server is outside: what its commands do
  to the value of a key is a parameter, and what is documented of its list commands is
  assumed where it is used.  A command is about its own key only.

  Calls run one after another, and `ping` is not modelled.

  Main results:
    * `memoryQueues`, `redisQueues` — both backends implement first-in first-out queues,
    * `Item.loads_wire` — a dictionary is read back from the text of its item.
-/
import ObligationRuntime.Lib.Fifo
import ObligationRuntime.Lib.JsonText
import ObligationRuntime.Runtime.McpSessionStore

namespace ObligationRuntime

open Py

namespace Gateway

namespace Coordination

/-! ## §1. Items. -/

/-- `str | dict`. -/
inductive Item where
  | text (s : String)
  | dict (d : Dict)

/-- `json.dumps(value) if isinstance(value, dict) else value`. -/
def Item.wire (F : JsonText.FloatText) : Item → String
  | .text s => s
  | .dict d => JsonText.dumps F JsonText.spaced (.obj d)

/-- A dictionary is read back from its text. -/
theorem Item.loads_wire {F : JsonText.FloatText} {d : Dict} (hkeys : Json.UniqueKeys (.obj d))
    (hint : Json.all Json.integral (.obj d) = true) :
    JsonText.loads F (Item.wire F (.dict d)) = .ok (.obj d) :=
  JsonText.loads_dumps hkeys hint

/-- A call of a backend, with the text that goes over. -/
def wire (F : JsonText.FloatText) : Fifo.Op String Item → Fifo.Op String String
  | .put q item => .put q (item.wire F)
  | .take q => .take q
  | .size q => .size q

/-! ## §2. In memory. -/

/-- `InMemoryCoordinationBackend`: `self._queues`. -/
abbrev InMemory := AList fun _ : String => List String

namespace InMemory

/-- `_queue`. -/
def queue (s : InMemory) (name : String) : InMemory × List String :=
  match s.lookup name with
  | some q => (s, q)
  | none => (AList.insert name [] s, [])

/-- `enqueue`. -/
def enqueue (s : InMemory) (name value : String) : InMemory :=
  let (s, q) := s.queue name
  AList.insert name (q ++ [value]) s

/-- `dequeue`. -/
def dequeue (s : InMemory) (name : String) : InMemory × Option String :=
  let (s, q) := s.queue name
  match q with
  -- `IndexError`.
  | [] => (s, none)
  | x :: xs => (AList.insert name xs s, some x)

/-- `length`. -/
def length (s : InMemory) (name : String) : InMemory × Nat :=
  let (s, q) := s.queue name
  (s, q.length)

/-- A call. -/
def call (s : InMemory) : Fifo.Op String String → InMemory × Fifo.Answer String
  | .put q v => (s.enqueue q v, .done)
  | .take q =>
      let (s, x) := s.dequeue q
      (s, .taken x)
  | .size q =>
      let (s, n) := s.length q
      (s, .length n)

/-- What a queue has; a name without a deque has nothing. -/
def contents (s : InMemory) (name : String) : List String := (s.lookup name).getD []

/-- Writing a queue back changes that queue. -/
theorem contents_insert (s : InMemory) (name : String) (q : List String) :
    contents (AList.insert name q s) = Function.update (contents s) name q := by
  funext n
  by_cases h : n = name
  · subst h
    simp [contents]
  · simp [contents, h]

/-- `_queue` gives the items that are there. -/
@[simp] theorem queue_snd (s : InMemory) (name : String) : (s.queue name).2 = s.contents name := by
  unfold queue contents
  cases s.lookup name <;> rfl

/-- A deque that is made for a name has nothing. -/
@[simp] theorem queue_fst (s : InMemory) (name : String) :
    contents (s.queue name).1 = contents s := by
  unfold queue
  cases h : s.lookup name with
  | some q => rfl
  | none =>
      show contents (AList.insert name [] s) = contents s
      rw [contents_insert]
      have hnil : contents s name = [] := by simp [contents, h]
      rw [← hnil, Function.update_eq_self]

/-- What a call does to the queues. -/
theorem call_contents (s : InMemory) (op : Fifo.Op String String) :
    contents (s.call op).1 = (Fifo.spec (contents s) op).1 ∧
      (s.call op).2 = (Fifo.spec (contents s) op).2 := by
  cases op with
  | put q v =>
      refine ⟨?_, rfl⟩
      simp only [call, enqueue, contents_insert, queue_fst, queue_snd, Fifo.spec]
  | take q =>
      have hsnd := queue_snd s q
      have hfst := queue_fst s q
      simp only [call, dequeue, Fifo.spec]
      rw [hsnd]
      cases hq : contents s q with
      | nil =>
          refine ⟨?_, rfl⟩
          show contents (s.queue q).1 = Function.update (contents s) q []
          rw [hfst, ← hq, Function.update_eq_self]
      | cons x xs =>
          refine ⟨?_, rfl⟩
          show contents (AList.insert q xs (s.queue q).1) = Function.update (contents s) q xs
          rw [contents_insert, hfst]
  | size q =>
      simp only [call, length, Fifo.spec, queue_fst, queue_snd, and_self]

end InMemory

/-- **The in-memory backend** implements the queues. -/
def memoryQueues : Fifo.System String String where
  State := InMemory
  call := InMemory.call
  view := InMemory.contents
  view_call s op := (s.call_contents op).1
  answer_call s op := (s.call_contents op).2

/-! ## §3. A Redis server. -/

/-- A command that is refused, or a connection that failed. -/
structure RedisError where
  message : String
  deriving DecidableEq, Repr

/-- What a server's commands do to the value of their key: `RPUSH`, `LPOP`, `LLEN`, `SETEX`
with its seconds, `GET` and `DEL`; and what some seconds do to a value. -/
structure RedisServer where
  Value : Type
  rpush : String → Value → Except RedisError Value
  lpop : Value → Except RedisError (Value × Option String)
  llen : Value → Except RedisError Nat
  setex : Nat → String → Value → Except RedisError Value
  get : Value → Except RedisError (Option String)
  del : Value → Except RedisError Value
  elapse : Nat → Value → Value

/-- The values of the keys; a key that is not there has one of them too. -/
abbrev RedisServer.State (R : RedisServer) := String → R.Value

/-- **What is documented of the list commands**, on a value that is a list; a key that is not
there has the empty one. -/
structure ListCommands (R : RedisServer) where
  absent : R.Value
  items : R.Value → Option (List String)
  items_absent : items absent = some []
  rpush : ∀ x v xs, items v = some xs →
    ∃ v', R.rpush x v = .ok v' ∧ items v' = some (xs ++ [x])
  lpop : ∀ v xs, items v = some xs →
    ∃ v', R.lpop v = .ok (v', xs.head?) ∧ items v' = some xs.tail
  llen : ∀ v xs, items v = some xs → R.llen v = .ok xs.length

/-! ## §4. The Redis backend. -/

/-- `_key`. -/
def queueKey (queueName : String) : String := "obr:queue:" ++ queueName

/-- Queues have different keys. -/
theorem queueKey_inj {q q' : String} : queueKey q = queueKey q' ↔ q = q' := by
  constructor
  · intro h
    have hchars := congrArg String.toList h
    simp only [queueKey, String.toList_append, List.append_cancel_left_eq] at hchars
    exact String.toList_inj.mp hchars
  · rintro rfl
    rfl

/-- `enqueue`, `dequeue` and `length` of `RedisCoordinationBackend`. -/
def RedisServer.queueCall (R : RedisServer) (s : R.State) :
    Fifo.Op String String → Except RedisError (R.State × Fifo.Answer String)
  | .put q v =>
      (R.rpush v (s (queueKey q))).map fun v => (Function.update s (queueKey q) v, .done)
  | .take q =>
      (R.lpop (s (queueKey q))).map fun r => (Function.update s (queueKey q) r.1, .taken r.2)
  | .size q => (R.llen (s (queueKey q))).map fun n => (s, .length n)

namespace ListCommands

variable {R : RedisServer} (L : ListCommands R)

/-- Every queue's key has a list. -/
def Queues (s : R.State) : Prop := ∀ q, (L.items (s (queueKey q))).isSome

/-- What a queue has. -/
def contents (s : R.State) (q : String) : List String := (L.items (s (queueKey q))).getD []

/-- What the specification says of a call. -/
structure Serves (s : R.State) (op : Fifo.Op String String)
    (r : R.State × Fifo.Answer String) : Prop where
  queues : L.Queues r.1
  contents : L.contents r.1 = (Fifo.spec (L.contents s) op).1
  answer : r.2 = (Fifo.spec (L.contents s) op).2

variable {L} {s : R.State}

/-- Every key of a queue holds the items of the queue. -/
theorem items_contents (h : L.Queues s) (q : String) :
    L.items (s (queueKey q)) = some (L.contents s q) := by
  obtain ⟨xs, hxs⟩ := Option.isSome_iff_exists.mp (h q)
  rw [contents, hxs]
  rfl

/-- A list put under the key of a queue. -/
theorem Queues.set (h : L.Queues s) {q : String} {v : R.Value} {xs : List String}
    (hv : L.items v = some xs) :
    L.Queues (Function.update s (queueKey q) v) ∧
      L.contents (Function.update s (queueKey q) v) =
        Function.update (L.contents s) q xs := by
  constructor
  · intro q'
    by_cases hq : q' = q
    · subst hq
      simp [hv]
    · rw [Function.update_of_ne (mt queueKey_inj.mp hq)]
      exact h q'
  · funext q'
    unfold contents
    by_cases hq : q' = q
    · subst hq
      simp [hv]
    · rw [Function.update_of_ne (mt queueKey_inj.mp hq), Function.update_of_ne hq]

/-- **What a call does**: on queues it is not refused. -/
theorem call_serves (h : L.Queues s) (op : Fifo.Op String String) :
    ∃ r, R.queueCall s op = .ok r ∧ L.Serves s op r := by
  cases op with
  | put q v =>
      obtain ⟨v', hv', hitems⟩ := L.rpush v _ _ (items_contents h q)
      obtain ⟨hqueues, hcontents⟩ := h.set (q := q) hitems
      exact ⟨_, by rw [RedisServer.queueCall, hv']; rfl, hqueues, hcontents, rfl⟩
  | take q =>
      obtain ⟨v', hv', hitems⟩ := L.lpop _ _ (items_contents h q)
      obtain ⟨hqueues, hcontents⟩ := h.set (q := q) hitems
      exact ⟨_, by rw [RedisServer.queueCall, hv']; rfl, hqueues, hcontents, rfl⟩
  | size q =>
      have hlength := L.llen _ _ (items_contents h q)
      exact ⟨_, by rw [RedisServer.queueCall, hlength]; rfl, h, rfl, rfl⟩

variable (L) in
/-- A server whose queue keys have lists. -/
structure QueueServer where
  state : R.State
  queues : L.Queues state

/-- A call on a server whose queue keys have lists. -/
def QueueServer.call (s : L.QueueServer) (op : Fifo.Op String String) :
    L.QueueServer × Fifo.Answer String :=
  match h : R.queueCall s.state op with
  | .ok r => (⟨r.1, by
      obtain ⟨r', hr', hserves⟩ := call_serves s.queues op
      obtain rfl := Except.ok.inj (h.symm.trans hr')
      exact hserves.queues⟩, r.2)
  | .error _ => (s, .done)

/-- It is what the server answers. -/
theorem QueueServer.call_ok (s : L.QueueServer) (op : Fifo.Op String String) :
    R.queueCall s.state op = .ok ((s.call op).1.state, (s.call op).2) := by
  obtain ⟨r, hr, -⟩ := call_serves s.queues op
  unfold QueueServer.call
  split
  next r' h => exact h
  next e h => rw [hr] at h; cases h

variable (L) in
/-- **The Redis backend** implements the queues. -/
def redisQueues : Fifo.System String String where
  State := L.QueueServer
  call := QueueServer.call
  view s := L.contents s.state
  view_call s op := by
    obtain ⟨r, hr, hserves⟩ := call_serves s.queues op
    obtain rfl := Except.ok.inj (hr.symm.trans (s.call_ok op))
    exact hserves.contents
  answer_call s op := by
    obtain ⟨r, hr, hserves⟩ := call_serves s.queues op
    obtain rfl := Except.ok.inj (hr.symm.trans (s.call_ok op))
    exact hserves.answer

end ListCommands

/-! ## §5. Which backend. -/

/-- The backends. -/
inductive Backend where
  | redis
  | memory
  deriving DecidableEq, Repr

section

variable {R : RedisServer} (L : ListCommands R)

/-- The queues of a backend. -/
def Backend.queues : Backend → Fifo.System String String
  | .redis => L.redisQueues
  | .memory => memoryQueues

/-- A backend without items: a fresh process, or a server without keys. -/
def Backend.empty : (b : Backend) → (b.queues L).State
  | .redis => ⟨fun _ => L.absent, fun _ => by rw [L.items_absent]; rfl⟩
  | .memory => (∅ : InMemory)

/-- Both backends start without an item. -/
theorem Backend.view_empty (b : Backend) (q : String) : (b.queues L).view (b.empty L) q = [] := by
  cases b with
  | redis => exact congrArg (Option.getD · []) L.items_absent
  | memory => rfl

end

end Coordination

end Gateway

end ObligationRuntime
