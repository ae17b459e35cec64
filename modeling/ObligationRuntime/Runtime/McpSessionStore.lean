/-
  ObligationRuntime.Runtime.McpSessionStore — the session stores of the MCP adapter:
  mcp_session_store.py.

  A store keeps the record of each session, and finds it by the session's id or by the
  id of its thread.  The in-memory and the Redis backend write the record under both
  keys; the Postgres backend has a row for each session, and a query that looks for the
  key in both columns and takes one row.

  Connections neither fail nor do keys expire here.
-/
import ObligationRuntime.Lib.JsonText
import Mathlib.Data.List.AList

namespace ObligationRuntime

open Py

namespace Mcp

/-! ## §1. Records. -/

/-- The record of a session. -/
structure SessionRecord where
  sessionId : String
  threadId : Option String
  fingerprintId : String
  workspacePath : String
  deriving DecidableEq, Repr

/-- The id, when it is not empty (`if thread_id:`). -/
def truthy (id : Option String) : Option String := id.filter (· ≠ "")

/-- A truthy id is not empty. -/
theorem truthy_ne {id : Option String} {t : String} (h : truthy id = some t) : t ≠ "" := by
  have hmem := Option.filter_eq_some_iff.mp h
  simpa using hmem.2

/-- The thread under which the record is written as well. -/
def SessionRecord.thread (r : SessionRecord) : Option String := truthy r.threadId

/-- The dictionary of a record. -/
def SessionRecord.dict (r : SessionRecord) : Dict :=
  [("session_id", .str r.sessionId),
    ("thread_id", match r.threadId with | some t => .str t | none => .null),
    ("fingerprint_id", .str r.fingerprintId),
    ("workspace_path", .str r.workspacePath)]

/-! ## §2. In memory. -/

/-- `InMemoryMCPSessionStore`: `self._data`. -/
abbrev InMemoryStore := AList fun _ : String => SessionRecord

namespace InMemoryStore

/-- `get`. -/
def get (s : InMemoryStore) (key : String) : Option SessionRecord := s.lookup key

/-- `set`. -/
def set (s : InMemoryStore) (r : SessionRecord) : InMemoryStore :=
  let s := AList.insert r.sessionId r s
  -- An older thread of the session keeps its entry.
  match r.thread with
  | some t => AList.insert t r s
  | none => s

/-- `delete`. -/
def delete (s : InMemoryStore) (sessionId : String) : InMemoryStore :=
  let rec? := s.lookup sessionId
  let s := s.erase sessionId
  -- Whichever session the thread's entry is of by now.
  match rec?.bind SessionRecord.thread with
  | some t => s.erase t
  | none => s

end InMemoryStore

/-! ## §3. Redis. -/

/-- `RedisMCPSessionStore`: the texts of the server, by their keys. -/
abbrev RedisStore := AList fun _ : String => String

namespace RedisStore

/-- `f"obr:mcp:{key}"`. -/
def redisKey (key : String) : String := "obr:mcp:" ++ key

/-- `rec.get(name)`, where it is a text. -/
def member (name : String) (rec : Json) : Option String :=
  match rec.dict?.bind (·.get? name) with
  | some (.str t) => some t
  | _ => none

/-- `get`: a text that is not JSON is no record. -/
def get (F : JsonText.FloatText) (s : RedisStore) (key : String) : Option Json :=
  match s.lookup (redisKey key) with
  | none => none
  | some raw => (JsonText.loads F raw).toOption

/-- `set`. -/
def set (F : JsonText.FloatText) (s : RedisStore) (r : SessionRecord) : RedisStore :=
  let val := JsonText.dumps F JsonText.spaced (.obj r.dict)
  let s := AList.insert (redisKey r.sessionId) val s
  match r.thread with
  | some t => AList.insert (redisKey t) val s
  | none => s

/-- `delete`. -/
def delete (F : JsonText.FloatText) (s : RedisStore) (sessionId : String) : RedisStore :=
  let rec? := s.get F sessionId
  let s := s.erase (redisKey sessionId)
  match truthy (rec?.bind (member "thread_id")) with
  | some t => s.erase (redisKey t)
  | none => s

end RedisStore

/-! ## §4. Postgres. -/

/-- A row of `obr_mcp_session`. -/
structure SessionRow where
  sessionId : String
  threadId : String
  fingerprintId : String
  workspacePath : String
  deriving DecidableEq, Repr

/-- The values of an `INSERT`: `thread_id or ""`. -/
def SessionRow.of (r : SessionRecord) : SessionRow where
  sessionId := r.sessionId
  threadId := r.thread.getD ""
  fingerprintId := r.fingerprintId
  workspacePath := r.workspacePath

/-- `PostgresMCPSessionStore`: the table `obr_mcp_session`, whose primary key is
`session_id`.  A table that is not there yet answers like one without rows. -/
structure PostgresStore where
  rows : List SessionRow
  primaryKey : (rows.map SessionRow.sessionId).Nodup

namespace PostgresStore

/-- The table before the first `set`. -/
def empty : PostgresStore := ⟨[], List.nodup_nil⟩

/-- `WHERE session_id = key OR thread_id = key`. -/
def Matches (key : String) (row : SessionRow) : Prop := row.sessionId = key ∨ row.threadId = key

instance (key : String) (row : SessionRow) : Decidable (Matches key row) :=
  inferInstanceAs (Decidable (_ ∨ _))

/-- What `get` may return: with `LIMIT 1` and no order, any row that matches. -/
def Gets (s : PostgresStore) (key : String) : Option SessionRow → Prop
  | some row => row ∈ s.rows ∧ Matches key row
  | none => ∀ row ∈ s.rows, ¬ Matches key row

/-- `DO UPDATE SET ..`, on one row. -/
def replaceRow (new row : SessionRow) : SessionRow :=
  if row.sessionId = new.sessionId then new else row

/-- An upsert leaves the id of the row. -/
@[simp] theorem replaceRow_sessionId (new row : SessionRow) :
    (replaceRow new row).sessionId = row.sessionId := by
  unfold replaceRow
  split
  next h => exact h.symm
  next => rfl

/-- `set`: `INSERT .. ON CONFLICT (session_id) DO UPDATE`. -/
def set (s : PostgresStore) (r : SessionRecord) : PostgresStore :=
  if h : r.sessionId ∈ s.rows.map SessionRow.sessionId then
    { rows := s.rows.map (replaceRow (.of r))
      primaryKey := by simpa [Function.comp_def] using s.primaryKey }
  else
    { rows := s.rows ++ [.of r]
      primaryKey := by
        rw [List.map_append, List.map_singleton]
        exact List.nodup_append.mpr ⟨s.primaryKey, List.nodup_singleton _, fun a ha b hb => by
          rw [List.mem_singleton.mp hb]
          rintro rfl
          exact h ha⟩ }

/-- `delete`. -/
def delete (s : PostgresStore) (sessionId : String) : PostgresStore where
  rows := s.rows.filter fun row => decide (row.sessionId ≠ sessionId)
  primaryKey := s.primaryKey.sublist (List.filter_sublist.map _)

end PostgresStore

/-! ## §5. What the operations do to the records that are found. -/

/-- `set` in memory: the record is found by both its keys. -/
theorem InMemoryStore.get_set (s : InMemoryStore) (r : SessionRecord) (key : String) :
    (s.set r).get key =
      if r.sessionId = key ∨ r.thread = some key then some r else s.get key := by
  unfold InMemoryStore.set InMemoryStore.get
  cases ht : r.thread with
  | none => simp [lookup_insert_ite, eq_comm]
  | some t =>
      simp only [lookup_insert_ite, Option.some.injEq]
      by_cases h : key = t
      · simp [h]
      · by_cases h' : key = r.sessionId
        · simp [h']
        · simp [h, h', Ne.symm h, Ne.symm h']

/-- `delete` in memory: the thread of the record that was found is gone as well. -/
theorem InMemoryStore.get_delete (s : InMemoryStore) (sessionId key : String) :
    (s.delete sessionId).get key =
      if key = sessionId ∨ (s.get sessionId).bind SessionRecord.thread = some key then none
      else s.get key := by
  unfold InMemoryStore.delete InMemoryStore.get
  dsimp only
  cases (s.lookup sessionId).bind SessionRecord.thread with
  | none => simp [lookup_erase_ite]
  | some t =>
      simp only [lookup_erase_ite, Option.some.injEq]
      by_cases h : key = t
      · simp [h]
      · simp [h, Ne.symm h]

/-- The rows after a `set`. -/
theorem PostgresStore.mem_set (s : PostgresStore) (r : SessionRecord) (row : SessionRow) :
    row ∈ (s.set r).rows ↔ row = .of r ∨ row ∈ s.rows ∧ row.sessionId ≠ r.sessionId := by
  unfold PostgresStore.set
  split
  next h =>
    show row ∈ s.rows.map (replaceRow (.of r)) ↔ _
    rw [List.mem_map]
    constructor
    · rintro ⟨old, hold, rfl⟩
      unfold replaceRow
      split
      next => exact .inl rfl
      next hne => exact .inr ⟨hold, hne⟩
    · rintro (rfl | ⟨hrow, hne⟩)
      · obtain ⟨old, hold, hid⟩ := List.mem_map.mp h
        exact ⟨old, hold, if_pos hid⟩
      · exact ⟨row, hrow, if_neg hne⟩
  next h =>
    show row ∈ s.rows ++ [.of r] ↔ _
    rw [List.mem_append, List.mem_singleton, or_comm]
    refine or_congr_right ⟨fun hrow => ⟨hrow, fun hid => ?_⟩, And.left⟩
    exact h (List.mem_map.mpr ⟨row, hrow, hid⟩)

/-- The rows after a `DELETE`. -/
theorem PostgresStore.mem_delete (s : PostgresStore) (sessionId : String) (row : SessionRow) :
    row ∈ (s.delete sessionId).rows ↔ row ∈ s.rows ∧ row.sessionId ≠ sessionId := by
  simp [PostgresStore.delete]

/-! ## §6. Redis answers like memory. -/

namespace RedisStore

variable {F : JsonText.FloatText}

/-- Different keys stay different. -/
theorem redisKey_inj {k k' : String} : redisKey k = redisKey k' ↔ k = k' := by
  constructor
  · intro h
    have hchars := congrArg String.toList h
    simp only [redisKey, String.toList_append, List.append_cancel_left_eq] at hchars
    exact String.toList_inj.mp hchars
  · rintro rfl
    rfl

/-- A record is read back from its text. -/
theorem loads_record (r : SessionRecord) :
    JsonText.loads F (JsonText.dumps F JsonText.spaced (.obj r.dict)) = .ok (.obj r.dict) := by
  refine JsonText.loads_dumps ?_ ?_
  · show Json.UniqueKeys (.obj r.dict)
    unfold Json.UniqueKeys SessionRecord.dict
    cases r.threadId <;> rfl
  · unfold SessionRecord.dict
    cases r.threadId <;> rfl

/-- The thread of a record is read back from its mapping. -/
theorem member_thread (r : SessionRecord) : member "thread_id" (.obj r.dict) = r.threadId := by
  unfold member SessionRecord.dict
  cases r.threadId <;> rfl

@[simp] theorem member_session (r : SessionRecord) :
    member "session_id" (.obj r.dict) = some r.sessionId := rfl

/-- **Redis mirrors memory**: under each key the dictionary of the same record. -/
def Mirrors (F : JsonText.FloatText) (s : RedisStore) (m : InMemoryStore) : Prop :=
  ∀ key, s.get F key = (m.get key).map fun r => .obj r.dict

/-- The empty stores mirror each other. -/
theorem mirrors_empty : Mirrors F ∅ ∅ := by
  intro key
  rfl

/-- What is read under a key after a text is written. -/
theorem get_insert (s : RedisStore) (r : SessionRecord) (k key : String) :
    get F (AList.insert (redisKey k) (JsonText.dumps F JsonText.spaced (.obj r.dict)) s) key =
      if key = k then some (.obj r.dict) else s.get F key := by
  unfold get
  rw [lookup_insert_ite]
  by_cases h : key = k
  · subst h
    simp only [if_true]
    rw [loads_record]
    rfl
  · have hne : ¬ redisKey key = redisKey k := fun he => h (redisKey_inj.mp he)
    rw [if_neg hne, if_neg h]

/-- What is found after a key is deleted. -/
theorem get_erase (s : RedisStore) (k key : String) :
    get F (s.erase (redisKey k)) key = if key = k then none else s.get F key := by
  unfold get
  rw [lookup_erase_ite]
  by_cases h : key = k
  · subst h
    simp
  · have hne : ¬ redisKey key = redisKey k := fun he => h (redisKey_inj.mp he)
    rw [if_neg hne, if_neg h]

/-- A `set` in both keeps them so, -/
theorem Mirrors.set {s : RedisStore} {m : InMemoryStore} (h : Mirrors F s m) (r : SessionRecord) :
    Mirrors F (s.set F r) (m.set r) := by
  intro key
  rw [InMemoryStore.get_set]
  unfold RedisStore.set
  cases ht : r.thread with
  | none =>
      simp only [get_insert, h key]
      by_cases hk : key = r.sessionId
      · simp [hk]
      · simp [hk, Ne.symm hk]
  | some t =>
      simp only [get_insert, h key, Option.some.injEq]
      by_cases hk : key = t
      · simp [hk]
      · by_cases hk' : key = r.sessionId
        · simp [hk']
        · simp [hk, hk', Ne.symm hk, Ne.symm hk']

/-- and so does a `delete`. -/
theorem Mirrors.delete {s : RedisStore} {m : InMemoryStore} (h : Mirrors F s m)
    (sessionId : String) : Mirrors F (s.delete F sessionId) (m.delete sessionId) := by
  intro key
  have hthread : truthy ((s.get F sessionId).bind (member "thread_id")) =
      (m.get sessionId).bind SessionRecord.thread := by
    rw [h sessionId]
    cases m.get sessionId with
    | none => rfl
    | some r => exact congrArg truthy (member_thread r)
  rw [InMemoryStore.get_delete]
  unfold RedisStore.delete
  simp only [hthread]
  cases (m.get sessionId).bind SessionRecord.thread with
  | none =>
      simp only [get_erase, h key]
      by_cases hk : key = sessionId
      · simp [hk]
      · simp [hk]
  | some t =>
      simp only [get_erase, h key, Option.some.injEq]
      by_cases hk : key = t
      · simp [hk]
      · by_cases hk' : key = sessionId
        · simp [hk']
        · simp [hk, hk', Ne.symm hk]

end RedisStore

end Mcp

end ObligationRuntime
