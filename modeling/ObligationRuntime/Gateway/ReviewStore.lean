/-
  ObligationRuntime.Gateway.ReviewStore — the review store: review_store.py and
  review_store_postgres.py.

  A store keeps, for each thread, the payload of its review and the decision on it.
  `ReviewStoreProtocol` is the protocol of the two backends: its operations, and
  what they do to the records that `get` reads.  The in-memory backend is a
  dictionary; the Postgres backend is a table whose rows have different keys.

  What the `jsonb` column makes of a payload is a step of its own, `toJsonb`: a table
  with the column answers like a store that keeps the protocol, up to the order of keys
  (`ReviewBackends.protocol_agrees`).

  Main results: `memoryStore`, `postgresStore` — both backends keep the protocol.
-/
import ObligationRuntime.Lib.KeyOrder
import ObligationRuntime.Runtime.InitialState

namespace ObligationRuntime

open Py

namespace Gateway

/-! ## §1. Records. -/

/-- `{"payload": .., "decision": ..}`. -/
structure ReviewRecord where
  payload : Dict
  decision : Option Approval := none
  deriving DecidableEq

/-- The record with a decision. -/
def ReviewRecord.decide (r : ReviewRecord) (decision : Approval) : ReviewRecord :=
  { r with decision := some decision }

@[simp] theorem ReviewRecord.decide_decision (r : ReviewRecord) (d : Approval) :
    (r.decide d).decision = some d := rfl

@[simp] theorem ReviewRecord.decide_payload (r : ReviewRecord) (d : Approval) :
    (r.decide d).payload = r.payload := rfl

/-- What `get_payload` shows of a record: a decision replaces the status. -/
def ReviewRecord.shown (r : ReviewRecord) : Dict :=
  match r.decision with
  | none => r.payload
  | some d => r.payload.set "status" (.str d.text)

/-! ## §2. The protocol. -/

/-- `ReviewStoreProtocol`, with what its operations do to the records. -/
structure ReviewStoreProtocol where
  State : Type
  empty : State
  put : State → String → Dict → State
  get : State → String → Option ReviewRecord
  setDecision : State → String → Approval → State × Bool
  delete : State → String → State × Bool
  get_empty : ∀ t, get empty t = none
  get_put : ∀ s t p u, get (put s t p) u = if u = t then some ⟨p, none⟩ else get s u
  setDecision_found : ∀ s t d, (setDecision s t d).2 = (get s t).isSome
  get_setDecision : ∀ s t d u,
    get (setDecision s t d).1 u = if u = t then (get s t).map (·.decide d) else get s u
  delete_found : ∀ s t, (delete s t).2 = (get s t).isSome
  get_delete : ∀ s t u, get (delete s t).1 u = if u = t then none else get s u

/-- `get_payload`. -/
def ReviewStoreProtocol.getPayload (S : ReviewStoreProtocol) (s : S.State) (t : String) :
    Option Dict :=
  (S.get s t).map ReviewRecord.shown

/-! ## §3. In memory. -/

/-- `self._store`. -/
abbrev MemoryStore := AList fun _ : String => ReviewRecord

namespace MemoryStore

/-- `put`. -/
def put (s : MemoryStore) (t : String) (payload : Dict) : MemoryStore :=
  AList.insert t ⟨payload, none⟩ s

/-- `get`. -/
def get (s : MemoryStore) (t : String) : Option ReviewRecord := s.lookup t

/-- `set_decision`. -/
def setDecision (s : MemoryStore) (t : String) (decision : Approval) : MemoryStore × Bool :=
  match s.lookup t with
  | none => (s, false)
  | some r => (AList.insert t (r.decide decision) s, true)

/-- `delete`. -/
def delete (s : MemoryStore) (t : String) : MemoryStore × Bool :=
  match s.lookup t with
  | none => (s, false)
  | some _ => (s.erase t, true)

end MemoryStore

/-- **The in-memory backend** keeps the protocol. -/
def memoryStore : ReviewStoreProtocol where
  State := MemoryStore
  empty := ∅
  put := MemoryStore.put
  get := MemoryStore.get
  setDecision := MemoryStore.setDecision
  delete := MemoryStore.delete
  get_empty t := AList.lookup_empty t
  get_put s t p u := lookup_insert_ite s t u ⟨p, none⟩
  setDecision_found s t d := by
    unfold MemoryStore.setDecision MemoryStore.get
    cases s.lookup t <;> rfl
  get_setDecision s t d u := by
    unfold MemoryStore.setDecision MemoryStore.get
    cases h : s.lookup t with
    | none =>
        by_cases hu : u = t
        · subst hu
          simp [h]
        · simp [hu]
    | some r => exact lookup_insert_ite s t u (r.decide d)
  delete_found s t := by
    unfold MemoryStore.delete MemoryStore.get
    cases s.lookup t <;> rfl
  get_delete s t u := by
    unfold MemoryStore.delete MemoryStore.get
    cases h : s.lookup t with
    | some r => exact lookup_erase_ite s t u
    | none =>
        by_cases hu : u = t
        · subst hu
          simp [h]
        · simp [hu]

/-! ## §4. Postgres. -/

/-- A row of `obr_reviews`. -/
structure ReviewRow extends ReviewRecord where
  threadId : String

/-- The table `obr_reviews`: `thread_id` is its primary key. -/
structure ReviewTable where
  rows : List ReviewRow
  primaryKey : (rows.map ReviewRow.threadId).Nodup

namespace ReviewTable

/-- The row of a thread. -/
def row (s : ReviewTable) (t : String) : Option ReviewRow := s.rows.find? fun r => r.threadId = t

/-- `SET .. WHERE thread_id = ..`, on one row. -/
def setWhere (t : String) (f : ReviewRecord → ReviewRecord) (r : ReviewRow) : ReviewRow :=
  if r.threadId = t then { r with toReviewRecord := f r.toReviewRecord } else r

/-- An update leaves the thread of a row. -/
@[simp] theorem setWhere_threadId (t : String) (f : ReviewRecord → ReviewRecord) (r : ReviewRow) :
    (setWhere t f r).threadId = r.threadId := by
  unfold setWhere
  split <;> rfl

/-- `UPDATE obr_reviews SET .. WHERE thread_id = ..`, with the number of rows. -/
def update (s : ReviewTable) (t : String) (f : ReviewRecord → ReviewRecord) : ReviewTable × Nat :=
  ({ rows := s.rows.map (setWhere t f)
     primaryKey := by simpa [Function.comp_def] using s.primaryKey },
    s.rows.countP fun r => r.threadId = t)

/-- `INSERT INTO obr_reviews ..`, for a key that is not there. -/
def insert (s : ReviewTable) (t : String) (payload : Dict) (h : s.row t = none) : ReviewTable where
  rows := s.rows ++ [{ payload, threadId := t }]
  primaryKey := by
    have hnew : t ∉ s.rows.map ReviewRow.threadId := by
      intro hmem
      obtain ⟨r, hr, rfl⟩ := List.mem_map.mp hmem
      simpa using List.find?_eq_none.mp h r hr
    simp only [List.map_append, List.map_cons, List.map_nil]
    exact List.nodup_append.mpr ⟨s.primaryKey, by simp, fun a ha b hb => by
      obtain rfl := List.mem_singleton.mp hb
      rintro rfl
      exact hnew ha⟩

/-- `put`: on a conflict the payload is replaced and the decision cleared. -/
def put (s : ReviewTable) (t : String) (payload : Dict) : ReviewTable :=
  match h : s.row t with
  | none => s.insert t payload h
  | some _ => (s.update t fun _ => ⟨payload, none⟩).1

/-- `get`. -/
def get (s : ReviewTable) (t : String) : Option ReviewRecord :=
  (s.row t).map ReviewRow.toReviewRecord

/-- `set_decision`: `rowcount > 0`. -/
def setDecision (s : ReviewTable) (t : String) (decision : Approval) : ReviewTable × Bool :=
  let (s', n) := s.update t (·.decide decision)
  (s', decide (n > 0))

/-- `DELETE FROM obr_reviews WHERE thread_id = ..`. -/
def delete (s : ReviewTable) (t : String) : ReviewTable × Bool :=
  ({ rows := s.rows.filter fun r => decide (r.threadId ≠ t)
     primaryKey := s.primaryKey.sublist (List.filter_sublist.map _) },
    decide ((s.rows.countP fun r => r.threadId = t) > 0))

/-- What an update leaves in the row of a thread. -/
theorem get_update (s : ReviewTable) (t u : String) (f : ReviewRecord → ReviewRecord) :
    (s.update t f).1.get u = if u = t then (s.get t).map f else s.get u := by
  show ((s.rows.map (setWhere t f)).find? fun r => r.threadId = u).map _ =
    if u = t then ((s.rows.find? fun r => r.threadId = t).map _).map f
    else (s.rows.find? fun r => r.threadId = u).map _
  induction s.rows with
  | nil => simp
  | cons r rows ih =>
      by_cases hru : r.threadId = u
      · -- This is the row of the thread: it is set, or it is another thread's.
        by_cases hu : u = t
        · simp [hru, hu, setWhere]
        · have hr : r.threadId ≠ t := fun h => hu (hru.symm.trans h)
          simp [hru, hu, setWhere]
      · by_cases hr : r.threadId = t
        · have hu : u ≠ t := fun h => hru (hr.trans h.symm)
          simpa [hru, hu] using ih
        · simpa [hru, hr] using ih

/-- Rows are counted exactly where there is one. -/
theorem count_pos_iff (s : ReviewTable) (t : String) :
    decide ((s.rows.countP fun r => r.threadId = t) > 0) = (s.get t).isSome := by
  unfold get row
  induction s.rows with
  | nil => rfl
  | cons r rows ih =>
      by_cases hr : r.threadId = t
      · simp [hr]
      · simpa [hr] using ih

/-- After a `put` the thread has that payload, and no decision. -/
theorem get_put (s : ReviewTable) (t : String) (p : Dict) (u : String) :
    (s.put t p).get u = if u = t then some ⟨p, none⟩ else s.get u := by
  unfold put
  split
  next h =>
    unfold get row insert
    rw [List.find?_append]
    by_cases hu : u = t
    · subst hu
      have hnone : (s.rows.find? fun r => r.threadId = u) = none := h
      simp [hnone]
    · have hne : t ≠ u := fun e => hu e.symm
      simp [hu, hne]
  next r h =>
    rw [get_update]
    have hget : s.get t = some r.toReviewRecord := by
      rw [get, h]
      rfl
    by_cases hu : u = t
    · simp [hu, hget]
    · simp [hu]

/-- After a `DELETE` the thread has no row. -/
theorem get_delete (s : ReviewTable) (t u : String) :
    (s.delete t).1.get u = if u = t then none else s.get u := by
  unfold get row delete
  rw [List.find?_filter]
  by_cases hu : u = t
  · subst hu
    simp
  · have hsame : (fun r : ReviewRow => decide (r.threadId ≠ t) && decide (r.threadId = u)) =
        fun r => decide (r.threadId = u) := by
      funext r
      by_cases hr : r.threadId = u
      · simp [hr, hu]
      · simp [hr]
    simp only [hu, if_false]
    rw [← hsame]
    simp

end ReviewTable

/-- **The Postgres backend** keeps the protocol, on payloads as its column has them. -/
def postgresStore : ReviewStoreProtocol where
  State := ReviewTable
  empty := ⟨[], by simp⟩
  put := ReviewTable.put
  get := ReviewTable.get
  setDecision := ReviewTable.setDecision
  delete := ReviewTable.delete
  get_empty _ := rfl
  get_put := ReviewTable.get_put
  setDecision_found s t _ := ReviewTable.count_pos_iff s t
  get_setDecision s t d u := ReviewTable.get_update s t u (·.decide d)
  delete_found s t := ReviewTable.count_pos_iff s t
  get_delete := ReviewTable.get_delete

/-! ## §5. The `jsonb` column. -/

/-- Text without a NUL. -/
def noNulText (s : String) : Bool := !s.toList.contains '\x00'

/-- No text of the value, its keys included, has a NUL. -/
def noNul : Json → Bool
  | .str s => noNulText s
  | .obj d => (Dict.keys d).all noNulText
  | _ => true

/-- What a `jsonb` column keeps of a mapping; `order` is its order of keys. -/
def toJsonb (order : String → String → Bool) (d : Dict) : Except PyError Dict :=
  if (Json.obj d).all noNul then .ok (Dict.sortBy order (Json.sortKeysDict order d))
  else .error (.valueError "unsupported Unicode escape sequence")

/-- `put`, through the column. -/
def ReviewTable.putJsonb (order : String → String → Bool) (s : ReviewTable) (t : String)
    (payload : Dict) : Except PyError ReviewTable :=
  (toJsonb order payload).map (s.put t)

/-! ## §6. The store of the gateway. -/

/-- `REVIEW_STORE`. -/
inductive ReviewStoreMode where
  | memory
  | postgres
  deriving DecidableEq, Repr

/-- `_review_store`. -/
def reviewStore : ReviewStoreMode → ReviewStoreProtocol
  | .memory => memoryStore
  | .postgres => postgresStore

end Gateway

end ObligationRuntime
