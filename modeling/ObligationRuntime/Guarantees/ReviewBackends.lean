/-
  ObligationRuntime.Guarantees.ReviewBackends — the two backends of the review store.

  In memory a payload is kept as it is; in Postgres it goes through a `jsonb` column,
  which refuses text with a NUL and keeps the keys of a mapping in an order of its own.
  So the records of the two are the same up to the order of keys, and every call keeps
  them so and answers alike.

  Main results:
    * `Agree.call` — what one call does to a store and a table that agree, and what they
      answer,
    * `protocol_agrees` — the table with its column answers like every store that keeps the
      protocol,
    * `backends_agree` — the answers of every sequence of calls.
-/
import ObligationRuntime.Gateway.ReviewStore
import ObligationRuntime.Lib.Transition
import Mathlib.Data.Option.Basic

namespace ObligationRuntime

open Py Transition

namespace Gateway

/-! ## §1. Payloads. -/

/-- A payload: a mapping whose keys are unique, with integer numbers and text without
NUL. -/
structure StoredPayload where
  dict : Dict
  uniqueKeys : (Json.obj dict).UniqueKeys
  noNul : (Json.obj dict).all noNul = true
  integral : (Json.obj dict).all Json.integral = true

/-- A payload is kept, up to the order of its keys. -/
theorem toJsonb_payload (order : String → String → Bool) (p : StoredPayload) :
    ∃ d, toJsonb order p.dict = .ok d ∧ Dict.Same p.dict d := by
  refine ⟨_, if_pos p.noNul, ?_⟩
  exact (Json.same_sortKeys p.uniqueKeys).symm

/-! ## §2. The calls. -/

/-- A call of the store. -/
inductive StoreCall where
  | put (threadId : String) (payload : StoredPayload)
  | get (threadId : String)
  | getPayload (threadId : String)
  | setDecision (threadId : String) (decision : Approval)
  | delete (threadId : String)

/-- What a call returns, or that it raised. -/
inductive StoreAnswer where
  | none
  | record (r : Option ReviewRecord)
  | payload (p : Option Dict)
  | flag (b : Bool)
  | raised (e : PyError)

/-- A call of a store that keeps the protocol. -/
def ReviewStoreProtocol.call (S : ReviewStoreProtocol) (s : S.State) :
    StoreCall → S.State × StoreAnswer
  | .put t p => (S.put s t p.dict, .none)
  | .get t => (s, .record (S.get s t))
  | .getPayload t => (s, .payload (S.getPayload s t))
  | .setDecision t d => ((S.setDecision s t d).1, .flag (S.setDecision s t d).2)
  | .delete t => ((S.delete s t).1, .flag (S.delete s t).2)

/-- A call of `InMemoryReviewStore`. -/
def MemoryStore.call (s : MemoryStore) : StoreCall → MemoryStore × StoreAnswer
  | .put t p => (s.put t p.dict, .none)
  | .get t => (s, .record (s.get t))
  | .getPayload t => (s, .payload ((s.get t).map ReviewRecord.shown))
  | .setDecision t d => ((s.setDecision t d).1, .flag (s.setDecision t d).2)
  | .delete t => ((s.delete t).1, .flag (s.delete t).2)

/-- A call of `PostgresReviewStore`. -/
def ReviewTable.call (order : String → String → Bool) (s : ReviewTable) :
    StoreCall → ReviewTable × StoreAnswer
  | .put t p =>
      match s.putJsonb order t p.dict with
      | .error e => (s, .raised e)
      | .ok s' => (s', .none)
  | .get t => (s, .record (s.get t))
  | .getPayload t => (s, .payload ((s.get t).map ReviewRecord.shown))
  | .setDecision t d => ((s.setDecision t d).1, .flag (s.setDecision t d).2)
  | .delete t => ((s.delete t).1, .flag (s.delete t).2)

theorem memoryStore_call (s : MemoryStore) (c : StoreCall) : memoryStore.call s c = s.call c := by
  cases c <;> rfl

/-! ## §3. Agreement. -/

/-- The same record, up to the order of keys. -/
def ReviewRecord.Same (r r' : ReviewRecord) : Prop :=
  Dict.Same r.payload r'.payload ∧ r.decision = r'.decision

/-- The same answer, up to the order of keys; no call raises. -/
inductive StoreAnswer.Same : StoreAnswer → StoreAnswer → Prop
  | none : Same .none .none
  | record {r r' : Option ReviewRecord} (h : Option.Rel ReviewRecord.Same r r') :
      Same (.record r) (.record r')
  | payload {p p' : Option Dict} (h : Option.Rel Dict.Same p p') : Same (.payload p) (.payload p')
  | flag (b : Bool) : Same (.flag b) (.flag b)

/-- A record of a store, and the same one in the table. -/
def Kept (r r' : ReviewRecord) : Prop := r.payload.keys.Nodup ∧ r.Same r'

/-- **A store and the table that agree**: on every thread, the same record or none. -/
def Agree (S : ReviewStoreProtocol) (s : S.State) (s' : ReviewTable) : Prop :=
  ∀ t, Option.Rel Kept (S.get s t) (s'.get t)

theorem rel_isSome {α β : Type} {R : α → β → Prop} {a : Option α} {b : Option β}
    (h : Option.Rel R a b) : a.isSome = b.isSome := by
  cases h <;> rfl

theorem rel_map {α β γ δ : Type} {R : α → β → Prop} {Q : γ → δ → Prop} {f : α → γ} {g : β → δ}
    (hfg : ∀ x y, R x y → Q (f x) (g y)) {a : Option α} {b : Option β} (h : Option.Rel R a b) :
    Option.Rel Q (a.map f) (b.map g) := by
  cases h with
  | none => exact .none
  | some hxy => exact .some (hfg _ _ hxy)

theorem Kept.decide {r r' : ReviewRecord} (h : Kept r r') (d : Approval) :
    Kept (r.decide d) (r'.decide d) :=
  ⟨h.1, h.2.1, rfl⟩

theorem Kept.same {r r' : ReviewRecord} (h : Kept r r') : r.Same r' := h.2

/-- The records show the same payload. -/
theorem Kept.shown {r r' : ReviewRecord} (h : Kept r r') : Dict.Same r.shown r'.shown := by
  obtain ⟨hkeys, hsame, hdecision⟩ := h
  unfold ReviewRecord.shown
  rw [← hdecision]
  cases r.decision with
  | none => exact hsame
  | some d => exact hsame.set hkeys "status" _

variable {S : ReviewStoreProtocol} {s : S.State} {s' : ReviewTable}

theorem agree_empty (S : ReviewStoreProtocol) : Agree S S.empty postgresStore.empty := by
  intro t
  have htable : ReviewTable.get postgresStore.empty t = none := postgresStore.get_empty t
  rw [S.get_empty t, htable]
  exact .none

theorem Agree.put (h : Agree S s s') (t : String) {p q : Dict} (hkeys : p.keys.Nodup)
    (hsame : Dict.Same p q) : Agree S (S.put s t p) (s'.put t q) := by
  intro u
  rw [S.get_put, ReviewTable.get_put]
  split
  · exact .some ⟨hkeys, hsame, rfl⟩
  · exact h u

theorem Agree.setDecision (h : Agree S s s') (t : String) (d : Approval) :
    Agree S (S.setDecision s t d).1 (s'.setDecision t d).1 := by
  intro u
  have htable : (s'.setDecision t d).1.get u = _ := postgresStore.get_setDecision s' t d u
  rw [S.get_setDecision, htable]
  split
  · exact rel_map (fun _ _ hkept => hkept.decide d) (h t)
  · exact h u

theorem Agree.delete (h : Agree S s s') (t : String) :
    Agree S (S.delete s t).1 (s'.delete t).1 := by
  intro u
  rw [S.get_delete, ReviewTable.get_delete]
  split
  · exact .none
  · exact h u

/-- **One call**, on a store and a table that agree: they agree again, and answer alike. -/
theorem Agree.call (h : Agree S s s') (order : String → String → Bool) (c : StoreCall) :
    Agree S (S.call s c).1 (s'.call order c).1 ∧
      StoreAnswer.Same (S.call s c).2 (s'.call order c).2 := by
  cases c with
  | put t p =>
      -- The table keeps the members of the payload in an order of its own.
      obtain ⟨d, hd, hsame⟩ := toJsonb_payload order p
      have hkeys : p.dict.keys.Nodup := (Json.uniqueKeys_obj.mp p.uniqueKeys).1
      have hput : s'.putJsonb order t p.dict = .ok (s'.put t d) := by
        rw [ReviewTable.putJsonb, hd]
        rfl
      simp only [ReviewTable.call, hput]
      exact ⟨h.put t hkeys hsame, .none⟩
  | get t =>
      refine ⟨h, .record ?_⟩
      simpa using rel_map (f := id) (g := id) (fun _ _ hkept => Kept.same hkept) (h t)
  | getPayload t =>
      exact ⟨h, .payload (rel_map (fun _ _ hkept => hkept.shown) (h t))⟩
  | setDecision t d =>
      refine ⟨h.setDecision t d, ?_⟩
      -- Both answer whether they had the thread, on which they agree.
      have htable : (s'.setDecision t d).2 = (s'.get t).isSome :=
        postgresStore.setDecision_found s' t d
      show StoreAnswer.Same (.flag (S.setDecision s t d).2) (.flag (s'.setDecision t d).2)
      rw [S.setDecision_found, htable, rel_isSome (h t)]
      exact .flag _
  | delete t =>
      refine ⟨h.delete t, ?_⟩
      have htable : (s'.delete t).2 = (s'.get t).isSome := postgresStore.delete_found s' t
      show StoreAnswer.Same (.flag (S.delete s t).2) (.flag (s'.delete t).2)
      rw [S.delete_found, htable, rel_isSome (h t)]
      exact .flag _

/-! ## §4. Sequences of calls. -/

/-- **The table with its column answers like every store that keeps the protocol**, so what
is said of `postgresStore` holds of it up to the order of keys. -/
theorem protocol_agrees (S : ReviewStoreProtocol) (order : String → String → Bool)
    (calls : List StoreCall) :
    List.Forall₂ StoreAnswer.Same (answers S.call S.empty calls)
      (answers (ReviewTable.call order) postgresStore.empty calls) := by
  have hcall : ∀ s s' c, Agree S s s' → Agree S (S.call s c).1 (s'.call order c).1 ∧
      StoreAnswer.Same (S.call s c).2 (s'.call order c).2 := fun _ _ c h => h.call order c
  exact answers_simulation hcall (agree_empty S) calls

/-- **The backends agree**: every sequence of calls is answered alike, whatever the order
in which the table keeps its keys. -/
theorem backends_agree (order : String → String → Bool) (calls : List StoreCall) :
    List.Forall₂ StoreAnswer.Same (answers MemoryStore.call ∅ calls)
      (answers (ReviewTable.call order) postgresStore.empty calls) := by
  have hcall : MemoryStore.call = memoryStore.call := by
    funext s c
    exact (memoryStore_call s c).symm
  rw [hcall]
  exact protocol_agrees memoryStore order calls

end Gateway

end ObligationRuntime
