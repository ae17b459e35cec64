/-
  ObligationRuntime.Guarantees.SessionStores — the three session stores, on one run.

  What the stores are for: a session's id finds the session, and a thread's id finds the
  session most recently set for the thread, as long as it is not deleted.

  The stores do that exactly as long as each `set` is careful.  A thread shared by two
  live sessions has one alias in memory and two rows in the table; a session that moves
  to another thread leaves its old alias behind.

  Main results:
    * `Consistent.call` — what a careful call keeps,
    * `stores_agree_iff` — the stores agree in every state of a run exactly when its
      calls are careful.
-/
import ObligationRuntime.Lib.AliasIndex
import ObligationRuntime.Lib.Transition
import ObligationRuntime.Runtime.McpSessionStore

namespace ObligationRuntime

open Py Transition

namespace Mcp

/-! ## §1. Runs. -/

/-- A call of a store. -/
inductive SessionCall where
  | set (record : SessionRecord)
  | delete (sessionId : String)
  deriving DecidableEq, Repr

/-- The keys of a record: the session, and its thread if it has one. -/
def recordKeys : AliasIndex.Keys String SessionRecord :=
  ⟨SessionRecord.sessionId, SessionRecord.thread⟩

/-- The three stores after the same calls; `live` are the sessions that were set and not
deleted, the most recently set first. -/
structure Stores where
  memory : InMemoryStore
  redis : RedisStore
  postgres : PostgresStore
  live : List SessionRecord

/-- The stores before the first call. -/
def Stores.empty : Stores := ⟨∅, ∅, .empty, []⟩

/-- A call, on each store. -/
def Stores.call (F : JsonText.FloatText) (s : Stores) : SessionCall → Stores
  | .set r =>
      { memory := s.memory.set r
        redis := s.redis.set F r
        postgres := s.postgres.set r
        live := AliasIndex.place recordKeys s.live r }
  | .delete id =>
      { memory := s.memory.delete id
        redis := s.redis.delete F id
        postgres := s.postgres.delete id
        live := AliasIndex.remove recordKeys s.live id }

/-- **What a key stands for**: the session of that id, or the most recent of that thread. -/
def resolve (live : List SessionRecord) (key : String) : Option String :=
  (AliasIndex.latest recordKeys live key).map SessionRecord.sessionId

/-- Each store resolves the key to the session it stands for; Postgres does with every
row that `get` may return. -/
structure AgreeAt (F : JsonText.FloatText) (s : Stores) (key : String) : Prop where
  memory : (s.memory.get key).map SessionRecord.sessionId = resolve s.live key
  redis : (s.redis.get F key).bind (RedisStore.member "session_id") = resolve s.live key
  postgres : ∀ row, s.postgres.Gets key row →
    row.map SessionRow.sessionId = resolve s.live key

/-- The session ids of the call are from `S`, and its thread ids from `T`. -/
def SessionCall.From (S T : String → Prop) : SessionCall → Prop
  | .set r => S r.sessionId ∧ ∀ t, r.threadId = some t → T t
  | .delete id => S id

/-- A careful call: a `set` takes no thread that another live session has, and takes its
own session from no other thread. -/
def Careful (s : Stores) : SessionCall → Prop
  | .set r => AliasIndex.Careful recordKeys s.live r
  | .delete _ => True

/-- The record has a thread, or else the empty id, which is the key of no thread. -/
def SessionRecord.Named (r : SessionRecord) : Prop := r.thread ≠ none ∨ r.sessionId = ""

/-- A `set` names a thread. -/
def SessionCall.Named : SessionCall → Prop
  | .set r => r.Named
  | .delete _ => True

instance (s : Stores) : ∀ c, Decidable (Careful s c)
  | .set r => inferInstanceAs (Decidable (AliasIndex.Careful recordKeys s.live r))
  | .delete _ => isTrue trivial

instance : ∀ c : SessionCall, Decidable c.Named
  | .set r => inferInstanceAs (Decidable (r.thread ≠ none ∨ r.sessionId = ""))
  | .delete _ => isTrue trivial

/-! ## §2. The invariant. -/

/-- The thread ids that are keys. -/
def threadKey (T : String → Prop) (key : String) : Prop := T key ∧ key ≠ ""

/-- **The invariant**: no two live sessions share a key, and every store has the live
sessions. -/
structure Consistent (F : JsonText.FloatText) (S T : String → Prop) (s : Stores) : Prop where
  sound : AliasIndex.Sound recordKeys S (threadKey T) s.live
  memory : AliasIndex.Indexes recordKeys s.memory.get s.live
  redis : RedisStore.Mirrors F s.redis s.memory
  postgres : ∀ row, row ∈ s.postgres.rows ↔ ∃ r ∈ s.live, row = .of r

section

variable {F : JsonText.FloatText} {S T : String → Prop} {s : Stores}

theorem consistent_empty : Consistent F S T Stores.empty where
  sound := AliasIndex.sound_nil
  memory := AliasIndex.indexes_nil
  redis := RedisStore.mirrors_empty
  postgres := by simp [Stores.empty, PostgresStore.empty]

theorem threadKey_disjoint (hdisj : ∀ k, S k → ¬ T k) (k : String) (h : S k) :
    ¬ threadKey T k := fun ht => hdisj k h ht.1

theorem threadKey_thread {r : SessionRecord} (h : ∀ t, r.threadId = some t → T t) (t : String)
    (ht : recordKeys.aliasOf r = some t) : threadKey T t :=
  ⟨h t (Option.filter_eq_some_iff.mp ht).1, truthy_ne ht⟩

theorem memory_set (m : InMemoryStore) (r : SessionRecord) :
    (m.set r).get = AliasIndex.putIndex recordKeys m.get r := by
  funext key
  rw [InMemoryStore.get_set]
  rfl

theorem memory_delete (m : InMemoryStore) (id : String) :
    (m.delete id).get = AliasIndex.removeIndex recordKeys m.get id := by
  funext key
  rw [InMemoryStore.get_delete]
  rfl

/-- The table has a row for each live session, whatever was set. -/
theorem postgres_set (h : ∀ row, row ∈ s.postgres.rows ↔ ∃ r ∈ s.live, row = .of r)
    (r : SessionRecord) (row : SessionRow) :
    row ∈ (s.postgres.set r).rows ↔
      ∃ x ∈ AliasIndex.place recordKeys s.live r, row = .of x := by
  rw [PostgresStore.mem_set, h row]
  constructor
  · rintro (rfl | ⟨⟨x, hx, rfl⟩, hne⟩)
    · exact ⟨r, AliasIndex.mem_place.mpr (.inl rfl), rfl⟩
    · exact ⟨x, AliasIndex.mem_place.mpr (.inr ⟨hx, hne⟩), rfl⟩
  · rintro ⟨x, hx, rfl⟩
    rcases AliasIndex.mem_place.mp hx with rfl | ⟨hlive, hne⟩
    · exact .inl rfl
    · exact .inr ⟨⟨x, hlive, rfl⟩, hne⟩

theorem postgres_delete (h : ∀ row, row ∈ s.postgres.rows ↔ ∃ r ∈ s.live, row = .of r)
    (id : String) (row : SessionRow) :
    row ∈ (s.postgres.delete id).rows ↔
      ∃ x ∈ AliasIndex.remove recordKeys s.live id, row = .of x := by
  rw [PostgresStore.mem_delete, h row]
  constructor
  · rintro ⟨⟨x, hx, rfl⟩, hne⟩
    exact ⟨x, AliasIndex.mem_remove.mpr ⟨hx, hne⟩, rfl⟩
  · rintro ⟨x, hx, rfl⟩
    obtain ⟨hlive, hne⟩ := AliasIndex.mem_remove.mp hx
    exact ⟨⟨x, hlive, rfl⟩, hne⟩

/-- **One call**: a careful one keeps the invariant. -/
theorem Consistent.call (h : Consistent F S T s) (hdisj : ∀ k, S k → ¬ T k) {c : SessionCall}
    (hc : c.From S T) (hcareful : Careful s c) : Consistent F S T (s.call F c) := by
  have hkeys := threadKey_disjoint hdisj
  cases c with
  | set r =>
      have halias := threadKey_thread hc.2
      refine ⟨h.sound.place hc.1 halias hcareful, ?_, h.redis.set r, postgres_set h.postgres r⟩
      show AliasIndex.Indexes recordKeys (s.memory.set r).get _
      rw [memory_set]
      exact h.memory.put h.sound hkeys hc.1 halias hcareful
  | delete id =>
      refine ⟨h.sound.remove id, ?_, h.redis.delete id, postgres_delete h.postgres id⟩
      show AliasIndex.Indexes recordKeys (s.memory.delete id).get _
      rw [memory_delete]
      exact h.memory.remove h.sound hkeys hc

/-! ## §3. Agreement. -/

/-- A row matches the keys of its record; the empty key it matches without a thread. -/
theorem matches_iff {r : SessionRecord} {key : String} (h : key ≠ "" ∨ r.Named) :
    PostgresStore.Matches key (.of r) ↔ recordKeys.Has r key := by
  show r.sessionId = key ∨ r.thread.getD "" = key ↔ r.sessionId = key ∨ r.thread = some key
  cases ht : r.thread with
  | some t => simp
  | none =>
      rcases h with hkey | hnamed
      · simp [Ne.symm hkey]
      · rcases hnamed with hthread | hid
        · exact absurd ht hthread
        · simp [hid]

/-- **The stores agree** on a key, unless it is empty and a live session has no thread. -/
theorem Consistent.agreeAt (h : Consistent F S T s) (hdisj : ∀ k, S k → ¬ T k) {key : String}
    (hkey : key ≠ "" ∨ ∀ r ∈ s.live, r.Named) : AgreeAt F s key := by
  have hkeys := threadKey_disjoint hdisj
  have hmemory : s.memory.get key = AliasIndex.latest recordKeys s.live key :=
    h.memory.eq_latest h.sound hkeys key
  -- The query of the table matches an absent thread to the empty key.
  have hmatches : ∀ r ∈ s.live, PostgresStore.Matches key (.of r) ↔ recordKeys.Has r key :=
    fun r hr => matches_iff (hkey.imp_right fun hnamed => hnamed r hr)
  refine ⟨?_, ?_, ?_⟩
  · rw [hmemory]
    rfl
  · rw [h.redis key, hmemory]
    show _ = (AliasIndex.latest recordKeys s.live key).map SessionRecord.sessionId
    cases AliasIndex.latest recordKeys s.live key <;> rfl
  · intro row hrow
    cases row with
    | some row =>
        obtain ⟨r, hr, rfl⟩ := (h.postgres row).mp hrow.1
        have hlatest : AliasIndex.latest recordKeys s.live key = some r :=
          (h.sound.latest_iff hkeys key r).mpr ⟨hr, (hmatches r hr).mp hrow.2⟩
        rw [resolve, hlatest]
        rfl
    | none =>
        have hlatest : AliasIndex.latest recordKeys s.live key = none := by
          refine List.find?_eq_none.mpr fun r hr => ?_
          rw [decide_eq_true_eq, ← hmatches r hr]
          exact hrow _ ((h.postgres _).mpr ⟨r, hr, rfl⟩)
        rw [resolve, hlatest]
        rfl

/-- **Stores that go on agreeing** had a careful call. -/
theorem Consistent.careful (h : Consistent F S T s) (hdisj : ∀ k, S k → ¬ T k) {c : SessionCall}
    (hc : c.From S T) (hagree : ∀ key, key ≠ "" → AgreeAt F (s.call F c) key) :
    Careful s c := by
  cases c with
  | delete id => trivial
  | set r =>
      refine AliasIndex.careful_of_agree h.memory h.sound (threadKey_disjoint hdisj) hc.1
        (threadKey_thread hc.2) ?_ ?_
      · intro t ht
        rw [← memory_set]
        exact (hagree t ht.2).memory
      · intro x hx t ht hhas
        have hrow : (s.call F (.set r)).postgres.Gets t (some (.of x)) :=
          ⟨(postgres_set h.postgres r _).mpr ⟨x, hx, rfl⟩, (matches_iff (.inl ht.2)).mpr hhas⟩
        exact (hagree t ht.2).postgres _ hrow

/-- Stores that go on agreeing on the empty key had a call that names a thread. -/
theorem Consistent.named (h : Consistent F S T s) {c : SessionCall}
    (hagree : AgreeAt F (s.call F c) "") : c.Named := by
  cases c with
  | delete id => trivial
  | set r =>
      show r.Named
      by_contra hnamed
      rw [SessionRecord.Named, not_or, not_not] at hnamed
      obtain ⟨hthread, hid⟩ := hnamed
      -- The row of the new session matches the empty key, for which it does not stand.
      have hrow : (s.call F (.set r)).postgres.Gets "" (some (.of r)) := by
        refine ⟨(postgres_set h.postgres r _).mpr
          ⟨r, AliasIndex.mem_place.mpr (.inl rfl), rfl⟩, .inr ?_⟩
        show r.thread.getD "" = ""
        rw [hthread]
        rfl
      have hfound := hagree.postgres _ hrow
      obtain ⟨x, hx, hsame⟩ := Option.map_eq_some_iff.mp hfound.symm
      have hhas : recordKeys.Has x "" := by simpa using List.find?_some hx
      rcases hhas with hown | halias
      · exact hid (hsame.symm.trans hown)
      · exact truthy_ne halias rfl

end

/-- **The three stores agree** in every state of a run exactly when each `set` of it is
careful; on the empty key too, exactly when each names a thread as well. -/
theorem stores_agree_iff (F : JsonText.FloatText) {S T : String → Prop}
    (hdisj : ∀ k, S k → ¬ T k) {calls : List SessionCall} (hcalls : ∀ c ∈ calls, c.From S T) :
    ((∀ pre, pre <+: calls → ∀ key, key ≠ "" → AgreeAt F (run (Stores.call F) .empty pre) key) ↔
        Meets (Stores.call F) Careful .empty calls) ∧
      ((∀ pre, pre <+: calls → ∀ key, AgreeAt F (run (Stores.call F) .empty pre) key) ↔
        Meets (Stores.call F) (fun s c => Careful s c ∧ c.Named) .empty calls) := by
  constructor
  · -- Off the empty key the stores agree whether or not a record names a thread.
    symm
    refine meets_iff_always (P := Consistent F S T)
      (Q := fun s => ∀ key, key ≠ "" → AgreeAt F s key) ?_ ?_ ?_ consistent_empty hcalls
    · intro s c hc h hcareful
      exact h.call hdisj hc hcareful
    · intro s h key hkey
      exact h.agreeAt hdisj (.inl hkey)
    · intro s c hc h hagree
      exact h.careful hdisj hc hagree
  · symm
    refine meets_iff_always (P := fun s => Consistent F S T s ∧ ∀ r ∈ s.live, r.Named)
      (Q := fun s => ∀ key, AgreeAt F s key) ?_ ?_ ?_
      ⟨consistent_empty, fun r hr => by cases hr⟩ hcalls
    · rintro s c hc ⟨h, hlive⟩ ⟨hcareful, hnamed⟩
      refine ⟨h.call hdisj hc hcareful, fun r hr => ?_⟩
      cases c with
      | set x =>
          rcases AliasIndex.mem_place.mp hr with rfl | ⟨hmem, -⟩
          · exact hnamed
          · exact hlive r hmem
      | delete id => exact hlive r (AliasIndex.mem_remove.mp hr).1
    · rintro s ⟨h, hlive⟩ key
      exact h.agreeAt hdisj (.inr hlive)
    · rintro s c hc ⟨h, -⟩ hagree
      exact ⟨h.careful hdisj hc fun key _ => hagree key, h.named (hagree "")⟩

/-- The record of a session and its thread. -/
def sessionOf (sessionId : String) (threadId : Option String) : SessionRecord :=
  ⟨sessionId, threadId, "fp", "/workspace"⟩

/-- A thread whose session is deleted before it has another. -/
def handover : List SessionCall :=
  [.set (sessionOf "s1" (some "t1")), .set (sessionOf "s2" (some "t2")), .delete "s1",
    .set (sessionOf "s3" (some "t1"))]

/-- After the handover the thread resolves to its new session, and the old one is gone. -/
theorem stores_agree_handover :
    AgreeAt JsonText.noFloats (run (Stores.call JsonText.noFloats) .empty handover) "t1" ∧
      AgreeAt JsonText.noFloats (run (Stores.call JsonText.noFloats) .empty handover) "s1" := by
  have hdisj : ∀ k : String, k.front = 's' → ¬ k.front = 't' := by
    intro k hs ht
    exact absurd (hs.symm.trans ht) (by decide)
  have hcalls : ∀ c ∈ handover, c.From (·.front = 's') (·.front = 't') := by
    simp [handover, SessionCall.From, sessionOf]
    decide
  have hagree := (stores_agree_iff JsonText.noFloats hdisj hcalls).2.mpr (by decide) handover
    List.prefix_rfl
  exact ⟨hagree "t1", hagree "s1"⟩

/-- Deleting a session hides the other one of its thread, in memory; a thread with two
sessions may resolve to the older one, in Postgres; and a session that moved to another
thread is still found by the old one, in memory. -/
theorem stores_disagree :
    ¬ AgreeAt JsonText.noFloats (run (Stores.call JsonText.noFloats) .empty
        [.set (sessionOf "s1" (some "t")), .set (sessionOf "s2" (some "t")), .delete "s2"]) "t" ∧
      ¬ AgreeAt JsonText.noFloats (run (Stores.call JsonText.noFloats) .empty
        [.set (sessionOf "s1" (some "t")), .set (sessionOf "s2" (some "t"))]) "t" ∧
      ¬ AgreeAt JsonText.noFloats (run (Stores.call JsonText.noFloats) .empty
        [.set (sessionOf "s" (some "t")), .set (sessionOf "s" (some "u"))]) "t" := by
  refine ⟨fun h => ?_, fun h => ?_, fun h => ?_⟩
  · exact absurd h.memory (by decide)
  · have hrow := h.postgres (some (.of (sessionOf "s1" (some "t")))) ⟨by decide, by decide⟩
    exact absurd hrow (by decide)
  · exact absurd h.memory (by decide)

end Mcp

end ObligationRuntime
