/-
  ObligationRuntime.Lib.Flow — runs of a graph of nodes that call out and may
  raise.

  A node reads the state and answers with an update; on the way it makes calls,
  each of which is logged whether or not the node succeeds (`Eff`).  A `Graph`
  gives each node, the merge of an update into the state, and the edge out of a
  node, which reads the merged state and may raise too; `none` is the end.

  `Graph.hop` is everything ONE node does.  `Graph.runFrom` runs at most `fuel`
  of them: the limit on steps is the runtime's own, an exceeded limit is an
  error.  A node that raises leaves the state as it was before the node.

  Main results:
    * `Graph.runFrom_invariant` — the invariant rule: what every node preserves
      holds of all the states of a run,
    * `Graph.runFrom_fuel` — with a rank that falls along edges, fuel above the
      rank is never exhausted and its amount does not matter,
    * `Graph.run_of_visited` — a run through a node ends as the run from there.
-/
import Mathlib.Data.List.Basic

namespace Flow

/-! ## §1. Effects: a log of calls, and a result or an exception. -/

/-- A computation that makes calls of type `C` and may raise an `E`. -/
structure Eff (C E α : Type) where
  calls : List C
  result : Except E α

namespace Eff

variable {C E α β : Type}

instance : Monad (Eff C E) where
  pure a := ⟨[], .ok a⟩
  bind x f :=
    match x.result with
    | .ok a => ⟨x.calls ++ (f a).calls, (f a).result⟩
    | .error e => ⟨x.calls, .error e⟩

/-- A computation without calls. -/
def lift (x : Except E α) : Eff C E α := ⟨[], x⟩

/-- One call and its answer. -/
def call (c : C) (r : Except E α) : Eff C E α := ⟨[c], r⟩

@[simp] theorem pure_calls (a : α) : (pure a : Eff C E α).calls = [] := rfl
@[simp] theorem pure_result (a : α) : (pure a : Eff C E α).result = .ok a := rfl
@[simp] theorem lift_calls (x : Except E α) : (lift x : Eff C E α).calls = [] := rfl
@[simp] theorem lift_result (x : Except E α) : (lift x : Eff C E α).result = x := rfl
@[simp] theorem call_calls (c : C) (r : Except E α) : (call c r).calls = [c] := rfl
@[simp] theorem call_result (c : C) (r : Except E α) : (call c r).result = r := rfl

/-- Calls follow each other where nothing raises, -/
theorem bind_of_ok {x : Eff C E α} {a : α} (h : x.result = .ok a) (f : α → Eff C E β) :
    x >>= f = ⟨x.calls ++ (f a).calls, (f a).result⟩ := by
  show (match x.result with
    | .ok a => (⟨x.calls ++ (f a).calls, (f a).result⟩ : Eff C E β)
    | .error e => ⟨x.calls, .error e⟩) = _
  rw [h]

/-- and end where something does. -/
theorem bind_of_error {x : Eff C E α} {e : E} (h : x.result = .error e) (f : α → Eff C E β) :
    x >>= f = ⟨x.calls, .error e⟩ := by
  show (match x.result with
    | .ok a => (⟨x.calls ++ (f a).calls, (f a).result⟩ : Eff C E β)
    | .error e => ⟨x.calls, .error e⟩) = _
  rw [h]

@[simp] theorem lift_ok_bind (a : α) (f : α → Eff C E β) : lift (.ok a) >>= f = f a := rfl

@[simp] theorem lift_error_bind (e : E) (f : α → Eff C E β) :
    lift (.error e) >>= f = ⟨[], .error e⟩ := rfl

@[simp] theorem call_ok_bind (c : C) (a : α) (f : α → Eff C E β) :
    call c (.ok a) >>= f = ⟨c :: (f a).calls, (f a).result⟩ := rfl

@[simp] theorem call_error_bind (c : C) (e : E) (f : α → Eff C E β) :
    call c (.error e) >>= f = ⟨[c], .error e⟩ := rfl

@[simp] theorem mk_ok_bind (cs : List C) (a : α) (f : α → Eff C E β) :
    (⟨cs, .ok a⟩ : Eff C E α) >>= f = ⟨cs ++ (f a).calls, (f a).result⟩ := rfl

/-- A sequence succeeds exactly when both halves do. -/
theorem bind_ok_iff {x : Eff C E α} {f : α → Eff C E β} {b : β} :
    (x >>= f).result = .ok b ↔ ∃ a, x.result = .ok a ∧ (f a).result = .ok b := by
  cases h : x.result with
  | ok a => simp [bind_of_ok h]
  | error e => simp [bind_of_error h]

/-- Every call a computation makes satisfies `P`. -/
def Only (P : C → Prop) (x : Eff C E α) : Prop := ∀ c ∈ x.calls, P c

/-- No call is made by a value, -/
theorem only_pure (P : C → Prop) (a : α) : Only P (pure a : Eff C E α) := by
  simp [Only]

/-- nor by a computation without calls; -/
theorem only_lift (P : C → Prop) (x : Except E α) : Only P (lift x : Eff C E α) := by
  simp [Only]

/-- a call is the one it is. -/
theorem only_call {P : C → Prop} {c : C} (h : P c) (r : Except E α) : Only P (call c r) := by
  simpa [Only] using h

/-- What holds of the calls of both halves holds of the calls of a sequence. -/
theorem only_bind {P : C → Prop} {x : Eff C E α} {f : α → Eff C E β} (hx : Only P x)
    (hf : ∀ a, Only P (f a)) : Only P (x >>= f) := by
  intro c hc
  cases hr : x.result with
  | error e =>
      rw [bind_of_error hr] at hc
      exact hx c hc
  | ok a =>
      rw [bind_of_ok hr] at hc
      rcases List.mem_append.mp hc with h | h
      · exact hx c h
      · exact hf a c h

end Eff

/-! ## §2. Graphs and their runs. -/

/-- A graph of nodes `N` over states `S`, with updates `U`, calls `C` and
exceptions `E`. -/
structure Graph (N S U C E : Type) where
  handler : N → S → Eff C E U
  merge : S → U → S
  edge : N → S → Except E (Option N)
  limitExceeded : E

/-- What one node does: its calls, the state after it, and where to go next. -/
structure Hop (N S C E : Type) where
  calls : List C
  state : S
  next : Except E (Option N)

/-- What a run did: the state it left, its calls, the nodes it ran with the
state each of them read, and the exception that stopped it, if any. -/
structure Run (N S C E : Type) where
  state : S
  calls : List C
  visited : List (N × S)
  error : Option E

namespace Graph

variable {N S U C E : Type} (g : Graph N S U C E)

/-- **One node.**  If the node or the edge out of it raises, its update is lost. -/
def hop (n : N) (s : S) : Hop N S C E :=
  match (g.handler n s).result with
  | .error e => ⟨(g.handler n s).calls, s, .error e⟩
  | .ok u =>
      match g.edge n (g.merge s u) with
      | .error e => ⟨(g.handler n s).calls, s, .error e⟩
      | .ok m => ⟨(g.handler n s).calls, g.merge s u, .ok m⟩

/-- Run from a node, with at most `fuel` nodes. -/
def runFrom : Nat → N → S → Run N S C E
  | 0, _, s => ⟨s, [], [], some g.limitExceeded⟩
  | k + 1, n, s =>
      match (g.hop n s).next with
      | .error e => ⟨(g.hop n s).state, (g.hop n s).calls, [(n, s)], some e⟩
      | .ok none => ⟨(g.hop n s).state, (g.hop n s).calls, [(n, s)], none⟩
      | .ok (some m) =>
          let r := runFrom k m (g.hop n s).state
          ⟨r.state, (g.hop n s).calls ++ r.calls, (n, s) :: r.visited, r.error⟩

variable {g}

/-- A node that raises leaves the state, -/
theorem hop_of_raise {n : N} {s : S} {e : E} (h : (g.handler n s).result = .error e) :
    g.hop n s = ⟨(g.handler n s).calls, s, .error e⟩ := by
  simp [hop, h]

/-- and one that has a result merges it. -/
theorem hop_of_ok {n : N} {s : S} {u : U} {m : Option N} (h : (g.handler n s).result = .ok u)
    (he : g.edge n (g.merge s u) = .ok m) :
    g.hop n s = ⟨(g.handler n s).calls, g.merge s u, .ok m⟩ := by
  simp [hop, h, he]

@[simp] theorem hop_calls (n : N) (s : S) : (g.hop n s).calls = (g.handler n s).calls := by
  unfold hop
  split
  · rfl
  · split <;> rfl

/-- A hop that goes on, or ends the run, is a node and an edge that both
succeeded. -/
theorem hop_next_ok {n : N} {s : S} {m : Option N} (h : (g.hop n s).next = .ok m) :
    ∃ u, (g.handler n s).result = .ok u ∧ g.edge n (g.merge s u) = .ok m ∧
      (g.hop n s).state = g.merge s u := by
  cases hu : (g.handler n s).result with
  | error e => simp [hop, hu] at h
  | ok u =>
      cases he : g.edge n (g.merge s u) with
      | error e => simp [hop, hu, he] at h
      | ok m' =>
          have hm : m' = m := by simpa [hop, hu, he] using h
          subst hm
          exact ⟨u, rfl, he, by simp [hop, hu, he]⟩

/-- A hop that raises leaves the state. -/
theorem hop_next_error {n : N} {s : S} {e : E} (h : (g.hop n s).next = .error e) :
    (g.hop n s).state = s := by
  cases hu : (g.handler n s).result with
  | error e' => simp [hop, hu]
  | ok u =>
      cases he : g.edge n (g.merge s u) with
      | error e' => simp [hop, hu, he]
      | ok m' => simp [hop, hu, he] at h

/-! ## §3. Unfolding a run by one hop. -/

/-- A run ends at a node that raises, -/
theorem runFrom_of_error {k : Nat} {n : N} {s : S} {e : E} (h : (g.hop n s).next = .error e) :
    g.runFrom (k + 1) n s = ⟨(g.hop n s).state, (g.hop n s).calls, [(n, s)], some e⟩ := by
  simp [runFrom, h]

/-- and at one without a successor, -/
theorem runFrom_of_end {k : Nat} {n : N} {s : S} (h : (g.hop n s).next = .ok none) :
    g.runFrom (k + 1) n s = ⟨(g.hop n s).state, (g.hop n s).calls, [(n, s)], none⟩ := by
  simp [runFrom, h]

/-- and else goes on at the successor. -/
theorem runFrom_of_next {k : Nat} {n m : N} {s : S} (h : (g.hop n s).next = .ok (some m)) :
    g.runFrom (k + 1) n s =
      ⟨(g.runFrom k m (g.hop n s).state).state,
        (g.hop n s).calls ++ (g.runFrom k m (g.hop n s).state).calls,
        (n, s) :: (g.runFrom k m (g.hop n s).state).visited,
        (g.runFrom k m (g.hop n s).state).error⟩ := by
  simp [runFrom, h]

/-! ## §4. The invariant rule. -/

/-- **The invariant rule.**  What every node that succeeds preserves holds of each
state a run reads and of the state it leaves. -/
theorem runFrom_invariant (I : S → Prop)
    (step : ∀ n s u, (g.handler n s).result = .ok u → I s → I (g.merge s u)) (k : Nat) (n : N)
    (s : S) (h : I s) :
    I (g.runFrom k n s).state ∧ ∀ x ∈ (g.runFrom k n s).visited, I x.2 := by
  induction k generalizing n s with
  | zero => exact ⟨h, by simp [runFrom]⟩
  | succ k ih =>
      cases hn : (g.hop n s).next with
      | error e =>
          -- A node that raises leaves the state as it was.
          rw [runFrom_of_error hn]
          exact ⟨by rwa [hop_next_error hn], by simpa using h⟩
      | ok m =>
          obtain ⟨u, hu, -, hs⟩ := hop_next_ok hn
          have hI : I (g.hop n s).state := by
            rw [hs]
            exact step n s u hu h
          cases m with
          | none =>
              rw [runFrom_of_end hn]
              exact ⟨hI, by simpa using h⟩
          | some m =>
              obtain ⟨hend, hvisited⟩ := ih m _ hI
              rw [runFrom_of_next hn]
              refine ⟨hend, ?_⟩
              intro x hx
              rcases List.mem_cons.mp hx with rfl | hx
              · exact h
              · exact hvisited x hx

/-- What every hop that goes on preserves holds of each state a run reads. -/
theorem visited_invariant (I : S → Prop)
    (hop : ∀ n s m, (g.hop n s).next = .ok (some m) → I s → I (g.hop n s).state) (k : Nat) (n : N)
    (s : S) (h : I s) : ∀ x ∈ (g.runFrom k n s).visited, I x.2 := by
  induction k generalizing n s with
  | zero =>
      intro x hx
      simp [runFrom] at hx
  | succ k ih =>
      intro x hx
      cases hn : (g.hop n s).next with
      | error e =>
          rw [runFrom_of_error hn] at hx
          obtain rfl := List.mem_singleton.mp hx
          exact h
      | ok m =>
          cases m with
          | none =>
              rw [runFrom_of_end hn] at hx
              obtain rfl := List.mem_singleton.mp hx
              exact h
          | some m =>
              rw [runFrom_of_next hn] at hx
              rcases List.mem_cons.mp hx with rfl | hx
              · exact h
              · -- The rest of the run starts at the state the hop left.
                exact ih m _ (hop n s m hn h) x hx

/-- Every node of a run but its first is where a hop led. -/
theorem visited_target (k : Nat) (n : N) (s : S) :
    ∀ x ∈ (g.runFrom k n s).visited,
      x = (n, s) ∨ ∃ m t, (g.hop m t).next = .ok (some x.1) := by
  induction k generalizing n s with
  | zero =>
      intro x hx
      simp [runFrom] at hx
  | succ k ih =>
      intro x hx
      cases hn : (g.hop n s).next with
      | error e => exact .inl (by simpa [runFrom_of_error hn] using hx)
      | ok m =>
          cases m with
          | none => exact .inl (by simpa [runFrom_of_end hn] using hx)
          | some m =>
              rw [runFrom_of_next hn] at hx
              rcases List.mem_cons.mp hx with hx | hx
              · exact .inl hx
              · rcases ih m _ x hx with rfl | htarget
                · exact .inr ⟨n, s, hn⟩
                · exact .inr htarget

/-! ## §5. Ranks. -/

section Ranked

variable {rank : N → Nat}

/-- **Enough fuel is never exhausted, and how much does not matter.** -/
theorem runFrom_fuel (falls : ∀ n s m, (g.hop n s).next = .ok (some m) → rank m < rank n) :
    ∀ (k k' : Nat) (n : N) (s : S), rank n < k → rank n < k' →
      g.runFrom k n s = g.runFrom k' n s
  | 0, _, _, _, hk, _ => absurd hk (Nat.not_lt_zero _)
  | _ + 1, 0, _, _, _, hk' => absurd hk' (Nat.not_lt_zero _)
  | k + 1, k' + 1, n, s, hk, hk' => by
      cases hn : (g.hop n s).next with
      | error e => rw [runFrom_of_error hn, runFrom_of_error hn]
      | ok m =>
          cases m with
          | none => rw [runFrom_of_end hn, runFrom_of_end hn]
          | some m =>
              have hlt := falls n s m hn
              rw [runFrom_of_next hn, runFrom_of_next hn,
                runFrom_fuel falls k k' m _ (by omega) (by omega)]

/-- A run never comes back: what it runs after its first node ranks lower. -/
theorem visited_rank (falls : ∀ n s m, (g.hop n s).next = .ok (some m) → rank m < rank n) :
    ∀ (k : Nat) (n : N) (s : S), ∀ x ∈ (g.runFrom k n s).visited,
      x = (n, s) ∨ rank x.1 < rank n
  | 0, _, _, x, h => by simp [runFrom] at h
  | k + 1, n, s, x, h => by
      cases hn : (g.hop n s).next with
      | error e => exact .inl (by simpa [runFrom_of_error hn] using h)
      | ok m =>
          cases m with
          | none => exact .inl (by simpa [runFrom_of_end hn] using h)
          | some m =>
              have hlt := falls n s m hn
              rw [runFrom_of_next hn] at h
              rcases List.mem_cons.mp h with h | h
              · exact .inl h
              · rcases visited_rank falls k m _ x h with rfl | hx
                · exact .inr hlt
                · exact .inr (Nat.lt_trans hx hlt)

/-- **A run through `(m, t)` ends as the run from there**: its state, its error,
and, at the end of its log, its calls. -/
theorem run_of_visited (falls : ∀ n s m, (g.hop n s).next = .ok (some m) → rank m < rank n) :
    ∀ (k : Nat) (n : N) (s : S) (m : N) (t : S), rank n < k →
      (m, t) ∈ (g.runFrom k n s).visited →
        ∃ before : List C,
          (g.runFrom k n s).state = (g.runFrom (rank m + 1) m t).state ∧
          (g.runFrom k n s).error = (g.runFrom (rank m + 1) m t).error ∧
          (g.runFrom k n s).calls = before ++ (g.runFrom (rank m + 1) m t).calls
  | 0, n, s, m, t, _, h => by simp [runFrom] at h
  | k + 1, n, s, m, t, hk, h => by
      have here : (m, t) = (n, s) → ∃ before : List C,
          (g.runFrom (k + 1) n s).state = (g.runFrom (rank m + 1) m t).state ∧
          (g.runFrom (k + 1) n s).error = (g.runFrom (rank m + 1) m t).error ∧
          (g.runFrom (k + 1) n s).calls = before ++ (g.runFrom (rank m + 1) m t).calls := by
        intro e
        obtain ⟨rfl, rfl⟩ := Prod.mk.injEq .. ▸ e
        -- Both amounts of fuel are above the rank.
        rw [runFrom_fuel falls (k + 1) (rank m + 1) m t hk (by omega)]
        exact ⟨[], rfl, rfl, rfl⟩
      cases hn : (g.hop n s).next with
      | error e => exact here (by simpa [runFrom_of_error hn] using h)
      | ok m' =>
          cases m' with
          | none => exact here (by simpa [runFrom_of_end hn] using h)
          | some m' =>
              have hlt := falls n s m' hn
              rw [runFrom_of_next hn] at h
              rcases List.mem_cons.mp h with h | h
              · exact here h
              · obtain ⟨before, hs, he, hc⟩ := run_of_visited falls k m' _ m t (by omega) h
                -- This node's calls come before those of the rest.
                refine ⟨(g.hop n s).calls ++ before, ?_, ?_, ?_⟩
                · rw [runFrom_of_next hn]
                  exact hs
                · rw [runFrom_of_next hn]
                  exact he
                · rw [runFrom_of_next hn, List.append_assoc, ← hc]

/-- **The last node of a run**: it raised, or its edge ended the run, and the state is
what its hop left. -/
theorem runFrom_last (falls : ∀ n s m, (g.hop n s).next = .ok (some m) → rank m < rank n) :
    ∀ (k : Nat) (n : N) (s : S), rank n < k →
      ∃ x ∈ (g.runFrom k n s).visited, (g.runFrom k n s).state = (g.hop x.1 x.2).state ∧
        ((∃ e, (g.hop x.1 x.2).next = .error e ∧ (g.runFrom k n s).error = some e) ∨
          ((g.hop x.1 x.2).next = .ok none ∧ (g.runFrom k n s).error = none))
  | 0, _, _, hk => absurd hk (Nat.not_lt_zero _)
  | k + 1, n, s, hk => by
      cases hn : (g.hop n s).next with
      | error e =>
          rw [runFrom_of_error hn]
          exact ⟨(n, s), by simp, rfl, .inl ⟨e, hn, rfl⟩⟩
      | ok m =>
          cases m with
          | none =>
              rw [runFrom_of_end hn]
              exact ⟨(n, s), by simp, rfl, .inr ⟨hn, rfl⟩⟩
          | some m =>
              have hlt := falls n s m hn
              obtain ⟨x, hx, hstate, hend⟩ := runFrom_last falls k m (g.hop n s).state (by omega)
              rw [runFrom_of_next hn]
              exact ⟨x, List.mem_cons_of_mem _ hx, hstate, hend⟩

end Ranked

end Graph

end Flow
