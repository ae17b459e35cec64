/-
  ObligationRuntime.Guarantees.LspCache — what the cache of language servers keeps.

  Each entry has the clock of the last call that named its workspace: a call that finds a
  process that runs, a call that starts one, and a touch all set it, and any other call
  that names the workspace takes the entry away.  So the oldest entry is the one whose
  workspace was named least recently, and a full cache loses that one.

  A start that fails should come to `None`, as one without `lean` does and one whose server
  is refused.  But an exception between the spawn and the cache goes through to the caller.

  Main results:
    * `step_orderly`, `run_orderly` — what one call keeps, and so every run,
    * `getLaw_iff` — the calls that do what they should,
    * `lsp_cache_invariant_iff` — the runs of such calls,
    * `lsp_cache_invariant_fails` — starts that raise.
-/
import ObligationRuntime.Gateway.LspProcesses
import ObligationRuntime.Lib.Transition

namespace ObligationRuntime

open Py Posix Framing JsonText Recency Transition Gateway

namespace Lsp

/-! ## §1. The property. -/

section

variable {T : Type} [LinearOrder T] (D : Decoder) (cwd : List Comp)

/-- The uses of workspaces that the calls are. -/
def uses (calls : List (ServerCall T)) : List (List Comp × T) :=
  calls.filterMap (ServerCall.use? cwd)

/-- **What a call of `_get_or_create_lsp` does**, after the uses `h`. -/
structure GetLaw (h : List (List Comp × T)) (s : Servers T) (workspace : String) (now : T)
    (x : Exchange) : Prop where
  /-- A process that runs is returned, and nothing is started. -/
  cached : ∀ e ∈ s.cache, e.key = resolve cwd workspace → e.value ∉ s.exited →
    (getOrCreateLsp D cwd workspace now x s).1 = .ok (some e.value) ∧
      (getOrCreateLsp D cwd workspace now x s).2.spawned = s.spawned
  /-- The call returns. -/
  returns : ∃ r, (getOrCreateLsp D cwd workspace now x s).1 = .ok r
  /-- Otherwise what is returned is the process that is started, in the cache, or nothing. -/
  started : (∀ e ∈ s.cache, e.key = resolve cwd workspace → e.value ∈ s.exited) →
    ∀ r, (getOrCreateLsp D cwd workspace now x s).1 = .ok r → r = none ∨
      r = some s.spawned ∧
        (getOrCreateLsp D cwd workspace now x s).2.spawned = s.spawned + 1 ∧
        ∃ e ∈ (getOrCreateLsp D cwd workspace now x s).2.cache,
          e.key = resolve cwd workspace ∧ e.value = s.spawned
  /-- No other entry is new. -/
  others : ∀ e ∈ (getOrCreateLsp D cwd workspace now x s).2.cache,
    e.key = resolve cwd workspace ∨ e ∈ s.cache
  /-- Another entry goes only from a full cache, and only the least recently used. -/
  removed : ∀ e ∈ s.cache, e.key ≠ resolve cwd workspace →
    e ∉ (getOrCreateLsp D cwd workspace now x s).2.cache →
      s.cache.length = lspMaxSize ∧ (∀ e' ∈ s.cache, e'.key ≠ resolve cwd workspace) ∧
        ∀ e' ∈ s.cache, e' ≠ e → LessRecent h e.key e'.key

/-- A touch keeps the entries; it sets the time of one. -/
def TouchLaw (s : Servers T) (workspace : String) (now : T) : Prop :=
  (touchLsp cwd workspace now s).cache.map (fun e => (e.key, e.value)) =
      s.cache.map (fun e => (e.key, e.value)) ∧
    (touchLsp cwd workspace now s).spawned = s.spawned

/-- **What a run of calls does**: in every state of it the cache has no more entries than fit,
and one for each workspace; and every call does what it should. -/
structure CacheLaws (calls : List (ServerCall T)) : Prop where
  room : ∀ pre, pre <+: calls → (run (ServerCall.step D cwd) {} pre).cache.length ≤ lspMaxSize
  keys : ∀ pre, pre <+: calls → (keys (run (ServerCall.step D cwd) {} pre).cache).Nodup
  get : ∀ pre workspace now x post, calls = pre ++ .getOrCreate workspace now x :: post →
    GetLaw D cwd (uses cwd pre) (run (ServerCall.step D cwd) {} pre) workspace now x
  touch : ∀ pre workspace now post, calls = pre ++ .touch workspace now :: post →
    TouchLaw cwd (run (ServerCall.step D cwd) {} pre) workspace now

/-- The call does not raise for its start. -/
def CallReturns (s : Servers T) : ServerCall T → Prop
  | .getOrCreate workspace _ x => Returns D cwd s workspace x
  | .touch _ _ => True
  | .exit _ => True

/-! ## §2. The invariant. -/

/-- **The cache is in order**: one entry for each workspace, no more than fit, and each with
the time its workspace was last used at. -/
structure Orderly (h : List (List Comp × T)) (s : Servers T) : Prop where
  keys : (keys s.cache).Nodup
  room : s.cache.length ≤ lspMaxSize
  tracks : Tracks h s.cache

end

section

variable {T : Type} [LinearOrder T] {D : Decoder} {cwd : List Comp} {workspace : String}
  {now : T} {x : Exchange} {s : Servers T} {h : List (List Comp × T)}

/-- What room is made of, in the cache without the workspace's entry. -/
inductive Roomed (c : List (Entry (List Comp) Proc T)) : List (Entry (List Comp) Proc T) → Prop
  | room (hlt : c.length < lspMaxSize) : Roomed c c
  | evicted (e : Entry (List Comp) Proc T) (hfull : c.length = lspMaxSize)
      (hold : oldest c = some e) : Roomed c (pop c e.key)

theorem Roomed.sublist {c c' : List (Entry (List Comp) Proc T)} (hroom : Roomed c c') :
    c'.Sublist c := by
  cases hroom with
  | room hlt => exact .refl c
  | evicted e hfull hold => exact List.filter_sublist

theorem Roomed.length_lt {c c' : List (Entry (List Comp) Proc T)} (hroom : Roomed c c') :
    c'.length < lspMaxSize := by
  cases hroom with
  | room hlt => exact hlt
  | evicted e hfull hold =>
      rw [← hfull]
      exact length_pop_lt (oldest_mem hold)

theorem roomed_makeRoom (hroom : s.cache.length ≤ lspMaxSize) :
    Roomed s.cache (makeRoom s.cache.length s).cache ∧
      (makeRoom s.cache.length s).spawned = s.spawned := by
  rw [makeRoom_eq hroom]
  by_cases hfull : s.cache.length = lspMaxSize
  · rw [if_pos hfull]
    have hne : s.cache ≠ [] := by
      intro hnil
      rw [hnil] at hfull
      cases hfull
    obtain ⟨e, he, hcache, hspawned, -⟩ := evictOldest_cases hne
    rw [hcache]
    exact ⟨.evicted e hfull he, hspawned⟩
  · rw [if_neg hfull]
    exact ⟨.room (by omega), rfl⟩

/-- **A start**: room is made, and the process that is started is stored, or there is
none. -/
theorem createLsp_cases (hroom : s.cache.length ≤ lspMaxSize) :
    ∃ c', Roomed s.cache c' ∧
      ((∃ r s', createLsp D cwd workspace now x s = (r, s') ∧ (∀ p, r ≠ .ok (some p)) ∧
          s'.cache = c') ∨
        ∃ s', createLsp D cwd workspace now x s = (.ok (some s.spawned), s') ∧
          s'.spawned = s.spawned + 1 ∧
          s'.cache = store c' ⟨resolve cwd workspace, s.spawned, now⟩) := by
  obtain ⟨hroomed, hspawned⟩ := roomed_makeRoom hroom
  refine ⟨_, hroomed, ?_⟩
  -- Of the four ways a start ends, one gives a process, and only that is stored.
  rcases startLsp_cases D workspace x (makeRoom s.cache.length s) with
    ⟨-, hstart⟩ | ⟨-, -, hstart⟩ | ⟨-, -, hstart⟩ | ⟨-, -, -, e, hstart⟩
  · exact .inl ⟨_, _, createLsp_of_none hstart, nofun, rfl⟩
  · cases hwait : x.wait with
    | ok u =>
        rw [hwait] at hstart
        exact .inl ⟨_, _, createLsp_of_none hstart, nofun, rfl⟩
    | error e =>
        rw [hwait] at hstart
        exact .inl ⟨_, _, createLsp_of_error hstart, nofun, rfl⟩
  · right
    rw [hspawned] at hstart
    refine ⟨_, createLsp_of_some hstart, ?_, rfl⟩
    show (makeRoom s.cache.length s).spawned + 1 = _
    rw [hspawned]
  · exact .inl ⟨_, _, createLsp_of_error hstart, nofun, rfl⟩

variable (D cwd workspace now x) in
/-- **What a call does**: it finds a process that runs, or it starts one. -/
theorem getOrCreateLsp_cases (hnul : hasNul workspace = false) (hs : Orderly h s) :
    (∃ e ∈ s.cache, e.key = resolve cwd workspace ∧ e.value ∉ s.exited ∧
        getOrCreateLsp D cwd workspace now x s =
          (.ok (some e.value),
            { s with cache := store s.cache ⟨resolve cwd workspace, e.value, now⟩ })) ∨
      ((∀ e ∈ s.cache, e.key = resolve cwd workspace → e.value ∈ s.exited) ∧
        ∃ c', Roomed (pop s.cache (resolve cwd workspace)) c' ∧
          ((∃ r s', getOrCreateLsp D cwd workspace now x s = (r, s') ∧
              (∀ p, r ≠ .ok (some p)) ∧ s'.cache = c') ∨
            ∃ s', getOrCreateLsp D cwd workspace now x s = (.ok (some s.spawned), s') ∧
              s'.spawned = s.spawned + 1 ∧
              s'.cache = store c' ⟨resolve cwd workspace, s.spawned, now⟩)) := by
  -- An entry whose process is gone counts for none: it is popped before the start.
  by_cases hgone : ∀ e, find s.cache (resolve cwd workspace) = some e → e.value ∈ s.exited
  · right
    have hlen : (pop s.cache (resolve cwd workspace)).length ≤ lspMaxSize :=
      (length_pop_le _ _).trans hs.room
    refine ⟨fun e he hkey => hgone e ?_, ?_⟩
    · rw [← hkey]
      exact find_of_mem hs.keys he
    · rw [getOrCreateLsp_create hnul hgone]
      exact createLsp_cases (s := { s with cache := pop s.cache (resolve cwd workspace) }) hlen
  · left
    push Not at hgone
    obtain ⟨e, hfind, hruns⟩ := hgone
    obtain ⟨he, hkey⟩ := find_some hfind
    exact ⟨e, he, hkey, hruns, getOrCreateLsp_cached hnul hfind hruns⟩

end

/-! ## §3. One call. -/

section

variable {T : Type} {s s' : Servers T} {h : List (List Comp × T)} {key : List Comp} {now : T}

/-- The entry of the workspace goes, and maybe another. -/
theorem Orderly.gone (hs : Orderly h s) (hsub : s'.cache.Sublist (pop s.cache key)) :
    Orderly (h ++ [(key, now)]) s' where
  keys := (nodup_pop hs.keys key).sublist (hsub.map _)
  room := hsub.length_le.trans ((length_pop_le _ _).trans hs.room)
  tracks := hs.tracks.use fun _ he =>
    .inr ⟨(mem_pop.mp (hsub.subset he)).2, (mem_pop.mp (hsub.subset he)).1⟩

/-- The entry of the workspace is stored, and another may go. -/
theorem Orderly.stored (hs : Orderly h s) {c : List (Entry (List Comp) Proc T)} {proc : Proc}
    (hsub : c.Sublist s.cache) (hroom : (store c ⟨key, proc, now⟩).length ≤ lspMaxSize)
    (hcache : s'.cache = store c ⟨key, proc, now⟩) : Orderly (h ++ [(key, now)]) s' := by
  constructor
  · rw [hcache]
    exact nodup_store (hs.keys.sublist (hsub.map _)) _
  · rw [hcache]
    exact hroom
  · rw [hcache]
    refine hs.tracks.use fun e he => ?_
    rcases mem_store.mp he with rfl | ⟨hmem, hne⟩
    · exact .inl ⟨rfl, rfl⟩
    · exact .inr ⟨hne, hsub.subset hmem⟩

variable {cwd : List Comp} {workspace : String}

theorem touchLsp_orderly (hnul : hasNul workspace = false) (hs : Orderly h s) :
    Orderly (h ++ [(resolve cwd workspace, now)]) (touchLsp cwd workspace now s) := by
  cases hfind : find s.cache (resolve cwd workspace) with
  | none =>
      rw [touchLsp_of_none hfind]
      refine hs.gone ?_
      rw [pop_of_find_none hfind]
  | some e =>
      obtain ⟨he, hkey⟩ := find_some hfind
      rw [touchLsp_of_some hnul hfind]
      refine hs.stored (.refl _) ?_ rfl
      rw [length_store_mem hs.keys he hkey]
      exact hs.room

/-- **The law of a touch.** -/
theorem touchLaw (hs : Orderly h s) (workspace : String) (now : T) :
    TouchLaw cwd s workspace now := by
  unfold TouchLaw
  cases hfind : find s.cache (resolve cwd workspace) with
  | none =>
      rw [touchLsp_of_none hfind]
      exact ⟨rfl, rfl⟩
  | some e =>
      obtain ⟨he, hkey⟩ := find_some hfind
      cases hnul : hasNul workspace with
      | true =>
          rw [touchLsp_nul hnul]
          exact ⟨rfl, rfl⟩
      | false =>
      rw [touchLsp_of_some hnul hfind]
      refine ⟨?_, rfl⟩
      have hthere : (find s.cache (resolve cwd workspace)).isSome = true := by
        rw [hfind]
        rfl
      simp only [store, hthere, if_true, List.map_map]
      refine List.map_congr_left fun e' he' => ?_
      by_cases hsame : e'.key = resolve cwd workspace
      · obtain rfl : e' = e := eq_of_key hs.keys he' he (hsame.trans hkey.symm)
        simp [hsame]
      · simp [hsame]

end

section

variable {T : Type} [LinearOrder T] {D : Decoder} {cwd : List Comp} {workspace : String}
  {now : T} {x : Exchange} {s : Servers T} {h : List (List Comp × T)}

theorem getOrCreateLsp_orderly (hnul : hasNul workspace = false) (hs : Orderly h s) :
    Orderly (h ++ [(resolve cwd workspace, now)]) (getOrCreateLsp D cwd workspace now x s).2 := by
  rcases getOrCreateLsp_cases D cwd workspace now x hnul hs with
    ⟨e, he, hkey, -, hcall⟩ | ⟨-, c', hroomed, ⟨r, s', hcall, -, hcache⟩ | ⟨s', hcall, -, hcache⟩⟩
  · rw [hcall]
    refine hs.stored (.refl _) ?_ rfl
    rw [length_store_mem hs.keys he hkey]
    exact hs.room
  · rw [hcall]
    refine hs.gone ?_
    rw [hcache]
    exact hroomed.sublist
  · rw [hcall]
    refine hs.stored (hroomed.sublist.trans List.filter_sublist) ?_ hcache
    exact (length_store_le c' _).trans hroomed.length_lt

/-- **One call keeps the cache in order.** -/
theorem step_orderly (call : ServerCall T) (hs : Orderly h s) :
    Orderly (h ++ (call.use? cwd).toList) (call.step D cwd s) := by
  -- A text that is no path is no use of a workspace, and changes nothing.
  have hnone : ∀ (workspace : String) (now : T), hasNul workspace = true →
      h ++ (useOf cwd workspace now).toList = h := by
    intro workspace now hnul
    rw [useOf, resolvePath_nul hnul]
    exact List.append_nil h
  have huse : ∀ (workspace : String) (now : T), hasNul workspace = false →
      (useOf cwd workspace now).toList = [(resolve cwd workspace, now)] := by
    intro workspace now hnul
    rw [useOf, resolvePath_ok hnul]
    rfl
  cases call with
  | getOrCreate workspace now x =>
      show Orderly (h ++ (useOf cwd workspace now).toList)
        (getOrCreateLsp D cwd workspace now x s).2
      cases hnul : hasNul workspace with
      | true =>
          rw [hnone workspace now hnul, getOrCreateLsp_nul hnul]
          exact hs
      | false =>
          rw [huse workspace now hnul]
          exact getOrCreateLsp_orderly hnul hs
  | touch workspace now =>
      show Orderly (h ++ (useOf cwd workspace now).toList) (touchLsp cwd workspace now s)
      cases hnul : hasNul workspace with
      | true =>
          rw [hnone workspace now hnul, touchLsp_nul hnul]
          exact hs
      | false =>
          rw [huse workspace now hnul]
          exact touchLsp_orderly hnul hs
  | exit proc =>
      have hcache : (ServerCall.step D cwd s (.exit proc)).cache = s.cache := by
        show (if proc < s.spawned then { s with exited := proc :: s.exited } else s).cache = _
        split <;> rfl
      have huses : h ++ (ServerCall.use? cwd (.exit proc : ServerCall T)).toList = h := by
        simp [ServerCall.use?]
      rw [huses]
      exact ⟨by rw [hcache]; exact hs.keys, by rw [hcache]; exact hs.room,
        by rw [hcache]; exact hs.tracks⟩

variable (D cwd) in
/-- **So does a run of calls.** -/
theorem run_orderly (calls : List (ServerCall T)) (hs : Orderly h s) :
    Orderly (h ++ uses cwd calls) (run (ServerCall.step D cwd) s calls) := by
  induction calls generalizing h s with
  | nil => simpa [uses] using hs
  | cons call calls ih =>
      have huses : h ++ uses cwd (call :: calls) =
          (h ++ (call.use? cwd).toList) ++ uses cwd calls := by
        unfold uses
        cases huse : call.use? cwd with
        | none => simp [huse]
        | some use => simp [huse]
      rw [huses, run_cons]
      exact ih (step_orderly call hs)

/-- Another entry that goes for a start was the oldest of a full cache. -/
theorem Roomed.removed {c' : List (Entry (List Comp) Proc T)} {e : Entry (List Comp) Proc T}
    (hs : Orderly h s) (htimes : (h.map Prod.snd).Nodup) {key : List Comp}
    (hroomed : Roomed (pop s.cache key) c') (he : e ∈ s.cache) (hkey : e.key ≠ key)
    (hgone : e ∉ c') :
    s.cache.length = lspMaxSize ∧ (∀ e' ∈ s.cache, e'.key ≠ key) ∧
      ∀ e' ∈ s.cache, e' ≠ e → LessRecent h e.key e'.key := by
  have hpop : e ∈ pop s.cache key := mem_pop.mpr ⟨he, hkey⟩
  cases hroomed with
  | room hlt => exact absurd hpop hgone
  | evicted old hfull hold =>
      -- A full cache has no entry of the workspace to lose.
      have hnone : ∀ e' ∈ s.cache, e'.key ≠ key := by
        intro e' he' hkey'
        have hlt : (pop s.cache key).length < s.cache.length := hkey' ▸ length_pop_lt he'
        have hroom := hs.room
        omega
      have hall : pop s.cache key = s.cache := by
        unfold pop
        rw [List.filter_eq_self]
        intro e' he'
        simpa using hnone e' he'
      rw [hall] at hfull hold hgone
      have hsame : e.key = old.key := by
        by_contra hne
        exact hgone (mem_pop.mpr ⟨he, hne⟩)
      refine ⟨hfull, hnone, fun e' he' hne => ?_⟩
      rw [hsame]
      refine hs.tracks.oldest htimes hold he' ?_
      rw [← hsame]
      exact fun hkeys => hne (eq_of_key hs.keys he' he hkeys)

/-- The law of a call that finds a process that runs. -/
theorem getLaw_cached (hs : Orderly h s) {e : Entry (List Comp) Proc T} (he : e ∈ s.cache)
    (hkey : e.key = resolve cwd workspace) (hruns : e.value ∉ s.exited)
    (hcall : getOrCreateLsp D cwd workspace now x s = (.ok (some e.value),
      { s with cache := store s.cache ⟨resolve cwd workspace, e.value, now⟩ })) :
    GetLaw D cwd h s workspace now x := by
  -- Only the stamp of the entry changes, so nothing is evicted.
  have hcache : ∀ e', e' ∈ (getOrCreateLsp D cwd workspace now x s).2.cache ↔
      e' = ⟨resolve cwd workspace, e.value, now⟩ ∨
        e' ∈ s.cache ∧ e'.key ≠ resolve cwd workspace := by
    intro e'
    rw [hcall]
    exact mem_store
  refine ⟨?_, ?_, ?_, ?_, ?_⟩
  · intro e' he' hkey' _
    obtain rfl : e' = e := eq_of_key hs.keys he' he (hkey'.trans hkey.symm)
    rw [hcall]
    exact ⟨rfl, rfl⟩
  · rw [hcall]
    exact ⟨_, rfl⟩
  · intro hgone
    exact absurd (hgone e he hkey) hruns
  · intro e' he'
    rcases (hcache e').mp he' with rfl | ⟨hmem, -⟩
    · exact .inl rfl
    · exact .inr hmem
  · intro e' he' hne hgone
    exact absurd ((hcache e').mpr (.inr ⟨he', hne⟩)) hgone

/-- The law of a call that returns, where no two uses have one time. -/
theorem getLaw_of_returns (hs : Orderly h s) (htimes : (h.map Prod.snd).Nodup)
    (hreturns : Returns D cwd s workspace x) : GetLaw D cwd h s workspace now x := by
  have hresult := (getOrCreateLsp_returns_iff D cwd workspace now x s).mpr hreturns
  rcases getOrCreateLsp_cases D cwd workspace now x hreturns.1 hs with
    ⟨e, he, hkey, hruns, hcall⟩ | ⟨hnone, c', hroomed, hcall⟩
  · exact getLaw_cached hs he hkey hruns hcall
  · have hpop : ∀ e' ∈ c', e' ∈ s.cache ∧ e'.key ≠ resolve cwd workspace :=
      fun e' he' => mem_pop.mp (hroomed.sublist.subset he')
    have hcached : ∀ e' ∈ s.cache, e'.key = resolve cwd workspace → e'.value ∉ s.exited →
        (getOrCreateLsp D cwd workspace now x s).1 = .ok (some e'.value) ∧
          (getOrCreateLsp D cwd workspace now x s).2.spawned = s.spawned :=
      fun e' he' hkey hruns => absurd (hnone e' he' hkey) hruns
    rcases hcall with ⟨r, s', hcall, hr, hcache⟩ | ⟨s', hcall, hspawned, hcache⟩
    · -- Nothing is stored: what is left of the cache is what room was made of.
      refine ⟨hcached, hresult, ?_, ?_, ?_⟩
      · intro _ r' hr'
        rw [hcall] at hr'
        cases r' with
        | none => exact .inl rfl
        | some p => exact absurd hr' (hr p)
      · intro e' he'
        rw [hcall] at he'
        rw [hcache] at he'
        exact .inr (hpop e' he').1
      · intro e' he' hne hgone
        rw [hcall, hcache] at hgone
        exact hroomed.removed hs htimes he' hne hgone
    · -- The process that was started is stored beside it.
      have hmem : ∀ e', e' ∈ s'.cache ↔ e' = ⟨resolve cwd workspace, s.spawned, now⟩ ∨
          e' ∈ c' ∧ e'.key ≠ resolve cwd workspace := by
        intro e'
        rw [hcache]
        exact mem_store
      refine ⟨hcached, hresult, ?_, ?_, ?_⟩
      · intro _ r' hr'
        rw [hcall] at hr' ⊢
        cases hr'
        exact .inr ⟨rfl, hspawned, _, (hmem _).mpr (.inl rfl), rfl, rfl⟩
      · intro e' he'
        rw [hcall] at he'
        rcases (hmem e').mp he' with rfl | ⟨hin, -⟩
        · exact .inl rfl
        · exact .inr (hpop e' hin).1
      · intro e' he' hne hgone
        rw [hcall] at hgone
        refine hroomed.removed hs htimes he' hne fun hin => hgone ?_
        exact (hmem e').mpr (.inr ⟨hin, hne⟩)

/-- **The law of a call** holds exactly where the call returns. -/
theorem getLaw_iff (hs : Orderly h s) (htimes : (h.map Prod.snd).Nodup) :
    GetLaw D cwd h s workspace now x ↔ Returns D cwd s workspace x :=
  ⟨fun hlaw => (getOrCreateLsp_returns_iff D cwd workspace now x s).mp hlaw.returns,
    getLaw_of_returns hs htimes⟩

end

/-! ## §4. Every run. -/

/-- **The cache of language servers**, over any calls whose clock goes forward: it is as it
should be, and every call does what it should, exactly where no call raises for its start. -/
theorem lsp_cache_invariant_iff {T : Type} [LinearOrder T] (D : Decoder) (cwd : List Comp)
    (calls : List (ServerCall T)) (hclock : ((uses cwd calls).map Prod.snd).Pairwise (· < ·)) :
    CacheLaws D cwd calls ↔ Meets (ServerCall.step D cwd) (CallReturns D cwd) {} calls := by
  have hinit : Orderly [] ({} : Servers T) := ⟨.nil, Nat.zero_le _, nofun⟩
  have hreached : ∀ pre : List (ServerCall T),
      Orderly (uses cwd pre) (run (ServerCall.step D cwd) {} pre) := by
    intro pre
    simpa using run_orderly D cwd pre hinit
  have htimes : ∀ pre, pre <+: calls → ((uses cwd pre).map Prod.snd).Nodup := by
    rintro pre ⟨post, rfl⟩
    rw [uses, List.filterMap_append, List.map_append] at hclock
    exact (List.pairwise_append.mp hclock).1.imp fun hlt => ne_of_lt hlt
  have hiff : ∀ pre workspace now x post, calls = pre ++ .getOrCreate workspace now x :: post →
      (GetLaw D cwd (uses cwd pre) (run (ServerCall.step D cwd) {} pre) workspace now x ↔
        Returns D cwd (run (ServerCall.step D cwd) {} pre) workspace x) :=
    fun pre _ _ _ post hcalls => getLaw_iff (hreached pre) (htimes pre ⟨_, hcalls.symm⟩)
  rw [meets_iff]
  constructor
  · intro hlaws pre call post hcalls
    cases call with
    | getOrCreate workspace now x =>
        exact (hiff pre workspace now x post hcalls).mp (hlaws.get pre workspace now x post hcalls)
    | touch workspace now => trivial
    | exit proc => trivial
  · intro hreturns
    refine ⟨fun pre _ => (hreached pre).room, fun pre _ => (hreached pre).keys, ?_, ?_⟩
    · intro pre workspace now x post hcalls
      exact (hiff pre workspace now x post hcalls).mpr (hreturns pre _ post hcalls)
    · intro pre workspace now post _
      exact touchLaw (hreached pre) workspace now

namespace Scripted

/-- A server that answers `initialize`, and stays. -/
def answering : Exchange where
  sent := .text "Content-Length: 13\n\n\x7b\"result\":1\x7d".toList fun _ => true

/-- Two workspaces, the first used again. -/
def twoServers : List (ServerCall Nat) :=
  [.getOrCreate "/ws/a" 1 answering, .getOrCreate "/ws/b" 2 answering, .touch "/ws/a" 3]

/-- A start that succeeds. -/
theorem answering_returns {s : Servers Nat} {workspace : String}
    (hnul : hasNul workspace = false) (habs : asUri workspace = .ok ()) :
    Returns (.exact noFloats) [] s workspace answering := by
  refine ⟨hnul, .inr fun hraises => hraises.2.2 ?_⟩
  exact ⟨some (.obj [("result", .int 1)]), ⟨habs, rfl, by decide +kernel⟩, rfl, rfl⟩

theorem lsp_cache_invariant_scripted : CacheLaws (.exact noFloats) [] twoServers := by
  refine (lsp_cache_invariant_iff (.exact noFloats) [] twoServers (by decide +kernel)).mpr ?_
  exact ⟨answering_returns rfl rfl, answering_returns rfl rfl, trivial, trivial⟩

example : (run (ServerCall.step (.exact noFloats) []) {} twoServers).cache.map
    (fun e => (e.value, e.used)) = [(0, 3), (1, 2)] := by decide +kernel

/-- A server that answers with a text that is no JSON, and stays. -/
def babbling : Exchange where
  sent := .text "Content-Length: 5\n\nlean".toList fun _ => true

end Scripted

/-- **Starts that raise**: in a workspace that is relative, whatever the server answers, and
for an answer that is no JSON. -/
theorem lsp_cache_invariant_fails :
    ¬ CacheLaws (T := Nat) (.exact noFloats) ["srv".toList]
        [.getOrCreate ".var/ws" 1 Scripted.answering] ∧
      ¬ CacheLaws (T := Nat) (.exact noFloats) ["srv".toList]
        [.getOrCreate "/srv/ws" 1 Scripted.babbling] := by
  constructor
  · intro hlaws
    obtain ⟨r, hr⟩ := (hlaws.get [] _ _ _ [] rfl).returns
    have hraises : (getOrCreateLsp (.exact noFloats) ["srv".toList] ".var/ws" 1
        Scripted.answering ({} : Servers Nat)).1 =
          .error (.valueError "relative path can't be expressed as a file URI") := by
      decide +kernel
    cases hraises.symm.trans hr
  · intro hlaws
    obtain ⟨r, hr⟩ := (hlaws.get [] _ _ _ [] rfl).returns
    have hraises : (getOrCreateLsp (.exact noFloats) ["srv".toList] "/srv/ws" 1
        Scripted.babbling ({} : Servers Nat)).1 = .error (.valueError "JSONDecodeError") := by
      decide +kernel
    cases hraises.symm.trans hr

end Lsp

end ObligationRuntime
