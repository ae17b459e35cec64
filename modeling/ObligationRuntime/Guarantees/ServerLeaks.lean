/-
  ObligationRuntime.Guarantees.ServerLeaks — whether a language server is ever left behind.

  A process that was spawned should be in the cache, have exited, or have been sent
  `terminate`.  An eviction sends it, and so does a start whose server does not answer with
  a result; but a start that raises between the spawn and the cache leaves its process
  running, known to nobody.

  Main results:
    * `getOrCreateLsp_sound`, `handled_of_accounted` — one call, either way,
    * `no_server_leaked_iff` — the runs in which no server is leaked,
    * `no_server_leaked_fails` — answers that leak the server.
-/
import ObligationRuntime.Gateway.LspProcesses
import ObligationRuntime.Lib.Transition

namespace ObligationRuntime

open Py Posix Framing JsonText Recency Transition Gateway

namespace Lsp

/-! ## §1. The property. -/

section

variable {T : Type}

/-- **No server is leaked**: each process there has been is in the cache, has exited, or was
sent `terminate`. -/
def Accounted (s : Servers T) : Prop :=
  ∀ proc < s.spawned,
    (∃ e ∈ s.cache, e.value = proc) ∨ proc ∈ s.exited ∨ proc ∈ s.terminated

instance (s : Servers T) : Decidable (Accounted s) :=
  inferInstanceAs (Decidable (∀ proc < s.spawned,
    (∃ e ∈ s.cache, e.value = proc) ∨ proc ∈ s.exited ∨ proc ∈ s.terminated))

/-- The start takes care of its process: there is none, it exits by itself, its answer is
refused, or it is taken. -/
def Exchange.Safe (D : Decoder) (x : Exchange) (workspace : String) : Prop :=
  x.runs = false ∨ x.exits = true ∨ x.Refused D workspace ∨ x.Taken D workspace

/-- The call starts no server, or one that is taken care of. -/
def Handled (D : Decoder) (cwd : List Comp) (s : Servers T) : ServerCall T → Prop
  | .getOrCreate workspace _ x =>
      hasNul workspace = true ∨ HasServer cwd s workspace ∨ x.Safe D workspace
  | .touch _ _ => True
  | .exit _ => True

/-! ## §2. The invariant. -/

/-- Every process is accounted for, and none is of the future. -/
structure Sound (s : Servers T) : Prop where
  keys : (keys s.cache).Nodup
  cached : ∀ e ∈ s.cache, e.value < s.spawned
  exited : ∀ proc ∈ s.exited, proc < s.spawned
  terminated : ∀ proc ∈ s.terminated, proc < s.spawned
  accounted : Accounted s

variable {s : Servers T} {key : List Comp}

/-- An entry goes whose process has exited, or is sent `terminate`. -/
theorem Sound.pop (hs : Sound s) {terminated : List Proc}
    (hkeep : ∀ proc ∈ s.terminated, proc ∈ terminated)
    (hnew : ∀ proc ∈ terminated, proc < s.spawned)
    (hgone : ∀ e ∈ s.cache, e.key = key → e.value ∈ s.exited ∨ e.value ∈ terminated) :
    Sound { s with cache := pop s.cache key, terminated } where
  keys := nodup_pop hs.keys key
  cached e he := hs.cached e (mem_pop.mp he).1
  exited := hs.exited
  terminated := hnew
  accounted := by
    intro proc hproc
    rcases hs.accounted proc hproc with ⟨e, he, rfl⟩ | hexited | hterminated
    · by_cases hkey : e.key = key
      · exact .inr (hgone e he hkey)
      · exact .inl ⟨e, mem_pop.mpr ⟨he, hkey⟩, rfl⟩
    · exact .inr (.inl hexited)
    · exact .inr (.inr (hkeep proc hterminated))

/-- The entry of a process is stored again. -/
theorem Sound.restore (hs : Sound s) {e : Entry (List Comp) Proc T} (he : find s.cache key = some e)
    (now : T) : Sound { s with cache := store s.cache ⟨key, e.value, now⟩ } := by
  obtain ⟨hmem, hkey⟩ := find_some he
  refine ⟨nodup_store hs.keys _, ?_, hs.exited, hs.terminated, ?_⟩
  · intro e' he'
    rcases mem_store.mp he' with rfl | ⟨hin, -⟩
    · exact hs.cached e hmem
    · exact hs.cached e' hin
  · intro proc hproc
    rcases hs.accounted proc hproc with ⟨e', he', rfl⟩ | hout
    · left
      by_cases hsame : e'.key = key
      · obtain rfl : e' = e := eq_of_key hs.keys he' hmem (hsame.trans hkey.symm)
        exact ⟨_, mem_store.mpr (.inl rfl), rfl⟩
      · exact ⟨e', mem_store.mpr (.inr ⟨he', hsame⟩), rfl⟩
    · exact .inr hout

/-- A process that was spawned exits. -/
theorem Sound.exit (hs : Sound s) {proc : Proc} (hproc : proc < s.spawned) :
    Sound { s with exited := proc :: s.exited } where
  keys := hs.keys
  cached := hs.cached
  exited := by
    intro p hp
    rcases List.mem_cons.mp hp with rfl | hin
    · exact hproc
    · exact hs.exited p hin
  terminated := hs.terminated
  accounted := by
    intro p hp
    exact (hs.accounted p hp).imp_right fun hout =>
      hout.imp_left fun hin => List.mem_cons_of_mem _ hin

/-- A process that is spawned, and taken care of. -/
theorem Sound.spawn (hs : Sound s) (exits : Bool) {cache : List (Entry (List Comp) Proc T)}
    {terminated : List Proc} (hkeys : (Recency.keys cache).Nodup)
    (hcache : ∀ e, e ∈ s.cache → e ∈ cache)
    (hcached : ∀ e ∈ cache, e ∈ s.cache ∨ e.value = s.spawned)
    (hkeep : ∀ proc ∈ s.terminated, proc ∈ terminated)
    (hnew : ∀ proc ∈ terminated, proc ∈ s.terminated ∨ proc = s.spawned)
    (hsafe : exits = true ∨ s.spawned ∈ terminated ∨ ∃ e ∈ cache, e.value = s.spawned) :
    Sound { s.spawn exits with cache, terminated } := by
  have hexits : ∀ proc, proc ∈ (s.spawn exits).exited ↔
      proc ∈ s.exited ∨ exits = true ∧ proc = s.spawned := by
    intro proc
    cases exits with
    | true => simp [Servers.spawn, or_comm]
    | false => simp [Servers.spawn]
  -- Numbers are given in order, so all that was known stays below the next one.
  refine ⟨hkeys, ?_, ?_, ?_, ?_⟩
  · intro e he
    show e.value < s.spawned + 1
    rcases hcached e he with hin | hfresh
    · exact Nat.lt_succ_of_lt (hs.cached e hin)
    · rw [hfresh]
      exact Nat.lt_succ_self _
  · intro proc hproc
    show proc < s.spawned + 1
    rcases (hexits proc).mp hproc with hin | ⟨-, rfl⟩
    · exact Nat.lt_succ_of_lt (hs.exited proc hin)
    · exact Nat.lt_succ_self _
  · intro proc hproc
    show proc < s.spawned + 1
    rcases hnew proc hproc with hin | rfl
    · exact Nat.lt_succ_of_lt (hs.terminated proc hin)
    · exact Nat.lt_succ_self _
  · intro proc hproc
    have hlt : proc < s.spawned + 1 := hproc
    by_cases hold : proc < s.spawned
    · rcases hs.accounted proc hold with ⟨e, he, rfl⟩ | hexited | hterminated
      · exact .inl ⟨e, hcache e he, rfl⟩
      · exact .inr (.inl ((hexits proc).mpr (.inl hexited)))
      · exact .inr (.inr (hkeep proc hterminated))
    · obtain rfl : proc = s.spawned := Nat.le_antisymm (Nat.lt_succ_iff.mp hlt) (not_lt.mp hold)
      rcases hsafe with hexit | hterminated | htaken
      · exact .inr (.inl ((hexits _).mpr (.inr ⟨hexit, rfl⟩)))
      · exact .inr (.inr hterminated)
      · exact .inl htaken

end

/-! ## §3. One call. -/

section

variable {T : Type} [LinearOrder T] {D : Decoder} {cwd : List Comp} {workspace : String}
  {now : T} {x : Exchange} {s : Servers T}

/-- **An eviction** takes care of the process it evicts. -/
theorem evictOldest_sound (hs : Sound s) : Sound (evictOldest s) := by
  by_cases hnil : s.cache = []
  · have hsame : evictOldest s = s := by
      unfold evictOldest
      rw [hnil]
      rfl
    rw [hsame]
    exact hs
  · obtain ⟨e, he, hcache, hspawned, hexited, hterminated⟩ := evictOldest_cases hnil
    have hstate : evictOldest s =
        { s with cache := Recency.pop s.cache e.key
                 terminated := (evictOldest s).terminated } := by
      cases hevict : evictOldest s with
      | mk cache spawned exited terminated =>
          rw [hevict] at hcache hspawned hexited
          simp only at hcache hspawned hexited
          rw [hcache, hspawned, hexited]
    -- The entry of a key is the only one.
    have honly : ∀ e' ∈ s.cache, e'.key = e.key → e' = e :=
      fun e' he' hkey => eq_of_key hs.keys he' (oldest_mem he) hkey
    rw [hstate, hterminated]
    by_cases hgone : e.value ∈ s.exited
    · rw [if_pos hgone]
      refine hs.pop (fun _ h => h) hs.terminated fun e' he' hkey => .inl ?_
      rw [honly e' he' hkey]
      exact hgone
    · rw [if_neg hgone]
      refine hs.pop (fun _ h => List.mem_cons_of_mem _ h) ?_ fun e' he' hkey => .inr ?_
      · intro proc hproc
        rcases List.mem_cons.mp hproc with rfl | hin
        · exact hs.cached e (oldest_mem he)
        · exact hs.terminated proc hin
      · rw [honly e' he' hkey]
        exact List.mem_cons_self ..

/-- What making room keeps. -/
structure SameProcesses (s s' : Servers T) : Prop where
  sound : Sound s'
  spawned : s'.spawned = s.spawned
  exited : s'.exited = s.exited
  subset : ∀ e ∈ s'.cache, e ∈ s.cache

theorem makeRoom_sound (hs : Sound s) (n : Nat) : SameProcesses s (makeRoom n s) := by
  induction n generalizing s with
  | zero => exact ⟨hs, rfl, rfl, fun _ h => h⟩
  | succ n ih =>
      unfold makeRoom
      split
      next hfull =>
        have hne : s.cache ≠ [] := by
          intro hnil
          rw [hnil] at hfull
          simp [lspMaxSize] at hfull
        obtain ⟨e, he, hcache, hspawned, hexited, -⟩ := evictOldest_cases hne
        obtain ⟨hsound, hspawned', hexited', hsub⟩ := ih (evictOldest_sound hs)
        refine ⟨hsound, hspawned'.trans hspawned, hexited'.trans hexited, fun e' he' => ?_⟩
        have hmem := hsub e' he'
        rw [hcache] at hmem
        exact (mem_pop.mp hmem).1
      next => exact ⟨hs, rfl, rfl, fun _ h => h⟩

/-- **A start that is safe** takes care of its process. -/
theorem createLsp_sound (hs : Sound s) (hkey : ∀ e ∈ s.cache, e.key ≠ resolve cwd workspace)
    (hsafe : x.Safe D workspace) : Sound (createLsp D cwd workspace now x s).2 := by
  obtain ⟨hroom, -, -, hsub⟩ := makeRoom_sound hs s.cache.length
  rcases startLsp_cases D workspace x (makeRoom s.cache.length s) with
    ⟨-, hstart⟩ | ⟨-, -, hstart⟩ | ⟨-, -, hstart⟩ | ⟨hruns, hrefused, htaken, e, hstart⟩
  · rw [createLsp_of_none hstart]
    exact hroom
  · -- It is refused.
    have hsent : Sound ((makeRoom s.cache.length s).spawn x.exits |>.terminate
        (makeRoom s.cache.length s).spawned) :=
      hroom.spawn x.exits hroom.keys (fun _ h => h) (fun _ h => .inl h)
        (fun _ h => List.mem_cons_of_mem _ h) (fun _ h => (List.mem_cons.mp h).symm)
        (.inr (.inl (List.mem_cons_self ..)))
    cases hwait : x.wait with
    | ok u =>
        rw [hwait] at hstart
        rw [createLsp_of_none hstart]
        exact hsent
    | error e =>
        rw [hwait] at hstart
        rw [createLsp_of_error hstart]
        exact hsent
  · -- It is taken, under a key that is not there.
    have hfresh : ∀ e ∈ (makeRoom s.cache.length s).cache, e.key ≠ resolve cwd workspace :=
      fun e he => hkey e (hsub e he)
    rw [createLsp_of_some hstart]
    refine hroom.spawn x.exits (nodup_store hroom.keys _) ?_ ?_ (fun _ h => h)
      (fun _ h => .inl h) (.inr (.inr ⟨_, mem_store.mpr (.inl rfl), rfl⟩))
    · intro e he
      exact mem_store.mpr (.inr ⟨he, hfresh e he⟩)
    · intro e he
      rcases mem_store.mp he with rfl | ⟨hin, -⟩
      · exact .inr rfl
      · exact .inl hin
  · -- It is left behind, but exits by itself.
    have hexits : x.exits = true := by
      rcases hsafe with hnot | hexits | hsent | hkept
      · rw [hruns] at hnot
        cases hnot
      · exact hexits
      · exact absurd hsent hrefused
      · exact absurd hkept htaken
    rw [createLsp_of_error hstart]
    exact hroom.spawn x.exits hroom.keys (fun _ h => h) (fun _ h => .inl h) (fun _ h => h)
      (fun _ h => .inl h) (.inl hexits)

/-- **A start that is not safe** leaves its process. -/
theorem createLsp_leaks (hs : Sound s) (hleaking : ¬ x.Safe D workspace) :
    ¬ Accounted (createLsp D cwd workspace now x s).2 := by
  obtain ⟨hroom, -, -, -⟩ := makeRoom_sound hs s.cache.length
  unfold Exchange.Safe at hleaking
  push Not at hleaking
  obtain ⟨hruns, hexits, hrefused, htaken⟩ := hleaking
  rcases startLsp_cases D workspace x (makeRoom s.cache.length s) with
    ⟨hnot, -⟩ | ⟨-, hsent, -⟩ | ⟨-, hkept, -⟩ | ⟨-, -, -, e, hstart⟩
  · exact absurd hnot hruns
  · exact absurd hsent hrefused
  · exact absurd hkept htaken
  · rw [createLsp_of_error hstart]
    intro haccounted
    have hexited : ((makeRoom s.cache.length s).spawn x.exits).exited =
        (makeRoom s.cache.length s).exited := if_neg hexits
    -- No list knows of the process of the last spawn.
    rcases haccounted (makeRoom s.cache.length s).spawned (Nat.lt_succ_self _) with
      ⟨e, he, hvalue⟩ | hin | hin
    · exact absurd (hroom.cached e he) (not_lt.mpr hvalue.ge)
    · rw [hexited] at hin
      exact absurd (hroom.exited _ hin) (lt_irrefl _)
    · exact absurd (hroom.terminated _ hin) (lt_irrefl _)

/-- Without a server that runs, the workspace has no entry, or one that goes first. -/
theorem getOrCreateLsp_of_not_hasServer (hs : Sound s) (hnul : hasNul workspace = false)
    (h : ¬ HasServer cwd s workspace) :
    Sound { s with cache := Recency.pop s.cache (resolve cwd workspace) } ∧
      getOrCreateLsp D cwd workspace now x s =
        createLsp D cwd workspace now x
          { s with cache := Recency.pop s.cache (resolve cwd workspace) } := by
  have hgone : ∀ e, find s.cache (resolve cwd workspace) = some e → e.value ∈ s.exited := by
    intro e he
    by_contra hruns
    exact h ⟨e, he, hruns⟩
  refine ⟨?_, getOrCreateLsp_create hnul hgone⟩
  refine hs.pop (fun _ h => h) hs.terminated fun e he hkey => .inl (hgone e ?_)
  rw [← hkey]
  exact find_of_mem hs.keys he

/-- **One call that is handled leaks no server.** -/
theorem step_sound (call : ServerCall T) (hs : Sound s) (h : Handled D cwd s call) :
    Sound (call.step D cwd s) := by
  cases call with
  | getOrCreate workspace now x =>
      show Sound (getOrCreateLsp D cwd workspace now x s).2
      -- A workspace with a live server gets that one; else one is started, and handled.
      cases hnul : hasNul workspace with
      | true =>
          rw [getOrCreateLsp_nul hnul]
          exact hs
      | false =>
          have hsafe := h.resolve_left (by simp [hnul])
          by_cases hserver : HasServer cwd s workspace
          · obtain ⟨e, he, hruns⟩ := hserver
            rw [getOrCreateLsp_cached hnul he hruns]
            exact hs.restore he now
          · obtain ⟨hpop, hcall⟩ :=
              getOrCreateLsp_of_not_hasServer (D := D) (x := x) hs hnul hserver
            rw [hcall]
            exact createLsp_sound hpop (fun e he => (mem_pop.mp he).2)
              (hsafe.resolve_left hserver)
  | touch workspace now =>
      show Sound (touchLsp cwd workspace now s)
      cases hfind : find s.cache (resolve cwd workspace) with
      | none =>
          rw [touchLsp_of_none hfind]
          exact hs
      | some e =>
          cases hnul : hasNul workspace with
          | true =>
              rw [touchLsp_nul hnul]
              exact hs
          | false =>
              rw [touchLsp_of_some hnul hfind]
              exact hs.restore hfind now
  | exit proc =>
      show Sound (if proc < s.spawned then { s with exited := proc :: s.exited } else s)
      split
      next hlt => exact hs.exit hlt
      next => exact hs

/-- **One call that leaks no server is handled.** -/
theorem handled_of_accounted (call : ServerCall T) (hs : Sound s)
    (h : Accounted (call.step D cwd s)) : Handled D cwd s call := by
  cases call with
  | getOrCreate workspace now x =>
      cases hnul : hasNul workspace with
      | true => exact .inl hnul
      | false =>
      by_cases hserver : HasServer cwd s workspace
      · exact .inr (.inl hserver)
      · refine .inr (.inr ?_)
        by_contra hleaking
        obtain ⟨hpop, hcall⟩ :=
          getOrCreateLsp_of_not_hasServer (D := D) (x := x) hs hnul hserver
        have hleaks : ¬ Accounted (createLsp D cwd workspace now x
            { s with cache := Recency.pop s.cache (resolve cwd workspace) }).2 :=
          createLsp_leaks hpop hleaking
        rw [← hcall] at hleaks
        exact hleaks h
  | touch workspace now => trivial
  | exit proc => trivial

end

/-! ## §4. Every run. -/

/-- **No server is leaked** in any state of a run exactly when every call of it is
handled. -/
theorem no_server_leaked_iff {T : Type} [LinearOrder T] (D : Decoder) (cwd : List Comp)
    (calls : List (ServerCall T)) :
    (∀ pre, pre <+: calls → Accounted (run (ServerCall.step D cwd) {} pre)) ↔
      Meets (ServerCall.step D cwd) (Handled D cwd) {} calls := by
  have hinit : Sound ({} : Servers T) := ⟨.nil, nofun, nofun, nofun, nofun⟩
  refine (meets_iff_always (P := Sound) (D := fun _ => True) ?_ ?_ ?_ hinit fun _ _ => trivial).symm
  · intro s call _ hs hhandled
    exact step_sound call hs hhandled
  · intro s hs
    exact hs.accounted
  · intro s call _ hs haccounted
    exact handled_of_accounted call hs haccounted

namespace Scripted

/-- A server that sends this body, and stays. -/
def sending (header body : String) : Exchange where
  sent := .text (header ++ "\n" ++ body).toList fun _ => true

/-- The start of a server in a workspace. -/
def starting (workspace : String) (x : Exchange) : List (ServerCall Nat) :=
  [.getOrCreate workspace 1 x]

end Scripted

/-- **Answers that leak the server**: a body that is no JSON, a number, and, whatever the
server would answer, a workspace that is relative. -/
theorem no_server_leaked_fails :
    ¬ Accounted (run (ServerCall.step (.exact noFloats) ["srv".toList]) {}
        (Scripted.starting "/srv/ws" (Scripted.sending "Content-Length: 5" "\nlean"))) ∧
      ¬ Accounted (run (ServerCall.step (.exact noFloats) ["srv".toList]) {}
        (Scripted.starting "/srv/ws" (Scripted.sending "Content-Length: 2" "\n1"))) ∧
      ¬ Accounted (run (ServerCall.step (.exact noFloats) ["srv".toList]) {}
        (Scripted.starting ".var/ws" (Scripted.sending "Content-Length: 13"
          "\n\x7b\"result\":1\x7d"))) := by
  refine ⟨?_, ?_, ?_⟩ <;> decide +kernel

end Lsp

end ObligationRuntime
