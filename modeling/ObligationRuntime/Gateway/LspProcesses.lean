/-
  ObligationRuntime.Gateway.LspProcesses — the language server processes: `_start_lsp`,
  `_evict_oldest`, `_get_or_create_lsp` and `_touch_lsp` of lsp_client.py.

  The client keeps one process for each workspace, with the time of its last use, and at
  most eight.  Processes are numbered by their spawn; which of them have exited, and which
  were sent `terminate`, is kept beside the cache.  A process exits between two calls, or
  during the exchange that starts it.

  The lock is left out: the calls that take it come one after the other.

  Main results:
    * `startLsp_cases`, `startLsp_returns_iff` — what a start does, and when it raises,
    * `makeRoom_eq` — a cache that is full loses its oldest entry,
    * `getOrCreateLsp_cached`, `getOrCreateLsp_create` — what `_get_or_create_lsp` does,
    * `getOrCreateLsp_returns_iff` — when it raises.
-/
import ObligationRuntime.Gateway.Framing
import ObligationRuntime.Gateway.LspClient
import ObligationRuntime.Gateway.Workspace
import ObligationRuntime.Lib.Attempt
import ObligationRuntime.Lib.Recency

namespace ObligationRuntime

open Py Posix Framing Recency Gateway

namespace Lsp

/-! ## §1. Processes. -/

/-- A server process, by the number of its spawn. -/
abbrev Proc := Nat

/-- `_LSP_MAX_SIZE`. -/
def lspMaxSize : Nat := 8

/-- The cache, and the processes there have been. -/
structure Servers (T : Type) where
  cache : List (Entry (List Comp) Proc T) := []
  spawned : Nat := 0
  exited : List Proc := []
  terminated : List Proc := []
  deriving DecidableEq

namespace Servers

variable {T : Type}

/-- `subprocess.Popen(..)`, of a process that may exit before the call is over. -/
def spawn (s : Servers T) (exits : Bool) : Servers T :=
  { s with
    spawned := s.spawned + 1
    exited := if exits then s.spawned :: s.exited else s.exited }

/-- `proc.terminate()`. -/
def terminate (s : Servers T) (proc : Proc) : Servers T :=
  { s with terminated := proc :: s.terminated }

end Servers

/-- What the server sends before its stream ends, with the clock of the read; or bytes
that are no text. -/
inductive Sent where
  | text (cs : List Char) (inTime : Nat → Bool)
  | undecodable (e : PyError)

/-- What `_read` comes to. -/
def Sent.delivered (D : Decoder) : Sent → Delivery
  | .text cs inTime => (Framing.lspRead D inTime cs).1
  | .undecodable e => .error e

/-- What happens when a server is started: whether it runs, what the two writes and the wait
come to, what it sends, and whether it exits by itself before the call is over. -/
structure Exchange where
  runs : Bool := true
  writeInitialize : Except PyError Unit := .ok ()
  sent : Sent
  wait : Except PyError Unit := .ok ()
  writeInitialized : Except PyError Unit := .ok ()
  exits : Bool := false

/-! ## §2. `_start_lsp`. -/

/-- `workspace_path.as_uri()`. -/
def asUri (workspace : String) : Except PyError Unit :=
  if isAbsolute workspace then .ok ()
  else .error (.valueError "relative path can't be expressed as a file URI")

/-- `not resp or "result" not in resp`. -/
def refused : Option Json → Except PyError Bool
  | none => .ok true
  | some resp => if resp.truthy then (pyIn "result" resp).map (! ·) else .ok true

section

variable {T : Type} (D : Decoder)

/-- The part of `_start_lsp` after the spawn. -/
def handshake (workspace : String) (x : Exchange) (proc : Proc) :
    Attempt (Servers T) PyError (Option Proc) := do
  -- The URI is a part of the first message: the process runs already.
  Attempt.lift (asUri workspace)
  Attempt.lift x.writeInitialize
  let resp ← Attempt.lift (x.sent.delivered D)
  if ← Attempt.lift (refused resp) then
    Attempt.modify (·.terminate proc)
    Attempt.lift x.wait
    return none
  Attempt.lift x.writeInitialized
  return some proc

/-- `_start_lsp`. -/
def startLsp (workspace : String) (x : Exchange) : Attempt (Servers T) PyError (Option Proc) := do
  if !x.runs then return none
  let proc := (← Attempt.get).spawned
  Attempt.modify (·.spawn x.exits)
  handshake D workspace x proc

/-- The exchange comes to the test of the response, with this response. -/
def Exchange.Responds (x : Exchange) (workspace : String) (resp : Option Json) : Prop :=
  asUri workspace = .ok () ∧ x.writeInitialize = .ok () ∧ x.sent.delivered D = .ok resp

/-- The server is refused. -/
def Exchange.Refused (x : Exchange) (workspace : String) : Prop :=
  ∃ resp, x.Responds D workspace resp ∧ refused resp = .ok true

/-- The server is taken. -/
def Exchange.Taken (x : Exchange) (workspace : String) : Prop :=
  ∃ resp, x.Responds D workspace resp ∧ refused resp = .ok false ∧ x.writeInitialized = .ok ()

/-- The start raises: the server runs, and is neither refused and waited for nor taken. -/
def Exchange.Raises (x : Exchange) (workspace : String) : Prop :=
  x.runs = true ∧ ¬ (x.Refused D workspace ∧ x.wait = .ok ()) ∧ ¬ x.Taken D workspace

end

section

variable {T : Type} {D : Decoder} {workspace : String} {x : Exchange}

/-- The handshake of a server that responds, up to the test of the response. -/
theorem handshake_responds {resp : Option Json} (h : x.Responds D workspace resp) (proc : Proc)
    (s : Servers T) : handshake D workspace x proc s =
      (do
        if ← Attempt.lift (refused resp) then
          Attempt.modify (·.terminate proc)
          Attempt.lift x.wait
          return none
        Attempt.lift x.writeInitialized
        return some proc : Attempt (Servers T) PyError (Option Proc)) s := by
  obtain ⟨huri, hwrite, hread⟩ := h
  unfold handshake
  rw [Attempt.bind_ok (Attempt.lift_ok huri s), Attempt.bind_ok (Attempt.lift_ok hwrite s),
    Attempt.bind_ok (Attempt.lift_ok hread s)]

/-- A server that is refused is sent `terminate`, whatever the wait comes to. -/
theorem handshake_refused (h : x.Refused D workspace) (proc : Proc) (s : Servers T) :
    handshake D workspace x proc s = (x.wait.map fun _ => none, s.terminate proc) := by
  obtain ⟨resp, hresp, hrefused⟩ := h
  rw [handshake_responds hresp, Attempt.bind_ok (Attempt.lift_ok hrefused s)]
  cases x.wait with
  | ok u => rfl
  | error e => rfl

/-- A server that is taken is returned. -/
theorem handshake_taken (h : x.Taken D workspace) (proc : Proc) (s : Servers T) :
    handshake D workspace x proc s = (.ok (some proc), s) := by
  obtain ⟨resp, hresp, hrefused, hwrite⟩ := h
  rw [handshake_responds hresp, Attempt.bind_ok (Attempt.lift_ok hrefused s)]
  exact Attempt.bind_ok (Attempt.lift_ok hwrite s) _

/-- Any other handshake raises, and does nothing. -/
theorem handshake_raises (hrefused : ¬ x.Refused D workspace) (htaken : ¬ x.Taken D workspace)
    (proc : Proc) (s : Servers T) : ∃ e, handshake D workspace x proc s = (.error e, s) := by
  -- Each step raises, or hands on to the next one; the last two are excluded.
  cases huri : asUri workspace with
  | error e => exact ⟨e, Attempt.bind_error (Attempt.lift_error huri s) _⟩
  | ok u =>
      cases hwrite : x.writeInitialize with
      | error e =>
          refine ⟨e, ?_⟩
          unfold handshake
          rw [Attempt.bind_ok (Attempt.lift_ok huri s)]
          exact Attempt.bind_error (Attempt.lift_error hwrite s) _
      | ok u' =>
          cases hread : x.sent.delivered D with
          | error e =>
              refine ⟨e, ?_⟩
              unfold handshake
              rw [Attempt.bind_ok (Attempt.lift_ok huri s),
                Attempt.bind_ok (Attempt.lift_ok hwrite s)]
              exact Attempt.bind_error (Attempt.lift_error hread s) _
          | ok resp =>
              have hresp : x.Responds D workspace resp := ⟨huri, hwrite, hread⟩
              rw [handshake_responds hresp]
              cases htest : refused resp with
              | error e => exact ⟨e, rfl⟩
              | ok b =>
                  cases b with
                  | true => exact absurd ⟨resp, hresp, htest⟩ hrefused
                  | false =>
                      cases hnotify : x.writeInitialized with
                      | error e => exact ⟨e, rfl⟩
                      | ok u'' => exact absurd ⟨resp, hresp, htest, hnotify⟩ htaken

/-- **What a start does**: nothing runs; or the process that is spawned is sent `terminate`,
is taken, or is left behind by an exception. -/
theorem startLsp_cases (D : Decoder) (workspace : String) (x : Exchange) (s : Servers T) :
    (x.runs = false ∧ startLsp D workspace x s = (.ok none, s)) ∨
      (x.runs = true ∧ x.Refused D workspace ∧
        startLsp D workspace x s =
          (x.wait.map fun _ => none, (s.spawn x.exits).terminate s.spawned)) ∨
      (x.runs = true ∧ x.Taken D workspace ∧
        startLsp D workspace x s = (.ok (some s.spawned), s.spawn x.exits)) ∨
      (x.runs = true ∧ ¬ x.Refused D workspace ∧ ¬ x.Taken D workspace ∧
        ∃ e, startLsp D workspace x s = (.error e, s.spawn x.exits)) := by
  cases hruns : x.runs with
  | false =>
      left
      refine ⟨rfl, ?_⟩
      simp only [startLsp, hruns]
      rfl
  | true =>
      have hstart : startLsp D workspace x s =
          handshake D workspace x s.spawned (s.spawn x.exits) := by
        simp only [startLsp, hruns]
        rfl
      right
      rw [hstart]
      -- The process is there from now on, whatever becomes of the handshake.
      by_cases hrefused : x.Refused D workspace
      · exact .inl ⟨rfl, hrefused, handshake_refused hrefused _ _⟩
      · by_cases htaken : x.Taken D workspace
        · exact .inr (.inl ⟨rfl, htaken, handshake_taken htaken _ _⟩)
        · exact .inr (.inr ⟨rfl, hrefused, htaken, handshake_raises hrefused htaken _ _⟩)

/-- A server that is refused is not taken. -/
theorem Exchange.Refused.not_taken (h : x.Refused D workspace) : ¬ x.Taken D workspace := by
  rintro ⟨resp, ⟨-, -, hread⟩, htaken, -⟩
  obtain ⟨resp', ⟨-, -, hread'⟩, hrefused⟩ := h
  obtain rfl : resp = resp' := Except.ok.inj (hread.symm.trans hread')
  rw [hrefused] at htaken
  cases htaken

variable (D workspace x) in
/-- **When a start returns.** -/
theorem startLsp_returns_iff (s : Servers T) :
    (∃ r, (startLsp D workspace x s).1 = .ok r) ↔ ¬ x.Raises D workspace := by
  unfold Exchange.Raises
  rcases startLsp_cases D workspace x s with
    ⟨hruns, hstart⟩ | ⟨hruns, hrefused, hstart⟩ | ⟨-, htaken, hstart⟩ |
      ⟨hruns, hrefused, htaken, e, hstart⟩
  · simp [hstart, hruns]
  · cases hwait : x.wait with
    | ok u => simp [hstart, hwait, hrefused, Except.map]
    | error e => simp [hstart, hwait, hruns, hrefused.not_taken, Except.map]
  · simp [hstart, htaken]
  · simp [hstart, hruns, hrefused, htaken]

end

/-! ## §3. The cache. -/

section

variable {T : Type} [LinearOrder T]

/-- `_evict_oldest`: a process that still runs is sent `terminate`. -/
def evictOldest (s : Servers T) : Servers T :=
  match oldest s.cache with
  | none => s
  | some e =>
      let s' := { s with cache := pop s.cache e.key }
      -- What `terminate` or the wait raises is caught, and answered by `kill`.
      if e.value ∈ s.exited then s' else s'.terminate e.value

/-- `while len(_LSP_CACHE) >= _LSP_MAX_SIZE`: one turn for each entry is enough. -/
def makeRoom : Nat → Servers T → Servers T
  | 0, s => s
  | n + 1, s => if lspMaxSize ≤ s.cache.length then makeRoom n (evictOldest s) else s

variable (D : Decoder) (cwd : List Comp)

/-- The part of `_get_or_create_lsp` without a process that runs. -/
def createLsp (workspace : String) (now : T) (x : Exchange) :
    Attempt (Servers T) PyError (Option Proc) := do
  -- An exception of the start does not bring back what was evicted.
  Attempt.modify fun s => makeRoom s.cache.length s
  match ← startLsp D workspace x with
  | none => return none
  | some proc =>
      Attempt.modify fun s => { s with cache := store s.cache ⟨resolve cwd workspace, proc, now⟩ }
      return some proc

/-- `_get_or_create_lsp`. -/
def getOrCreateLsp (workspace : String) (now : T) (x : Exchange) :
    Attempt (Servers T) PyError (Option Proc) := fun s =>
  match resolvePath cwd workspace with
  | .error e => (.error e, s)
  | .ok key =>
      match find s.cache key with
      | none => createLsp D cwd workspace now x s
      | some e =>
          if e.value ∈ s.exited then
            createLsp D cwd workspace now x { s with cache := pop s.cache key }
          else (.ok (some e.value), { s with cache := store s.cache ⟨key, e.value, now⟩ })

/-- `_touch_lsp`. -/
def touchLsp (workspace : String) (now : T) (s : Servers T) : Servers T :=
  match resolvePath cwd workspace with
  | .error _ => s
  | .ok key =>
      match find s.cache key with
      | none => s
      | some e => { s with cache := store s.cache ⟨key, e.value, now⟩ }

/-- A call on the cache, with the clock it reads; or the exit of a process. -/
inductive ServerCall (T : Type) where
  | getOrCreate (workspace : String) (now : T) (x : Exchange)
  | touch (workspace : String) (now : T)
  | exit (proc : Proc)

/-- The servers after the call. -/
def ServerCall.step (s : Servers T) : ServerCall T → Servers T
  | .getOrCreate workspace now x => (getOrCreateLsp D cwd workspace now x s).2
  | .touch workspace now => touchLsp cwd workspace now s
  | .exit proc => if proc < s.spawned then { s with exited := proc :: s.exited } else s

/-- A use of a workspace, if the text names one. -/
def useOf (workspace : String) (now : T) : Option (List Comp × T) :=
  (resolvePath cwd workspace).toOption.map fun key => (key, now)

/-- The use of a workspace that the call is. -/
def ServerCall.use? : ServerCall T → Option (List Comp × T)
  | .getOrCreate workspace now _ => useOf cwd workspace now
  | .touch workspace now => useOf cwd workspace now
  | .exit _ => none

/-- The workspace has a process that runs. -/
def HasServer (s : Servers T) (workspace : String) : Prop :=
  ∃ e, find s.cache (resolve cwd workspace) = some e ∧ e.value ∉ s.exited

/-- A call of `_get_or_create_lsp` returns: the text is a path, and the workspace has a process
that runs or the start of one does not raise. -/
def Returns (s : Servers T) (workspace : String) (x : Exchange) : Prop :=
  hasNul workspace = false ∧ (HasServer cwd s workspace ∨ ¬ x.Raises D workspace)

end

/-! ## §4. What the operations do. -/

section

variable {T : Type} [LinearOrder T] {D : Decoder} {cwd : List Comp} {workspace : String}
  {now : T} {x : Exchange} {s s' : Servers T}

/-- An eviction takes the oldest entry, and sends `terminate` to a process that runs. -/
theorem evictOldest_cases (h : s.cache ≠ []) :
    ∃ e, oldest s.cache = some e ∧ (evictOldest s).cache = pop s.cache e.key ∧
      (evictOldest s).spawned = s.spawned ∧ (evictOldest s).exited = s.exited ∧
      (evictOldest s).terminated =
        if e.value ∈ s.exited then s.terminated else e.value :: s.terminated := by
  obtain ⟨e, he⟩ := oldest_isSome h
  refine ⟨e, he, ?_⟩
  unfold evictOldest
  rw [he]
  by_cases hexited : e.value ∈ s.exited
  · simp [hexited]
  · simp [hexited, Servers.terminate]

/-- Where there is room nothing is stopped. -/
theorem makeRoom_of_lt (h : s.cache.length < lspMaxSize) (n : Nat) : makeRoom n s = s := by
  cases n with
  | zero => rfl
  | succ n => rw [makeRoom, if_neg (by omega)]

/-- **Making room** in a cache that is no more than full takes one eviction, or none. -/
theorem makeRoom_eq (h : s.cache.length ≤ lspMaxSize) :
    makeRoom s.cache.length s = if s.cache.length = lspMaxSize then evictOldest s else s := by
  by_cases hfull : s.cache.length = lspMaxSize
  · have hne : s.cache ≠ [] := by
      intro hnil
      rw [hnil] at hfull
      cases hfull
    obtain ⟨e, he, hcache, -⟩ := evictOldest_cases hne
    have hlt : (evictOldest s).cache.length < lspMaxSize := by
      rw [hcache, ← hfull]
      exact length_pop_lt (oldest_mem he)
    rw [if_pos hfull, hfull]
    show (if lspMaxSize ≤ s.cache.length then makeRoom 7 (evictOldest s) else s) = _
    rw [if_pos (by omega), makeRoom_of_lt hlt]
  · rw [if_neg hfull, makeRoom_of_lt (by omega)]

/-- A start that raises makes no entry, -/
theorem createLsp_of_error {e : PyError}
    (h : startLsp D workspace x (makeRoom s.cache.length s) = (.error e, s')) :
    createLsp D cwd workspace now x s = (.error e, s') := Attempt.bind_error h _

/-- nor does one that gives no process; -/
theorem createLsp_of_none
    (h : startLsp D workspace x (makeRoom s.cache.length s) = (.ok none, s')) :
    createLsp D cwd workspace now x s = (.ok none, s') := Attempt.bind_ok h _

/-- a process gets the entry of its workspace. -/
theorem createLsp_of_some {proc : Proc}
    (h : startLsp D workspace x (makeRoom s.cache.length s) = (.ok (some proc), s')) :
    createLsp D cwd workspace now x s =
      (.ok (some proc),
        { s' with cache := store s'.cache ⟨resolve cwd workspace, proc, now⟩ }) :=
  Attempt.bind_ok h _

/-- A workspace with a NUL is refused before anything is done, -/
theorem getOrCreateLsp_nul (hnul : hasNul workspace = true) :
    getOrCreateLsp D cwd workspace now x s =
      (.error (.valueError "embedded null byte"), s) := by
  simp only [getOrCreateLsp, resolvePath_nul hnul]

/-- A process that runs is returned. -/
theorem getOrCreateLsp_cached (hnul : hasNul workspace = false) {e : Entry (List Comp) Proc T}
    (h : find s.cache (resolve cwd workspace) = some e) (hruns : e.value ∉ s.exited) :
    getOrCreateLsp D cwd workspace now x s =
      (.ok (some e.value),
        { s with cache := store s.cache ⟨resolve cwd workspace, e.value, now⟩ }) := by
  simp only [getOrCreateLsp, resolvePath_ok hnul, h, if_neg hruns]

/-- Without one that runs, a new one is started; one that has exited goes first. -/
theorem getOrCreateLsp_create (hnul : hasNul workspace = false)
    (h : ∀ e, find s.cache (resolve cwd workspace) = some e → e.value ∈ s.exited) :
    getOrCreateLsp D cwd workspace now x s =
      createLsp D cwd workspace now x
        { s with cache := pop s.cache (resolve cwd workspace) } := by
  unfold getOrCreateLsp
  rw [resolvePath_ok hnul]
  cases hfind : find s.cache (resolve cwd workspace) with
  | none => simp only [hfind, pop_of_find_none hfind]
  | some e => simp only [hfind, if_pos (h e hfind)]

/-- A new one is returned where its start returns. -/
theorem createLsp_returns_iff :
    (∃ r, (createLsp D cwd workspace now x s).1 = .ok r) ↔ ¬ x.Raises D workspace := by
  rw [← startLsp_returns_iff D workspace x (makeRoom s.cache.length s)]
  cases hstart : startLsp D workspace x (makeRoom s.cache.length s) with
  | mk r s' =>
      cases r with
      | error e => simp [createLsp_of_error hstart]
      | ok proc =>
          cases proc with
          | none => simp [createLsp_of_none hstart]
          | some proc => simp [createLsp_of_some hstart]

variable (D cwd workspace now x s) in
/-- **When a call returns.** -/
theorem getOrCreateLsp_returns_iff :
    (∃ r, (getOrCreateLsp D cwd workspace now x s).1 = .ok r) ↔
      Returns D cwd s workspace x := by
  unfold Returns
  cases hnul : hasNul workspace with
  | true => simp [getOrCreateLsp_nul hnul]
  | false =>
      by_cases hserver : HasServer cwd s workspace
      · obtain ⟨e, he, hruns⟩ := hserver
        have hyes : HasServer cwd s workspace := ⟨e, he, hruns⟩
        simp [getOrCreateLsp_cached hnul he hruns, hyes]
      · have hgone : ∀ e, find s.cache (resolve cwd workspace) = some e → e.value ∈ s.exited := by
          intro e he
          by_contra hruns
          exact hserver ⟨e, he, hruns⟩
        rw [getOrCreateLsp_create hnul hgone, createLsp_returns_iff]
        simp [hserver]

end

section

variable {T : Type} {cwd : List Comp} {workspace : String} {now : T} {s : Servers T}

/-- and there is nothing to touch for it. -/
theorem touchLsp_nul (hnul : hasNul workspace = true) : touchLsp cwd workspace now s = s := by
  simp only [touchLsp, resolvePath_nul hnul]

/-- Nothing is touched where nothing is cached. -/
theorem touchLsp_of_none (h : find s.cache (resolve cwd workspace) = none) :
    touchLsp cwd workspace now s = s := by
  cases hnul : hasNul workspace with
  | true => exact touchLsp_nul hnul
  | false => simp only [touchLsp, resolvePath_ok hnul, h]

/-- What is cached gets a new time. -/
theorem touchLsp_of_some (hnul : hasNul workspace = false) {e : Entry (List Comp) Proc T}
    (h : find s.cache (resolve cwd workspace) = some e) :
    touchLsp cwd workspace now s =
      { s with cache := store s.cache ⟨resolve cwd workspace, e.value, now⟩ } := by
  simp only [touchLsp, resolvePath_ok hnul, h]

end

end Lsp

end ObligationRuntime
