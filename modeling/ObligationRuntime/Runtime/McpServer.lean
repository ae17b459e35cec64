/-
  ObligationRuntime.Runtime.McpServer — the tools of the MCP adapter: mcp_server.py.

  One context holds the current session for the calls of every client.  A tool that
  needs a session takes the one the call names, or else the context's; the store is
  asked only while the context has no session.

  The gateway is outside: `create_session` is given its reply, and a session tool ends
  in the request it makes.
-/
import ObligationRuntime.Runtime.McpSessionStore

namespace ObligationRuntime

open Py

namespace Mcp

/-! ## §1. The context. -/

/-- `a or b`, on ids. -/
def orId (a b : Option String) : Option String := (truthy a).or b

/-- `MCPSessionContext`. -/
structure SessionContext where
  sessionId : Option String := none
  threadId : Option String := none
  fingerprintId : Option String := none
  workspacePath : Option String := none
  deriving DecidableEq, Repr

namespace SessionContext

/-- `set_from_create_session`. -/
def setFromCreateSession (ctx : SessionContext) (sessionId fingerprintId workspacePath : String) :
    SessionContext :=
  { ctx with
    sessionId := some sessionId
    fingerprintId := some fingerprintId
    workspacePath := truthy (some workspacePath) }

/-- `load_from_dict`. -/
def loadFromDict (ctx : SessionContext) (data : SessionRecord) : SessionContext where
  sessionId := orId (some data.sessionId) ctx.sessionId
  threadId := orId data.threadId ctx.threadId
  fingerprintId := orId (some data.fingerprintId) ctx.fingerprintId
  workspacePath := orId (some data.workspacePath) ctx.workspacePath

/-- `clear`. -/
def clear : SessionContext := {}

end SessionContext

/-- What `build_mcp_tools` closes over. -/
structure Server where
  ctx : SessionContext := {}
  store : Option InMemoryStore := none

namespace Server

/-- `_maybe_restore`. -/
def maybeRestore (s : Server) (id : Option String) : Server :=
  match s.store, truthy id, truthy s.ctx.sessionId with
  | some store, some id, none =>
      match store.get id with
      | some loaded => { s with ctx := s.ctx.loadFromDict loaded }
      | none => s
  | _, _, _ => s

/-! ## §2. Sessions. -/

/-- What the gateway answers to `create_session`; the last two keys may be missing. -/
structure SessionReply where
  sessionId : String
  fingerprintId : Option String := none
  workspacePath : Option String := none
  deriving DecidableEq, Repr

/-- `create_session`: the thread goes to the context before the gateway is asked. -/
def createSession (s : Server) (fingerprintId : String) (threadId : Option String)
    (reply : Except PyError SessionReply) : Server × Except PyError SessionReply :=
  let ctx := { s.ctx with threadId := orId threadId s.ctx.threadId }
  match reply with
  -- The gateway raised: the thread stays in the context.
  | .error e => ({ s with ctx }, .error e)
  | .ok out =>
      let fingerprintId := out.fingerprintId.getD fingerprintId
      let workspacePath := out.workspacePath.getD ""
      let ctx := ctx.setFromCreateSession out.sessionId fingerprintId workspacePath
      let store := s.store.map (·.set ⟨out.sessionId, ctx.threadId, fingerprintId, workspacePath⟩)
      ({ ctx, store }, .ok out)

/-- The error of a call without a session. -/
def noSession : PyError :=
  .valueError ("No session_id provided and no session in context. " ++
    "Call obligation/create_session first.")

/-- A session, or the error. -/
def chosen : Option String → Except PyError String
  | some sid => .ok sid
  | none => .error noSession

/-- `_session_id`. -/
def sessionId (s : Server) (sessionId threadId : Option String) :
    Server × Except PyError String :=
  -- By the thread first, for clients that reconnect.
  let s := if (truthy s.ctx.sessionId).isNone then s.maybeRestore threadId else s
  let s := s.maybeRestore (orId sessionId s.ctx.sessionId)
  (s, chosen (truthy (orId sessionId s.ctx.sessionId)))

/-! ## §3. Tools. -/

/-- A tool that needs a session, with the rest of its arguments. -/
inductive SessionTool where
  | applyPatch (files : Option Dict)
  | checkInteractive (filePath : String)
  | getGoal (filePath : String) (line column : Int) (goalKind : String)
  | batchVerify (targetFiles targetDeclarations : Option (List String))
  | hover (filePath : String) (line column : Int)
  | definition (filePath : String) (line column : Int)

/-- A request of the SDK client: its method, the session, and the other arguments. -/
structure Request where
  method : String
  sessionId : String
  args : Dict

/-- A position in a file. -/
def position (filePath : String) (line column : Int) : Dict :=
  [("file_path", .str filePath), ("line", .int line), ("column", .int column)]

/-- `names or []`. -/
def namesJson (names : Option (List String)) : Json := .arr ((names.getD []).map .str)

/-- The request of a tool. -/
def SessionTool.request (session : String) : SessionTool → Request
  | .applyPatch files => ⟨"apply_patch", session, [("files", .obj (files.getD []))]⟩
  | .checkInteractive path => ⟨"interactive_check", session, [("file_path", .str path)]⟩
  | .getGoal path line column kind =>
      ⟨"get_goal", session, position path line column ++ [("goal_kind", .str kind)]⟩
  | .batchVerify files declarations =>
      ⟨"batch_verify", session,
        [("target_files", namesJson files), ("target_declarations", namesJson declarations)]⟩
  | .hover path line column => ⟨"hover", session, position path line column⟩
  | .definition path line column => ⟨"definition", session, position path line column⟩

/-- A call of a session tool, up to its request. -/
def callTool (s : Server) (tool : SessionTool) (sessionId threadId : Option String) :
    Server × Except PyError Request :=
  match s.sessionId sessionId threadId with
  | (s, .ok sid) => (s, .ok (tool.request sid))
  | (s, .error e) => (s, .error e)

/-- A restart that keeps the store. -/
def restart (s : Server) : Server := { s with ctx := .clear }

/-! ## §4. Which session a call uses. -/

@[simp] theorem truthy_none : truthy none = none := rfl

/-- An id is truthy once and for all. -/
@[simp] theorem truthy_truthy (id : Option String) : truthy (truthy id) = truthy id := by
  unfold truthy
  cases id with
  | none => rfl
  | some t => by_cases ht : t = "" <;> simp [ht]

/-- An id that is not empty is truthy. -/
theorem truthy_some {t : String} (h : t ≠ "") : truthy (some t) = some t := by
  simp [truthy, h]

/-- `a or b`, as far as its truth goes. -/
theorem truthy_orId (a b : Option String) : truthy (orId a b) = (truthy a).or (truthy b) := by
  unfold orId
  cases ht : truthy a with
  | none => rfl
  | some t => simpa [ht] using truthy_some (truthy_ne ht)

/-- A restore leaves the store as it is. -/
@[simp] theorem maybeRestore_store (s : Server) (id : Option String) :
    (s.maybeRestore id).store = s.store := by
  unfold maybeRestore
  split
  · split <;> rfl
  · rfl

/-- A context with a session is not restored. -/
theorem maybeRestore_of_session {s : Server} {sid : String}
    (h : truthy s.ctx.sessionId = some sid) (id : Option String) : s.maybeRestore id = s := by
  unfold maybeRestore
  rw [h]
  split
  next heq => cases heq
  next => rfl

/-- The session of the context after a restore. -/
theorem maybeRestore_session {s : Server} {store : InMemoryStore} (hstore : s.store = some store)
    (hctx : truthy s.ctx.sessionId = none) (id : Option String) :
    truthy (s.maybeRestore id).ctx.sessionId =
      truthy ((truthy id).bind fun t => (store.get t).map SessionRecord.sessionId) := by
  unfold maybeRestore
  rw [hstore, hctx]
  cases truthy id with
  | none => exact hctx
  | some t =>
      cases hget : store.get t with
      | none => simpa [hget] using hctx
      | some r => simp [hget, SessionContext.loadFromDict, truthy_orId, hctx]

/-- **A call that names a session** uses it. -/
theorem sessionId_named (s : Server) {id : String} (h : id ≠ "") (threadId : Option String) :
    (s.sessionId (some id) threadId).2 = .ok id := by
  unfold sessionId
  simp only [truthy_orId, truthy_some h, Option.some_or]
  rfl

/-- **A call without a session**, in a context with one, uses that. -/
theorem sessionId_context {s : Server} {sid : String} (h : truthy s.ctx.sessionId = some sid)
    {id : Option String} (hid : truthy id = none) (threadId : Option String) :
    (s.sessionId id threadId).2 = .ok sid := by
  unfold sessionId
  simp only [h, Option.isNone_some, Bool.false_eq_true, if_false]
  rw [maybeRestore_of_session h]
  simp only [truthy_orId, hid, h, Option.none_or]
  rfl

/-- **A call with a thread only**, in a context without a session, uses the session that
the store finds for the thread. -/
theorem sessionId_restored {s : Server} {store : InMemoryStore} (hstore : s.store = some store)
    (hctx : truthy s.ctx.sessionId = none) {id : Option String} (hid : truthy id = none)
    {t : String} (ht : t ≠ "") :
    (s.sessionId id (some t)).2 = chosen (truthy ((store.get t).map SessionRecord.sessionId)) := by
  have hrestored := maybeRestore_session hstore hctx (some t)
  rw [truthy_some ht, Option.bind_some] at hrestored
  unfold sessionId
  simp only [hctx, Option.isNone_none, if_true]
  cases hfound : truthy ((store.get t).map SessionRecord.sessionId) with
  | some sid =>
      rw [hfound] at hrestored
      rw [maybeRestore_of_session hrestored]
      simp only [truthy_orId, hid, hrestored, Option.none_or]
  | none =>
      rw [hfound] at hrestored
      -- Neither id is left: the second restore has no key.
      have hkey : truthy (orId id (s.maybeRestore (some t)).ctx.sessionId) = none := by
        rw [truthy_orId, hid, hrestored]
        rfl
      have hagain : (s.maybeRestore (some t)).maybeRestore
          (orId id (s.maybeRestore (some t)).ctx.sessionId) = s.maybeRestore (some t) := by
        rw [maybeRestore.eq_def, hkey]
        split
        next heq _ => cases heq
        next => rfl
      rw [hagain, hkey]

end Server

end Mcp

end ObligationRuntime
