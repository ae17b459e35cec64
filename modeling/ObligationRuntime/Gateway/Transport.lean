/-
  ObligationRuntime.Gateway.Transport — the endpoints that read a file a client names:
  transport.py, lsp_client.py, and the routes of routes_sessions.py that use them.

  Every endpoint joins the file's path to the session's workspace, gets a language server
  for the workspace, and reads the file.  Only the calls on the file system matter here,
  and they are logged.  How the server is got is that of `Lsp.getOrCreateLsp`, with every
  exception of a start; what it answers on a text is a parameter.  The routes' own responses
  repeat the request beside that answer, and are left out.

  The path of a call is the one its text comes to: `..` drops a component.

  Main results:
    * `openFile_path` — an endpoint looks at the file that is named, and at no other.
-/
import ObligationRuntime.Gateway.Environment
import ObligationRuntime.Gateway.LspProcesses

namespace ObligationRuntime

open Py Posix Flow FileTree

namespace Gateway

/-! ## §1. Calls on the file system. -/

/-- A call on the file system. -/
inductive Access where
  | exists (path : List Comp)
  | readText (path : List Comp)
  | copytree (path : List Comp)
  deriving DecidableEq, Repr

/-- The path it is on. -/
def Access.path : Access → List Comp
  | .exists path => path
  | .readText path => path
  | .copytree path => path

/-- `path.read_text(encoding="utf-8")`. -/
def readText (fs : Files) (path : List Comp) : Except PyError String :=
  match fs path with
  | none => .error (.fileNotFoundError "read_text")
  | some .dir => .error (.osError "read_text")
  | some (.file content) =>
      match String.fromUTF8? content with
      | none => .error (.valueError "utf-8")
      | some text => .ok (String.ofList (universalNewlines text.toList))

/-! ## §2. lsp_client.py -/

/-- What an endpoint finds of the language servers: the processes there are, the clock, and
what the start of one would come to. -/
structure LspTurn (T : Type) where
  decoder : Framing.Decoder
  servers : Lsp.Servers T
  now : T
  exchange : Lsp.Exchange

/-- `_get_or_create_lsp`, in the workspace of a session. -/
def LspTurn.server {T : Type} [LinearOrder T] (turn : LspTurn T) (g : GatewayConfig)
    (sessionId : String) : Except PyError (Option Lsp.Proc) :=
  (Lsp.getOrCreateLsp turn.decoder g.cwd (g.workText sessionId) turn.now turn.exchange
    turn.servers).1

/-- `full_path.exists()`, which a path with a NUL answers without a look. -/
def pathExists (fs : Files) (workspace : List Comp) (filePath : String) :
    Eff Access PyError Bool :=
  let fullPath := resolve workspace filePath
  if hasNul filePath then return false
  else Eff.call (.exists fullPath) (.ok (fs fullPath).isSome)

/-- What a language server answers on the text of a file. -/
structure LspServer where
  diagnostics : String → List Dict
  goal : String → Int → Int → String → List Dict
  hover : String → Int → Int → String
  definition : String → Int → Int → List Dict

section

variable {T : Type} [LinearOrder T] (g : GatewayConfig) (σ : GatewayState) (turn : LspTurn T)
  (server : LspServer)

/-- What the endpoints share: without a server or a file the answer is empty. -/
def openFile {β : Type} (lease : Lease) (filePath : String) (empty : β) (ask : String → β) :
    Eff Access PyError β := do
  let proc ← Eff.lift (turn.server g lease.sessionId)
  if proc.isSome then
    if ← pathExists σ.fs lease.workspacePath filePath then
      let fullPath := resolve lease.workspacePath filePath
      let text ← Eff.call (.readText fullPath) (readText σ.fs fullPath)
      -- `full_path.as_uri()`: an absolute name replaces the workspace's.
      if isAbsolute g.dataRoot ∨ isAbsolute filePath then return ask text
      else Eff.lift (.error (.valueError "relative path can't be expressed as a file URI"))
    else return empty
  else return empty

/-- `run_check`. -/
def runCheck (lease : Lease) (filePath : String) :
    Eff Access PyError (List Dict × List Dict × Bool) :=
  openFile g σ turn lease filePath ([], [], false) fun text =>
    let diagnostics := server.diagnostics text
    (diagnostics, [], ! diagnostics.any fun d => (Dict.getD d "severity" .null).pyEq (.int 1))

/-- `run_get_goal`. -/
def runGetGoal (lease : Lease) (filePath : String) (line column : Int)
    (goalKind : String) : Eff Access PyError (List Dict) :=
  openFile g σ turn lease filePath [] fun text => server.goal text line column goalKind

/-- `run_hover`. -/
def runHover (lease : Lease) (filePath : String) (line column : Int) :
    Eff Access PyError String :=
  openFile g σ turn lease filePath "" fun text => server.hover text line column

/-- `run_definition`. -/
def runDefinition (lease : Lease) (filePath : String) (line column : Int) :
    Eff Access PyError (List Dict) :=
  openFile g σ turn lease filePath [] fun text => server.definition text line column

/-! ## §3. The routes. -/

/-- What the routes share: a session that is not known. -/
def inSession {β : Type} (sessionId : String) (run : Lease → Eff Access PyError β) :
    Eff Access PyError β :=
  match σ.sessions sessionId with
  | none => Eff.lift (.error (.apiError 404 "session_not_found"))
  | some lease => run lease

/-- `interactive_check`. -/
def interactiveCheckRoute (sessionId filePath : String) :
    Eff Access PyError (List Dict × List Dict × Bool) :=
  inSession σ sessionId fun lease => runCheck g σ turn server lease filePath

/-- `goal`. -/
def goalRoute (sessionId filePath : String) (line column : Int) (goalKind : String) :
    Eff Access PyError (List Dict) :=
  inSession σ sessionId fun lease => runGetGoal g σ turn server lease filePath line column goalKind

/-- `hover`. -/
def hoverRoute (sessionId filePath : String) (line column : Int) : Eff Access PyError String :=
  inSession σ sessionId fun lease => runHover g σ turn server lease filePath line column

/-- `definition`. -/
def definitionRoute (sessionId filePath : String) (line column : Int) :
    Eff Access PyError (List Dict) :=
  inSession σ sessionId fun lease => runDefinition g σ turn server lease filePath line column

/-- `create_session`, with what it looks at: the base, and the tree that is copied. -/
def createSessionRoute (fid : String) (uuid : Uuid) (copied : Copied) :
    Eff Access PyError CreateSessionResponse where
  calls :=
    if hasNul fid then []
    else
      .exists (g.basePath fid) ::
        if baseExists g σ.fs fid then [.copytree (g.basePath fid)] else []
  result := (createSession g σ fid uuid copied).2

end

/-! ## §4. What an endpoint looks at. -/

section

variable {T : Type} [LinearOrder T] {g : GatewayConfig} {σ : GatewayState} {turn : LspTurn T}
  {β : Type} {lease : Lease} {filePath : String} {empty : β} {ask : String → β}

/-- Where getting the server raises, so does the call, and no file is looked at. -/
theorem openFile_of_error {e : PyError} (h : turn.server g lease.sessionId = .error e) :
    openFile g σ turn lease filePath empty ask = ⟨[], .error e⟩ := by
  unfold openFile
  rw [h]
  rfl

/-- Without a server nothing is looked at, and the answer is empty. -/
theorem openFile_of_none (h : turn.server g lease.sessionId = .ok none) :
    openFile g σ turn lease filePath empty ask = ⟨[], .ok empty⟩ := by
  unfold openFile
  rw [h]
  rfl

/-- With one nothing is looked at either for a path with a NUL. -/
theorem openFile_of_nul {proc : Lsp.Proc} (h : turn.server g lease.sessionId = .ok (some proc))
    (hnul : hasNul filePath = true) :
    openFile g σ turn lease filePath empty ask = ⟨[], .ok empty⟩ := by
  have hexists : pathExists σ.fs lease.workspacePath filePath = return false := if_pos hnul
  unfold openFile
  rw [h, hexists]
  rfl

/-- Any other file is looked at. -/
theorem exists_mem_openFile {proc : Lsp.Proc}
    (h : turn.server g lease.sessionId = .ok (some proc)) (hnul : hasNul filePath = false) :
    .exists (resolve lease.workspacePath filePath) ∈
      (openFile g σ turn lease filePath empty ask).calls := by
  have hexists : pathExists σ.fs lease.workspacePath filePath =
      Eff.call (.exists (resolve lease.workspacePath filePath))
        (.ok (σ.fs (resolve lease.workspacePath filePath)).isSome) := if_neg (by simp [hnul])
  unfold openFile
  rw [h, hexists]
  exact List.mem_cons_self ..

/-- **Every call is on the file that is named.** -/
theorem openFile_path :
    Eff.Only (fun a => a.path = resolve lease.workspacePath filePath)
      (openFile g σ turn lease filePath empty ask) := by
  unfold openFile
  refine Eff.only_bind (Eff.only_lift _ _) fun proc => ?_
  split
  · refine Eff.only_bind ?_ fun found => ?_
    · unfold pathExists
      dsimp only
      split
      · exact Eff.only_pure _ _
      · refine Eff.only_call ?_ _
        rfl
    split
    · refine Eff.only_bind (Eff.only_call ?_ _) fun text => ?_
      · rfl
      split
      · exact Eff.only_pure _ _
      · exact Eff.only_lift _ _
    · exact Eff.only_pure _ _
  · exact Eff.only_pure _ _

end

end Gateway

end ObligationRuntime
