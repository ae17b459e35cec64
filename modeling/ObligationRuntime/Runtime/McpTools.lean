/-
  ObligationRuntime.Runtime.McpTools — the MCP server: operation_catalog.py, the tools of
  mcp_server.py with their keyword arguments, and mcp_server_main.py.

  The server reads one message after the other from its standard input, and writes a response
  for each.  A call of a tool binds its arguments to the parameters of a function, and that
  makes one request of the SDK client at most.  An exception of a tool becomes an error; one
  outside of the tools ends the server.

  The ids of a call are texts here, or null: of another value the tools make a text, or a
  `TypeError` after a request.

  Main definitions:
    * `Tool.call` — a tool, with its arguments bound,
    * `handleMcpRequest`, `respond` — a request, and the response to a message,
    * `runServer` — the server, from what it reads to what it writes.
-/
import ObligationRuntime.Gateway.Framing
import ObligationRuntime.Runtime.McpServer
import ObligationRuntime.Sdk.Operations

namespace ObligationRuntime

open Py Gateway Sdk

namespace Mcp

/-! ## §1. operation_catalog.py -/

/-- An entry of the catalog. -/
structure Operation where
  name : String
  params : List String
  description : String

/-- `OPERATIONS`. -/
def operations : List Operation :=
  [⟨"open_environment", ["repo_id", "repo_path", "repo_url", "commit_sha"],
      "Open a Lean environment by repo_id (and optional repo_path, repo_url, commit_sha)."⟩,
    ⟨"create_session", ["fingerprint_id", "thread_id"], "Create a session for a fingerprint."⟩,
    ⟨"apply_patch", ["session_id", "thread_id", "files"], "Apply patch (files) to session."⟩,
    ⟨"check_interactive", ["session_id", "thread_id", "file_path"],
      "Run interactive check on file."⟩,
    ⟨"get_goal", ["session_id", "thread_id", "file_path", "line", "column", "goal_kind"],
      "Get goal at position."⟩,
    ⟨"hover", ["session_id", "thread_id", "file_path", "line", "column"],
      "Get hover contents at position (LSP)."⟩,
    ⟨"definition", ["session_id", "thread_id", "file_path", "line", "column"],
      "Get definition locations at position (LSP)."⟩,
    ⟨"batch_verify", ["session_id", "thread_id", "target_files", "target_declarations"],
      "Run batch verification."⟩,
    ⟨"get_review_payload", ["thread_id"], "Get review payload for thread."⟩,
    ⟨"submit_review_decision", ["thread_id", "decision"],
      "Submit approve or reject for thread."⟩,
    ⟨"resume", ["thread_id"], "Resume graph after approve/reject (requires checkpointer)."⟩]

/-- `get_mcp_tool_name`. -/
def getMcpToolName (operationName : String) : String := "obligation/" ++ operationName

/-- `operation_param_schema`. -/
def operationParamSchema (param : String) : Dict :=
  if param ∈ ["line", "column"] then [("type", .str "integer")]
  else if param ∈ ["target_files", "target_declarations"] then
    [("type", .str "array"), ("items", .obj [("type", .str "string")])]
  else if param = "files" then [("type", .str "object")]
  else [("type", .str "string")]

/-- What is announced of an operation. -/
def Operation.schema (op : Operation) : Dict :=
  let properties := op.params.map fun p => (p, Json.obj (operationParamSchema p))
  [("name", .str (getMcpToolName op.name)), ("description", .str op.description),
    ("inputSchema", .obj [("type", .str "object"), ("properties", .obj properties)])]

/-- `build_mcp_tool_schemas`. -/
def buildMcpToolSchemas : List Json := operations.map fun op => .obj op.schema

/-! ## §2. The functions of the tools. -/

/-- The functions that `build_mcp_tools` returns. -/
inductive Tool where
  | openEnvironment
  | createSession
  | onSession (op : SessionOperation)
  | getReviewPayload
  | submitReviewDecision
  | resume
  deriving DecidableEq

/-- The key of a tool. -/
def Tool.name : Tool → String
  | .openEnvironment => "obligation/open_environment"
  | .createSession => "obligation/create_session"
  | .onSession .applyPatch => "obligation/apply_patch"
  | .onSession .interactiveCheck => "obligation/check_interactive"
  | .onSession .getGoal => "obligation/get_goal"
  | .onSession .hover => "obligation/hover"
  | .onSession .definition => "obligation/definition"
  | .onSession .batchVerify => "obligation/batch_verify"
  | .getReviewPayload => "obligation/get_review_payload"
  | .submitReviewDecision => "obligation/submit_review_decision"
  | .resume => "obligation/resume"

/-- The tools. -/
def tools : List Tool :=
  [.openEnvironment, .createSession, .onSession .applyPatch, .onSession .interactiveCheck,
    .onSession .getGoal, .onSession .batchVerify, .getReviewPayload, .submitReviewDecision,
    .onSession .hover, .onSession .definition, .resume]

/-- A parameter, and its default if it has one. -/
structure Parameter where
  name : String
  default : Option Json := none

/-- The parameters that choose a session. -/
def sessionParameters : List Parameter := [⟨"session_id", some .null⟩, ⟨"thread_id", some .null⟩]

/-- The parameters of a position. -/
def positionParameters : List Parameter :=
  [⟨"file_path", some (.str "")⟩, ⟨"line", some (.int 0)⟩, ⟨"column", some (.int 0)⟩]

/-- The other parameters of a tool on a session. -/
def operationParameters : SessionOperation → List Parameter
  | .applyPatch => [⟨"files", some .null⟩]
  | .interactiveCheck => [⟨"file_path", some (.str "")⟩]
  | .getGoal => positionParameters ++ [⟨"goal_kind", some (.str "plainGoal")⟩]
  | .hover => positionParameters
  | .definition => positionParameters
  | .batchVerify => [⟨"target_files", some .null⟩, ⟨"target_declarations", some .null⟩]

/-- The parameters of a tool. -/
def Tool.parameters : Tool → List Parameter
  | .openEnvironment =>
      [⟨"repo_id", none⟩, ⟨"repo_path", some .null⟩, ⟨"repo_url", some .null⟩,
        ⟨"commit_sha", some (.str "HEAD")⟩]
  | .createSession => [⟨"fingerprint_id", none⟩, ⟨"thread_id", some .null⟩]
  | .onSession op => sessionParameters ++ operationParameters op
  | .getReviewPayload => [⟨"thread_id", none⟩]
  | .submitReviewDecision => [⟨"thread_id", none⟩, ⟨"decision", none⟩]
  | .resume => [⟨"thread_id", none⟩]

/-- Why keyword arguments are refused. -/
inductive BadArguments where
  | unexpected (name : String)
  | missing (names : List String)
  deriving DecidableEq

/-- `f(**args)`: the values of the parameters. -/
def bindArguments (ps : List Parameter) (args : Dict) : Except BadArguments (String → Json) :=
  match args.find? fun kv => decide (kv.1 ∉ ps.map Parameter.name) with
  | some kv => .error (.unexpected kv.1)
  | none =>
      match ps.filter fun p => p.default.isNone && (args.get? p.name).isNone with
      | [] => .ok fun name =>
          (args.get? name).getD
            (((ps.find? fun p => p.name = name).bind Parameter.default).getD .null)
      | missing => .error (.missing (missing.map Parameter.name))

/-- An id that is a text, or `None`. -/
def idOf : Json → Option String
  | .str id => some id
  | _ => none

/-- An id in a path: `None` is put there like any text. -/
def shownId (v : Json) : String := (idOf v).getD "None"

/-- The payload of a tool on a session. -/
def sessionPayload (arg : String → Json) : SessionOperation → Dict
  | .applyPatch => [("files", (arg "files").orElse (.obj []))]
  | .interactiveCheck => [("file_path", arg "file_path")]
  | .getGoal =>
      [("file_path", arg "file_path"), ("line", arg "line"), ("column", arg "column"),
        ("goal_kind", arg "goal_kind")]
  | .hover => [("file_path", arg "file_path"), ("line", arg "line"), ("column", arg "column")]
  | .definition =>
      [("file_path", arg "file_path"), ("line", arg "line"), ("column", arg "column")]
  | .batchVerify =>
      [("target_files", (arg "target_files").orElse (.arr [])),
        ("target_declarations", (arg "target_declarations").orElse (.arr []))]

/-- What a tool asks of the client, after it has chosen its session. -/
def Tool.request (arg : String → Json) (server : Server) :
    Tool → Server × Except PyError Call
  | .openEnvironment =>
      (server, .ok (.openEnvironment [("repo_id", arg "repo_id"), ("repo_path", arg "repo_path"),
        ("repo_url", arg "repo_url"), ("commit_sha", arg "commit_sha")]))
  | .createSession =>
      (server, .ok (.createSession [("fingerprint_id", arg "fingerprint_id")]))
  | .onSession op =>
      let chosen := server.sessionId (idOf (arg "session_id")) (idOf (arg "thread_id"))
      (chosen.1, chosen.2.map fun sid => .session op sid (sessionPayload arg op))
  | .getReviewPayload => (server, .ok (.getReviewPayload (shownId (arg "thread_id"))))
  | .submitReviewDecision =>
      (server, .ok (.submitReviewDecision (shownId (arg "thread_id")) (shownId (arg "decision"))
        []))
  | .resume => (server, .ok (.resume (shownId (arg "thread_id"))))

/-- Why a tool does not answer. -/
inductive Failure where
  | sdk (e : SdkError)
  | text (s : String)

/-- The text of an exception. -/
def errorText : PyError → String
  | .valueError text => text
  | .typeError text => text
  | .attributeError text => text
  | .osError text => text
  | _ => ""

/-- What `create_session` reads of the client's answer. -/
def sessionReply (out : Dict) : Except PyError Server.SessionReply :=
  match (out.get? "session_id").bind idOf with
  | some sessionId =>
      .ok ⟨sessionId, (out.get? "fingerprint_id").bind idOf, (out.get? "workspace_path").bind idOf⟩
  -- `KeyError`.
  | none => .error (.valueError "'session_id'")

/-- What a tool makes of the client's answer. -/
def Tool.finish (arg : String → Json) (server : Server) (answer : Except SdkError Answer) :
    Tool → Server × Except Failure Dict
  | .createSession =>
      let threadId := idOf (arg "thread_id")
      let fingerprintId := (idOf (arg "fingerprint_id")).getD ""
      match answer with
      -- The thread is in the context already.
      | .error e =>
          ((server.createSession fingerprintId threadId (.error (.osError ""))).1, .error (.sdk e))
      | .ok a =>
          let made := server.createSession fingerprintId threadId (sessionReply a.dump)
          (made.1, (made.2.map fun _ => a.dump).mapError fun e => .text (errorText e))
  | _ => (server, (answer.map Answer.dump).mapError .sdk)

/-- An SDK client, over a gateway with some state. -/
abbrev Client (σ : Type) := Call → σ → σ × Except SdkError Answer

/-- The server's own state, and the gateway's. -/
structure Host (σ : Type) where
  server : Server
  gateway : σ

section

variable {σ : Type}

/-- **A tool**, with its arguments bound. -/
def Tool.call (client : Client σ) (tool : Tool) (arg : String → Json) (host : Host σ) :
    Host σ × Except Failure Dict :=
  match tool.request arg host.server with
  | (server, .error e) => (⟨server, host.gateway⟩, .error (.text (errorText e)))
  | (server, .ok call) =>
      let sent := client call host.gateway
      let finished := tool.finish arg server sent.2
      (⟨finished.1, sent.1⟩, finished.2)

/-! ## §3. mcp_server_main.py -/

/-- What the interpreter and the libraries write: `str(..)` of a value that is no string, the
text of a `TypeError`, and that of an exception of the client which is none of the gateway's. -/
structure Texts where
  str : Json → String
  invalid : Tool → BadArguments → String
  failed : SdkError → String

/-- `f"{v}"`. -/
def Texts.shown (T : Texts) : Json → String
  | .str s => s
  | v => T.str v

/-- An error of JSON-RPC. -/
def rpcError (code : Int) (message : String) : Dict :=
  [("error", .obj [("code", .int code), ("message", .str message)])]

/-- `str(..)` of an `ObligationRuntimeAPIError`. -/
def apiErrorText (T : Texts) (statusCode : Nat) (code message : Json) : String :=
  "[" ++ toString statusCode ++ "] " ++ T.shown code ++ ": " ++ T.shown message

/-- What an exception of a tool becomes. -/
def Failure.body (T : Texts) : Failure → Dict
  | .sdk (.api statusCode code message _) =>
      [("error", .obj [("code", .int (-32000)),
        ("message", .str (apiErrorText T statusCode code message)),
        ("data", .obj [("api_code", code), ("api_message", message),
          ("status_code", .int statusCode)])])]
  | .sdk e => rpcError (-32000) (T.failed e)
  | .text s => rpcError (-32000) s

/-- What a result becomes: one text, with the JSON of the result. -/
def resultBody (F : JsonText.FloatText) (result : Dict) : Dict :=
  let text := JsonText.dumps F JsonText.spaced (.obj result)
  [("result", .obj [("content",
    .arr [.obj [("type", .str "text"), ("text", .str text)]])])]

/-- The tool of a name. -/
def toolNamed (name : String) : Option Tool := tools.find? fun tool => tool.name = name

/-- `params.get("name") or ""`. -/
def rawName (params : Dict) : Json := (Dict.getD params "name" .null).orElse (.str "")

/-- `args`: what is no mapping counts as none. -/
def arguments (params : Dict) : Dict :=
  match (Dict.getD params "arguments" .null).orElse (.obj []) with
  | .obj d => d
  | _ => []

variable (F : JsonText.FloatText) (T : Texts) (client : Client σ)

/-- `tools/call`, of a name. -/
def callNamed (name : String) (args : Dict) (host : Host σ) : Host σ × Dict :=
  match toolNamed name with
  | none => (host, rpcError (-32601) ("Unknown tool: " ++ name))
  | some tool =>
      match bindArguments tool.parameters args with
      | .error e => (host, rpcError (-32602) ("Invalid arguments: " ++ T.invalid tool e))
      | .ok arg =>
          let called := tool.call client arg host
          match called.2 with
          | .ok result => (called.1, resultBody F result)
          | .error e => (called.1, e.body T)

/-- `initialize`. -/
def initializeBody : Dict :=
  [("result", .obj [("protocolVersion", .str "0.1"), ("capabilities", .obj [("tools", .obj [])]),
    ("serverInfo", .obj [("name", .str "lean-langchain"), ("version", .str "0.1.0")])])]

/-- `handle_mcp_request`; none where it raises, outside of the tools. -/
def handleMcpRequest (method params : Json) (host : Host σ) : Option (Host σ × Dict) :=
  if method = .str "initialize" then some (host, initializeBody)
  else if method = .str "tools/list" then
    some (host, [("result", .obj [("tools", .arr buildMcpToolSchemas)])])
  else if method = .str "tools/call" then
    match params with
    | .obj params =>
        match rawName params with
        | .str name => some (callNamed F T client (strip name) (arguments params) host)
        -- Only a string has `strip`,
        | _ => none
    -- and only a mapping `get`.
    | _ => none
  else some (host, rpcError (-32601) ("Method not found: " ++ T.shown method))

/-- The method of a message. -/
def methodOf (msg : Dict) : Json := Dict.getD msg "method" (.str "")

/-- The parameters of a message. -/
def paramsOf (msg : Dict) : Json := (Dict.getD msg "params" .null).orElse (.obj [])

/-- The response to a message; none where it raises. -/
def respond (msg : Json) (host : Host σ) : Option (Host σ × Json) :=
  match msg with
  | .obj msg =>
      (handleMcpRequest F T client (methodOf msg) (paramsOf msg) host).map fun r =>
        (r.1, .obj ([("jsonrpc", .str "2.0"), ("id", Dict.getD msg "id" .null)] ++ r.2))
  | _ => none

/-- How the server ends: with its state, what it has written, and whether it raised. -/
structure ServerRun (σ : Type) where
  host : Host σ
  stdout : List Char
  raised : Bool

/-- `_run_server`, for so many messages at most. -/
def runLoop : Nat → Host σ → List Char → ServerRun σ
  | 0, host, _ => ⟨host, [], false⟩
  | fuel + 1, host, stdin =>
      match Framing.mcpRead (.exact F) stdin with
      | (.error _, _) => ⟨host, [], true⟩
      | (.ok none, _) => ⟨host, [], false⟩
      | (.ok (some msg), rest) =>
          match respond F T client msg host with
          | none => ⟨host, [], true⟩
          | some (host, out) =>
              let later := runLoop fuel host rest
              { later with stdout := Framing.write F out ++ later.stdout }

/-- `_run_server`: there are no more messages than characters. -/
def runServer (host : Host σ) (stdin : List Char) : ServerRun σ :=
  runLoop F T client (stdin.length + 1) host stdin

end

end Mcp

end ObligationRuntime
