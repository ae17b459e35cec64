/-
  ObligationRuntime.Guarantees.McpGateway — the MCP server over the gateway.

  Between a client of the server and a function of the gateway there are a framed text, a
  request of JSON-RPC, a tool with its arguments, a call of the SDK, and a request over HTTP.
  Put together they are nothing but that function: the server answers with what it returned,
  or with the error it raised, one response for each message.

  The ids have to be plain, those of the requests and those that the gateway gives to new
  sessions.  Then the server never has another one in its context or its store.

  Main results:
    * `runLoop_stream` — the server on framed messages,
    * `Server.Plain`, `respond_plain` — the ids of the server,
    * `mcp_over_gateway` — the server over the gateway,
    * `mcp_tool_calls` — what a call of a tool is answered with.
-/
import ObligationRuntime.Guarantees.MessageFraming
import ObligationRuntime.Guarantees.RemoteGateway
import ObligationRuntime.Runtime.McpTools

namespace ObligationRuntime

open Py Gateway Sdk

namespace Mcp

/-! ## §1. Messages that are answered. -/

/-- The parameters of `tools/call` are a mapping, and the name in them a string. -/
def readableParams : Json → Bool
  | .obj params =>
      match rawName params with
      | .str _ => true
      | _ => false
  | _ => false

/-- A message that is answered. -/
def readable : Json → Bool
  | .obj msg => decide (methodOf msg ≠ .str "tools/call") || readableParams (paramsOf msg)
  | _ => false

section

variable {σ : Type} {F : JsonText.FloatText} {T : Texts} {client : Client σ}

theorem handleMcpRequest_isSome (method params : Json) (host : Host σ) :
    (handleMcpRequest F T client method params host).isSome =
      (decide (method ≠ .str "tools/call") || readableParams params) := by
  unfold handleMcpRequest
  by_cases hinit : method = .str "initialize"
  · subst hinit
    simp
  · by_cases hlist : method = .str "tools/list"
    · subst hlist
      simp
    · by_cases hcall : method = .str "tools/call"
      · subst hcall
        cases params with
        | obj params =>
            cases hname : rawName params <;> simp [readableParams, hname]
        | _ => simp [readableParams]
      · simp [hinit, hlist, hcall]

variable (F T client) in
/-- **Which messages are answered** depends on the message only. -/
theorem respond_isSome (msg : Json) (host : Host σ) :
    (respond F T client msg host).isSome = readable msg := by
  cases msg with
  | obj msg => rw [respond, Option.isSome_map, handleMcpRequest_isSome, readable]
  | _ => rfl

/-! ## §2. The server on framed messages. -/

variable (F T client) in
/-- A message and its response, as a step. -/
def converse (host : Host σ) (msg : Json) : Host σ × Json :=
  (respond F T client msg host).getD (host, .null)

/-- The messages that are answered: those before the first one that is not. -/
def answered (fs : List Framing.Frame) : List Json :=
  (fs.map Framing.Frame.message).takeWhile readable

/-- The first message that is not answered ends the server with an exception, unless it is
`null`: that one is read as the end of the messages. -/
def endsRaising (fs : List Framing.Frame) : Bool :=
  ((fs.map Framing.Frame.message).find? fun msg => !readable msg).any (· ≠ .null)

/-- **The server on framed messages**: one response for each, in their order, up to the first
one that it cannot answer. -/
theorem runLoop_stream {fs : List Framing.Frame} {fuel : Nat} (hfuel : fs.length < fuel)
    (hreads : Framing.ReadsBack (Framing.mcpRead (.exact F)) fs) (host : Host σ) :
    runLoop F T client fuel host (Framing.stream fs) =
      ⟨Transition.run (fun host msg => (converse F T client host msg).1) host (answered fs),
        (Transition.answers (converse F T client) host (answered fs)).flatMap (Framing.write F),
        endsRaising fs⟩ := by
  induction fs generalizing fuel host with
  | nil =>
      obtain ⟨fuel, rfl⟩ := Nat.exists_eq_succ_of_ne_zero (Nat.pos_of_lt_add_left hfuel).ne'
      rw [Framing.ReadsBack] at hreads
      rw [runLoop, hreads]
      rfl
  | cons f fs ih =>
      obtain ⟨fuel, rfl⟩ := Nat.exists_eq_succ_of_ne_zero (Nat.zero_lt_of_lt hfuel).ne'
      obtain ⟨hread, hrest⟩ := hreads
      rw [runLoop, hread]
      have hsome := respond_isSome F T client f.message host
      by_cases hnull : f.message = .null
      · -- The reader returns `None`, as at the end.
        simp [hnull, Framing.received, answered, endsRaising, readable, Transition.answers]
      have hreceived : Framing.received f.message = some f.message := by
        cases hmsg : f.message <;> first | rfl | exact absurd hmsg hnull
      rw [hreceived]
      cases hrespond : respond F T client f.message host with
      | none =>
          rw [hrespond] at hsome
          have hbad : readable f.message = false := hsome.symm
          simp [hrespond, answered, endsRaising, hbad, hnull, Transition.answers]
      | some r =>
          rw [hrespond] at hsome
          have hgood : readable f.message = true := hsome.symm
          have hstep : converse F T client host f.message = r := by rw [converse, hrespond]; rfl
          simp only [hrespond, ih (Nat.lt_of_succ_lt_succ hfuel) hrest]
          simp [answered, endsRaising, hgood, Transition.answers, hstep]

/-- Every frame has a character. -/
theorem length_stream (fs : List Framing.Frame) : fs.length ≤ (Framing.stream fs).length := by
  induction fs with
  | nil => exact Nat.zero_le _
  | cons f fs ih =>
      rw [Framing.stream_cons]
      simp only [List.length_append, List.length_cons]
      omega

end

/-- A frame whose length counts the blank line: there is a line break before the body, which
has two characters on its way and one when it is read. -/
def paddedFrame (F : JsonText.FloatText) (msg : Json) : Framing.Frame :=
  ⟨'\r' :: '\n' :: JsonText.dump F JsonText.compact msg, msg⟩

theorem paddedFrame_body (F : JsonText.FloatText) (msg : Json) :
    (paddedFrame F msg).body = '\n' :: JsonText.dump F JsonText.compact msg := by
  show Gateway.universalNewlines ('\r' :: '\n' :: JsonText.dump F JsonText.compact msg) = _
  rw [Gateway.universalNewlines,
    Framing.universalNewlines_of_printable (JsonText.printable_dump msg)]

theorem paddedFrame_valid {F : JsonText.FloatText} {msg : Json} (hkeys : msg.UniqueKeys)
    (hint : msg.all Json.integral = true) : (paddedFrame F msg).Valid F := by
  rw [Framing.Frame.Valid, paddedFrame_body]
  exact JsonText.load_blank (by decide) (JsonText.load_dump hkeys hint)

theorem paddedFrames_fit (F : JsonText.FloatText) (msgs : List Json) :
    Framing.Fits (msgs.map (paddedFrame F)) := by
  induction msgs with
  | nil => trivial
  | cons msg msgs ih =>
      refine ⟨.inl ?_, ih⟩
      rw [paddedFrame_body, Framing.Frame.size, List.length_cons]
      show '\r'.utf8Size + ('\n'.utf8Size + Framing.utf8Length (JsonText.dump F _ msg)) = _
      rw [Framing.utf8Length_of_printable (JsonText.printable_dump msg)]
      have hcr : '\r'.utf8Size = 1 := by decide
      have hlf : '\n'.utf8Size = 1 := by decide
      omega

/-! ## §3. The ids of the server. -/

/-- An id that is empty, or plain. -/
def PlainOrEmpty (id : String) : Prop := id ≠ "" → PlainId id

/-- **The ids of the server**: the session of its context, and those of its store. -/
structure Server.Plain (s : Server) : Prop where
  context : ∀ id, truthy s.ctx.sessionId = some id → PlainId id
  store : ∀ store, s.store = some store →
    ∀ key r, store.get key = some r → PlainOrEmpty r.sessionId

theorem PlainOrEmpty.truthy {id t : String} (h : PlainOrEmpty id)
    (ht : truthy (some id) = some t) : PlainId t := by
  obtain ⟨hsome, hne⟩ := Option.filter_eq_some_iff.mp ht
  obtain rfl := Option.some.inj hsome
  exact h (by simpa using hne)

namespace Server.Plain

variable {s : Server}

theorem maybeRestore (h : s.Plain) (id : Option String) : (s.maybeRestore id).Plain := by
  refine ⟨fun t ht => ?_, fun store hstore => h.store store (by simpa using hstore)⟩
  unfold Server.maybeRestore at ht
  split at ht
  · rename_i store key hstore _ hnone
    split at ht
    · rename_i loaded hloaded
      simp only [SessionContext.loadFromDict, Server.truthy_orId, hnone, Option.or_none] at ht
      exact (h.store store hstore key loaded hloaded).truthy ht
    · exact h.context t ht
  · exact h.context t ht

/-- **The session that is chosen** is plain, and so is the server after that. -/
theorem sessionId (h : s.Plain) {id : Option String} (hid : ∀ t, id = some t → PlainOrEmpty t)
    (threadId : Option String) :
    (s.sessionId id threadId).1.Plain ∧
      ∀ sid, (s.sessionId id threadId).2 = .ok sid → PlainId sid := by
  have hfirst : (if (truthy s.ctx.sessionId).isNone then s.maybeRestore threadId else s).Plain := by
    split
    · exact h.maybeRestore threadId
    · exact h
  have hrestored := hfirst.maybeRestore (orId id
    (if (truthy s.ctx.sessionId).isNone then s.maybeRestore threadId else s).ctx.sessionId)
  refine ⟨hrestored, fun sid hsid => ?_⟩
  unfold Server.sessionId at hsid
  simp only [Server.truthy_orId] at hsid
  cases hnamed : truthy id with
  | some t =>
      rw [hnamed, Option.some_or] at hsid
      obtain rfl := Except.ok.inj hsid
      obtain ⟨rfl, -⟩ := Option.filter_eq_some_iff.mp hnamed
      exact (hid _ rfl).truthy hnamed
  | none =>
      rw [hnamed, Option.none_or] at hsid
      cases hctx : truthy ((if (truthy s.ctx.sessionId).isNone then s.maybeRestore threadId
          else s).maybeRestore (orId id (if (truthy s.ctx.sessionId).isNone then
            s.maybeRestore threadId else s).ctx.sessionId)).ctx.sessionId with
      | some t =>
          rw [hctx] at hsid
          obtain rfl := Except.ok.inj hsid
          exact hrestored.context _ hctx
      | none =>
          rw [hctx] at hsid
          cases hsid

/-- **A session that is created** with a plain id. -/
theorem createSession (h : s.Plain) (fingerprintId : String) (threadId : Option String)
    {reply : Except PyError Server.SessionReply}
    (hreply : ∀ out, reply = .ok out → PlainOrEmpty out.sessionId) :
    (s.createSession fingerprintId threadId reply).1.Plain := by
  cases reply with
  | error e => exact ⟨h.context, h.store⟩
  | ok out =>
      have hout := hreply out rfl
      refine ⟨fun t ht => hout.truthy ht, fun store hstore key r hget => ?_⟩
      obtain ⟨old, hold, rfl⟩ := Option.map_eq_some_iff.mp hstore
      rw [InMemoryStore.get_set] at hget
      split at hget
      · obtain rfl := Option.some.inj hget
        exact hout
      · exact h.store old hold key r hget

end Server.Plain

/-! ## §4. The ids of a request. -/

/-- The parameters that are ids. -/
def idParameters : List String := ["session_id", "thread_id", "decision"]

/-- Null, or a plain id. -/
def PlainIdValue (v : Json) : Prop := v = .null ∨ ∃ id, v = .str id ∧ PlainId id

/-- Null, or a text. -/
def TextId (v : Json) : Prop := v = .null ∨ ∃ id, v = .str id

/-- The ids among the arguments are plain. -/
def PlainArguments (args : Dict) : Prop :=
  ∀ name ∈ idParameters, ∀ v, args.get? name = some v → PlainIdValue v

/-- The ids of a message are plain. -/
def PlainMessage (msg : Json) : Prop :=
  ∀ m params, msg = .obj m → paramsOf m = .obj params → PlainArguments (arguments params)

theorem PlainIdValue.idOf {v : Json} (h : PlainIdValue v) {t : String} (ht : idOf v = some t) :
    PlainId t := by
  rcases h with rfl | ⟨id, rfl, hid⟩
  · cases ht
  · obtain rfl := Option.some.inj ht
    exact hid

theorem PlainIdValue.shownId {v : Json} (h : PlainIdValue v) : PlainId (shownId v) := by
  rcases h with rfl | ⟨id, rfl, hid⟩
  · show PlainId "None"
    decide
  · exact hid

/-- The ids among the arguments are texts, or null. -/
def TextArguments (args : Dict) : Prop :=
  ∀ name ∈ idParameters, ∀ v, args.get? name = some v → TextId v

/-- What is bound to an id's parameter is null or given: no tool has another default. -/
theorem bindArguments_id {tool : Tool} {args : Dict} {P : Json → Prop} (hnull : P .null)
    (hargs : ∀ name ∈ idParameters, ∀ v, args.get? name = some v → P v)
    {arg : String → Json} (h : bindArguments tool.parameters args = .ok arg) {name : String}
    (hname : name ∈ idParameters) : P (arg name) := by
  have hdefault : ((tool.parameters.find? fun p => p.name = name).bind
      Parameter.default).getD .null = .null := by
    simp only [idParameters, List.mem_cons, List.not_mem_nil, or_false] at hname
    rcases hname with rfl | rfl | rfl <;> cases tool with
    | onSession op => cases op <;> rfl
    | _ => rfl
  unfold bindArguments at h
  split at h
  · cases h
  · split at h
    · obtain rfl := Except.ok.inj h
      cases hget : args.get? name with
      | none => simpa [hget, hdefault] using hnull
      | some v => simpa [hget] using hargs name hname v hget
    · cases h

section

variable {server : Server} {arg : String → Json}

/-- **What a tool asks of the client** is plain. -/
theorem Tool.request_plain (tool : Tool) (hserver : server.Plain)
    (harg : ∀ name ∈ idParameters, PlainIdValue (arg name)) :
    (tool.request arg server).1.Plain ∧
      ∀ call, (tool.request arg server).2 = .ok call → call.Plain := by
  have hthread : PlainIdValue (arg "thread_id") := harg _ (by decide)
  cases tool with
  | openEnvironment =>
      refine ⟨hserver, ?_⟩
      rintro _ ⟨⟩
      trivial
  | createSession =>
      refine ⟨hserver, ?_⟩
      rintro _ ⟨⟩
      trivial
  | onSession op =>
      have hid : ∀ t, idOf (arg "session_id") = some t → PlainOrEmpty t := fun t ht _ =>
        (harg "session_id" (by decide)).idOf ht
      obtain ⟨hafter, hsid⟩ := hserver.sessionId hid (idOf (arg "thread_id"))
      refine ⟨hafter, fun call hcall => ?_⟩
      simp only [Tool.request] at hcall
      cases hchosen : (server.sessionId (idOf (arg "session_id")) (idOf (arg "thread_id"))).2 with
      | error e =>
          rw [hchosen] at hcall
          cases hcall
      | ok sid =>
          rw [hchosen] at hcall
          obtain rfl := Except.ok.inj hcall
          exact hsid sid hchosen
  | getReviewPayload =>
      refine ⟨hserver, ?_⟩
      rintro _ ⟨⟩
      exact hthread.shownId
  | submitReviewDecision =>
      refine ⟨hserver, ?_⟩
      rintro _ ⟨⟩
      exact ⟨hthread.shownId, (harg "decision" (by decide)).shownId⟩
  | resume =>
      refine ⟨hserver, ?_⟩
      rintro _ ⟨⟩
      exact hthread.shownId

/-- **What a tool asks of the client** gives no argument twice, so that all it can raise is
what its request raises. -/
theorem Tool.request_once (tool : Tool) {call : Call}
    (h : (tool.request arg server).2 = .ok call) : call.argumentTwice = none := by
  cases tool with
  | onSession op =>
      simp only [Tool.request] at h
      cases hchosen : (server.sessionId (idOf (arg "session_id")) (idOf (arg "thread_id"))).2 with
      | error e =>
          rw [hchosen] at h
          cases h
      | ok sid =>
          rw [hchosen] at h
          obtain rfl := Except.ok.inj h
          cases op <;> rfl
  | _ =>
      obtain rfl := Except.ok.inj h
      rfl

/-- An answer gives no session an id that is not plain. -/
def PlainAnswer (answer : Except SdkError Answer) : Prop :=
  ∀ a, answer = .ok a → ∀ id, (a.dump.get? "session_id").bind idOf = some id → PlainOrEmpty id

theorem Tool.finish_plain (tool : Tool) (hserver : server.Plain)
    {answer : Except SdkError Answer} (hanswer : PlainAnswer answer) :
    (tool.finish arg server answer).1.Plain := by
  cases tool with
  | createSession =>
      cases answer with
      | error e =>
          refine hserver.createSession _ _ ?_
          rintro _ ⟨⟩
      | ok a =>
          refine hserver.createSession _ _ fun out hout => ?_
          unfold sessionReply at hout
          split at hout
          · rename_i sessionId hid
            obtain rfl := Except.ok.inj hout
            exact hanswer a rfl sessionId hid
          · cases hout
  | _ => exact hserver

end

/-! ## §5. Two clients. -/

section

variable {σ : Type} {F : JsonText.FloatText} {T : Texts} {client client' : Client σ}

/-- A client that gives new sessions plain ids. -/
def Client.Plain (client : Client σ) : Prop :=
  ∀ payload s, PlainAnswer (client (.createSession payload) s).2

/-- Clients that agree on the calls with plain ids. -/
def Client.Agree (client client' : Client σ) : Prop :=
  ∀ call : Call, call.Plain → client call = client' call

theorem Tool.call_plain (hagree : client.Agree client') (hplain : client.Plain) (tool : Tool)
    {arg : String → Json} (harg : ∀ name ∈ idParameters, PlainIdValue (arg name))
    {host : Host σ} (hhost : host.server.Plain) :
    tool.call client arg host = tool.call client' arg host ∧
      (tool.call client arg host).1.server.Plain := by
  obtain ⟨hserver, hcall⟩ := tool.request_plain hhost harg
  cases hrequest : tool.request arg host.server with
  | mk server chosen =>
      rw [hrequest] at hserver hcall
      cases chosen with
      | error e =>
          simp only [Tool.call, hrequest]
          exact ⟨trivial, hserver⟩
      | ok call =>
          simp only [Tool.call, hrequest, hagree call (hcall call rfl)]
          refine ⟨trivial, ?_⟩
          -- Only a new session changes the ids, and that has a plain one.
          cases tool with
          | createSession =>
              obtain ⟨-, hcreate⟩ := Prod.mk.inj hrequest
              obtain rfl := Except.ok.inj hcreate
              rw [← hagree (.createSession [("fingerprint_id", arg "fingerprint_id")]) trivial]
              exact Tool.finish_plain .createSession hserver (hplain _ host.gateway)
          | _ => exact hserver

theorem handleMcpRequest_plain (hagree : client.Agree client') (hplain : client.Plain)
    (method : Json) {params : Json}
    (hparams : ∀ p, params = .obj p → PlainArguments (arguments p)) {host : Host σ}
    (hhost : host.server.Plain) :
    handleMcpRequest F T client method params host =
        handleMcpRequest F T client' method params host ∧
      ∀ r, handleMcpRequest F T client method params host = some r → r.1.server.Plain := by
  unfold handleMcpRequest
  split_ifs with hinit hlist hcall
  · exact ⟨rfl, fun r hr => (Option.some.inj hr) ▸ hhost⟩
  · exact ⟨rfl, fun r hr => (Option.some.inj hr) ▸ hhost⟩
  · cases params with
    | obj p =>
        cases hname : rawName p with
        | str name =>
            simp only [hname]
            rw [Option.some.injEq]
            unfold callNamed
            cases toolNamed (strip name) with
            | none => exact ⟨rfl, fun r hr => (Option.some.inj hr) ▸ hhost⟩
            | some tool =>
                simp only
                cases hbind : bindArguments tool.parameters (arguments p) with
                | error e => exact ⟨rfl, fun r hr => (Option.some.inj hr) ▸ hhost⟩
                | ok arg =>
                    have harg : ∀ name ∈ idParameters, PlainIdValue (arg name) := fun name hname =>
                      bindArguments_id (.inl rfl) (hparams p rfl) hbind hname
                    obtain ⟨hsame, hafter⟩ := tool.call_plain hagree hplain harg hhost
                    simp only [← hsame]
                    refine ⟨trivial, fun r hr => ?_⟩
                    cases hresult : (tool.call client arg host).2 with
                    | ok result =>
                        rw [hresult] at hr
                        exact (Option.some.inj hr) ▸ hafter
                    | error e =>
                        rw [hresult] at hr
                        exact (Option.some.inj hr) ▸ hafter
        | _ =>
            simp only [hname]
            exact ⟨trivial, fun r hr => nomatch hr⟩
    | _ => exact ⟨rfl, fun r hr => nomatch hr⟩
  · exact ⟨rfl, fun r hr => (Option.some.inj hr) ▸ hhost⟩

/-- **One message**: clients that agree on plain calls give the same response, and the ids of
the server stay plain. -/
theorem respond_plain (hagree : client.Agree client') (hplain : client.Plain) {msg : Json}
    (hmsg : PlainMessage msg) {host : Host σ} (hhost : host.server.Plain) :
    converse F T client host msg = converse F T client' host msg ∧
      (converse F T client host msg).1.server.Plain := by
  cases msg with
  | obj m =>
      obtain ⟨hsame, hafter⟩ := handleMcpRequest_plain (F := F) (T := T) hagree hplain
        (methodOf m) (fun p hp => hmsg m p rfl hp) hhost
      simp only [converse, respond, hsame]
      refine ⟨trivial, ?_⟩
      cases hr : handleMcpRequest F T client' (methodOf m) (paramsOf m) host with
      | none => exact hhost
      | some r => exact hafter r (hsame.trans hr)
  | _ => exact ⟨rfl, hhost⟩

/-- **Any messages**, one after the other. -/
theorem converse_plain (hagree : client.Agree client') (hplain : client.Plain)
    {msgs : List Json} (hmsgs : ∀ msg ∈ msgs, PlainMessage msg) {host : Host σ}
    (hhost : host.server.Plain) :
    Transition.answers (converse F T client) host msgs =
        Transition.answers (converse F T client') host msgs ∧
      Transition.run (fun host msg => (converse F T client host msg).1) host msgs =
        Transition.run (fun host msg => (converse F T client' host msg).1) host msgs := by
  induction msgs generalizing host with
  | nil => simp [Transition.answers]
  | cons msg msgs ih =>
      obtain ⟨hsame, hafter⟩ :=
        respond_plain (F := F) (T := T) hagree hplain (hmsgs msg List.mem_cons_self) hhost
      obtain ⟨hanswers, hrun⟩ := ih (fun m hm => hmsgs m (List.mem_cons_of_mem _ hm)) hafter
      simp only [Transition.answers, Transition.run_cons, hanswers, hrun]
      rw [hsame]
      exact ⟨rfl, rfl⟩

end

/-! ## §6. What is announced. -/

/-- The entry of the catalog for a tool. -/
def announced (name : String) : Option Operation :=
  operations.find? fun op => getMcpToolName op.name = name

/-- A tool is found by its name. -/
theorem toolNamed_name (tool : Tool) : toolNamed tool.name = some tool := by
  cases tool with
  | onSession op => cases op <;> rfl
  | _ => rfl

/-- **The catalog has every tool**, with the parameters of its function. -/
theorem announced_name (tool : Tool) :
    ∃ op, announced tool.name = some op ∧ op.params = tool.parameters.map Parameter.name := by
  cases tool with
  | onSession op => cases op <;> exact ⟨_, rfl, rfl⟩
  | _ => exact ⟨_, rfl, rfl⟩

/-- **It has no other.** -/
theorem announced_tool {name : String} {op : Operation} (h : announced name = some op) :
    ∃ tool : Tool, tool.name = name := by
  have hname : getMcpToolName op.name = name := by simpa using List.find?_some h
  have hmem := List.mem_of_find?_eq_some h
  have hall : (operations.all fun op => tools.any fun tool =>
      decide (tool.name = getMcpToolName op.name)) = true := by decide
  obtain ⟨tool, -, htool⟩ := List.any_eq_true.mp (List.all_eq_true.mp hall op hmem)
  exact ⟨tool, (of_decide_eq_true htool).trans hname⟩

theorem announced_eq_none_iff {name : String} : announced name = none ↔ toolNamed name = none := by
  constructor
  · intro h
    cases htool : toolNamed name with
    | none => rfl
    | some tool =>
        have hname : tool.name = name := by simpa using List.find?_some htool
        obtain ⟨op, hop, -⟩ := announced_name tool
        rw [hname, h] at hop
        cases hop
  · intro h
    cases hop : announced name with
    | none => rfl
    | some op =>
        obtain ⟨tool, rfl⟩ := announced_tool hop
        rw [toolNamed_name] at h
        cases h

/-- The arguments that a call must have. -/
def Tool.required (tool : Tool) : List String :=
  (tool.parameters.filter fun p => p.default.isNone).map Parameter.name

/-- **The arguments are bound** where all of them are announced, and none is missing. -/
theorem bindArguments_isOk {tool : Tool} {op : Operation} (hop : announced tool.name = some op)
    (args : Dict) :
    (∃ arg, bindArguments tool.parameters args = .ok arg) ↔
      (∀ name ∈ Dict.keys args, name ∈ op.params) ∧
        ∀ name ∈ tool.required, args.get? name ≠ none := by
  obtain ⟨op', hop', hparams⟩ := announced_name tool
  rw [hop] at hop'
  obtain rfl := Option.some.inj hop'
  rw [hparams]
  unfold bindArguments
  cases hextra : args.find? fun kv => decide (kv.1 ∉ tool.parameters.map Parameter.name) with
  | some kv =>
      have hnot : kv.1 ∉ tool.parameters.map Parameter.name := by
        simpa using List.find?_some hextra
      constructor
      · rintro ⟨arg, h⟩
        cases h
      · rintro ⟨hknown, -⟩
        exact absurd (hknown kv.1 (List.mem_map_of_mem (List.mem_of_find?_eq_some hextra))) hnot
  | none =>
      have hknown : ∀ name ∈ Dict.keys args, name ∈ tool.parameters.map Parameter.name := by
        intro name hname
        obtain ⟨kv, hkv, rfl⟩ := List.mem_map.mp hname
        have hin := List.find?_eq_none.mp hextra kv hkv
        simpa using hin
      rw [and_iff_right hknown]
      cases hmissing : tool.parameters.filter fun p =>
          p.default.isNone && (args.get? p.name).isNone with
      | nil =>
          refine iff_of_true ⟨_, rfl⟩ fun name hname hnone => ?_
          obtain ⟨p, hp, rfl⟩ := List.mem_map.mp hname
          obtain ⟨hmem, hdefault⟩ := List.mem_filter.mp hp
          have hin := List.filter_eq_nil_iff.mp hmissing p hmem
          simp [hdefault, hnone] at hin
      | cons p ps =>
          refine iff_of_false (fun ⟨_, h⟩ => nomatch h) fun h => ?_
          have hp : p ∈ tool.parameters.filter fun p =>
              p.default.isNone && (args.get? p.name).isNone := hmissing ▸ List.mem_cons_self
          obtain ⟨hmem, hboth⟩ := List.mem_filter.mp hp
          obtain ⟨hdefault, hnone⟩ := Bool.and_eq_true_iff.mp hboth
          have hrequired : p.name ∈ tool.required :=
            List.mem_map_of_mem (List.mem_filter.mpr ⟨hmem, hdefault⟩)
          exact absurd (Option.isNone_iff_eq_none.mp hnone) (h p.name hrequired)

/-- A call that can be made: of a tool of the catalog, with arguments that are announced, and
all that it must have. -/
def Callable (name : String) (args : Dict) : Prop :=
  ∃ (tool : Tool) (op : Operation), tool.name = name ∧ announced name = some op ∧
    (∀ name ∈ Dict.keys args, name ∈ op.params) ∧ ∀ name ∈ tool.required, args.get? name ≠ none

/-- The code of a response that is an error. -/
def errorCode (out : Json) : Option Json :=
  (out.dict?.bind fun d => d.get? "error").bind fun e => e.dict?.bind fun d => d.get? "code"

/-- The arguments that are given are bound as they are. -/
theorem bindArguments_given {ps : List Parameter} {args : Dict} {arg : String → Json}
    (h : bindArguments ps args = .ok arg) {k : String} {v : Json} (hk : args.get? k = some v) :
    arg k = v := by
  unfold bindArguments at h
  split at h
  · cases h
  · split at h
    · obtain rfl := Except.ok.inj h
      simp [hk]
    · cases h

/-- The response to a message. -/
def response (m body : Dict) : Json :=
  .obj ([("jsonrpc", .str "2.0"), ("id", Dict.getD m "id" .null)] ++ body)

theorem errorCode_rpcError (m : Dict) (code : Int) (message : String) :
    errorCode (response m (rpcError code message)) = some (.int code) := rfl

/-- A tool that fails is an error of its own code. -/
theorem errorCode_failure (T : Texts) (m : Dict) (e : Failure) :
    errorCode (response m (e.body T)) = some (.int (-32000)) := by
  cases e with
  | text s => rfl
  | sdk e => cases e <;> rfl

theorem errorCode_result (F : JsonText.FloatText) (m result : Dict) :
    errorCode (response m (resultBody F result)) = none := rfl

section

variable {σ : Type} {F : JsonText.FloatText} {T : Texts} {client : Client σ}

/-- **A call of a tool**, as the tool it names. -/
theorem converse_call {m p : Dict} {name : String} (hmethod : methodOf m = .str "tools/call")
    (hparams : paramsOf m = .obj p) (hname : rawName p = .str name) (host : Host σ) :
    converse F T client host (.obj m) =
      ((callNamed F T client (strip name) (arguments p) host).1,
        response m (callNamed F T client (strip name) (arguments p) host).2) := by
  have hhandled : handleMcpRequest F T client (methodOf m) (paramsOf m) host =
      some (callNamed F T client (strip name) (arguments p) host) := by
    rw [hmethod, hparams]
    simp [handleMcpRequest, hname]
  rw [converse, respond, hhandled]
  rfl

/-- A tool whose arguments are not bound is not called. -/
theorem callNamed_unbound {tool : Tool} {args : Dict} {e : BadArguments}
    (h : bindArguments tool.parameters args = .error e) (host : Host σ) :
    callNamed F T client tool.name args host =
      (host, rpcError (-32602) ("Invalid arguments: " ++ T.invalid tool e)) := by
  rw [callNamed, toolNamed_name]
  simp only [h]

variable (F T client) in
/-- Any other is, and answered with its result or with its error. -/
theorem callNamed_bound {tool : Tool} {args : Dict} {arg : String → Json}
    (h : bindArguments tool.parameters args = .ok arg) (host : Host σ) :
    (∃ result, (tool.call client arg host).2 = .ok result ∧
      callNamed F T client tool.name args host =
        ((tool.call client arg host).1, resultBody F result)) ∨
      ∃ e, (tool.call client arg host).2 = .error e ∧
        callNamed F T client tool.name args host = ((tool.call client arg host).1, e.body T) := by
  cases hresult : (tool.call client arg host).2 with
  | ok result =>
      refine .inl ⟨result, rfl, ?_⟩
      rw [callNamed, toolNamed_name]
      simp only [h, hresult]
  | error e =>
      refine .inr ⟨e, rfl, ?_⟩
      rw [callNamed, toolNamed_name]
      simp only [h, hresult]

/-- A name that is not announced can not be called. -/
theorem not_callable_of_none {name : String} (h : announced name = none) (args : Dict) :
    ¬ Callable name args := by
  rintro ⟨tool, op, -, hop, -⟩
  rw [h] at hop
  cases hop

/-- A call can be made where the arguments of its tool are bound. -/
theorem callable_iff {tool : Tool} {op : Operation} (hop : announced tool.name = some op)
    (args : Dict) :
    Callable tool.name args ↔ ∃ arg, bindArguments tool.parameters args = .ok arg := by
  rw [bindArguments_isOk hop]
  constructor
  · rintro ⟨tool', op', hname, hop', hargs⟩
    have htool : some tool' = some tool := by rw [← toolNamed_name, hname, toolNamed_name]
    obtain rfl := Option.some.inj htool
    rw [hop] at hop'
    obtain rfl := Option.some.inj hop'
    exact hargs
  · exact fun hargs => ⟨tool, op, rfl, hop, hargs⟩

end

/-! ## §7. The server over the gateway. -/

section

variable {σ : Type}

/-- The SDK client of a gateway, for calls that give no argument twice, as those of the tools;
the time, and the id that a request is given, are the gateway's. -/
def gatewayClient (http : String → Option String) (env : ServiceEnv) (H : Handlers σ)
    (now : σ → Timestamp) (requestId : σ → String) : Client σ :=
  fun call s => call.send http env (now s) H (requestId s) s

/-- The functions of a gateway, without the wire. -/
def functionsClient (env : ServiceEnv) (H : Handlers σ) (now : σ → Timestamp)
    (requestId : σ → String) : Client σ :=
  fun call s => ((call.reaches H s).1, (call.reaches H s).2.seen env (now s) (requestId s))

/-- The gateway gives new sessions plain ids. -/
def PlainSessions (H : Handlers σ) : Prop :=
  ∀ p s r, (H.createSession p s).2 = .ok r → PlainId r.sessionId

variable {http : String → Option String} {env : ServiceEnv} {H : Handlers σ}
  {now : σ → Timestamp} {requestId : σ → String}

/-- The SDK client of a gateway is its functions. -/
theorem gatewayClient_agree (hhttp : Delivers http) :
    (gatewayClient http env H now requestId).Agree (functionsClient env H now requestId) :=
  fun _ hcall => funext fun _ => send_reaches hhttp hcall

theorem gatewayClient_plain (hhttp : Delivers http) (hids : PlainSessions H) :
    (gatewayClient http env H now requestId).Plain := by
  intro payload s a ha id hid
  rw [gatewayClient_agree hhttp (.createSession payload) trivial] at ha
  simp only [functionsClient, Call.reaches, reach, Endpoint.run, withBody] at ha
  cases hbody : CreateSessionRequest.validate (Call.createSession payload).body with
  | error e =>
      rw [hbody] at ha
      cases ha
  | ok p =>
      rw [hbody] at ha
      cases hmade : (H.createSession p s).2 with
      | error r =>
          simp only [RouteFn.answering, hmade] at ha
          cases ha
      | ok r =>
          simp only [RouteFn.answering, hmade] at ha
          obtain rfl := Except.ok.inj ha
          obtain rfl : r.sessionId = id := Option.some.inj hid
          exact fun _ => hids p s r hmade

/-- **The MCP server over a gateway**, on any framed messages whose ids are plain: it writes
one response for each message, in their order, up to the first that it cannot read as a
request; and each response, like what becomes of the server and of the gateway, is that of
the gateway's own functions. -/
theorem mcp_over_gateway {http : String → Option String} (hhttp : Delivers http)
    (env : ServiceEnv) (H : Handlers σ) (now : σ → Timestamp) (requestId : σ → String)
    (hids : PlainSessions H) (F : JsonText.FloatText) (T : Texts) (host : Host σ)
    (hhost : host.server.Plain) (fs : List Framing.Frame) (hvalid : ∀ f ∈ fs, f.Valid F)
    (hfits : Framing.Fits fs) (hplain : ∀ f ∈ fs, PlainMessage f.message) :
    let talk := converse F T (functionsClient env H now requestId)
    runServer F T (gatewayClient http env H now requestId) host (Framing.stream fs) =
      ⟨Transition.run (fun host msg => (talk host msg).1) host (answered fs),
        (Transition.answers talk host (answered fs)).flatMap (Framing.write F),
        endsRaising fs⟩ := by
  intro talk
  have hreads := Framing.readsBack_of_fits (Framing.mcpRead_takes F) hvalid hfits
  have hmsgs : ∀ msg ∈ answered fs, PlainMessage msg := by
    intro msg hmsg
    obtain ⟨f, hf, rfl⟩ := List.mem_map.mp (List.takeWhile_prefix _ |>.mem hmsg)
    exact hplain f hf
  have hclient : (gatewayClient http env H now requestId).Plain := gatewayClient_plain hhttp hids
  obtain ⟨hanswers, hrun⟩ :=
    converse_plain (F := F) (T := T) (gatewayClient_agree hhttp) hclient hmsgs hhost
  rw [runServer, runLoop_stream (Nat.lt_succ_of_le (length_stream fs)) hreads host, hanswers,
    hrun]

/-- **The codes of a call**: which tools there are, and which arguments they take, is what the
catalog announces.  A call that cannot be made changes nothing; any other is answered with
the text of the tool's result, or with the error of a tool that failed. -/
theorem mcp_tool_calls (F : JsonText.FloatText) (T : Texts) (client : Client σ) (host : Host σ)
    (m p : Dict) (name : String) (hmethod : methodOf m = .str "tools/call")
    (hparams : paramsOf m = .obj p) (hname : rawName p = .str name)
    (hids : TextArguments (arguments p)) :
    let out := converse F T client host (.obj m)
    (errorCode out.2 = some (.int (-32601)) ↔ announced (strip name) = none) ∧
      (errorCode out.2 = some (.int (-32602)) ↔
        announced (strip name) ≠ none ∧ ¬ Callable (strip name) (arguments p)) ∧
      (¬ Callable (strip name) (arguments p) → out.1 = host) ∧
      (Callable (strip name) (arguments p) → ∃ (tool : Tool) (arg : String → Json),
        tool.name = strip name ∧ (∀ k v, (arguments p).get? k = some v → arg k = v) ∧
          (∀ k ∈ idParameters, TextId (arg k)) ∧ out.1 = (tool.call client arg host).1 ∧
          (errorCode out.2 = some (.int (-32000)) ∨ ∃ result,
            (tool.call client arg host).2 = .ok result ∧
              out.2 = response m (resultBody F result))) := by
  intro out
  have hout : out = _ := converse_call hmethod hparams hname host
  rw [hout]
  clear_value out
  cases hop : announced (strip name) with
  | none =>
      have hcalled : callNamed F T client (strip name) (arguments p) host =
          (host, rpcError (-32601) ("Unknown tool: " ++ strip name)) := by
        rw [callNamed, announced_eq_none_iff.mp hop]
      have hnot := not_callable_of_none hop (arguments p)
      simp [hcalled, errorCode_rpcError, hnot]
  | some op =>
      obtain ⟨tool, htool⟩ := announced_tool hop
      rw [← htool] at hop ⊢
      have hcallable := callable_iff hop (arguments p)
      cases hbind : bindArguments tool.parameters (arguments p) with
      | error e =>
          have hnot : ¬ Callable tool.name (arguments p) := by
            rw [hcallable, hbind]
            rintro ⟨arg, harg⟩
            cases harg
          simp [callNamed_unbound hbind, errorCode_rpcError, hnot]
      | ok arg =>
          have hyes : Callable tool.name (arguments p) := hcallable.mpr ⟨arg, hbind⟩
          have hgiven : ∀ k v, (arguments p).get? k = some v → arg k = v := fun k v hk =>
            bindArguments_given hbind hk
          have htexts : ∀ k ∈ idParameters, TextId (arg k) := fun k hk =>
            bindArguments_id (.inl rfl) hids hbind hk
          rcases callNamed_bound F T client hbind host with
            ⟨result, hresult, hcalled⟩ | ⟨e, -, hcalled⟩
          · simp only [hcalled, errorCode_result, hyes]
            refine ⟨by simp, by simp, by simp, fun _ =>
              ⟨tool, arg, rfl, hgiven, htexts, rfl, .inr ⟨result, hresult, rfl⟩⟩⟩
          · simp only [hcalled, errorCode_failure, hyes]
            exact ⟨by simp, by simp, by simp, fun _ =>
              ⟨tool, arg, rfl, hgiven, htexts, rfl, .inl trivial⟩⟩

end

namespace Scripted

/-- What the libraries write. -/
def texts : Texts := ⟨fun _ => "", fun _ _ => "", fun _ => ""⟩

/-- A call of `submit_review_decision`. -/
def submit (id : Int) (decision : String) : Json :=
  .obj [("id", .int id), ("method", .str "tools/call"),
    ("params", .obj [("name", .str "obligation/submit_review_decision"),
      ("arguments", .obj [("thread_id", .str "t-1"), ("decision", .str decision)])])]

/-- Two decisions, a request that is none, and one that comes too late. -/
def requests : List Json :=
  [submit 1 "approve", submit 2 "escalate", .obj [("method", .str "tools/call"),
    ("params", .arr [.int 1])], submit 3 "reject"]

/-- The frames of the requests. -/
def frames : List Framing.Frame := requests.map (paddedFrame JsonText.noFloats)

/-- The time of every request. -/
def now (_ : List String) : Timestamp := ⟨"2026-08-02", by decide⟩

/-- The functions of the gateway. -/
def functions : Client (List String) :=
  functionsClient Sdk.Scripted.service Sdk.Scripted.sessionless now fun _ => "req_1"

theorem frames_valid : ∀ f ∈ frames, f.Valid JsonText.noFloats := by
  have hall : ∀ msg ∈ requests, msg.UniqueKeys ∧ msg.all Json.integral = true := by decide
  intro f hf
  obtain ⟨msg, hmsg, rfl⟩ := List.mem_map.mp hf
  exact paddedFrame_valid (hall msg hmsg).1 (hall msg hmsg).2

theorem submit_plain (id : Int) {decision : String} (h : PlainId decision) :
    PlainMessage (submit id decision) := by
  rintro m params ⟨⟩ ⟨⟩ name hname v hv
  have harguments : v = .str "t-1" ∨ v = .str decision := by
    simp only [idParameters, List.mem_cons, List.not_mem_nil, or_false] at hname
    rcases hname with rfl | rfl | rfl
    · cases hv
    · exact .inl (Option.some.inj hv).symm
    · exact .inr (Option.some.inj hv).symm
  rcases harguments with rfl | rfl
  · exact .inr ⟨_, rfl, by decide⟩
  · exact .inr ⟨_, rfl, h⟩

theorem requests_plain : ∀ msg ∈ requests, PlainMessage msg := by
  simp only [requests, List.forall_mem_cons]
  refine ⟨submit_plain 1 (by decide), submit_plain 2 (by decide), ?_,
    submit_plain 3 (by decide), fun _ h => nomatch h⟩
  rintro m params ⟨⟩ ⟨⟩

/-- The first two requests are answered: the gateway has the review, and no route for a
decision that is neither. -/
theorem mcp_over_gateway_scripted :
    let run := runServer JsonText.noFloats texts
      (gatewayClient some Sdk.Scripted.service Sdk.Scripted.sessionless now fun _ => "req_1")
      ⟨{}, ["t-1"]⟩ (Framing.stream frames)
    run.raised = true ∧ run.host.gateway = ["t-1"] ∧
      (answered frames).map (fun msg =>
        errorCode (converse JsonText.noFloats texts functions ⟨{}, ["t-1"]⟩ msg).2) =
          [none, some (.int (-32000))] := by
  intro run
  have hplain : Server.Plain {} := by
    constructor
    · rintro _ ⟨⟩
    · rintro _ ⟨⟩
  have hmsgs : ∀ f ∈ frames, PlainMessage f.message := by
    intro f hf
    obtain ⟨msg, hmsg, rfl⟩ := List.mem_map.mp hf
    exact requests_plain msg hmsg
  have hdelivers : Delivers some := fun _ _ => rfl
  have hrun : run = _ := mcp_over_gateway hdelivers Sdk.Scripted.service
    Sdk.Scripted.sessionless now (fun _ => "req_1") (fun _ _ _ h => nomatch h)
    JsonText.noFloats texts ⟨{}, ["t-1"]⟩ hplain frames frames_valid
    (paddedFrames_fit _ requests) hmsgs
  rw [hrun]
  decide

/-- A call of `resume` with a parameter that is not announced. -/
def misspelled : Dict :=
  [("name", .str " obligation/resume "), ("arguments", .obj [("threadId", .str "t-1")])]

/-- It is refused for its arguments. -/
theorem mcp_tool_calls_scripted :
    errorCode (converse JsonText.noFloats texts functions ⟨{}, ["t-1"]⟩
      (.obj [("method", .str "tools/call"), ("params", .obj misspelled)])).2 =
        some (.int (-32602)) := by
  have hstrip : strip " obligation/resume " = Tool.resume.name := by decide
  have hnot : ¬ Callable (strip " obligation/resume ") (arguments misspelled) := by
    rw [hstrip, callable_iff rfl]
    rintro ⟨arg, h⟩
    cases h
  have hids : TextArguments (arguments misspelled) := by
    intro name hname v hv
    simp only [idParameters, List.mem_cons, List.not_mem_nil, or_false] at hname
    rcases hname with rfl | rfl | rfl <;> cases hv
  obtain ⟨-, hinvalid, -⟩ := mcp_tool_calls JsonText.noFloats texts functions ⟨{}, ["t-1"]⟩
    [("method", .str "tools/call"), ("params", .obj misspelled)] misspelled " obligation/resume "
    rfl rfl rfl hids
  exact hinvalid.mpr ⟨by decide, hnot⟩

end Scripted

end Mcp

end ObligationRuntime
