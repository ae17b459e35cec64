/-
  ObligationRuntime.Runtime.Tracing — the tracing of the graph: `_emit` and `_with_tracing` of
  graph.py, and the events and tracers of `lean_langchain_telemetry`.

  Every node is wrapped: an event when it is entered, one when it has answered, and one when
  it raises.  The event of the exit is emitted inside the `try`, so a tracer that raises there
  is taken for the node, and what the node has answered is lost.

  Main results:
    * `tracedGraph_eq` — the traced graph is the graph with a probe around every node,
    * `probe_quiet_of` — at a node whose state can be read, the probe raises only what the
      tracer raises,
    * `visited_readable` — every state of a run can be read if its first one can.
-/
import ObligationRuntime.Lib.Tracing
import ObligationRuntime.Runtime.Ends

namespace ObligationRuntime

open Py Flow Handlers

/-! ## §1. Events. -/

/-- The key of a node in `handlers`. -/
def Node.name : Node → String
  | .initEnvironment => "init_environment"
  | .retrieveContext => "retrieve_context"
  | .draftCandidate => "draft_candidate"
  | .interactiveCheck => "interactive_check"
  | .batchVerify => "batch_verify"
  | .auditTrust => "audit_trust"
  | .evaluateProtocol => "evaluate_protocol"
  | .policyReview => "policy_review"
  | .interruptForApproval => "interrupt_for_approval"
  | .finalize => "finalize"
  | .repairFromDiagnostics => "repair_from_diagnostics"
  | .repairFromGoals => "repair_from_goals"
  | .resumeWithApproval => "resume_with_approval"

/-- Nodes have different names. -/
theorem Node.name_injective : Function.Injective Node.name := by
  intro n m h
  cases n <;> cases m <;> first | rfl | simp [Node.name] at h

/-- The text of a status. -/
def Status.text : Status → String
  | .initialized => "initialized"
  | .retrievingContext => "retrieving_context"
  | .drafting => "drafting"
  | .checkingInteractive => "checking_interactive"
  | .repairing => "repairing"
  | .auditing => "auditing"
  | .awaitingApproval => "awaiting_approval"
  | .batchVerifying => "batch_verifying"
  | .accepted => "accepted"
  | .rejected => "rejected"
  | .failed => "failed"

/-- No status is called `ok`. -/
theorem Status.text_ne_ok (status : Status) : status.text ≠ "ok" := by
  cases status <;> decide

/-- `SPAN_BY_NODE`. -/
def spanByNode : List (String × String) :=
  [("init_environment", "obr.init_environment"),
    ("retrieve_context", "obr.retrieve_context"),
    ("draft_candidate", "obr.retrieve_context"),
    ("interactive_check", "obr.interactive_check"),
    ("batch_verify", "obr.batch_verify"),
    ("audit_trust", "obr.audit_trust"),
    ("policy_review", "obr.policy_review"),
    ("interrupt_for_approval", "obr.interrupt_for_approval"),
    ("finalize", "obr.finalize"),
    ("resume_with_approval", "obr.finalize"),
    ("repair_from_diagnostics", "obr.interactive_check"),
    ("repair_from_goals", "obr.interactive_check")]

/-- `SPAN_BY_NODE.get(node_name, f"obr.{node_name}")`. -/
def spanName (nodeName : String) : String := (spanByNode.lookup nodeName).getD ("obr." ++ nodeName)

/-- The types of events. -/
inductive EventType where
  | nodeEnter
  | nodeExit
  | nodeError
  deriving DecidableEq, Repr

/-- `RuntimeNodeEvent`. -/
structure RuntimeNodeEvent where
  eventType : EventType
  spanName : String
  threadId : String
  obligationId : String
  nodeName : String
  status : String
  timestamp : Timestamp
  timingMs : Option Int
  failureClass : Option String
  metadata : Dict

/-- What tracing needs from outside.  A run visits no node twice, so what differs from event
to event (whether the tracer raises, the time) is a function of the event or of the node. -/
structure Tracing where
  emit : RuntimeNodeEvent → Except PyError Unit
  now : Node → EventType → Timestamp
  elapsedMs : Node → Int
  hashText : Json → String
  typeName : PyError → String

/-- `state.get("environment_fingerprint") or {}`. -/
def State.tracedEnv (s : State) : Json := (s.environmentFingerprint.getD .null).orElse (.obj [])

/-- The event that `_emit` builds, with the hash of the fingerprint. -/
def Tracing.event (tr : Tracing) (state : State) (node : Node) (type : EventType)
    (status : String) (timingMs : Option Int) (failureClass : Option String) (envHash : Json) :
    RuntimeNodeEvent where
  eventType := type
  spanName := spanName node.name
  threadId := state.threadId.getD ""
  obligationId := state.obligationId.getD ""
  nodeName := node.name
  status := status
  timestamp := tr.now node type
  timingMs := timingMs
  failureClass := failureClass
  metadata :=
    [("session_id", match state.sessionId.join with
      | some sid => .str sid
      | none => .null),
      ("environment_fingerprint_hash", envHash)]

/-- `env.get("fingerprint_id") or str(hash(str(env)))[:16]`. -/
def Tracing.envHash (tr : Tracing) (state : State) : Except PyError Json :=
  (state.tracedEnv.pyGet "fingerprint_id").map fun id =>
    id.orElse (.str (tr.hashText state.tracedEnv))

/-- `_emit`. -/
def Tracing.emitEvent (tr : Tracing) (state : State) (node : Node) (type : EventType)
    (status : String) (timingMs : Option Int) (failureClass : Option String) :
    Eff RuntimeNodeEvent PyError Unit := do
  let envHash ← Eff.lift (tr.envHash state)
  let event := tr.event state node type status timingMs failureClass envHash
  Eff.call event (tr.emit event)

/-! ## §2. The wrapped graph. -/

section

variable (tr : Tracing)

/-- The event before the node: `state.get("status") or "running"`. -/
def Tracing.enter (node : Node) (state : State) : Eff RuntimeNodeEvent PyError Unit :=
  tr.emitEvent state node .nodeEnter ((state.status.map Status.text).getD "running") none none

/-- The event after the node: `out.get("status") or "ok"`, of the merged state. -/
def Tracing.leave (node : Node) (state : State) (out : Update) :
    Eff RuntimeNodeEvent PyError Unit :=
  tr.emitEvent (state.merge out) node .nodeExit ((out.status.map Status.text).getD "ok")
    (some (tr.elapsedMs node)) none

/-- The event where something has raised. -/
def Tracing.raised (node : Node) (state : State) (e : PyError) :
    Eff RuntimeNodeEvent PyError Unit :=
  tr.emitEvent state node .nodeError "failed" none (some (tr.typeName e))

/-- `_with_tracing`. -/
def withTracing (node : Node) (fn : Handler) :
    State → Eff (GatewayCall ⊕ RuntimeNodeEvent) PyError Update := fun state =>
  Eff.bracketed (tr.enter node state) (fn state) (tr.leave node state) (tr.raised node state)

/-- `build_patch_admissibility_graph`, with a tracer. -/
def tracedGraph (deps : Deps) :
    Graph Node State Update (GatewayCall ⊕ RuntimeNodeEvent) PyError where
  handler node := withTracing tr node (handler deps node)
  merge := State.merge
  edge := edge
  limitExceeded := .recursionError

/-- What a run of the traced graph did: its calls and its events, in order. -/
abbrev TracedRun := Flow.Run Node State (GatewayCall ⊕ RuntimeNodeEvent) PyError

/-- `graph.invoke(input)` on a thread, with a tracer. -/
def tracedInvoke (deps : Deps) (checkpoint : Option State) (input : State) : TracedRun :=
  let s := startState checkpoint input
  (tracedGraph tr deps).runFrom recursionLimit (routeStart s) s

/-- The wrapping, as a probe. -/
def Tracing.probe : Probe Node State Update RuntimeNodeEvent PyError where
  enter := tr.enter
  leave := tr.leave
  raised := tr.raised

/-- **The traced graph is the graph with the probe.** -/
theorem tracedGraph_eq (deps : Deps) : tracedGraph tr deps = (graph deps).traced tr.probe := rfl

end

/-! ## §3. States that can be read. -/

/-- The fingerprint is a mapping, or nothing. -/
def State.Readable (s : State) : Prop := ∃ env, s.tracedEnv = .obj env

section

variable {tr : Tracing} {deps : Deps} {n : Node} {s : State}

/-- An update without a fingerprint leaves the state readable. -/
theorem readable_of_fingerprint {u : Update} (h : u.environmentFingerprint = none)
    (hs : s.Readable) : (s.merge u).Readable := by
  simpa [State.Readable, State.tracedEnv, h] using hs

/-- **Every update keeps the state readable**: a fingerprint is written as a mapping. -/
theorem Writes.readable {u : Update} (h : Writes deps s n u) (hs : s.Readable) :
    (s.merge u).Readable := by
  cases h with
  | initEnvironment repoId opened session repo opens creates =>
      have henv : ((s.merge
          { sessionId := some (some session.sessionId)
            environmentFingerprint := some (.obj opened.fingerprint.dump)
            status := some .initialized }).tracedEnv) =
          (Json.obj opened.fingerprint.dump).orElse (.obj []) := by
        simp [State.tracedEnv]
      rw [State.Readable, henv, Json.orElse]
      split
      · exact ⟨_, rfl⟩
      · exact ⟨_, rfl⟩
  | _ => exact readable_of_fingerprint rfl hs

/-- **Every state of a run is readable**, if its first one is. -/
theorem visited_readable (hs : s.Readable) :
    ∀ x ∈ (run deps n s).visited, x.2.Readable :=
  (Graph.runFrom_invariant State.Readable
    (fun _ _ _ hu ht => (handler_writes hu).readable ht) _ n s hs).2

/-- The fingerprint of a readable state has a hash. -/
theorem envHash_of_readable (tr : Tracing) (hs : s.Readable) :
    ∃ envHash, tr.envHash s = .ok envHash := by
  obtain ⟨env, henv⟩ := hs
  refine ⟨(Dict.getD env "fingerprint_id" .null).orElse (.str (tr.hashText (.obj env))), ?_⟩
  rw [Tracing.envHash, henv]
  rfl

/-- With the hash, the event is handed to the tracer. -/
theorem emitEvent_of_hash {envHash : Json} (h : tr.envHash s = .ok envHash) (type : EventType)
    (status : String) (timingMs : Option Int) (failureClass : Option String) :
    tr.emitEvent s n type status timingMs failureClass =
      Eff.call (tr.event s n type status timingMs failureClass envHash)
        (tr.emit (tr.event s n type status timingMs failureClass envHash)) := by
  rw [Tracing.emitEvent, h, Eff.lift_ok_bind]

variable (tr n) in
/-- The answer is the tracer's, to an event of the node. -/
theorem emitEvent_result (hs : s.Readable) (type : EventType) (status : String)
    (timingMs : Option Int) (failureClass : Option String) :
    ∃ event, event.nodeName = n.name ∧ event.eventType = type ∧
      (tr.emitEvent s n type status timingMs failureClass).result = tr.emit event := by
  obtain ⟨envHash, hhash⟩ := envHash_of_readable tr hs
  refine ⟨tr.event s n type status timingMs failureClass envHash, rfl, rfl, ?_⟩
  rw [emitEvent_of_hash hhash, Eff.call_result]

/-- **The probe raises at a node only what the tracer raises** at one of its events. -/
theorem probe_quiet_of (hs : s.Readable)
    (hquiet : ∀ event, event.nodeName = n.name → tr.emit event = .ok ()) :
    tr.probe.Quiet (graph deps) n s where
  enter := by
    obtain ⟨event, hnode, -, h⟩ := emitEvent_result tr n hs .nodeEnter _ _ _
    exact h.trans (hquiet event hnode)
  leave u hu := by
    obtain ⟨event, hnode, -, h⟩ := emitEvent_result tr n
      ((handler_writes hu).readable hs) .nodeExit _ _ _
    exact h.trans (hquiet event hnode)
  raised e _ := by
    obtain ⟨event, hnode, -, h⟩ := emitEvent_result tr n hs .nodeError _ _ _
    exact h.trans (hquiet event hnode)

end

/-! ## §4. Exporters. -/

/-- A span of OpenTelemetry: `ok` is the status that is set. -/
structure Span where
  name : String
  attributes : Dict
  ok : Bool

/-- `event.span_name or event.node_name`. -/
def RuntimeNodeEvent.title (event : RuntimeNodeEvent) : String :=
  if event.spanName = "" then event.nodeName else event.spanName

/-- `OtlpTracer.emit`: the span of an event. -/
def OtlpTracer.span (event : RuntimeNodeEvent) : Span where
  name := event.title
  attributes :=
    [("thread_id", .str event.threadId), ("obligation_id", .str event.obligationId),
      ("node_name", .str event.nodeName), ("status", .str event.status)] ++
    (match event.timingMs with
      | some ms => [("timing_ms", .int ms)]
      | none => []) ++
    (match event.failureClass with
      | some name => if name = "" then [] else [("failure_class", .str name)]
      | none => [])
  ok := event.status = "ok"

/-- The events of a run, in order. -/
def TracedRun.events (r : TracedRun) : List RuntimeNodeEvent := probeCalls r.calls

/-- The spans that a run has exported. -/
def TracedRun.spans (r : TracedRun) : List Span := r.events.map OtlpTracer.span

end ObligationRuntime
