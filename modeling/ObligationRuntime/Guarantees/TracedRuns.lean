/-
  ObligationRuntime.Guarantees.TracedRuns — what tracing tells about a run, and what it can do
  to one.

  A tracer that does not raise leaves every run as it is.  It is told of every node that the
  run visits, twice: the events of a run are the brackets of its nodes, and what the gateway is
  asked stands between the brackets of the node that asks.  A tracer that raises stops the run
  where it stands: it can keep a run from its end, but never bring it to another one.

  Main results:
    * `traced_run_exact` — the run, and the events that a tracer is told of it,
    * `tracer_cannot_decide` — whatever a tracer does,
    * `raising_exit_orphans_review` — a tracer that raises when the interrupt has answered,
    * `exported_spans` — which spans of a run are exported as ok.
-/
import ObligationRuntime.Runtime.Tracing
import ObligationRuntime.Guarantees.ProtocolGate
import ObligationRuntime.Runtime.Payload

namespace ObligationRuntime

open Py Flow Handlers

/-! ## §1. The events of a node. -/

section

variable (tr : Tracing) (deps : Deps)

/-- The hash in the events of a state. -/
def Tracing.shownHash (s : State) : Json :=
  match tr.envHash s with
  | .ok envHash => envHash
  | .error _ => .null

/-- The first event of a node. -/
def Tracing.entered (x : Node × State) : RuntimeNodeEvent :=
  tr.event x.2 x.1 .nodeEnter ((x.2.status.map Status.text).getD "running") none none
    (tr.shownHash x.2)

/-- The last event of a node that has answered with an update, or has raised. -/
def Tracing.ended (x : Node × State) : Except PyError Update → RuntimeNodeEvent
  | .ok out => tr.event (x.2.merge out) x.1 .nodeExit ((out.status.map Status.text).getD "ok")
      (some (tr.elapsedMs x.1)) none (tr.shownHash (x.2.merge out))
  | .error e => tr.event x.2 x.1 .nodeError "failed" none (some (tr.typeName e))
      (tr.shownHash x.2)

/-- Everything from the first event of a node to its last. -/
def Tracing.bracket (x : Node × State) : List (GatewayCall ⊕ RuntimeNodeEvent) :=
  .inr (tr.entered x) :: ((handler deps x.1 x.2).calls.map Sum.inl ++
    [.inr (tr.ended x (handler deps x.1 x.2).result)])

end

section

variable {tr : Tracing} {deps : Deps} {x : Node × State}

/-- The event of a readable state, with the hash that is shown. -/
theorem emitEvent_shown {s : State} {n : Node} (hs : s.Readable) (type : EventType)
    (status : String) (timingMs : Option Int) (failureClass : Option String) :
    (tr.emitEvent s n type status timingMs failureClass).calls =
      [tr.event s n type status timingMs failureClass (tr.shownHash s)] := by
  obtain ⟨envHash, hhash⟩ := envHash_of_readable tr hs
  rw [emitEvent_of_hash hhash, Tracing.shownHash, hhash]
  rfl

/-- **The span of a node that reads a readable state is its bracket.** -/
theorem span_eq_bracket (hs : x.2.Readable) :
    tr.probe.span (graph deps) x = tr.bracket deps x := by
  have henter : (tr.enter x.1 x.2).calls = [tr.entered x] := emitEvent_shown hs _ _ _ _
  have hending : tr.probe.ending x.1 x.2 (handler deps x.1 x.2).result =
      [tr.ended x (handler deps x.1 x.2).result] := by
    cases hr : (handler deps x.1 x.2).result with
    | ok out => exact emitEvent_shown ((handler_writes hr).readable hs) _ _ _ _
    | error e => exact emitEvent_shown hs _ _ _ _
  show (tr.enter x.1 x.2).calls.map Sum.inr ++ ((handler deps x.1 x.2).calls.map Sum.inl ++
    (tr.probe.ending x.1 x.2 (handler deps x.1 x.2).result).map Sum.inr) = _
  rw [henter, hending]
  rfl

theorem bracket_events : probeCalls (tr.bracket deps x) =
    [tr.entered x, tr.ended x (handler deps x.1 x.2).result] := by
  show probeCalls ([tr.entered x].map Sum.inr ++ ((handler deps x.1 x.2).calls.map Sum.inl ++
    [tr.ended x (handler deps x.1 x.2).result].map Sum.inr)) = _
  rw [probeCalls_append, probeCalls_append, probeCalls_inl, probeCalls_inr, probeCalls_inr]
  rfl

theorem bracket_calls : ownCalls (tr.bracket deps x) = (handler deps x.1 x.2).calls := by
  show ownCalls ([tr.entered x].map Sum.inr ++ ((handler deps x.1 x.2).calls.map Sum.inl ++
    [tr.ended x (handler deps x.1 x.2).result].map Sum.inr)) = _
  rw [ownCalls_append, ownCalls_append, ownCalls_inl, ownCalls_inr, ownCalls_inr,
    List.nil_append, List.append_nil]

@[simp] theorem ended_nodeName (result : Except PyError Update) :
    (tr.ended x result).nodeName = x.1.name := by
  cases result <;> rfl

theorem ended_ne_enter (result : Except PyError Update) :
    (tr.ended x result).eventType ≠ .nodeEnter := by
  cases result <;> simp [Tracing.ended, Tracing.event]

theorem ended_error_iff {result : Except PyError Update} :
    (tr.ended x result).eventType = .nodeError ↔ ∃ e, result = .error e := by
  cases result <;> simp [Tracing.ended, Tracing.event]

/-- No node writes whose run it is. -/
theorem Writes.identity {s : State} {n : Node} {u : Update} (h : Writes deps s n u) :
    (s.merge u).threadId = s.threadId ∧ (s.merge u).obligationId = s.obligationId := by
  cases h <;> exact ⟨rfl, rfl⟩

/-- The events of a node say whose run it is. -/
theorem ended_identity : (tr.ended x (handler deps x.1 x.2).result).threadId =
      x.2.threadId.getD "" ∧
    (tr.ended x (handler deps x.1 x.2).result).obligationId = x.2.obligationId.getD "" := by
  cases hr : (handler deps x.1 x.2).result with
  | ok out =>
      obtain ⟨hthread, hobligation⟩ := (handler_writes hr).identity
      exact ⟨congrArg (·.getD "") hthread, congrArg (·.getD "") hobligation⟩
  | error e => exact ⟨rfl, rfl⟩

end

/-! ## §2. The events of a run. -/

section

variable {tr : Tracing} {deps : Deps}

/-- The events of the nodes that a run visited. -/
def Tracing.brackets (tr : Tracing) (deps : Deps) (visited : List (Node × State)) :
    List RuntimeNodeEvent :=
  visited.flatMap fun x => [tr.entered x, tr.ended x (handler deps x.1 x.2).result]

theorem probeCalls_brackets (visited : List (Node × State)) :
    probeCalls (visited.flatMap (tr.bracket deps)) = tr.brackets deps visited := by
  induction visited with
  | nil => rfl
  | cons x visited ih =>
      rw [List.flatMap_cons, probeCalls_append, ih, bracket_events]
      rfl

theorem ownCalls_brackets (visited : List (Node × State)) :
    ownCalls (visited.flatMap (tr.bracket deps)) =
      visited.flatMap fun x => (handler deps x.1 x.2).calls := by
  induction visited with
  | nil => rfl
  | cons x visited ih =>
      rw [List.flatMap_cons, ownCalls_append, ih, bracket_calls]
      rfl

/-- **A traced run, with a tracer that does not raise.** -/
theorem tracedInvoke_quiet (hquiet : ∀ event, tr.emit event = .ok ())
    {checkpoint : Option State} {input : State}
    (hread : (startState checkpoint input).Readable) :
    tracedInvoke tr deps checkpoint input =
      ⟨(invoke deps checkpoint input).state,
        (invoke deps checkpoint input).visited.flatMap (tr.bracket deps),
        (invoke deps checkpoint input).visited, (invoke deps checkpoint input).error⟩ := by
  have hvisited : ∀ x ∈ (invoke deps checkpoint input).visited, x.2.Readable := by
    rw [invoke_eq_run]
    exact visited_readable hread
  have hrun := Graph.traced_runFrom_quiet (g := graph deps) (p := tr.probe) recursionLimit
    (routeStart (startState checkpoint input)) (startState checkpoint input)
    fun x hx => probe_quiet_of (hvisited x hx) fun event _ => hquiet event
  have hspans : (invoke deps checkpoint input).visited.flatMap (tr.probe.span (graph deps)) =
      (invoke deps checkpoint input).visited.flatMap (tr.bracket deps) :=
    List.flatMap_congr fun x hx => span_eq_bracket (hvisited x hx)
  show ((graph deps).traced tr.probe).runFrom _ _ _ = _
  rw [hrun]
  exact congrArg (fun calls => (⟨_, calls, _, _⟩ : TracedRun)) hspans

/-- The nodes of a run are in the order of their ranks. -/
theorem invoke_visited_pairwise (deps : Deps) (checkpoint : Option State) (input : State) :
    (invoke deps checkpoint input).visited.Pairwise fun x y => rank y.1 < rank x.1 :=
  Graph.visited_pairwise (rank_falls deps) _ _ _

/-- No two events of a run are of the same node and the same type. -/
theorem brackets_pairwise {visited : List (Node × State)}
    (h : visited.Pairwise fun x y => rank y.1 < rank x.1) :
    (tr.brackets deps visited).Pairwise fun a b =>
      a.nodeName ≠ b.nodeName ∨ a.eventType ≠ b.eventType := by
  refine List.pairwise_flatMap.mpr ⟨fun x _ => ?_, h.imp fun {x y} hlt a ha b hb => ?_⟩
  · refine List.pairwise_pair.mpr (.inr fun heq => ?_)
    exact ended_ne_enter _ heq.symm
  · -- Nodes of different ranks are different nodes.
    left
    have hne : x.1.name ≠ y.1.name := fun heq => by
      rw [Node.name_injective heq] at hlt
      exact Nat.lt_irrefl _ hlt
    have ha' : a.nodeName = x.1.name := by
      rcases List.mem_pair.mp ha with rfl | rfl
      · rfl
      · exact ended_nodeName _
    have hb' : b.nodeName = y.1.name := by
      rcases List.mem_pair.mp hb with rfl | rfl
      · rfl
      · exact ended_nodeName _
    rw [ha', hb']
    exact hne

/-- An event is one of a node that was visited. -/
theorem mem_brackets {visited : List (Node × State)} {event : RuntimeNodeEvent}
    (h : event ∈ tr.brackets deps visited) :
    ∃ x ∈ visited, event = tr.entered x ∨ event = tr.ended x (handler deps x.1 x.2).result := by
  obtain ⟨x, hx, hevent⟩ := List.mem_flatMap.mp h
  exact ⟨x, hx, List.mem_pair.mp hevent⟩

theorem brackets_append_single (before : List (Node × State)) (x : Node × State) :
    tr.brackets deps (before ++ [x]) =
      (tr.brackets deps before ++ [tr.entered x]) ++
        [tr.ended x (handler deps x.1 x.2).result] := by
  simp [Tracing.brackets]

/-- **An error is the last event**, and the one of the run. -/
theorem brackets_errors (tr : Tracing) (deps : Deps) (checkpoint : Option State)
    (input : State) :
    (∀ event ∈ (tr.brackets deps (invoke deps checkpoint input).visited).dropLast,
      event.eventType ≠ .nodeError) ∧
    ∀ event ∈ tr.brackets deps (invoke deps checkpoint input).visited,
      event.eventType = .nodeError → ∃ e, (invoke deps checkpoint input).error = some e ∧
        event.failureClass = some (tr.typeName e) := by
  obtain ⟨before, x, hvisited, hbefore, -, hend⟩ :=
    Graph.visited_split (rank_falls deps) recursionLimit
      (routeStart (startState checkpoint input)) (startState checkpoint input) (rank_lt_limit _)
  change (invoke deps checkpoint input).visited = _ at hvisited
  have hearlier : ∀ event ∈ tr.brackets deps before ++ [tr.entered x],
      event.eventType ≠ .nodeError := by
    intro event hevent
    rcases List.mem_append.mp hevent with hevent | hevent
    · obtain ⟨y, hy, rfl | rfl⟩ := mem_brackets hevent
      · simp [Tracing.entered, Tracing.event]
      · -- A node that led to the next one has answered.
        obtain ⟨m, hnext⟩ := hbefore y hy
        obtain ⟨u, hu, -, -⟩ := hop_ok hnext
        rw [ne_eq, ended_error_iff, hu]
        rintro ⟨e, he⟩
        cases he
    · obtain rfl := List.mem_singleton.mp hevent
      simp [Tracing.entered, Tracing.event]
  rw [hvisited, brackets_append_single, List.dropLast_concat]
  refine ⟨hearlier, fun event hevent htype => ?_⟩
  rcases List.mem_append.mp hevent with hevent | hevent
  · exact absurd htype (hearlier event hevent)
  · obtain rfl := List.mem_singleton.mp hevent
    obtain ⟨e, he⟩ := ended_error_iff.mp htype
    have hraise : (graph deps).hop x.1 x.2 = ⟨_, x.2, .error e⟩ := hop_of_raise he
    rcases hend with ⟨e', hnext, herror⟩ | ⟨hnext, -⟩
    · rw [hraise] at hnext
      obtain rfl := Except.error.inj hnext
      refine ⟨e, herror, ?_⟩
      rw [he]
      rfl
    · rw [hraise] at hnext
      cases hnext

/-- The events of a run say whose run it is. -/
theorem brackets_identity {checkpoint : Option State} {input : State} :
    ∀ event ∈ tr.brackets deps (invoke deps checkpoint input).visited,
      event.threadId = (startState checkpoint input).threadId.getD "" ∧
        event.obligationId = (startState checkpoint input).obligationId.getD "" := by
  intro event hevent
  obtain ⟨x, hx, hcases⟩ := mem_brackets hevent
  rw [invoke_eq_run] at hx
  have hinputs := (run_inputs deps _ _).2 x hx
  have hthread := congrArg State.threadId hinputs
  have hobligation := congrArg State.obligationId hinputs
  simp only [State.inputs] at hthread hobligation
  rw [← hthread, ← hobligation]
  rcases hcases with rfl | rfl
  · exact ⟨rfl, rfl⟩
  · exact ended_identity

end

/-- **What a tracer that does not raise is told of a run**: the run is the run without the
tracer, to its state, its nodes, its exception and the calls of the gateway.  The log of both
is the brackets of the nodes it visited, one after another.  So every event names the thread
and the obligation of the run, no node has two events of one type, an error is the last event,
and it is the exception that the run ended with. -/
theorem traced_run_exact (deps : Deps) (tr : Tracing) (hquiet : ∀ event, tr.emit event = .ok ())
    (checkpoint : Option State) (input : State)
    (hread : (startState checkpoint input).Readable) :
    let plain := invoke deps checkpoint input
    let traced := tracedInvoke tr deps checkpoint input
    traced.state = plain.state ∧ traced.visited = plain.visited ∧ traced.error = plain.error ∧
      ownCalls traced.calls = plain.calls ∧
      traced.calls = plain.visited.flatMap (tr.bracket deps) ∧
      (traced.events.Pairwise fun a b => a.nodeName ≠ b.nodeName ∨ a.eventType ≠ b.eventType) ∧
      (∀ event ∈ traced.events,
        event.threadId = (startState checkpoint input).threadId.getD "" ∧
          event.obligationId = (startState checkpoint input).obligationId.getD "") ∧
      (∀ event ∈ traced.events.dropLast, event.eventType ≠ .nodeError) ∧
      ∀ event ∈ traced.events, event.eventType = .nodeError →
        ∃ e, plain.error = some e ∧ event.failureClass = some (tr.typeName e) := by
  intro plain traced
  have hrun : traced = ⟨plain.state, plain.visited.flatMap (tr.bracket deps), plain.visited,
      plain.error⟩ := tracedInvoke_quiet hquiet hread
  have hevents : traced.events = tr.brackets deps plain.visited := by
    rw [hrun]
    exact probeCalls_brackets _
  have hcalls : ownCalls traced.calls = plain.calls := by
    rw [hrun]
    exact (ownCalls_brackets _).trans (Graph.runFrom_calls (graph deps) recursionLimit
      (routeStart (startState checkpoint input)) (startState checkpoint input)).symm
  obtain ⟨hlast, herror⟩ := brackets_errors tr deps checkpoint input
  rw [hevents]
  refine ⟨by rw [hrun], by rw [hrun], by rw [hrun], hcalls, by rw [hrun],
    brackets_pairwise (invoke_visited_pairwise deps checkpoint input), brackets_identity,
    hlast, herror⟩

/-! ## §3. Scripted runs. -/

namespace Scripted

/-- A tracer that keeps what it is told. -/
def inMemoryTracer : Tracing where
  emit _ := .ok ()
  now _ _ := now
  elapsedMs _ := 3
  hashText _ := "7261"
  typeName _ := "Exception"

/-- A tracer that is out of order when the interrupt has answered. -/
def brokenTracer : Tracing :=
  { inMemoryTracer with
    emit := fun event =>
      if event.nodeName = Node.interruptForApproval.name ∧ event.eventType = .nodeExit then
        .error (.osError "collector is down")
      else .ok () }

/-- The request of a run that is accepted. -/
def tracedRequest : State := makeInitialState (request patch)

/-- The request of a run that awaits approval: the patched file is protected. -/
def guardedRequest : State :=
  makeInitialState { request patch with
    obligation := [("policy", .obj [("protected_paths", .arr [.str "Main.lean"])])] }

theorem tracedRequest_readable : (startState none tracedRequest).Readable := ⟨_, rfl⟩

theorem guardedRequest_readable : (startState none guardedRequest).Readable := ⟨_, rfl⟩

end Scripted

/-- The scripted run goes through the nodes of acceptance, each with its two events. -/
theorem traced_run_exact_scripted :
    let deps := Scripted.deps "s1" Scripted.checked Scripted.verified Scripted.pack
    let plain := invoke deps none Scripted.tracedRequest
    let traced := tracedInvoke Scripted.inMemoryTracer deps none Scripted.tracedRequest
    EndsWith plain .accepted ∧ traced.state = plain.state ∧
      traced.calls = plain.visited.flatMap (Scripted.inMemoryTracer.bracket deps) := by
  intro deps plain traced
  obtain ⟨hstate, -, -, -, hlog, -⟩ := traced_run_exact deps Scripted.inMemoryTracer
    (fun _ => rfl) none Scripted.tracedRequest Scripted.tracedRequest_readable
  exact ⟨by decide, hstate, hlog⟩

/-! ## §4. Tracers that raise. -/

/-- **Whatever a tracer does** (it raises where it likes, or cannot read the state), the calls
of the gateway are a beginning of those of the run without it, and so are the nodes.  If the
traced run does not raise, it ends as the run without the tracer.  If it raises and does not
end as that run, the tracer has raised at the last node, and the state is what that node has
read. -/
theorem tracer_cannot_decide (deps : Deps) (tr : Tracing) (checkpoint : Option State)
    (input : State) :
    let plain := invoke deps checkpoint input
    let traced := tracedInvoke tr deps checkpoint input
    ownCalls traced.calls <+: plain.calls ∧ traced.visited <+: plain.visited ∧
      (∀ status, EndsWith ⟨traced.state, [], [], traced.error⟩ status →
        EndsWith plain status) ∧
      ((traced.state = plain.state ∧ traced.visited = plain.visited ∧
          traced.error = plain.error ∧ ownCalls traced.calls = plain.calls) ∨
        ∃ n s e, (n, s) ∈ plain.visited ∧ traced.visited.getLast? = some (n, s) ∧
          traced.state = s ∧ traced.error = some e ∧ tr.probe.Raises (graph deps) n s e) := by
  intro plain traced
  rcases Graph.traced_runFrom (graph deps) tr.probe recursionLimit
    (routeStart (startState checkpoint input)) (startState checkpoint input) with hsame | hcut
  · have hcalls : ownCalls traced.calls = plain.calls := hsame.calls
    have hvisited : traced.visited = plain.visited := hsame.visited
    have hstate : traced.state = plain.state := hsame.state
    have herror : traced.error = plain.error := hsame.error
    refine ⟨by rw [hcalls], by rw [hvisited], ?_, .inl ⟨hstate, hvisited, herror, hcalls⟩⟩
    rintro status ⟨hnone, hstatus⟩
    exact ⟨herror ▸ hnone, hstate ▸ hstatus⟩
  · obtain ⟨n, s, e, hlast, hstate, herror, hraises⟩ := hcut.stopped
    refine ⟨hcut.calls, hcut.visited, ?_, .inr ⟨n, s, e, ?_, hlast, hstate, herror, hraises⟩⟩
    · rintro status ⟨hnone, -⟩
      have hraised : traced.error = some e := herror
      change traced.error = none at hnone
      rw [hraised] at hnone
      cases hnone
    · exact hcut.visited.subset (List.mem_of_getLast? hlast)

section

variable {tr : Tracing} {deps : Deps}

/-- The tracer raises at the exit of one node, and nowhere else. -/
structure Tracing.RaisesAt (tr : Tracing) (n : Node) (e : PyError) : Prop where
  exit : ∀ event, event.nodeName = n.name → event.eventType = .nodeExit → tr.emit event = .error e
  elsewhere : ∀ event, event.nodeName ≠ n.name ∨ event.eventType ≠ .nodeExit →
    tr.emit event = .ok ()

/-- At that node the tracer raises when the node has answered, and is quiet before and after. -/
theorem Tracing.RaisesAt.probe {n : Node} {e : PyError} (h : tr.RaisesAt n e)
    {t : State} (ht : t.Readable) {u : Update} (hu : (handler deps n t).result = .ok u) :
    (tr.probe.enter n t).result = .ok () ∧ (tr.probe.leave n t u).result = .error e ∧
      (tr.probe.raised n t e).result = .ok () := by
  refine ⟨?_, ?_, ?_⟩
  · obtain ⟨event, -, htype, hresult⟩ := emitEvent_result tr n ht .nodeEnter
      ((t.status.map Status.text).getD "running") none none
    exact hresult.trans (h.elsewhere event (.inr (by simp [htype])))
  · obtain ⟨event, hnode, htype, hresult⟩ := emitEvent_result tr n
      ((handler_writes hu).readable ht) .nodeExit ((u.status.map Status.text).getD "ok")
      (some (tr.elapsedMs n)) none
    exact hresult.trans (h.exit event hnode htype)
  · obtain ⟨event, -, htype, hresult⟩ := emitEvent_result tr n ht .nodeError "failed" none
      (some (tr.typeName e))
    exact hresult.trans (h.elsewhere event (.inr (by simp [htype])))

/-- At any other node it is quiet. -/
theorem Tracing.RaisesAt.quiet {n : Node} {e : PyError} (h : tr.RaisesAt n e)
    {y : Node × State} (hy : y.2.Readable) (hne : y.1 ≠ n) :
    tr.probe.Quiet (graph deps) y.1 y.2 :=
  probe_quiet_of hy fun event hnode =>
    h.elsewhere event (.inl fun heq => hne (Node.name_injective (hnode.symm.trans heq)))

/-- The last node of a fresh run that awaits approval is the interrupt. -/
theorem awaiting_last {s : State} (hs : s.status ≠ some .awaitingApproval)
    {checkpoint : Option State} {input : State} (hstart : startState checkpoint input = s)
    (h : EndsWith (invoke deps checkpoint input) .awaitingApproval) :
    ∃ before t u, (invoke deps checkpoint input).visited = before ++ [(.interruptForApproval, t)] ∧
      (∀ y ∈ before, y.1 ≠ .interruptForApproval) ∧
      (handler deps .interruptForApproval t).result = .ok u ∧
      t.status ≠ some .awaitingApproval := by
  subst hstart
  obtain ⟨before, x, hvisited, hbefore, hstate, hend⟩ :=
    Graph.visited_split (rank_falls deps) recursionLimit
      (routeStart (startState checkpoint input)) (startState checkpoint input) (rank_lt_limit _)
  change (invoke deps checkpoint input).visited = _ at hvisited
  change (invoke deps checkpoint input).state = _ at hstate
  obtain ⟨herror, hstatus⟩ := h
  obtain ⟨n, t⟩ := x
  have ht : t.status ≠ some .awaitingApproval := by
    have hmem : (n, t) ∈ (invoke deps checkpoint input).visited := by
      rw [hvisited]
      simp
    rw [invoke_eq_run] at hmem
    exact visited_not_awaiting hs hmem
  rcases hend with ⟨e, -, hraised⟩ | ⟨hnext, -⟩
  · have hraised' : (invoke deps checkpoint input).error = some e := hraised
    rw [herror] at hraised'
    cases hraised'
  · obtain ⟨u, hu, hedge, hmerge⟩ := hop_ok hnext
    rw [hstate, hmerge, State.merge_status] at hstatus
    -- The status was written by the last node, so it is the interrupt.
    have hwritten : u.status = some .awaitingApproval := by
      cases hus : u.status with
      | none => exact absurd (by simpa [hus] using hstatus) ht
      | some status => simpa [hus] using hstatus
    have hn : n = .interruptForApproval := by
      cases handler_writes hu with
      | interruptForApproval => rfl
      | resumeWithApproval =>
          simp only [Option.some.injEq] at hwritten
          split at hwritten <;> cases hwritten
      | _ => cases hwritten
    subst hn
    refine ⟨before, t, u, hvisited, fun y hy heq => ?_, hu, ht⟩
    obtain ⟨m, hm⟩ := hbefore y hy
    obtain ⟨u', -, hedge', -⟩ := hop_ok hm
    rw [heq] at hedge'
    cases hedge'

end

/-- **A tracer that raises when the interrupt has answered** leaves a review without a run:
every call of the run that awaits approval has been made, the creation of the review among
them where its payload is valid, but the traced run ends with the exception of the tracer,
and its state, the one that the interrupt read, does not say that approval is awaited. -/
theorem raising_exit_orphans_review (deps : Deps) (tr : Tracing) {e : PyError}
    (hraises : tr.RaisesAt .interruptForApproval e) (checkpoint : Option State) (input : State)
    (hread : (startState checkpoint input).Readable)
    (hfresh : (startState checkpoint input).status ≠ some .awaitingApproval)
    (hawaits : EndsWith (invoke deps checkpoint input) .awaitingApproval) :
    let plain := invoke deps checkpoint input
    let traced := tracedInvoke tr deps checkpoint input
    ownCalls traced.calls = plain.calls ∧ traced.error = some e ∧
      traced.state.status ≠ some .awaitingApproval ∧
      (∃ summary, patchSummary deps traced.state = .ok summary ∧
        ∀ payload, ReviewPayload.validate deps.now
            (.obj (reviewPayload traced.state summary ++ policyAudit traced.state)) =
              .ok payload →
          .createPendingReview payload.dump ∈ plain.calls) ∧
      ∃ event, traced.events.getLast? = some event ∧ event.eventType = .nodeError ∧
        event.nodeName = "interrupt_for_approval" := by
  intro plain traced
  obtain ⟨before, t, u, hvisited, hbefore, hu, ht⟩ := awaiting_last hfresh rfl hawaits
  have hnodes : plain.visited = before ++ [(.interruptForApproval, t)] := hvisited
  have hvisit : (.interruptForApproval, t) ∈ plain.visited := by simp [hnodes]
  have hreadable : ∀ x ∈ plain.visited, x.2.Readable := by
    show ∀ x ∈ (invoke deps checkpoint input).visited, x.2.Readable
    rw [invoke_eq_run]
    exact visited_readable hread
  have hquiet : ∀ y ∈ before, tr.probe.Quiet (graph deps) y.1 y.2 := fun y hy =>
    hraises.quiet (hreadable y (by simp [hnodes, hy])) (hbefore y hy)
  have htread : t.Readable := hreadable _ hvisit
  obtain ⟨henter, hleave, hraised⟩ := hraises.probe htread hu
  obtain ⟨hstate, herror, hcalls, hlog⟩ :=
    Graph.traced_runFrom_last (g := graph deps) (p := tr.probe)
      (x := (.interruptForApproval, t)) hu henter hleave hraised recursionLimit
      (routeStart (startState checkpoint input)) (startState checkpoint input) before hvisited
      hquiet
  have hevent : (tr.probe.raised .interruptForApproval t e).calls =
      [tr.ended (.interruptForApproval, t) (.error e)] := emitEvent_shown htread _ _ _ _
  have hkept : traced.state = t := hstate
  refine ⟨hcalls, herror, ?_, ?_, tr.ended (.interruptForApproval, t) (.error e), ?_, rfl, rfl⟩
  · rw [hkept]
    exact ht
  · -- The calls of the interrupt are among those of the run.
    obtain ⟨summary, hsummary, hcreates⟩ := interrupt_creates hu
    rw [hkept]
    refine ⟨summary, hsummary, fun payload hvalid => ?_⟩
    have hplain : plain.calls =
        plain.visited.flatMap fun x => ((graph deps).handler x.1 x.2).calls :=
      Graph.runFrom_calls (graph deps) recursionLimit _ _
    rw [hplain]
    exact List.mem_flatMap.mpr ⟨_, hvisit, hcreates payload hvalid⟩
  · obtain ⟨log, hlog⟩ := hlog
    have htraced : traced.calls = log ++
        [tr.ended (.interruptForApproval, t) (.error e)].map Sum.inr := by
      rw [← hevent]
      exact hlog.symm
    rw [TracedRun.events, htraced, probeCalls_append, probeCalls_inr, List.getLast?_concat]

theorem raising_exit_orphans_review_scripted :
    let deps := Scripted.deps "s1" Scripted.checked Scripted.verified Scripted.pack
    let plain := invoke deps none Scripted.guardedRequest
    let traced := tracedInvoke Scripted.brokenTracer deps none Scripted.guardedRequest
    EndsWith plain .awaitingApproval ∧ ownCalls traced.calls = plain.calls ∧
      traced.error = some (.osError "collector is down") ∧
      traced.state.status ≠ some .awaitingApproval ∧ plain.calls.any GatewayCall.isReview := by
  intro deps plain traced
  have hraises : Scripted.brokenTracer.RaisesAt .interruptForApproval
      (.osError "collector is down") := by
    refine ⟨fun event hnode htype => if_pos ⟨hnode, htype⟩, fun event hother => if_neg ?_⟩
    rintro ⟨hnode, htype⟩
    rcases hother with h | h
    · exact h hnode
    · exact h htype
  have hawaits : EndsWith plain .awaitingApproval := by decide
  obtain ⟨hcalls, herror, hstatus, -⟩ := raising_exit_orphans_review deps Scripted.brokenTracer
    hraises none Scripted.guardedRequest Scripted.guardedRequest_readable (by decide) hawaits
  exact ⟨hawaits, hcalls, herror, hstatus, by decide⟩

/-! ## §5. Exported spans. -/

section

variable {tr : Tracing} {deps : Deps}

/-- Only `evaluate_protocol` answers without a status, where it lets the run pass. -/
theorem silent_iff {n : Node} {t : State} {out : Update}
    (h : (handler deps n t).result = .ok out) :
    out.status = none ↔ n = .evaluateProtocol ∧ protocolOutcome deps t = .ok none := by
  cases handler_writes h with
  | passed hnone => simp [hnone]
  | refused d found => simp [found]
  | _ => simp

/-- The span of the first event is never ok. -/
theorem entered_not_ok (x : Node × State) : (OtlpTracer.span (tr.entered x)).ok = false := by
  show decide ((x.2.status.map Status.text).getD "running" = "ok") = false
  cases x.2.status with
  | none => decide
  | some status => simpa using Status.text_ne_ok status

/-- The span of the last event is ok where the node has answered without a status. -/
theorem ended_ok_iff (x : Node × State) :
    (OtlpTracer.span (tr.ended x (handler deps x.1 x.2).result)).ok = true ↔
      x.1 = .evaluateProtocol ∧ protocolOutcome deps x.2 = .ok none := by
  cases hr : (handler deps x.1 x.2).result with
  | ok out =>
      rw [← silent_iff hr]
      show decide ((out.status.map Status.text).getD "ok" = "ok") = true ↔ _
      cases out.status with
      | none => simp
      | some status => simpa using Status.text_ne_ok status
  | error e =>
      have hraised : ¬ (x.1 = .evaluateProtocol ∧ protocolOutcome deps x.2 = .ok none) := by
        obtain ⟨n, t⟩ := x
        rintro ⟨rfl, hnone⟩
        have hanswered : (handler deps .evaluateProtocol t).result = .ok {} := by
          simp [handler, evaluateProtocol, hnone]
        rw [hanswered] at hr
        cases hr
      simp only [hraised, iff_false]
      show ¬ decide ("failed" = "ok") = true
      decide

/-- The spans that are ok, of the nodes that were visited. -/
theorem brackets_ok_iff (tr : Tracing) {visited : List (Node × State)} :
    (∃ event ∈ tr.brackets deps visited, (OtlpTracer.span event).ok = true) ↔
      ∃ t, (.evaluateProtocol, t) ∈ visited ∧ protocolOutcome deps t = .ok none := by
  constructor
  · rintro ⟨event, hevent, hok⟩
    obtain ⟨⟨n, t⟩, hx, rfl | rfl⟩ := mem_brackets hevent
    · rw [entered_not_ok] at hok
      cases hok
    · obtain ⟨rfl, hnone⟩ := (ended_ok_iff _).mp hok
      exact ⟨t, hx, hnone⟩
  · rintro ⟨t, hx, hnone⟩
    refine ⟨_, List.mem_flatMap.mpr ⟨_, hx, List.mem_pair.mpr (.inr rfl)⟩, ?_⟩
    exact (ended_ok_iff _).mpr ⟨rfl, hnone⟩

/-- A span that is ok is the exit of `evaluate_protocol`. -/
theorem brackets_ok {visited : List (Node × State)} {event : RuntimeNodeEvent}
    (h : event ∈ tr.brackets deps visited) (hok : (OtlpTracer.span event).ok = true) :
    event.nodeName = "evaluate_protocol" ∧ event.eventType = .nodeExit ∧
      (OtlpTracer.span event).name = "obr.evaluate_protocol" := by
  obtain ⟨⟨n, t⟩, hx, rfl | rfl⟩ := mem_brackets h
  · rw [entered_not_ok] at hok
    cases hok
  · obtain ⟨rfl, hnone⟩ := (ended_ok_iff _).mp hok
    have hanswered : (handler deps .evaluateProtocol t).result = .ok {} := by
      simp [handler, evaluateProtocol, hnone]
    rw [hanswered]
    exact ⟨rfl, rfl, rfl⟩

/-- A list of which no two elements go together has one at most. -/
theorem length_le_one_of_pairwise {α : Type} {R : α → α → Prop} :
    ∀ {l : List α}, l.Pairwise R → (∀ a ∈ l, ∀ b ∈ l, ¬ R a b) → l.length ≤ 1
  | [], _, _ => Nat.zero_le _
  | [_], _, _ => Nat.le_refl _
  | a :: b :: _, hR, hno =>
      absurd ((List.pairwise_cons.mp hR).1 b List.mem_cons_self)
        (hno a List.mem_cons_self b (List.mem_cons_of_mem _ List.mem_cons_self))

/-- At most one span is ok. -/
theorem brackets_ok_le_one (tr : Tracing) (deps : Deps) {visited : List (Node × State)}
    (h : visited.Pairwise fun x y => rank y.1 < rank x.1) :
    (((tr.brackets deps visited).map OtlpTracer.span).filter (·.ok)).length ≤ 1 := by
  rw [List.filter_map, List.length_map]
  refine length_le_one_of_pairwise ((brackets_pairwise h).filter _) fun a ha b hb hdiffer => ?_
  obtain ⟨ha, haok⟩ := List.mem_filter.mp ha
  obtain ⟨hb, hbok⟩ := List.mem_filter.mp hb
  obtain ⟨hanode, hatype, -⟩ := brackets_ok ha haok
  obtain ⟨hbnode, hbtype, -⟩ := brackets_ok hb hbok
  rcases hdiffer with hdiffer | hdiffer
  · exact hdiffer (hanode.trans hbnode.symm)
  · exact hdiffer (hatype.trans hbtype.symm)

/-- What the protocol check finds is a refusal. -/
theorem refuses_of_found {t : State} {d : PolicyDecision}
    (h : protocolOutcome deps t = .ok (some d)) :
    d.decision = .rejected ∨ d.decision = .blocked := by
  unfold protocolOutcome at h
  simp only at h
  split at h
  · cases h
  · split at h
    · cases h
    next pack _ =>
      obtain ⟨c, -, hrefuses, -⟩ := protocolDecision_eq_some h
      exact hrefuses.2.2

/-- A fresh run that ends well has passed the protocol check. -/
theorem passed_of_good_end {s : State}
    (h : EndsWith (run deps .initEnvironment s) .accepted ∨
      EndsWith (run deps .initEnvironment s) .awaitingApproval) :
    ∃ t, (.evaluateProtocol, t) ∈ (run deps .initEnvironment s).visited ∧
      protocolOutcome deps t = .ok none := by
  rcases reach_review deps s with hun | ⟨l, found, -, hfound, hcont⟩
  · rcases h with h | h
    · exact absurd h hun.notAccepted
    · exact absurd h hun.notAwaiting
  · have hmem : (.evaluateProtocol, l.audited s) ∈ (run deps .initEnvironment s).visited := by
      rw [hcont.visited, Lane.visitedBefore]
      simp
    cases found with
    | none => exact ⟨l.audited s, hmem, hfound⟩
    | some d =>
        -- A refusal is the last word.
        have hkept := run_of_refusal hfound (refuses_of_found hfound)
        have hstatus : (run deps .initEnvironment s).state.status = some .auditing := by
          have hscreen := run_evaluateProtocol hfound
          rw [hcont.state, Lane.atReview, ← hscreen.state, hkept.2.2]
          rfl
        rcases h with ⟨-, h⟩ | ⟨-, h⟩
        · rw [hstatus] at h
          cases h
        · rw [hstatus] at h
          cases h

end

/-- **The spans that OpenTelemetry is given of a run**: two of every node, and at most one of
them ok.  It is the exit of `evaluate_protocol`, and it is there exactly when the protocol
check has let the run pass: the other nodes answer with a status of their own, which is never
"ok".  So of a fresh run that is accepted, or awaits approval, one span is ok and all others
are errors; and of a resumed run all of them are. -/
theorem exported_spans (deps : Deps) (tr : Tracing) (hquiet : ∀ event, tr.emit event = .ok ())
    (checkpoint : Option State) (input : State)
    (hread : (startState checkpoint input).Readable) :
    let plain := invoke deps checkpoint input
    let spans := (tracedInvoke tr deps checkpoint input).spans
    spans.length = 2 * plain.visited.length ∧ (spans.filter (·.ok)).length ≤ 1 ∧
      (∀ span ∈ spans, span.ok = true → span.name = "obr.evaluate_protocol") ∧
      ((∃ span ∈ spans, span.ok = true) ↔
        ∃ t, (.evaluateProtocol, t) ∈ plain.visited ∧ protocolOutcome deps t = .ok none) ∧
      (routeStart (startState checkpoint input) = .initEnvironment →
        EndsWith plain .accepted ∨ EndsWith plain .awaitingApproval →
          (spans.filter (·.ok)).length = 1) ∧
      (routeStart (startState checkpoint input) = .resumeWithApproval →
        ∀ span ∈ spans, span.ok = false) := by
  intro plain spans
  have hspans : spans = (tr.brackets deps plain.visited).map OtlpTracer.span := by
    show (probeCalls (tracedInvoke tr deps checkpoint input).calls).map OtlpTracer.span = _
    rw [tracedInvoke_quiet hquiet hread, probeCalls_brackets]
  have hone := brackets_ok_le_one tr deps
    (invoke_visited_pairwise deps checkpoint input)
  have hiff : (∃ span ∈ spans, span.ok = true) ↔
      ∃ t, (.evaluateProtocol, t) ∈ plain.visited ∧ protocolOutcome deps t = .ok none := by
    rw [← brackets_ok_iff tr, hspans]
    simp
  rw [← hspans] at hone
  refine ⟨?_, hone, ?_, hiff, fun hroute hend => ?_, fun hroute span hspan => ?_⟩
  · rw [hspans, List.length_map, Tracing.brackets, List.length_flatMap]
    simp [Nat.mul_comm]
  · intro span hspan hok
    rw [hspans] at hspan
    obtain ⟨event, hevent, rfl⟩ := List.mem_map.mp hspan
    exact (brackets_ok hevent hok).2.2
  · have hplain : plain = run deps .initEnvironment (startState checkpoint input) := by
      rw [← hroute]
      exact invoke_eq_run checkpoint input
    obtain ⟨span, hspan, hok⟩ := hiff.mpr (hplain ▸ passed_of_good_end (hplain ▸ hend))
    have hpos : 0 < (spans.filter (·.ok)).length :=
      List.length_pos_of_mem (List.mem_filter.mpr ⟨hspan, hok⟩)
    omega
  · cases hok : span.ok with
    | false => rfl
    | true =>
        obtain ⟨t, ht, -⟩ := hiff.mp ⟨span, hspan, hok⟩
        have hplain : plain = run deps .resumeWithApproval (startState checkpoint input) := by
          rw [← hroute]
          exact invoke_eq_run checkpoint input
        rw [hplain] at ht
        rcases visited_rank ht with hfirst | hlt
        · cases hfirst
        · simp [rank] at hlt

/-- One of the spans of the accepted run is ok. -/
theorem exported_spans_scripted :
    let deps := Scripted.deps "s1" Scripted.checked Scripted.verified Scripted.pack
    let plain := invoke deps none Scripted.tracedRequest
    let spans := (tracedInvoke Scripted.inMemoryTracer deps none Scripted.tracedRequest).spans
    EndsWith plain .accepted ∧ spans.length = 2 * plain.visited.length ∧
      (spans.filter (·.ok)).length = 1 := by
  intro deps plain spans
  obtain ⟨hlength, -, -, -, haccepted, -⟩ := exported_spans deps Scripted.inMemoryTracer
    (fun _ => rfl) none Scripted.tracedRequest Scripted.tracedRequest_readable
  have hend : EndsWith plain .accepted := by decide
  exact ⟨hend, hlength, haccepted rfl (.inl hend)⟩

end ObligationRuntime
