/-
  ObligationRuntime.Guarantees.ProtocolGate — a protocol refusal is final.

  `evaluate_protocol` writes the decision of the first enabled class that refuses
  the events, `policy_review` keeps a refusal it finds, and the route after it
  ends the run.  So the refusal is the run's last word, whatever the evidence.

  Main results:
    * `protocolDecision_eq_some`, `protocolDecision_eq_none` — the loop over the
      classes, as its first refusal or none,
    * `run_of_refusal` — how a run that was refused ends,
    * `protocol_gate` — the guarantee over whole runs.
-/
import ObligationRuntime.Runtime.Runs

namespace ObligationRuntime

open Py Flow Handlers ProtocolEvaluator

/-! ## §1. The loop over the classes. -/

/-- A class the pack enables refuses the events with `d`. -/
def Refuses (events : List Json) (pack : PolicyPack)
    (c : ObligationClass × (PolicyPack → Bool)) (d : PolicyDecision) : Prop :=
  c.2 pack = true ∧ evaluateProtocolObligation c.1 events pack = .ok d ∧
    (d.decision = .rejected ∨ d.decision = .blocked)

/-- `c` is the first class, in the fixed order, that refuses the events. -/
def FirstRefusal (events : List Json) (pack : PolicyPack)
    (c : ObligationClass × (PolicyPack → Bool)) (d : PolicyDecision) : Prop :=
  Refuses events pack c d ∧ ∃ pre post, protocolClasses = pre ++ c :: post ∧
    ∀ c' ∈ pre, ∀ d', ¬ Refuses events pack c' d'

section

variable {events : List Json} {pack : PolicyPack}

theorem refuses_iff {d : PolicyDecision} :
    refuses d = true ↔ d.decision = .rejected ∨ d.decision = .blocked := by
  simp [refuses]

theorem classGate_eq_some {c : ObligationClass × (PolicyPack → Bool)} {d : PolicyDecision} :
    classGate events pack c = .ok (some d) ↔ Refuses events pack c d := by
  unfold classGate Refuses
  cases hc : c.2 pack with
  | false => simp
  | true =>
      simp only [if_true, bind_eq_ok_iff, pure_eq_ok, Except.ok.injEq, true_and]
      constructor
      · intro h
        obtain ⟨d', hd', hif⟩ := h
        split at hif
        next href =>
          obtain rfl := Option.some.inj hif
          exact ⟨hd', refuses_iff.mp href⟩
        · cases hif
      · intro h
        obtain ⟨hd, href⟩ := h
        exact ⟨d, hd, by rw [if_pos (refuses_iff.mpr href)]⟩

/-- A class that did not raise and did not refuse let the events pass. -/
theorem classGate_eq_none {c : ObligationClass × (PolicyPack → Bool)} :
    classGate events pack c = .ok none →
      (∀ d, ¬ Refuses events pack c d) ∧
      (c.2 pack = true → ∃ d, evaluateProtocolObligation c.1 events pack = .ok d ∧
        refuses d = false) := by
  intro h
  refine ⟨fun d hd => ?_, fun hc => ?_⟩
  · rw [classGate_eq_some.mpr hd] at h
    cases h
  · simp only [classGate, hc, if_true, bind_eq_ok_iff, pure_eq_ok, Except.ok.injEq] at h
    obtain ⟨d, hd, hif⟩ := h
    split at hif
    · cases hif
    next href => exact ⟨d, hd, by simpa using href⟩

/-- The decision `evaluate_protocol` writes is that of the first class that
refuses. -/
theorem protocolDecision_eq_some {d : PolicyDecision}
    (h : protocolDecision events pack = .ok (some d)) :
    ∃ c ∈ protocolClasses, FirstRefusal events pack c d := by
  obtain ⟨pre, post, hgates, hpre⟩ := EarlyReturn.first_some_iff.mp h
  obtain ⟨cpre, ctail, hsplit, hcpre, htail⟩ := List.map_eq_append_iff.mp hgates
  obtain ⟨c, cpost, rfl, hc, -⟩ := List.map_eq_cons_iff.mp htail
  refine ⟨c, by simp [hsplit], classGate_eq_some.mp hc, cpre, cpost, hsplit, ?_⟩
  intro c' hc' d'
  have hnone := hpre (classGate events pack c') (hcpre ▸ List.mem_map_of_mem hc')
  exact (classGate_eq_none hnone).1 d'

/-- When it writes none, every class it asked let the events pass. -/
theorem protocolDecision_eq_none (h : protocolDecision events pack = .ok none) :
    ∀ c ∈ protocolClasses, (∀ d, ¬ Refuses events pack c d) ∧
      (c.2 pack = true → ∃ d, evaluateProtocolObligation c.1 events pack = .ok d ∧
        refuses d = false) := by
  intro c hc
  exact classGate_eq_none (EarlyReturn.first_none_iff.mp h _ (List.mem_map_of_mem hc))

/-- Where every evaluator returns, the loop comes to an answer. -/
theorem protocolDecision_returns
    (h : ∀ c, ∃ d, evaluateProtocolObligation c events pack = .ok d) :
    ∃ found, protocolDecision events pack = .ok found := by
  refine EarlyReturn.first_total fun g hg => ?_
  obtain ⟨c, -, rfl⟩ := List.mem_map.mp hg
  unfold classGate
  split
  · obtain ⟨d, hd⟩ := h c.1
    rw [hd]
    exact ⟨_, rfl⟩
  · exact ⟨none, rfl⟩

/-- So it does on well-typed events. -/
theorem protocolDecision_total (pack : PolicyPack) (h : ∀ ev ∈ events, WellTyped ev) :
    ∃ found, protocolDecision events pack = .ok found :=
  protocolDecision_returns fun c => evaluate_total c h pack

/-- An evaluator that does not refuse accepts. -/
theorem accepts_of_not_refuses {c : ObligationClass} {d : PolicyDecision}
    (h : evaluateProtocolObligation c events pack = .ok d) (hr : refuses d = false) :
    d.decision = .accepted := by
  rcases evaluate_answer h with rfl | ⟨reason, rfl⟩ | ⟨reason, rfl⟩
  · rfl
  · cases hr
  · cases hr

end

/-! ## §2. The guarantee. -/

section

variable {deps : Deps}

/-- A run that reaches `evaluate_protocol` went down its lane. -/
theorem lane_of_reached {s t : State}
    (h : (.evaluateProtocol, t) ∈ (run deps (routeStart s) s).visited) :
    ∃ l : Lane, l.Valid deps s ∧
      Continues (run deps (routeStart s) s) (l.visited s) (l.calls s)
        (run deps .evaluateProtocol (l.audited s)) := by
  unfold routeStart at *
  split at h
  · rcases visited_rank h with h | h
    · cases h
    · simp [rank] at h
  next hfresh =>
    rw [if_neg hfresh]
    -- A run that stopped early did not come to this node.
    rcases fresh_run deps s with ⟨⟨hvisited, -⟩, -⟩ | hlane
    · have := hvisited _ h
      cases this
    · exact hlane

/-- **A refusal is the run's last word**: the review keeps it, and the route after
the review ends the run there, without a call. -/
theorem run_of_refusal {t : State} {d : PolicyDecision}
    (hout : protocolOutcome deps t = .ok (some d))
    (href : d.decision = .rejected ∨ d.decision = .blocked) :
    (run deps .evaluateProtocol t).error = none ∧
      (run deps .evaluateProtocol t).calls = [] ∧
      (run deps .evaluateProtocol t).state = reviewed (screened t (some d)) none := by
  have hpolicy : (screened t (some d)).policy = some d.dump := by
    simp [screened, State.policy]
  have hkept : alreadyRefused (screened t (some d)) = true := by
    rcases href with h | h <;> simp [alreadyRefused, hpolicy, Dict.getD, h, Decision.text]
  have hscreen := run_evaluateProtocol hout
  rw [run_refused hkept] at hscreen
  exact ⟨hscreen.error, hscreen.calls, hscreen.state⟩

/-- **The protocol gate.**  A run that reaches `evaluate_protocol` with well-typed
events and a pack that loads: if an enabled class refuses the events, the run
ends with the decision of the first one, not accepted, not awaiting approval and
without a review; and if it ends accepted or awaiting approval, every enabled
class accepts the events. -/
theorem protocol_gate (checkpoint : Option State) (req : RunRequest) (overrides : Update)
    {events : List Json} {pack : PolicyPack} {t : State}
    (hevents : (startState checkpoint (makeInitialState req overrides)).protocolEvents =
      some events)
    (hne : events ≠ []) (htyped : ∀ ev ∈ events, WellTyped ev)
    (hpack : deps.loadPack ((startState checkpoint (makeInitialState req overrides)).packName
      deps.obrPolicyPack "single_owner_handoff_v1") = .ok pack)
    (hreach : (.evaluateProtocol, t) ∈
      (invoke deps checkpoint (makeInitialState req overrides)).visited) :
    let r := invoke deps checkpoint (makeInitialState req overrides)
    ((∃ c ∈ protocolClasses, ∃ d, Refuses events pack c d) →
      ∃ c ∈ protocolClasses, ∃ d, FirstRefusal events pack c d ∧
        r.error = none ∧ r.state.policy = some d.dump ∧
        ¬ EndsWith r .accepted ∧ ¬ EndsWith r .awaitingApproval ∧
        ∀ call ∈ r.calls, call.isReview = false) ∧
    (EndsWith r .accepted ∨ EndsWith r .awaitingApproval →
      ∀ c ∈ protocolClasses, c.2 pack = true →
        ∃ d, evaluateProtocolObligation c.1 events pack = .ok d ∧ d.decision = .accepted) := by
  intro r
  have hr : r = run deps (routeStart (startState checkpoint (makeInitialState req overrides)))
      (startState checkpoint (makeInitialState req overrides)) := invoke_eq_run _ _
  rw [invoke_eq_run] at hreach
  generalize hs : startState checkpoint (makeInitialState req overrides) = s at *
  obtain ⟨l, hl, hlane⟩ := lane_of_reached hreach
  rw [← hr] at hlane
  -- The lane writes neither the events nor the name of the pack.
  have hev : (l.audited s).protocolEvents = some events := by
    simp [Lane.audited_eq, Lane.update, hevents]
  have hname : (l.audited s).packName deps.obrPolicyPack "single_owner_handoff_v1" =
      s.packName deps.obrPolicyPack "single_owner_handoff_v1" := by
    simp [State.packName, Lane.audited_eq, Lane.update]
  have hout : protocolOutcome deps (l.audited s) = protocolDecision events pack := by
    simp [protocolOutcome, hev, hne, hname, hpack]
  obtain ⟨found, hfound⟩ := protocolDecision_total pack htyped
  rw [hfound] at hout
  cases found with
  | none =>
      -- No class refused: the first part is empty, the second is what the loop saw.
      have hpass := protocolDecision_eq_none hfound
      refine ⟨?_, fun _ c hc hon => ?_⟩
      · intro h
        obtain ⟨c, hc, d, hd⟩ := h
        exact absurd hd ((hpass c hc).1 d)
      · obtain ⟨d, hd, href⟩ := (hpass c hc).2 hon
        exact ⟨d, hd, accepts_of_not_refuses hd href⟩
  | some d =>
      obtain ⟨c, hc, hfirst⟩ := protocolDecision_eq_some hfound
      obtain ⟨herror, hcalls, hend⟩ := run_of_refusal hout hfirst.1.2.2
      have hstate : r.state = reviewed (screened (l.audited s) (some d)) none :=
        hlane.state.trans hend
      have hst : r.state.status = some .auditing := by rw [hstate]; rfl
      have hna : ¬ EndsWith r .accepted := fun h => by simpa [hst] using h.2
      have hnw : ¬ EndsWith r .awaitingApproval := fun h => by simpa [hst] using h.2
      refine ⟨fun _ => ⟨c, hc, d, hfirst, hlane.error.trans herror, ?_, hna, hnw, ?_⟩,
        fun h => (h.elim hna hnw).elim⟩
      · rw [hstate]
        simp [reviewed, screened, State.policy]
      · intro call hcall
        rw [hlane.calls, hcalls] at hcall
        exact Lane.calls_not_review (by simpa using hcall)

/-- A delegation nobody claimed. -/
def orphanDelegation : List Json :=
  [.obj [("event_id", .str "e1"), ("kind", .str "delegate"),
    ("actor", .obj [("agent_id", .str "a"), ("role", .str "owner")]),
    ("task", .obj [("task_id", .str "t"), ("task_class", .str "patch")]),
    ("payload", .obj []), ("prior_event_ids", .arr [])]]

/-- The scripted run is refused for its events, with clean evidence. -/
theorem protocol_gate_scripted :
    let deps := Scripted.deps "s1" Scripted.checked Scripted.verified
      { Scripted.pack with singleOwnerHandoff := true }
    let r := invoke deps none (makeInitialState
      { Scripted.request Scripted.patch with protocolEvents := some orphanDelegation })
    ∃ c ∈ protocolClasses, ∃ d,
      FirstRefusal orphanDelegation { Scripted.pack with singleOwnerHandoff := true } c d ∧
      r.error = none ∧ r.state.policy = some d.dump ∧ ¬ EndsWith r .accepted ∧
      ¬ EndsWith r .awaitingApproval ∧ ∀ call ∈ r.calls, call.isReview = false := by
  intro deps r
  have htyped : ∀ ev ∈ orphanDelegation, WellTyped ev := by
    intro ev hev
    obtain rfl := List.mem_singleton.mp hev
    exact ⟨_, "delegate", rfl, by decide, .inr ⟨[], by decide⟩⟩
  have hreach : ∃ t, (Node.evaluateProtocol, t) ∈ r.visited := ⟨_, by
    show _ ∈ [_, _, _, _, _, _, _, _]
    exact List.mem_of_getElem? (i := 6) rfl⟩
  obtain ⟨t, hreach⟩ := hreach
  have hevents : (startState none (makeInitialState
      { Scripted.request Scripted.patch with protocolEvents := some orphanDelegation }
      {})).protocolEvents = some orphanDelegation := rfl
  have hpack : deps.loadPack ((startState none (makeInitialState
      { Scripted.request Scripted.patch with protocolEvents := some orphanDelegation }
      {})).packName deps.obrPolicyPack "single_owner_handoff_v1") =
        .ok { Scripted.pack with singleOwnerHandoff := true } := rfl
  refine (protocol_gate none _ {} hevents (by simp [orphanDelegation]) htyped hpack hreach).1 ?_
  exact ⟨(.handoffLegality, PolicyPack.singleOwnerHandoff), by simp [protocolClasses],
    rejected Reason.delegateWithoutPriorClaim, by decide, by decide, .inl rfl⟩

end

end ObligationRuntime
