/-
  ObligationRuntime.Policy.Engine — `PolicyEngine.evaluate`, engine.py of
  `lean_langchain_policy`.

  The engine asks its gates in a fixed order and returns at the first that
  fires: interactive errors, then (only when there is a batch result) a failed
  lane, a blocked audit, a trusted compiler and the pack's trust gates, then the
  patch gates, which read nothing but the patch and the pack.  A gate may raise
  on evidence of the wrong shape.

  The source's `obligation` argument is not read by it and is left out.

  Main results:
    * `evaluate_accepted_iff` — acceptance is exactly that every gate passed,
    * `evaluate_accepts_iff` — the same, as a condition on the inputs,
    * `evaluate_admits` — what an acceptance, or a review, has seen of a batch result,
    * `gates_of_absent` — without a batch result the batch gates are not asked,
    * `interactiveGate_dump`, `batchOkGate_dump`, `axiomGate_dump` — what the
      evidence gates do on the gateway's own records.
-/
import ObligationRuntime.Lib.EarlyReturn
import ObligationRuntime.Lib.Text
import ObligationRuntime.Policy.Models

namespace ObligationRuntime

open Py EarlyReturn

namespace PolicyEngine

/-! ## §1. Verdicts. -/

/-- What a gate that fires says. -/
structure Verdict where
  decision : Decision
  trustLevel : TrustLevel
  reasons : List String
  ruleId : String
  effect : RuleEffect
  reasonCode : String
  deriving DecidableEq, Repr

/-- `_rule` and the decision that carries it. -/
def decisionOf (pack : PolicyPack) (v : Verdict) : PolicyDecision where
  decision := v.decision
  trustLevel := v.trustLevel
  reasons := v.reasons
  policyPackName := pack.name
  policyPackVersion := pack.version
  resolvedRules :=
    [{ ruleId := v.ruleId, sourcePack := pack.name, matched := true, effect := v.effect,
       reasonCode := v.reasonCode }]

/-- A gate that asks for a reviewer. -/
def review (trustLevel : TrustLevel) (ruleId reason : String) : Verdict :=
  ⟨.needsReview, trustLevel, [reason], ruleId, .needsReview, reason⟩

/-- No gate fired. -/
def acceptance : Verdict := ⟨.accepted, .clean, [], "accept", .accepted, "accepted"⟩

/-! ## §2. What the gates read. -/

/-- The changed files that are text, with forward slashes. -/
def normalizedFiles (patchMetadata : Dict) : List String :=
  match patchMetadata.getD "changed_files" .null with
  | .arr xs =>
      xs.filterMap fun
        | .str s => some (replaceChar '\\' '/' s)
        | _ => none
  | _ => []

/-- Does a file, or its last component, match a glob? -/
def globMatches (glob file : String) : Bool :=
  let g := replaceChar '\\' '/' glob
  fnmatch file g || fnmatch (basename file) g

/-- The elements `d` with `d.get("severity") == "error"`. -/
def errorLike : List Json → Except PyError (List Json)
  | [] => .ok []
  | d :: ds => do
      let severity ← d.pyGet "severity"
      let rest ← errorLike ds
      return if severity = .str "error" then d :: rest else rest

/-- `batch_result.get("trust_level", "clean")`. -/
def trustLevelOf (batch : Dict) : Json := batch.getD "trust_level" (.str "clean")

/-- `batch_result.get(key, {}).get("ok") is False`. -/
def okIsFalse (batch : Dict) (key : String) : Except PyError Bool := do
  let ok ← (batch.getD key (.obj [])).pyGet "ok"
  return decide (ok = .bool false)

/-! ## §3. The gates. -/

/-- Diagnostics of severity `error`. -/
def interactiveGate (interactive : Option Dict) : Except PyError (Option Verdict) :=
  match Dict.present interactive with
  | none => .ok none
  | some d =>
      -- A result without diagnostics is no reason to stop, `ok` or not.
      if (d.getD "diagnostics" .null).truthy then do
        let ds ← (d.getD "diagnostics" .null).pyIter
        let errors ← errorLike ds
        return if errors = [] then none else some
          ⟨.rejected, .blocked, ["interactive_errors_present"], "interactive_errors", .rejected,
            "interactive_errors_present"⟩
      else .ok none

/-- A batch result that is not ok. -/
def batchOkGate (batch : Dict) : Except PyError (Option Verdict) :=
  -- A result without an `ok` is not ok.
  if (batch.getD "ok" (.bool false)).truthy then .ok none
  else do
    let build ← okIsFalse batch "build"
    let fresh ← okIsFalse batch "fresh_checker"
    return some
      ⟨.rejected, .blocked,
        ["batch_verify_failed"] ++ (if build then ["lake_build_failed"] else []) ++
          (if fresh then ["fresh_checker_failed"] else []),
        "batch_verify", .rejected, "batch_verify_failed"⟩

/-- An audit with blocked reasons. -/
def axiomGate (batch : Dict) : Except PyError (Option Verdict) := do
  let blocked ← (batch.getD "axiom_audit" (.obj [])).pyGetD "blocked_reasons" (.arr [])
  if blocked.truthy then
    let xs ← blocked.pyIter
    let reasons ← strList.validate (.arr xs)
    return some ⟨.blocked, .blocked, reasons, "axiom_audit", .blocked, "axiom_blocked"⟩
  else return none

/-- A trusted compiler where the pack does not allow one. -/
def trustCompilerGate (pack : PolicyPack) (batch : Dict) : Option Verdict :=
  if trustLevelOf batch = .str "warning" ∧ pack.allowTrustCompiler = false then
    some (review .warning "trust_compiler" "trust_compiler_detected")
  else none

/-- Do the changed files fall under a trust gate? -/
def trustGatePaths (files : List String) (tg : TrustGateRule) : Bool :=
  -- A gate without globs is about every patch that changes a file.
  if tg.pathGlobs = [] then !files.isEmpty
  else files.any fun f => tg.pathGlobs.any fun g => globMatches g f

/-- Does a trust gate fire? -/
def trustGateFires (batch : Dict) (files : List String) (tg : TrustGateRule) : Bool :=
  (tg.whenTrustLevel.any fun t => decide (Json.str t.text = trustLevelOf batch)) &&
    trustGatePaths files tg && tg.requireHuman

/-- The pack's trust gates, in order. -/
def trustGate (pack : PolicyPack) (batch : Dict) (files : List String) : Option Verdict :=
  (pack.trustGates.find? (trustGateFires batch files)).map fun tg =>
    review .clean tg.ruleId tg.reasonCode

/-- A change of trust, where the pack wants a reviewer for it. -/
def trustDeltaGate (pack : PolicyPack) (patchMetadata : Dict) : Option Verdict :=
  if (patchMetadata.getD "trust_delta" .null).truthy ∧ pack.requireHumanOnTrustDelta then
    some (review .clean "trust_delta" "trust_delta_requires_review")
  else none

/-- Does a path rule fire? -/
def pathRuleFires (files : List String) (rule : PathRule) : Bool :=
  files.any (globMatches rule.glob) && rule.requireHuman

/-- The pack's path rules, in order. -/
def pathRuleGate (pack : PolicyPack) (files : List String) : Option Verdict :=
  (pack.pathRules.find? (pathRuleFires files)).map fun rule =>
    review .clean ("path_rule:" ++ rule.glob) rule.reasonCode

/-- Protected paths that were touched. -/
def protectedGate (patchMetadata : Dict) : Option Verdict :=
  if (patchMetadata.getD "protected_paths_touched" .null).truthy then
    some (review .clean "protected_paths" "protected_path_touched")
  else none

/-- Imports that changed, where the pack wants a reviewer for it. -/
def importsGate (pack : PolicyPack) (patchMetadata : Dict) : Option Verdict :=
  if (patchMetadata.getD "imports_changed" .null).truthy ∧ pack.requireHumanIfImportsChange then
    some (review .clean "imports_changed" "imports_changed_requires_review")
  else none

/-- The gates of a batch result, asked only when there is one. -/
def batchGates (pack : PolicyPack) (files : List String) (batch : Option Dict) :
    List (Except PyError (Option Verdict)) :=
  match Dict.present batch with
  | none => []
  | some b =>
      [batchOkGate b, axiomGate b, .ok (trustCompilerGate pack b), .ok (trustGate pack b files)]

/-- The gates that read only the patch and the pack. -/
def patchGates (pack : PolicyPack) (patchMetadata : Dict) : List (Option Verdict) :=
  [trustDeltaGate pack patchMetadata, pathRuleGate pack (normalizedFiles patchMetadata),
    protectedGate patchMetadata, importsGate pack patchMetadata]

/-- All gates, in the order they are asked. -/
def gates (interactive batch : Option Dict) (patchMetadata : Dict) (pack : PolicyPack) :
    List (Except PyError (Option Verdict)) :=
  interactiveGate interactive ::
    (batchGates pack (normalizedFiles patchMetadata) batch ++
      (patchGates pack patchMetadata).map .ok)

/-- `PolicyEngine.evaluate`. -/
def evaluate (interactive batch : Option Dict) (patchMetadata : Dict) (pack : PolicyPack) :
    Except PyError PolicyDecision := do
  let v ← first (gates interactive batch patchMetadata pack)
  return decisionOf pack (v.getD acceptance)

/-! ## §4. No gate accepts. -/

/-- Where the first gate fires, it rejects. -/
theorem interactiveGate_refuses {interactive : Option Dict} {v : Verdict}
    (h : interactiveGate interactive = .ok (some v)) : v.decision = .rejected := by
  unfold interactiveGate at h
  split at h
  · cases h
  · split at h
    · obtain ⟨ds, -, h⟩ := bind_eq_ok_iff.mp h
      obtain ⟨errors, -, h⟩ := bind_eq_ok_iff.mp h
      simp only [pure_eq_ok, Except.ok.injEq] at h
      split at h
      · cases h
      · cases h
        rfl
    · cases h

/-- A batch that failed is rejected. -/
theorem batchOkGate_refuses {batch : Dict} {v : Verdict}
    (h : batchOkGate batch = .ok (some v)) : v.decision = .rejected := by
  unfold batchOkGate at h
  split at h
  · cases h
  · obtain ⟨build, -, h⟩ := bind_eq_ok_iff.mp h
    obtain ⟨fresh, -, h⟩ := bind_eq_ok_iff.mp h
    cases h
    rfl

/-- An audit with reasons blocks. -/
theorem axiomGate_refuses {batch : Dict} {v : Verdict} (h : axiomGate batch = .ok (some v)) :
    v.decision = .blocked := by
  unfold axiomGate at h
  obtain ⟨blocked, -, h⟩ := bind_eq_ok_iff.mp h
  split at h
  · obtain ⟨xs, -, h⟩ := bind_eq_ok_iff.mp h
    obtain ⟨reasons, -, h⟩ := bind_eq_ok_iff.mp h
    cases h
    rfl
  · cases h

/-- A trusted compiler that the pack does not allow is reviewed. -/
theorem trustCompilerGate_reviews {pack : PolicyPack} {batch : Dict} {v : Verdict}
    (h : trustCompilerGate pack batch = some v) : v.decision = .needsReview := by
  unfold trustCompilerGate at h
  split at h
  · cases h
    rfl
  · cases h

/-- A trust gate that fires asks for a review. -/
theorem trustGate_reviews {pack : PolicyPack} {batch : Dict} {files : List String} {v : Verdict}
    (h : trustGate pack batch files = some v) : v.decision = .needsReview := by
  obtain ⟨tg, -, rfl⟩ := Option.map_eq_some_iff.mp h
  rfl

/-- The gates on the patch ask for a review. -/
theorem patchGates_review {pack : PolicyPack} {patchMetadata : Dict} {v : Verdict}
    (h : some v ∈ patchGates pack patchMetadata) : v.decision = .needsReview := by
  simp only [patchGates, List.mem_cons, List.not_mem_nil, or_false] at h
  rcases h with h | h | h | h
  · simp only [trustDeltaGate] at h
    split at h <;> cases h
    rfl
  · obtain ⟨rule, -, rfl⟩ := Option.map_eq_some_iff.mp h.symm
    rfl
  · simp only [protectedGate] at h
    split at h <;> cases h
    rfl
  · simp only [importsGate] at h
    split at h <;> cases h
    rfl

/-- What the gates can decide: never acceptance. -/
theorem gates_decide {interactive batch : Option Dict} {patchMetadata : Dict} {pack : PolicyPack}
    {v : Verdict} (h : .ok (some v) ∈ gates interactive batch patchMetadata pack) :
    v.decision = .rejected ∨ v.decision = .blocked ∨ v.decision = .needsReview := by
  simp only [gates, List.mem_cons, List.mem_append, List.mem_map] at h
  rcases h with h | h | ⟨g, hg, h⟩
  · exact .inl (interactiveGate_refuses h.symm)
  · unfold batchGates at h
    split at h
    · cases h
    · simp only [List.mem_cons, List.not_mem_nil, or_false] at h
      rcases h with h | h | h | h
      · exact .inl (batchOkGate_refuses h.symm)
      · exact .inr (.inl (axiomGate_refuses h.symm))
      · exact .inr (.inr (trustCompilerGate_reviews (Except.ok.inj h).symm))
      · exact .inr (.inr (trustGate_reviews (Except.ok.inj h).symm))
  · obtain rfl := Except.ok.inj h
    exact .inr (.inr (patchGates_review hg))

/-! ## §5. What an evaluation says. -/

section Evaluate

variable {interactive batch : Option Dict} {patchMetadata : Dict} {pack : PolicyPack}
  {d : PolicyDecision}

/-- The first gate that fires is the decision. -/
theorem evaluate_of_first {v : Option Verdict}
    (h : first (gates interactive batch patchMetadata pack) = .ok v) :
    evaluate interactive batch patchMetadata pack = .ok (decisionOf pack (v.getD acceptance)) := by
  simp [evaluate, h]

/-- A decision is the verdict of the first gate that fires, or the acceptance. -/
theorem evaluate_ok_iff :
    evaluate interactive batch patchMetadata pack = .ok d ↔
      ∃ v, first (gates interactive batch patchMetadata pack) = .ok v ∧
        d = decisionOf pack (v.getD acceptance) := by
  simp only [evaluate, bind_eq_ok_iff, pure_eq_ok, Except.ok.injEq]
  exact exists_congr fun v => and_congr_right fun _ => eq_comm

/-- An evaluation decides one of four things, under the pack's name. -/
theorem evaluate_decision (h : evaluate interactive batch patchMetadata pack = .ok d) :
    d.decision = .accepted ∨ d.decision = .rejected ∨ d.decision = .blocked ∨
      d.decision = .needsReview := by
  obtain ⟨v, hv, rfl⟩ := evaluate_ok_iff.mp h
  cases v with
  | none => exact .inl rfl
  | some v => exact .inr (gates_decide (mem_of_first_some hv))

/-- **Acceptance is exactly that every gate passed.** -/
theorem evaluate_accepted_iff :
    (∃ d, evaluate interactive batch patchMetadata pack = .ok d ∧ d.decision = .accepted) ↔
      ∀ g ∈ gates interactive batch patchMetadata pack, g = .ok none := by
  rw [← first_none_iff]
  constructor
  · intro hyp
    obtain ⟨d, h, hd⟩ := hyp
    obtain ⟨v, hv, rfl⟩ := evaluate_ok_iff.mp h
    cases v with
    | none => exact hv
    | some v =>
        have hv' : v.decision = .accepted := hd
        -- No gate that fires accepts.
        rcases gates_decide (mem_of_first_some hv) with h | h | h <;> simp [h] at hv'
  · intro h
    exact ⟨_, evaluate_of_first h, rfl⟩

/-- Without a batch result no batch gate is asked. -/
theorem gates_of_absent (hb : Dict.present batch = none) :
    gates interactive batch patchMetadata pack =
      interactiveGate interactive :: (patchGates pack patchMetadata).map .ok := by
  simp [gates, batchGates, hb]

/-- With a batch result there are its gates too. -/
theorem gates_of_present {b : Dict} (hb : Dict.present batch = some b) :
    gates interactive batch patchMetadata pack =
      interactiveGate interactive :: batchOkGate b :: axiomGate b ::
        .ok (trustCompilerGate pack b) ::
        .ok (trustGate pack b (normalizedFiles patchMetadata)) ::
        (patchGates pack patchMetadata).map .ok := by
  simp [gates, batchGates, hb]

/-- An evaluation that accepts, or asks for a reviewer, found no interactive
error, a lane that is ok and an audit without blocked reasons. -/
theorem evaluate_admits {b : Dict} (hb : Dict.present batch = some b)
    (h : evaluate interactive batch patchMetadata pack = .ok d)
    (hd : d.decision = .accepted ∨ d.decision = .needsReview) :
    interactiveGate interactive = .ok none ∧ batchOkGate b = .ok none ∧
      axiomGate b = .ok none := by
  obtain ⟨v, hv, rfl⟩ := evaluate_ok_iff.mp h
  rw [gates_of_present hb] at hv
  have refuse : ∀ w : Verdict, w.decision = .rejected ∨ w.decision = .blocked →
      v ≠ some w := by
    -- A verdict that refuses is not the decision that was admitted.
    rintro w hw rfl
    have hd' : w.decision = .accepted ∨ w.decision = .needsReview := hd
    rcases hw with hw | hw <;> simp [hw] at hd'
  rcases first_cons_ok hv with ⟨w, hw, rfl⟩ | ⟨hi, hv⟩
  · exact absurd rfl (refuse w (.inl (interactiveGate_refuses hw)))
  rcases first_cons_ok hv with ⟨w, hw, rfl⟩ | ⟨ho, hv⟩
  · exact absurd rfl (refuse w (.inl (batchOkGate_refuses hw)))
  rcases first_cons_ok hv with ⟨w, hw, rfl⟩ | ⟨ha, -⟩
  · exact absurd rfl (refuse w (.inr (axiomGate_refuses hw)))
  exact ⟨hi, ho, ha⟩

end Evaluate

/-! ## §6. What passes, as conditions on the evidence. -/

/-- No diagnostic is an error: there are none to look at, or every one of them is
a mapping of another severity. -/
def InteractivePasses (interactive : Option Dict) : Prop :=
  ∀ d, Dict.present interactive = some d → (d.getD "diagnostics" .null).truthy = true →
    ∃ ds, (d.getD "diagnostics" .null).pyIter = .ok ds ∧
      ∀ x ∈ ds, ∃ e : Dict, x = .obj e ∧ e.getD "severity" .null ≠ .str "error"

/-- The lane is ok, its audit blocks nothing, and the pack allows its trust. -/
structure BatchClear (pack : PolicyPack) (batch : Dict) : Prop where
  ok : (batch.getD "ok" (.bool false)).truthy = true
  audit : ∃ a : Dict, batch.getD "axiom_audit" (.obj []) = .obj a ∧
    (a.getD "blocked_reasons" (.arr [])).truthy = false
  compiler : trustLevelOf batch = .str "warning" → pack.allowTrustCompiler = true

/-- And none of the pack's trust gates asks for a reviewer. -/
structure BatchPasses (pack : PolicyPack) (files : List String) (batch : Dict) : Prop
    extends BatchClear pack batch where
  trustGates : ∀ tg ∈ pack.trustGates, trustGateFires batch files tg = false

/-- No rule of the pack applies to the patch. -/
structure PatchPasses (pack : PolicyPack) (patchMetadata : Dict) : Prop where
  trustDelta : (patchMetadata.getD "trust_delta" .null).truthy = true →
    pack.requireHumanOnTrustDelta = false
  pathRules : ∀ rule ∈ pack.pathRules, pathRuleFires (normalizedFiles patchMetadata) rule = false
  protectedPaths : (patchMetadata.getD "protected_paths_touched" .null).truthy = false
  imports : (patchMetadata.getD "imports_changed" .null).truthy = true →
    pack.requireHumanIfImportsChange = false

/-- Only a list of mappings without an `error` has no error-like elements. -/
theorem errorLike_nil_iff {ds : List Json} :
    errorLike ds = .ok [] ↔
      ∀ x ∈ ds, ∃ e : Dict, x = .obj e ∧ e.getD "severity" .null ≠ .str "error" := by
  induction ds with
  | nil => simp [errorLike]
  | cons d ds ih =>
      rw [List.forall_mem_cons, ← ih, errorLike]
      simp only [bind_eq_ok_iff, pure_eq_ok, Except.ok.injEq]
      constructor
      · intro h
        obtain ⟨severity, hs, rest, hr, hif⟩ := h
        split at hif
        · cases hif
        next hne =>
          subst hif
          refine ⟨?_, hr⟩
          -- `.get` answered, so the diagnostic is a mapping.
          cases d with
          | obj e =>
              obtain rfl : Dict.getD e "severity" .null = severity := Except.ok.inj hs
              exact ⟨e, rfl, hne⟩
          | _ => cases hs
      · intro h
        obtain ⟨⟨e, rfl, hne⟩, hr⟩ := h
        exact ⟨_, rfl, [], hr, by rw [if_neg hne]⟩

/-- The first gate passes what has no error. -/
theorem interactiveGate_pass_iff {interactive : Option Dict} :
    interactiveGate interactive = .ok none ↔ InteractivePasses interactive := by
  unfold interactiveGate InteractivePasses
  cases hp : Dict.present interactive with
  | none => simp
  | some d =>
      simp only [Option.some.injEq, forall_eq']
      cases ht : (d.getD "diagnostics" .null).truthy with
      | false => simp
      | true =>
          simp only [if_true, bind_eq_ok_iff, pure_eq_ok, Except.ok.injEq, forall_const]
          refine exists_congr fun ds => and_congr_right fun _ => ?_
          rw [← errorLike_nil_iff]
          constructor
          · intro h
            obtain ⟨errors, he, hif⟩ := h
            split at hif
            next hnil => exact hnil ▸ he
            · cases hif
          · intro he
            exact ⟨[], he, by simp⟩

/-- The gate of the batch passes what says it is fine. -/
theorem batchOkGate_pass_iff {batch : Dict} :
    batchOkGate batch = .ok none ↔ (batch.getD "ok" (.bool false)).truthy = true := by
  unfold batchOkGate
  constructor
  · intro h
    split at h
    next hok => exact hok
    · obtain ⟨build, -, h⟩ := bind_eq_ok_iff.mp h
      obtain ⟨fresh, -, h⟩ := bind_eq_ok_iff.mp h
      cases h
  · intro h
    rw [if_pos h]

/-- The gate of the audit passes an audit without reasons. -/
theorem axiomGate_pass_iff {batch : Dict} :
    axiomGate batch = .ok none ↔
      ∃ a : Dict, batch.getD "axiom_audit" (.obj []) = .obj a ∧
        (a.getD "blocked_reasons" (.arr [])).truthy = false := by
  unfold axiomGate
  constructor
  · intro h
    obtain ⟨blocked, hb, h⟩ := bind_eq_ok_iff.mp h
    split at h
    · obtain ⟨xs, -, h⟩ := bind_eq_ok_iff.mp h
      obtain ⟨reasons, -, h⟩ := bind_eq_ok_iff.mp h
      cases h
    next hfalse =>
      -- `.get` answered, so the audit is a mapping.
      cases ha : batch.getD "axiom_audit" (.obj []) with
      | obj a =>
          rw [ha] at hb
          obtain rfl : Dict.getD a "blocked_reasons" (.arr []) = blocked := Except.ok.inj hb
          exact ⟨a, rfl, by simpa using hfalse⟩
      | _ => simp [ha, Json.pyGetD] at hb
  · intro hyp
    obtain ⟨a, ha, hfalse⟩ := hyp
    rw [ha, Json.pyGetD_obj, ok_bind, hfalse]
    rfl

/-- The gates of the batch pass where there is none, or a clear one. -/
theorem batchGates_pass_iff {pack : PolicyPack} {files : List String} {batch : Option Dict} :
    (∀ g ∈ batchGates pack files batch, g = .ok none) ↔
      ∀ b, Dict.present batch = some b → BatchPasses pack files b := by
  unfold batchGates
  cases hp : Dict.present batch with
  | none => simp
  | some b =>
      simp only [List.mem_cons, List.not_mem_nil, or_false, forall_eq_or_imp, forall_eq,
        batchOkGate_pass_iff, axiomGate_pass_iff, Except.ok.injEq, Option.some.injEq,
        forall_eq']
      -- The two gates that cannot raise, as conditions.
      have hc : trustCompilerGate pack b = none ↔
          (trustLevelOf b = .str "warning" → pack.allowTrustCompiler = true) := by
        simp [trustCompilerGate]
      have hg : trustGate pack b files = none ↔
          ∀ tg ∈ pack.trustGates, trustGateFires b files tg = false := by
        simp [trustGate]
      rw [hc, hg]
      exact ⟨fun ⟨h1, h2, h3, h4⟩ => ⟨⟨h1, h2, h3⟩, h4⟩, fun ⟨⟨h1, h2, h3⟩, h4⟩ => ⟨h1, h2, h3, h4⟩⟩

/-- The gates on the patch pass together. -/
theorem patchGates_pass_iff {pack : PolicyPack} {patchMetadata : Dict} :
    (∀ g ∈ patchGates pack patchMetadata, g = none) ↔ PatchPasses pack patchMetadata := by
  have hiff : (∀ g ∈ patchGates pack patchMetadata, g = none) ↔
      ((patchMetadata.getD "trust_delta" .null).truthy = true →
          pack.requireHumanOnTrustDelta = false) ∧
        (∀ rule ∈ pack.pathRules, pathRuleFires (normalizedFiles patchMetadata) rule = false) ∧
        (patchMetadata.getD "protected_paths_touched" .null).truthy = false ∧
        ((patchMetadata.getD "imports_changed" .null).truthy = true →
          pack.requireHumanIfImportsChange = false) := by
    simp [patchGates, trustDeltaGate, pathRuleGate, protectedGate, importsGate]
  rw [hiff]
  exact ⟨fun ⟨h1, h2, h3, h4⟩ => ⟨h1, h2, h3, h4⟩, fun ⟨h1, h2, h3, h4⟩ => ⟨h1, h2, h3, h4⟩⟩

/-- **Acceptance, as a condition on the inputs**: the diagnostics pass, a batch
result that is there passes, and the patch passes. -/
theorem evaluate_accepts_iff (interactive batch : Option Dict) (patchMetadata : Dict)
    (pack : PolicyPack) :
    (∃ d, evaluate interactive batch patchMetadata pack = .ok d ∧ d.decision = .accepted) ↔
      InteractivePasses interactive ∧
        (∀ b, Dict.present batch = some b →
          BatchPasses pack (normalizedFiles patchMetadata) b) ∧
        PatchPasses pack patchMetadata := by
  rw [evaluate_accepted_iff, ← interactiveGate_pass_iff, ← batchGates_pass_iff,
    ← patchGates_pass_iff]
  simp only [gates, List.mem_cons, List.mem_append, List.mem_map, forall_eq_or_imp]
  refine and_congr_right fun _ => ⟨fun h => ⟨fun g hg => h g (.inl hg), fun g hg => ?_⟩, ?_⟩
  · exact Except.ok.inj (h _ (.inr ⟨g, hg, rfl⟩))
  · rintro ⟨hb, hp⟩ g (hg | ⟨g, hg, rfl⟩)
    -- A gate of the batch result, then one of the patch.
    · exact hb g hg
    · rw [hp g hg]

/-! ## §7. The gateway's own records. -/

/-- The diagnostics of severity `error`. -/
def errorDiagnostics (ds : List Diagnostic) : List Diagnostic :=
  ds.filter fun d => decide (d.severity = .error)

/-- Of dumped diagnostics the errors are found. -/
theorem errorLike_dump (ds : List Diagnostic) :
    errorLike (ds.map Diagnostic.codec.dump) =
      .ok ((errorDiagnostics ds).map Diagnostic.codec.dump) := by
  induction ds with
  | nil => rfl
  | cons d ds ih =>
      have hs : (Json.obj d.dump).pyGet "severity" = .ok (.str d.severity.text) := by
        simp [Diagnostic.dump, Dict.getD]
      simp only [List.map_cons, errorLike, Diagnostic.codec_dump, hs, ih, ok_bind, pure_eq_ok]
      cases hd : d.severity <;> simp [errorDiagnostics, Severity.text, hd]

/-- On a dumped response the interactive gate looks for error diagnostics. -/
theorem interactiveGate_dump (r : InteractiveCheckApiResponse) :
    interactiveGate (some r.dump) =
      .ok (if errorDiagnostics r.diagnostics = [] then none else some
        ⟨.rejected, .blocked, ["interactive_errors_present"], "interactive_errors", .rejected,
          "interactive_errors_present"⟩) := by
  have hd : Dict.getD r.dump "diagnostics" .null =
      .arr (r.diagnostics.map Diagnostic.codec.dump) := by
    simp [InteractiveCheckApiResponse.dump, InteractiveCheckResult.dump, VersionedRecord.dump,
      Dict.getD, Codec.list]
  have hp : Dict.present (some r.dump) = some r.dump := Dict.present_of_ne (by
    simp [InteractiveCheckApiResponse.dump, InteractiveCheckResult.dump])
  rw [interactiveGate, hp]
  simp only [hd, Json.truthy_arr, Json.pyIter_arr, ok_bind, errorLike_dump, pure_eq_ok]
  by_cases hn : r.diagnostics = []
  · simp [hn, errorDiagnostics]
  · simp [hn]

/-- On a dumped batch result the first batch gate looks at `ok`. -/
theorem batchOkGate_dump (r : BatchVerifyResult) :
    batchOkGate r.dump =
      .ok (if r.ok then none else some
        ⟨.rejected, .blocked,
          ["batch_verify_failed"] ++ (if r.build.ok then [] else ["lake_build_failed"]) ++
            (if r.freshChecker.ok then [] else ["fresh_checker_failed"]),
          "batch_verify", .rejected, "batch_verify_failed"⟩) := by
  cases hr : r.ok with
  | true => simp [batchOkGate, BatchVerifyResult.dump, VersionedRecord.dump, Dict.getD, hr]
  | false =>
      simp [batchOkGate, okIsFalse, BatchVerifyResult.dump, CommandResult.dump,
        VersionedRecord.dump, Dict.getD, hr]
      cases r.build.ok <;> cases r.freshChecker.ok <;> rfl

/-- On a dumped batch result the audit gate looks at the blocked reasons. -/
theorem axiomGate_dump (r : BatchVerifyResult) :
    axiomGate r.dump =
      .ok (if r.axiomAudit.blockedReasons = [] then none else some
        ⟨.blocked, .blocked, r.axiomAudit.blockedReasons, "axiom_audit", .blocked,
          "axiom_blocked"⟩) := by
  have hg : (Dict.getD r.dump "axiom_audit" (.obj [])).pyGetD "blocked_reasons" (.arr []) =
      .ok (strList.dump r.axiomAudit.blockedReasons) := by
    simp [BatchVerifyResult.dump, AxiomAuditResult.dump, VersionedRecord.dump, Dict.getD]
  rw [axiomGate, hg]
  by_cases hb : r.axiomAudit.blockedReasons = []
  · simp [hb, Codec.list]
  · have hv := strList.validate_dump r.axiomAudit.blockedReasons
    simp only [Codec.list] at hv ⊢
    simp [hb, hv]

/-- The trust of a dumped result is its trust level. -/
@[simp] theorem trustLevelOf_dump (r : BatchVerifyResult) :
    trustLevelOf r.dump = .str r.trustLevel.text := by
  simp [trustLevelOf, BatchVerifyResult.dump, VersionedRecord.dump, Dict.getD]

/-- On a dumped batch result a trust gate compares the trust level. -/
theorem trustGateFires_dump {r : BatchVerifyResult} {files : List String} {tg : TrustGateRule} :
    trustGateFires r.dump files tg = true ↔
      r.trustLevel ∈ tg.whenTrustLevel ∧ trustGatePaths files tg = true ∧
        tg.requireHuman = true := by
  have hmem : (∃ t ∈ tg.whenTrustLevel, t.text = r.trustLevel.text) ↔
      r.trustLevel ∈ tg.whenTrustLevel := by
    constructor
    · intro hyp
      obtain ⟨t, ht, htext⟩ := hyp
      exact TrustLevel.text_injective htext ▸ ht
    · exact fun h => ⟨_, h, rfl⟩
  simp only [trustGateFires, trustLevelOf_dump, Json.str.injEq, Bool.and_eq_true,
    List.any_eq_true, decide_eq_true_eq, hmem, and_assoc]

/-- The first gate passes a dumped check without errors. -/
theorem interactiveGate_dump_pass {r : InteractiveCheckApiResponse} :
    interactiveGate (some r.dump) = .ok none ↔ errorDiagnostics r.diagnostics = [] := by
  rw [interactiveGate_dump]
  split <;> simp [*]

/-- The gate of the batch passes a dumped result that is fine. -/
theorem batchOkGate_dump_pass {r : BatchVerifyResult} :
    batchOkGate r.dump = .ok none ↔ r.ok = true := by
  rw [batchOkGate_dump]
  split <;> simp [*]

/-- The gate of the audit passes a dumped result whose audit has no reasons. -/
theorem axiomGate_dump_pass {r : BatchVerifyResult} :
    axiomGate r.dump = .ok none ↔ r.axiomAudit.blockedReasons = [] := by
  rw [axiomGate_dump]
  split <;> simp [*]

/-- A dumped result is never an empty mapping. -/
theorem batch_dump_present (r : BatchVerifyResult) :
    Dict.present (some r.dump) = some r.dump :=
  Dict.present_of_ne (by simp [BatchVerifyResult.dump])

end PolicyEngine

end ObligationRuntime
