/-
  ObligationRuntime.Policy.PatchRules — what of an evaluation looks at the patch.

  The engine's gates fall in two: those that read the evidence, and those that
  read the patch.  The second are rules of one kind: each looks at a summary of
  the patch and, if it fires, asks for a reviewer.  The summary holds the keys of
  the patch as TEXT.

  Main results:
    * `evidenceGates_pass_iff` — when the evidence leaves the decision open,
    * `evaluate_eq_of_clear` — then the first rule that fires is the decision,
    * `evaluate_eq_of_unclear` — else the patch does not matter,
    * `evaluate_eq_iff` — when two patches get the same decision,
    * `evaluate_unread` — what of a pack an evaluation does not look at.
-/
import ObligationRuntime.Policy.Engine
import ObligationRuntime.Policy.PatchMetadata

namespace ObligationRuntime

open Py EarlyReturn

namespace PolicyEngine

/-! ## §1. The summary, as the engine reads it. -/

/-- The changed files as the rules see them. -/
def ruleFiles (s : PatchSummary) : List String := s.changedFiles.map (replaceChar '\\' '/')

section Metadata

variable (s : PatchSummary)

/-- No summary knows of a change of trust. -/
@[simp] theorem metadata_trustDelta : Dict.getD s.metadata "trust_delta" .null = .null := rfl

/-- The metadata says which protected paths were touched, -/
@[simp] theorem metadata_protected :
    Dict.getD s.metadata "protected_paths_touched" .null =
      strList.dump s.protectedPathsTouched := rfl

/-- and whether imports changed. -/
@[simp] theorem metadata_imports :
    Dict.getD s.metadata "imports_changed" .null = .bool s.importsChanged := rfl

/-- The files the rules look at. -/
@[simp] theorem normalizedFiles_metadata : normalizedFiles s.metadata = ruleFiles s := by
  have h : Dict.getD s.metadata "changed_files" .null = .arr (s.changedFiles.map Json.str) := rfl
  simp only [normalizedFiles, h, ruleFiles, List.filterMap_map]
  exact List.filterMap_eq_map.symm ▸ rfl

end Metadata

/-! ## §2. The gates that read the evidence. -/

/-- The gates that do not look at the patch. -/
def evidenceGates (pack : PolicyPack) (interactive batch : Option Dict) :
    List (Except PyError (Option Verdict)) :=
  interactiveGate interactive ::
    match Dict.present batch with
    | none => []
    | some b => [batchOkGate b, axiomGate b, .ok (trustCompilerGate pack b)]

/-- The evidence gives no reason to stop. -/
structure EvidenceClear (pack : PolicyPack) (interactive batch : Option Dict) : Prop where
  interactive : InteractivePasses interactive
  batch : ∀ b, Dict.present batch = some b → BatchClear pack b

/-- The gates on the evidence pass together. -/
theorem evidenceGates_pass_iff {pack : PolicyPack} {interactive batch : Option Dict} :
    first (evidenceGates pack interactive batch) = .ok none ↔
      EvidenceClear pack interactive batch := by
  rw [first_none_iff]
  unfold evidenceGates
  have hc : ∀ b, trustCompilerGate pack b = none ↔
      (trustLevelOf b = .str "warning" → pack.allowTrustCompiler = true) := by
    intro b
    simp [trustCompilerGate]
  cases hp : Dict.present batch with
  | none =>
      simp only [List.mem_singleton, forall_eq, interactiveGate_pass_iff]
      exact ⟨fun h => ⟨h, by simp [hp]⟩, fun h => h.interactive⟩
  | some b =>
      simp only [List.mem_cons, List.not_mem_nil, or_false, forall_eq_or_imp, forall_eq,
        interactiveGate_pass_iff, batchOkGate_pass_iff, axiomGate_pass_iff, Except.ok.injEq, hc]
      constructor
      · intro hyp
        obtain ⟨hi, ho, ha, ht⟩ := hyp
        refine ⟨hi, fun b' hb' => ?_⟩
        -- There is only one batch result.
        obtain rfl : b = b' := by simpa [hp] using hb'
        exact ⟨ho, ha, ht⟩
      · intro h
        obtain ⟨ho, ha, ht⟩ := h.batch b hp
        exact ⟨h.interactive, ho, ha, ht⟩

/-! ## §3. The rules that read the patch. -/

/-- A rule about patches: when it fires, and what it then says. -/
structure PatchRule where
  ruleId : String
  reason : String
  fires : PatchSummary → Bool

/-- What a rule that fires decides. -/
def PatchRule.verdict (r : PatchRule) : Verdict := review .clean r.ruleId r.reason

/-- What a rule says, without when. -/
def PatchRule.says (r : PatchRule) : String × String := (r.ruleId, r.reason)

/-- A trust gate of the pack, for one batch result. -/
def trustRuleOf (batch : Dict) (tg : TrustGateRule) : PatchRule :=
  ⟨tg.ruleId, tg.reasonCode, fun s => trustGateFires batch (ruleFiles s) tg⟩

/-- A path rule of the pack. -/
def pathRuleOf (rule : PathRule) : PatchRule :=
  ⟨"path_rule:" ++ rule.glob, rule.reasonCode, fun s => pathRuleFires (ruleFiles s) rule⟩

/-- The protected paths. -/
def protectedRule : PatchRule :=
  ⟨"protected_paths", "protected_path_touched", fun s => !s.protectedPathsTouched.isEmpty⟩

/-- The imports, where the pack wants a reviewer for them. -/
def importsRule (pack : PolicyPack) : PatchRule :=
  ⟨"imports_changed", "imports_changed_requires_review",
    fun s => s.importsChanged && pack.requireHumanIfImportsChange⟩

/-- The rules of the trust gates, asked only of a batch result. -/
def trustRules (pack : PolicyPack) (batch : Option Dict) : List PatchRule :=
  match Dict.present batch with
  | none => []
  | some b => pack.trustGates.map (trustRuleOf b)

/-- The rules in the order of the engine. -/
def patchRules (pack : PolicyPack) (batch : Option Dict) : List PatchRule :=
  trustRules pack batch ++ (pack.pathRules.map pathRuleOf ++ [protectedRule, importsRule pack])

/-- The rule that stops a patch: the first that fires. -/
def stoppingRule (pack : PolicyPack) (batch : Option Dict) (s : PatchSummary) :
    Option PatchRule :=
  (patchRules pack batch).find? fun r => r.fires s

/-- No rule stops a patch where none fires. -/
theorem stoppingRule_eq_none {pack : PolicyPack} {batch : Option Dict} {s : PatchSummary} :
    stoppingRule pack batch s = none ↔ ∀ r ∈ patchRules pack batch, r.fires s = false := by
  simp [stoppingRule]

/-- The verdict of the first rule of a family that fires. -/
theorem find_verdict {α : Type} (xs : List α) (rule : α → PatchRule) (s : PatchSummary) :
    ((xs.map rule).find? fun r => r.fires s).map PatchRule.verdict =
      (xs.find? fun x => (rule x).fires s).map fun x => (rule x).verdict := by
  simp [List.find?_map, Function.comp_def]

/-- The gate on trust, where there is a batch result to ask it of. -/
def trustGates (pack : PolicyPack) (files : List String) (batch : Option Dict) :
    List (Option Verdict) :=
  match Dict.present batch with
  | none => []
  | some b => [trustGate pack b files]

/-- The patch gates are the rules, asked in order. -/
theorem findSome_patchGates (pack : PolicyPack) (batch : Option Dict) (s : PatchSummary) :
    (trustGates pack (ruleFiles s) batch ++ patchGates pack s.metadata).findSome? id =
      (stoppingRule pack batch s).map PatchRule.verdict := by
  have hlast : ([protectedGate s.metadata, importsGate pack s.metadata].findSome? id) =
      ([protectedRule, importsRule pack].find? fun r => r.fires s).map PatchRule.verdict := by
    cases ht : s.protectedPathsTouched <;> cases hi : s.importsChanged <;>
      cases hp : pack.requireHumanIfImportsChange <;>
      simp [protectedGate, importsGate, protectedRule, importsRule, Codec.list, ht, hi, hp,
        PatchRule.verdict]
  have hpath : pathRuleGate pack (ruleFiles s) =
      ((pack.pathRules.map pathRuleOf).find? fun r => r.fires s).map PatchRule.verdict :=
    (find_verdict pack.pathRules pathRuleOf s).symm
  have htrust : (trustGates pack (ruleFiles s) batch).findSome? id =
      ((trustRules pack batch).find? fun r => r.fires s).map PatchRule.verdict := by
    unfold trustGates trustRules
    cases Dict.present batch with
    | none => rfl
    | some b =>
        rw [find_verdict]
        simp [trustGate, trustRuleOf, PatchRule.verdict]
  -- No summary has a `trust_delta`, so this gate never fires here.
  have hdelta : trustDeltaGate pack s.metadata = none := by simp [trustDeltaGate]
  have hgates : (patchGates pack s.metadata).findSome? id =
      (pathRuleGate pack (ruleFiles s)).or
        ([protectedGate s.metadata, importsGate pack s.metadata].findSome? id) := by
    rw [patchGates, hdelta, normalizedFiles_metadata]
    cases pathRuleGate pack (ruleFiles s) <;> rfl
  simp only [stoppingRule, patchRules, List.find?_append, Option.map_or, List.findSome?_append,
    hgates, htrust, hpath, hlast]

/-! ## §4. Evidence first, then the patch. -/

section Evaluate

variable {interactive batch : Option Dict} {pack : PolicyPack} {s : PatchSummary}

/-- The gates, in the two parts. -/
theorem first_gates (interactive batch : Option Dict) (pack : PolicyPack) (s : PatchSummary) :
    first (gates interactive batch s.metadata pack) =
      first (evidenceGates pack interactive batch ++
        (trustGates pack (ruleFiles s) batch ++ patchGates pack s.metadata).map .ok) := by
  unfold gates batchGates evidenceGates trustGates
  rw [normalizedFiles_metadata]
  cases Dict.present batch <;> rfl

/-- **Clear evidence**: the first rule that fires decides, or nothing stops the
patch. -/
theorem evaluate_eq_of_clear (h : EvidenceClear pack interactive batch) :
    evaluate interactive batch s.metadata pack =
      .ok (decisionOf pack
        (((stoppingRule pack batch s).map PatchRule.verdict).getD acceptance)) := by
  refine evaluate_of_first ?_
  rw [first_gates, first_append, evidenceGates_pass_iff.mpr h, ok_bind, first_map_ok,
    findSome_patchGates]

/-- **Unclear evidence**: whatever the patch, the same answer, and no acceptance. -/
theorem evaluate_eq_of_unclear (h : ¬ EvidenceClear pack interactive batch) :
    (∀ s' : PatchSummary, evaluate interactive batch s.metadata pack =
      evaluate interactive batch s'.metadata pack) ∧
    ∀ d, evaluate interactive batch s.metadata pack = .ok d → d.decision ≠ .accepted := by
  -- The evidence alone settles the sequence, in the same way for every patch.
  have hfirst : ∃ r, ∀ s' : PatchSummary,
      first (gates interactive batch s'.metadata pack) = r ∧ r ≠ .ok none := by
    cases he : first (evidenceGates pack interactive batch) with
    | error e => exact ⟨.error e, fun s' => ⟨by rw [first_gates, first_append, he]; rfl, by simp⟩⟩
    | ok v =>
        cases v with
        | none => exact absurd (evidenceGates_pass_iff.mp he) h
        | some v =>
            exact ⟨.ok (some v), fun s' => ⟨by rw [first_gates, first_append, he]; rfl, by simp⟩⟩
  obtain ⟨r, hr⟩ := hfirst
  refine ⟨fun s' => by simp only [evaluate, (hr s).1, (hr s').1], fun d hd hacc => (hr s).2 ?_⟩
  rw [← (hr s).1]
  exact first_none_iff.mpr (evaluate_accepted_iff.mp ⟨d, hd, hacc⟩)

/-- Acceptance, of a summary: clear evidence and no rule that fires. -/
theorem evaluate_accepts_summary_iff :
    (∃ d, evaluate interactive batch s.metadata pack = .ok d ∧ d.decision = .accepted) ↔
      EvidenceClear pack interactive batch ∧ ∀ r ∈ patchRules pack batch, r.fires s = false := by
  rw [← stoppingRule_eq_none]
  by_cases h : EvidenceClear pack interactive batch
  · simp only [evaluate_eq_of_clear h, Except.ok.injEq, exists_eq_left', h, true_and]
    -- A rule that fires asks for a reviewer; none of them is an acceptance.
    cases stoppingRule pack batch s with
    | none => simp [decisionOf, acceptance]
    | some r => simp [decisionOf, PatchRule.verdict, review]
  · constructor
    · intro hyp
      obtain ⟨d, hd, hacc⟩ := hyp
      exact absurd hacc ((evaluate_eq_of_unclear h).2 d hd)
    · intro hyp
      obtain ⟨hclear, -⟩ := hyp
      exact absurd hclear h

/-- Two patches get one decision, on clear evidence, exactly when the rules that
stop them say the same. -/
theorem evaluate_eq_iff (h : EvidenceClear pack interactive batch) {s s' : PatchSummary} :
    evaluate interactive batch s.metadata pack = evaluate interactive batch s'.metadata pack ↔
      (stoppingRule pack batch s).map PatchRule.says =
        (stoppingRule pack batch s').map PatchRule.says := by
  rw [evaluate_eq_of_clear h, evaluate_eq_of_clear h, Except.ok.injEq]
  cases stoppingRule pack batch s <;> cases stoppingRule pack batch s' <;>
    simp [decisionOf, acceptance, PatchRule.verdict, PatchRule.says, review, and_comm]

/-- A pack with other values where the engine does not look. -/
def withUnread (pack : PolicyPack) (protectedPaths : List String)
    (blockSorryAx blockUnexpectedCustomAxioms : Bool) : PolicyPack :=
  { pack with protectedPaths, blockSorryAx, blockUnexpectedCustomAxioms }

/-- **What the engine does not read**: the pack's own protected paths, and its two
flags about axioms. -/
theorem evaluate_unread (patchMetadata : Dict) (protectedPaths : List String)
    (blockSorryAx blockUnexpectedCustomAxioms : Bool) :
    evaluate interactive batch patchMetadata
        (withUnread pack protectedPaths blockSorryAx blockUnexpectedCustomAxioms) =
      evaluate interactive batch patchMetadata pack :=
  rfl

end Evaluate

end PolicyEngine

end ObligationRuntime
