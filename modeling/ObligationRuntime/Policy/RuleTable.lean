/-
  ObligationRuntime.Policy.RuleTable — the policy engine as a table of rules.

  The engine is a cascade of gates over dictionaries.  Here its input is typed: the
  records of the schemas, and a patch.  A rule says when it fires and what it then
  decides; the table lists the rules of a pack in the order of the engine, the last
  one always fires, and the first that fires is the decision.

  What is decided does not depend on the order within a kind of rule: a rejection goes
  before a block, a block before a review, a review before an acceptance.

  Main results:
    * `evaluate_eq_table` — the engine answers with the first rule that fires,
    * `policy_table` — the decision, by the kinds of rules that fire.
-/
import ObligationRuntime.Policy.PatchRules

namespace ObligationRuntime

open Py EarlyReturn

namespace PolicyEngine

/-! ## §1. Typed evidence. -/

/-- An interactive result: of the lane, or of the API. -/
inductive InteractiveRecord where
  | lane (r : InteractiveCheckResult)
  | api (r : InteractiveCheckApiResponse)

namespace InteractiveRecord

/-- `model_dump`. -/
def dump : InteractiveRecord → Dict
  | .lane r => r.dump
  | .api r => r.dump

/-- The diagnostics. -/
def diagnostics : InteractiveRecord → List Diagnostic
  | .lane r => r.diagnostics
  | .api r => r.diagnostics

/-- The dumped check has its diagnostics, -/
@[simp] theorem dump_diagnostics (r : InteractiveRecord) :
    Dict.getD r.dump "diagnostics" .null = .arr (r.diagnostics.map Diagnostic.codec.dump) := by
  cases r <;> simp [dump, diagnostics, InteractiveCheckApiResponse.dump,
    InteractiveCheckResult.dump, VersionedRecord.dump, Dict.getD, Codec.list]

/-- and is no empty mapping. -/
theorem dump_present (r : InteractiveRecord) : Dict.present (some r.dump) = some r.dump := by
  cases r <;> exact Dict.present_of_ne (by
    simp [dump, InteractiveCheckApiResponse.dump, InteractiveCheckResult.dump])

end InteractiveRecord

/-- What a caller says of a patch; it may leave anything out. -/
structure PatchMetadata where
  changedFiles : Option (List String) := none
  trustDelta : Option Json := none
  protectedPathsTouched : Option (List String) := none
  importsChanged : Option Bool := none

namespace PatchMetadata

/-- An entry that may be left out. -/
def entry {α : Type} (key : String) (dump : α → Json) (v : Option α) : Dict :=
  match v with
  | none => []
  | some v => [(key, dump v)]

/-- The dictionary. -/
def dump (p : PatchMetadata) : Dict :=
  entry "protected_paths_touched" strList.dump p.protectedPathsTouched ++
    entry "imports_changed" Json.bool p.importsChanged ++
    entry "changed_files" strList.dump p.changedFiles ++ entry "trust_delta" id p.trustDelta

/-- The changed files, with forward slashes. -/
def files (p : PatchMetadata) : List String :=
  (p.changedFiles.getD []).map (replaceChar '\\' '/')

/-- What the engine reads of the dumped metadata. -/
theorem getD_dump (p : PatchMetadata) :
    Dict.getD p.dump "changed_files" .null = (p.changedFiles.map strList.dump).getD .null ∧
      Dict.getD p.dump "trust_delta" .null = p.trustDelta.getD .null ∧
      Dict.getD p.dump "protected_paths_touched" .null =
        (p.protectedPathsTouched.map strList.dump).getD .null ∧
      Dict.getD p.dump "imports_changed" .null = (p.importsChanged.map Json.bool).getD .null := by
  obtain ⟨c, t, q, i⟩ := p
  cases c <;> cases t <;> cases q <;> cases i <;> exact ⟨rfl, rfl, rfl, rfl⟩

/-- The files it normalises. -/
@[simp] theorem normalizedFiles_dump (p : PatchMetadata) : normalizedFiles p.dump = p.files := by
  unfold normalizedFiles
  rw [p.getD_dump.1]
  cases h : p.changedFiles with
  | none => simp [files, h]
  | some xs =>
      simp only [files, h, Option.map_some, Option.getD_some, Codec.list, List.filterMap_map]
      exact List.filterMap_eq_map.symm ▸ rfl

/-- What `policy_review` says of a patch: nothing of trust. -/
def ofSummary (s : PatchSummary) : PatchMetadata where
  changedFiles := some s.changedFiles
  protectedPathsTouched := some s.protectedPathsTouched
  importsChanged := some s.importsChanged

/-- The metadata of a summary is what the graph makes of it. -/
theorem dump_ofSummary (s : PatchSummary) : (ofSummary s).dump = s.metadata := rfl

end PatchMetadata

/-- What the engine is asked about. -/
structure Evidence where
  interactive : Option InteractiveRecord
  batch : Option BatchVerifyResult
  patch : PatchMetadata

/-- `evaluate`, on the dumps of typed evidence. -/
def Evidence.evaluate (e : Evidence) (pack : PolicyPack) : Except PyError PolicyDecision :=
  PolicyEngine.evaluate (e.interactive.map InteractiveRecord.dump)
    (e.batch.map BatchVerifyResult.dump) e.patch.dump pack

/-! ## §2. The table. -/

/-- A rule: when it fires, and what it then decides. -/
structure Rule where
  fires : Bool
  verdict : Verdict

/-- What a rule says when it is asked. -/
def Rule.ask (r : Rule) : Option Verdict := if r.fires then some r.verdict else none

namespace Evidence

variable (e : Evidence) (pack : PolicyPack) (b : BatchVerifyResult)

/-- A diagnostic is an error. -/
def interactiveRule : Rule where
  fires := (e.interactive.map InteractiveRecord.diagnostics).any fun ds =>
    ds.any fun d => decide (d.severity = .error)
  verdict := ⟨.rejected, .blocked, ["interactive_errors_present"], "interactive_errors",
    .rejected, "interactive_errors_present"⟩

/-- The lane is not ok. -/
def batchVerifyRule : Rule where
  fires := !b.ok
  verdict := ⟨.rejected, .blocked,
    ["batch_verify_failed"] ++ (if b.build.ok then [] else ["lake_build_failed"]) ++
      (if b.freshChecker.ok then [] else ["fresh_checker_failed"]),
    "batch_verify", .rejected, "batch_verify_failed"⟩

/-- The audit blocks. -/
def axiomAuditRule : Rule where
  fires := !b.axiomAudit.blockedReasons.isEmpty
  verdict := ⟨.blocked, .blocked, b.axiomAudit.blockedReasons, "axiom_audit", .blocked,
    "axiom_blocked"⟩

/-- A trusted compiler, where the pack does not allow one. -/
def trustCompilerRule : Rule where
  fires := decide (b.trustLevel = .warning) && !pack.allowTrustCompiler
  verdict := review .warning "trust_compiler" "trust_compiler_detected"

/-- A gate on trust: it lists the level of the batch result, and the patch falls under it. -/
def trustGateRule (tg : TrustGateRule) : Rule where
  fires := decide (b.trustLevel ∈ tg.whenTrustLevel) && trustGatePaths e.patch.files tg &&
    tg.requireHuman
  verdict := review .clean tg.ruleId tg.reasonCode

/-- A change of trust. -/
def trustDeltaRule : Rule where
  fires := (e.patch.trustDelta.getD .null).truthy && pack.requireHumanOnTrustDelta
  verdict := review .clean "trust_delta" "trust_delta_requires_review"

/-- A path rule. -/
def pathRule (rule : PathRule) : Rule where
  fires := pathRuleFires e.patch.files rule
  verdict := review .clean ("path_rule:" ++ rule.glob) rule.reasonCode

/-- The protected paths. -/
def protectedPathsRule : Rule where
  fires := !(e.patch.protectedPathsTouched.getD []).isEmpty
  verdict := review .clean "protected_paths" "protected_path_touched"

/-- The imports. -/
def importsChangedRule : Rule where
  fires := e.patch.importsChanged.getD false && pack.requireHumanIfImportsChange
  verdict := review .clean "imports_changed" "imports_changed_requires_review"

/-- The patch is accepted. -/
def acceptRule : Rule where
  fires := true
  verdict := acceptance

/-- The rules of the batch result. -/
def batchRules : List (List Rule) :=
  match e.batch with
  | none => []
  | some b => [[batchVerifyRule b], [axiomAuditRule b], [trustCompilerRule pack b],
      pack.trustGates.map (e.trustGateRule b)]

/-- The rules of the patch. -/
def patchRules : List (List Rule) :=
  [[e.trustDeltaRule pack], pack.pathRules.map e.pathRule, [e.protectedPathsRule],
    [e.importsChangedRule pack]]

/-- The rules that may stop a patch, family by family. -/
def stopRules : List (List Rule) := [e.interactiveRule] :: (e.batchRules pack ++ e.patchRules pack)

/-- **The table**, in the order of the engine: the last rule accepts, and always fires. -/
def table : List Rule := (e.stopRules pack).flatten ++ [acceptRule]

end Evidence

/-! ## §3. The engine asks the table. -/

/-- The first rule that fires, asked one by one. -/
theorem find_ask (rs : List Rule) :
    (rs.find? Rule.fires).map Rule.verdict = rs.findSome? Rule.ask := by
  induction rs with
  | nil => rfl
  | cons r rs ih =>
      by_cases h : r.fires = true
      · simp [Rule.ask, h]
      · simp [Rule.ask, h, ih]

/-- The first element of a family that fires. -/
theorem find_family {α : Type} (xs : List α) (rule : α → Rule) :
    (xs.find? fun x => (rule x).fires).map (fun x => (rule x).verdict) =
      (xs.map rule).findSome? Rule.ask := by
  rw [← find_ask, List.find?_map, Option.map_map]
  rfl

/-- Gates that are families of rules, asked in order. -/
theorem findSome_families (fams : List (List Rule)) :
    (fams.map fun rs => rs.findSome? Rule.ask).findSome? id = fams.flatten.findSome? Rule.ask := by
  induction fams with
  | nil => rfl
  | cons rs fams ih =>
      rw [List.map_cons, List.flatten_cons, List.findSome?_append, ← ih]
      cases rs.findSome? Rule.ask <;> rfl

/-- A gate that is one rule. -/
theorem ask_singleton (r : Rule) : [r].findSome? Rule.ask = r.ask := by
  cases h : r.ask <;> simp [List.findSome?, h]

/-- There is an error where the list of errors is not empty. -/
theorem any_error (ds : List Diagnostic) :
    (ds.any fun d => decide (d.severity = .error)) = !(errorDiagnostics ds).isEmpty := by
  induction ds with
  | nil => rfl
  | cons d ds ih =>
      by_cases hd : d.severity = .error
      · simp [errorDiagnostics, hd]
      · simpa [errorDiagnostics, hd] using ih

section Gates

variable (e : Evidence) (pack : PolicyPack) (b : BatchVerifyResult)

/-- Each gate of the engine asks its rules: the diagnostics, -/
theorem interactiveGate_rule :
    interactiveGate (e.interactive.map InteractiveRecord.dump) = .ok e.interactiveRule.ask := by
  cases h : e.interactive with
  | none => simp [interactiveGate, Evidence.interactiveRule, Rule.ask, h]
  | some r =>
      rw [Option.map_some, interactiveGate, r.dump_present]
      simp only [r.dump_diagnostics, Json.truthy_arr, Json.pyIter_arr, errorLike_dump, ok_bind,
        pure_eq_ok, Option.map_some, Option.any_some, any_error, Rule.ask,
        Evidence.interactiveRule, h]
      by_cases hnil : r.diagnostics = []
      · simp [hnil, errorDiagnostics]
      · by_cases herr : errorDiagnostics r.diagnostics = []
        · simp [hnil, herr]
        · simp [hnil, herr]

/-- the batch, -/
theorem batchOkGate_rule : batchOkGate b.dump = .ok (Evidence.batchVerifyRule b).ask := by
  rw [batchOkGate_dump]
  cases hb : b.ok <;> simp [Rule.ask, Evidence.batchVerifyRule, hb]

/-- the audit, -/
theorem axiomGate_rule : axiomGate b.dump = .ok (Evidence.axiomAuditRule b).ask := by
  rw [axiomGate_dump]
  cases hb : b.axiomAudit.blockedReasons <;> simp [Rule.ask, Evidence.axiomAuditRule, hb]

/-- the trusted compiler, -/
theorem trustCompilerGate_rule :
    trustCompilerGate pack b.dump = (Evidence.trustCompilerRule pack b).ask := by
  cases ht : b.trustLevel <;> cases ha : pack.allowTrustCompiler <;>
    simp [trustCompilerGate, Rule.ask, Evidence.trustCompilerRule, ht, ha, TrustLevel.text]

/-- the trust gates, -/
theorem trustGate_rules :
    trustGate pack b.dump e.patch.files =
      (pack.trustGates.map (e.trustGateRule b)).findSome? Rule.ask := by
  have hfires : trustGateFires b.dump e.patch.files = fun tg => (e.trustGateRule b tg).fires := by
    funext tg
    rw [Bool.eq_iff_iff, trustGateFires_dump]
    simp [Evidence.trustGateRule, and_assoc]
  rw [trustGate, hfires]
  exact find_family pack.trustGates (e.trustGateRule b)

/-- the change of trust, -/
theorem trustDeltaGate_rule : trustDeltaGate pack e.patch.dump = (e.trustDeltaRule pack).ask := by
  simp [trustDeltaGate, Rule.ask, Evidence.trustDeltaRule, e.patch.getD_dump.2.1]

/-- the path rules, -/
theorem pathRuleGate_rules :
    pathRuleGate pack e.patch.files = (pack.pathRules.map e.pathRule).findSome? Rule.ask :=
  find_family pack.pathRules e.pathRule

/-- the protected paths, -/
theorem protectedGate_rule : protectedGate e.patch.dump = e.protectedPathsRule.ask := by
  rw [protectedGate, e.patch.getD_dump.2.2.1]
  cases h : e.patch.protectedPathsTouched with
  | none => simp [Rule.ask, Evidence.protectedPathsRule, h]
  | some paths => cases paths <;> simp [Rule.ask, Evidence.protectedPathsRule, Codec.list, h]

/-- and the imports. -/
theorem importsGate_rule : importsGate pack e.patch.dump = (e.importsChangedRule pack).ask := by
  rw [importsGate, e.patch.getD_dump.2.2.2]
  cases h : e.patch.importsChanged with
  | none => simp [Rule.ask, Evidence.importsChangedRule, h]
  | some changed =>
      cases changed <;> cases hp : pack.requireHumanIfImportsChange <;>
        simp [Rule.ask, Evidence.importsChangedRule, h, hp]

/-- **The gates are the families of the table.** -/
theorem gates_rules :
    gates (e.interactive.map InteractiveRecord.dump) (e.batch.map BatchVerifyResult.dump)
        e.patch.dump pack =
      ((e.stopRules pack).map fun rs => rs.findSome? Rule.ask).map .ok := by
  have hbatch : batchGates pack e.patch.files (e.batch.map BatchVerifyResult.dump) =
      ((e.batchRules pack).map fun rs => rs.findSome? Rule.ask).map .ok := by
    cases h : e.batch with
    | none => simp [batchGates, Evidence.batchRules, h]
    | some b =>
        rw [Option.map_some, batchGates, batch_dump_present]
        simp only [batchOkGate_rule, axiomGate_rule, trustCompilerGate_rule, trustGate_rules,
          Evidence.batchRules, h, List.map_cons, List.map_nil, ask_singleton]
  have hpatch : patchGates pack e.patch.dump =
      (e.patchRules pack).map fun rs => rs.findSome? Rule.ask := by
    rw [patchGates, PatchMetadata.normalizedFiles_dump, trustDeltaGate_rule, pathRuleGate_rules,
      protectedGate_rule, importsGate_rule]
    simp only [Evidence.patchRules, List.map_cons, List.map_nil, ask_singleton]
  rw [gates, PatchMetadata.normalizedFiles_dump, interactiveGate_rule, hbatch, hpatch,
    Evidence.stopRules, List.map_cons, List.map_cons, List.map_append, List.map_append,
    ask_singleton]

end Gates

/-- The first rule that fires; the last one does. -/
def Evidence.rule (e : Evidence) (pack : PolicyPack) : Rule :=
  ((e.table pack).find? Rule.fires).getD acceptRule

/-- The rule of the evidence is the first of the table that fires. -/
theorem Evidence.find_table (e : Evidence) (pack : PolicyPack) :
    (e.table pack).find? Rule.fires = some (e.rule pack) := by
  unfold Evidence.rule
  cases h : (e.table pack).find? Rule.fires with
  | none =>
      have hlast := List.find?_eq_none.mp h acceptRule
        (List.mem_append_right _ (List.mem_singleton.mpr rfl))
      exact absurd rfl hlast
  | some r => rfl

/-- **The engine answers with the first rule that fires.** -/
theorem evaluate_eq_table (e : Evidence) (pack : PolicyPack) :
    e.evaluate pack = .ok (decisionOf pack (e.rule pack).verdict) := by
  have hfirst : first (gates (e.interactive.map InteractiveRecord.dump)
      (e.batch.map BatchVerifyResult.dump) e.patch.dump pack) =
        .ok (((e.stopRules pack).flatten.find? Rule.fires).map Rule.verdict) := by
    rw [gates_rules, first_map_ok, findSome_families, find_ask]
  rw [Evidence.evaluate, evaluate_of_first hfirst, Evidence.rule, Evidence.table,
    List.find?_append]
  cases (e.stopRules pack).flatten.find? Rule.fires <;> rfl

/-! ## §4. What is decided, whatever the order. -/

namespace Evidence

variable (e : Evidence) (pack : PolicyPack)

/-- Some diagnostic is an error, or the lane is not ok. -/
def Rejects : Prop :=
  (∃ r ∈ e.interactive, ∃ d ∈ r.diagnostics, d.severity = .error) ∨ ∃ b ∈ e.batch, b.ok = false

/-- The audit has blocked reasons. -/
def Blocks : Prop := ∃ b ∈ e.batch, b.axiomAudit.blockedReasons ≠ []

/-- A trusted compiler that the pack does not allow. -/
def TrustsCompiler : Prop :=
  ∃ b ∈ e.batch, b.trustLevel = .warning ∧ pack.allowTrustCompiler = false

/-- Some rule of the pack wants a reviewer for the patch, or for its trust. -/
def Reviews : Prop :=
  e.TrustsCompiler pack ∨
  (∃ b ∈ e.batch, ∃ tg ∈ pack.trustGates, tg.requireHuman = true ∧
    b.trustLevel ∈ tg.whenTrustLevel ∧
      ((tg.pathGlobs = [] ∧ e.patch.files ≠ []) ∨
        ∃ f ∈ e.patch.files, ∃ g ∈ tg.pathGlobs, globMatches g f = true)) ∨
  ((e.patch.trustDelta.getD .null).truthy = true ∧ pack.requireHumanOnTrustDelta = true) ∨
  (∃ rule ∈ pack.pathRules, rule.requireHuman = true ∧
    ∃ f ∈ e.patch.files, globMatches rule.glob f = true) ∨
  e.patch.protectedPathsTouched.getD [] ≠ [] ∨
  (e.patch.importsChanged = some true ∧ pack.requireHumanIfImportsChange = true)

/-- The rules that reject. -/
def rejectRules : List Rule := e.interactiveRule :: e.batch.toList.map batchVerifyRule

/-- The rules that block. -/
def blockRules : List Rule := e.batch.toList.map axiomAuditRule

/-- The rules that know of a level of trust. -/
def compilerRules : List Rule := e.batch.toList.map (trustCompilerRule pack)

/-- The other rules that ask for a reviewer. -/
def reviewRules : List Rule :=
  e.batch.toList.flatMap (fun b => pack.trustGates.map (e.trustGateRule b)) ++
    (e.patchRules pack).flatten

/-- The table, by kinds of rules. -/
theorem table_eq :
    e.table pack = e.rejectRules ++ (e.blockRules ++ (e.compilerRules pack ++
      (e.reviewRules pack ++ [acceptRule]))) := by
  cases h : e.batch <;>
    simp [table, stopRules, batchRules, rejectRules, blockRules, compilerRules, reviewRules, h]

/-- What the rules of a kind say alike. -/
def Says (rs : List Rule) (decision : Decision) (effect : RuleEffect) (level : TrustLevel) :
    Prop :=
  ∀ r ∈ rs, r.verdict.decision = decision ∧ r.verdict.effect = effect ∧
    r.verdict.trustLevel = level

/-- The rules of each rank say one thing: the first reject, -/
theorem rejectRules_says : Says e.rejectRules .rejected .rejected .blocked := by
  intro r hr
  rcases List.mem_cons.mp hr with rfl | hr
  · exact ⟨rfl, rfl, rfl⟩
  · obtain ⟨b, -, rfl⟩ := List.mem_map.mp hr
    exact ⟨rfl, rfl, rfl⟩

/-- the next block, -/
theorem blockRules_says : Says e.blockRules .blocked .blocked .blocked := by
  intro r hr
  obtain ⟨b, -, rfl⟩ := List.mem_map.mp hr
  exact ⟨rfl, rfl, rfl⟩

/-- the compiler's rule asks for a review with a warning, -/
theorem compilerRules_says : Says (e.compilerRules pack) .needsReview .needsReview .warning := by
  intro r hr
  obtain ⟨b, -, rfl⟩ := List.mem_map.mp hr
  exact ⟨rfl, rfl, rfl⟩

/-- and the last ask for a review. -/
theorem reviewRules_says : Says (e.reviewRules pack) .needsReview .needsReview .clean := by
  intro r hr
  simp only [reviewRules, patchRules, List.mem_append, List.mem_flatMap, List.mem_cons,
    List.mem_map, List.flatten_cons, List.flatten_nil, List.not_mem_nil, or_false] at hr
  rcases hr with ⟨b, -, tg, -, rfl⟩ | rfl | ⟨rule, -, rfl⟩ | rfl | rfl <;>
    exact ⟨rfl, rfl, rfl⟩

/-- Some rule of the list fires. -/
def Fires (rs : List Rule) : Prop := ∃ r ∈ rs, r.fires = true

/-- One of the first fires where the evidence rejects, -/
theorem fires_rejectRules : Fires e.rejectRules ↔ e.Rejects := by
  cases hi : e.interactive <;> cases hb : e.batch <;>
    simp [Fires, rejectRules, Rejects, interactiveRule, batchVerifyRule, hi, hb]

/-- one of the next where it blocks, -/
theorem fires_blockRules : Fires e.blockRules ↔ e.Blocks := by
  cases hb : e.batch <;> simp [Fires, blockRules, Blocks, axiomAuditRule, hb]

/-- the compiler's where one is trusted that is not allowed. -/
theorem fires_compilerRules : Fires (e.compilerRules pack) ↔ e.TrustsCompiler pack := by
  cases hb : e.batch <;> simp [Fires, compilerRules, TrustsCompiler, trustCompilerRule, hb]

/-- When a trust gate fires. -/
theorem trustGateRule_fires (b : BatchVerifyResult) (tg : TrustGateRule) :
    (e.trustGateRule b tg).fires = true ↔ tg.requireHuman = true ∧
      b.trustLevel ∈ tg.whenTrustLevel ∧ ((tg.pathGlobs = [] ∧ e.patch.files ≠ []) ∨
        ∃ f ∈ e.patch.files, ∃ g ∈ tg.pathGlobs, globMatches g f = true) := by
  have hpaths : trustGatePaths e.patch.files tg = true ↔
      ((tg.pathGlobs = [] ∧ e.patch.files ≠ []) ∨
        ∃ f ∈ e.patch.files, ∃ g ∈ tg.pathGlobs, globMatches g f = true) := by
    unfold trustGatePaths
    by_cases hglobs : tg.pathGlobs = []
    · simp [hglobs]
    · simp [hglobs]
  simp only [trustGateRule, Bool.and_eq_true, decide_eq_true_eq, hpaths]
  exact ⟨fun ⟨⟨h1, h2⟩, h3⟩ => ⟨h3, h1, h2⟩, fun ⟨h3, h1, h2⟩ => ⟨⟨h1, h2⟩, h3⟩⟩

/-- One that asks for a review fires where the evidence asks for one. -/
theorem fires_reviewRules :
    e.TrustsCompiler pack ∨ Fires (e.reviewRules pack) ↔ e.Reviews pack := by
  have himports : (e.importsChangedRule pack).fires = true ↔
      e.patch.importsChanged = some true ∧ pack.requireHumanIfImportsChange = true := by
    cases hi : e.patch.importsChanged <;> simp [importsChangedRule, hi]
  have hpath : ∀ rule, (e.pathRule rule).fires = true ↔
      rule.requireHuman = true ∧ ∃ f ∈ e.patch.files, globMatches rule.glob f = true := by
    intro rule
    simp [pathRule, pathRuleFires, and_comm]
  -- Without a batch result there are no trust gates to fire.
  have hgates : Fires (e.batch.toList.flatMap fun b => pack.trustGates.map (e.trustGateRule b)) ↔
      ∃ b ∈ e.batch, ∃ tg ∈ pack.trustGates, (e.trustGateRule b tg).fires = true := by
    cases hb : e.batch <;> simp [Fires]
  have hpatch : Fires (e.patchRules pack).flatten ↔
      (e.trustDeltaRule pack).fires = true ∨
        (∃ rule ∈ pack.pathRules, (e.pathRule rule).fires = true) ∨
          e.protectedPathsRule.fires = true ∨ (e.importsChangedRule pack).fires = true := by
    simp [Fires, patchRules, or_and_right, exists_or]
  have hsplit : Fires (e.reviewRules pack) ↔
      Fires (e.batch.toList.flatMap fun b => pack.trustGates.map (e.trustGateRule b)) ∨
        Fires (e.patchRules pack).flatten := by
    simp only [Fires, reviewRules, List.mem_append, or_and_right, exists_or]
  rw [hsplit, hgates, hpatch, himports]
  simp only [trustGateRule_fires, hpath, Reviews]
  simp [trustDeltaRule, protectedPathsRule]

/-- The first rule that fires is of the first kind in which one does. -/
inductive Outcome : Rule → Prop
  | rejected (r : Rule) (h : e.Rejects) (mem : r ∈ e.rejectRules) : Outcome r
  | blocked (r : Rule) (hr : ¬ e.Rejects) (h : e.Blocks) (mem : r ∈ e.blockRules) : Outcome r
  | compiler (r : Rule) (hr : ¬ e.Rejects) (hb : ¬ e.Blocks) (h : e.TrustsCompiler pack)
      (mem : r ∈ e.compilerRules pack) : Outcome r
  | review (r : Rule) (hr : ¬ e.Rejects) (hb : ¬ e.Blocks) (hc : ¬ e.TrustsCompiler pack)
      (h : e.Reviews pack) (mem : r ∈ e.reviewRules pack) : Outcome r
  | accepted (hr : ¬ e.Rejects) (hb : ¬ e.Blocks) (h : ¬ e.Reviews pack) : Outcome acceptRule

/-- The first rule that fires, in two lists. -/
theorem find_append {xs ys : List Rule} {r : Rule}
    (h : (xs ++ ys).find? Rule.fires = some r) :
    (Fires xs ∧ r ∈ xs) ∨ (¬ Fires xs ∧ ys.find? Rule.fires = some r) := by
  rw [List.find?_append] at h
  cases hx : xs.find? Rule.fires with
  | none =>
      refine .inr ⟨?_, by simpa [hx] using h⟩
      rintro ⟨q, hq, hf⟩
      exact List.find?_eq_none.mp hx q hq hf
  | some q =>
      obtain rfl : q = r := by simpa [hx] using h
      exact .inl ⟨⟨q, List.mem_of_find?_eq_some hx, List.find?_some hx⟩,
        List.mem_of_find?_eq_some hx⟩

/-- The rule that decides is one whose outcome the evidence has. -/
theorem rule_outcome : e.Outcome pack (e.rule pack) := by
  have hfind := e.find_table pack
  rw [table_eq] at hfind
  rcases find_append hfind with ⟨hfires, hmem⟩ | ⟨hrej, hfind⟩
  · exact .rejected _ (e.fires_rejectRules.mp hfires) hmem
  rw [fires_rejectRules] at hrej
  rcases find_append hfind with ⟨hfires, hmem⟩ | ⟨hblock, hfind⟩
  · exact .blocked _ hrej (e.fires_blockRules.mp hfires) hmem
  rw [fires_blockRules] at hblock
  rcases find_append hfind with ⟨hfires, hmem⟩ | ⟨hcomp, hfind⟩
  · exact .compiler _ hrej hblock ((e.fires_compilerRules pack).mp hfires) hmem
  rw [fires_compilerRules] at hcomp
  rcases find_append hfind with ⟨hfires, hmem⟩ | ⟨hrev, hfind⟩
  · exact .review _ hrej hblock hcomp ((e.fires_reviewRules pack).mp (.inr hfires)) hmem
  · have hrule : acceptRule = e.rule pack := by simpa [acceptRule] using hfind
    rw [← hrule]
    refine .accepted hrej hblock fun h => ?_
    rcases (e.fires_reviewRules pack).mpr h with h | h
    · exact hcomp h
    · exact hrev h

end Evidence

/-- The rule is the first of the table that fires. -/
def FirstToFire (table : List Rule) (r : Rule) : Prop :=
  ∃ pre post, table = pre ++ r :: post ∧ r.fires = true ∧ ∀ q ∈ pre, q.fires = false

/-- The decision credits the rule: it lists that rule alone, under the pack's name, and
with the effect that was decided. -/
def Credits (d : PolicyDecision) (pack : PolicyPack) (r : Rule) : Prop :=
  ∃ effect : RuleEffect, effect.text = d.decision.text ∧
    d.resolvedRules =
      [{ ruleId := r.verdict.ruleId
         sourcePack := pack.name
         matched := true
         effect := effect
         reasonCode := r.verdict.reasonCode }]

/-- **The declarative reading of a decision.** -/
structure Declared (e : Evidence) (pack : PolicyPack) (d : PolicyDecision) : Prop where
  rejected : d.decision = .rejected ↔ e.Rejects
  blocked : d.decision = .blocked ↔ ¬ e.Rejects ∧ e.Blocks
  needsReview : d.decision = .needsReview ↔ ¬ e.Rejects ∧ ¬ e.Blocks ∧ e.Reviews pack
  accepted : d.decision = .accepted ↔ ¬ e.Rejects ∧ ¬ e.Blocks ∧ ¬ e.Reviews pack
  credits : ∃ r, FirstToFire (e.table pack) r ∧ Credits d pack r

/-- The effect of the first rule that fires is its decision. -/
theorem rule_effect (e : Evidence) (pack : PolicyPack) :
    (e.rule pack).verdict.effect.text = (e.rule pack).verdict.decision.text := by
  have hall : ∀ {rs : List Rule} {d : Decision} {effect : RuleEffect} {level : TrustLevel}
      {r : Rule}, Evidence.Says rs d effect level → effect.text = d.text → r ∈ rs →
        r.verdict.effect.text = r.verdict.decision.text := by
    intro rs d effect level r hsays htext hr
    obtain ⟨hd, he, -⟩ := hsays r hr
    rw [hd, he, htext]
  generalize hr : e.rule pack = r
  have hout := e.rule_outcome pack
  rw [hr] at hout
  cases hout with
  | rejected _ h mem => exact hall e.rejectRules_says rfl mem
  | blocked _ hr h mem => exact hall e.blockRules_says rfl mem
  | compiler _ hr hb h mem => exact hall (e.compilerRules_says pack) rfl mem
  | review _ hr hb hc h mem => exact hall (e.reviewRules_says pack) rfl mem
  | accepted hr hb h => rfl

/-- **The policy engine is its table of rules**: for typed evidence it never raises, what
it decides is declared by the kinds of rules that fire, and it credits the first one. -/
theorem policy_table (e : Evidence) (pack : PolicyPack) :
    ∃ d, e.evaluate pack = .ok d ∧ Declared e pack d := by
  refine ⟨_, evaluate_eq_table e pack, ?_⟩
  have hcredits : ∃ r, FirstToFire (e.table pack) r ∧
      Credits (decisionOf pack (e.rule pack).verdict) pack r := by
    obtain ⟨hfires, pre, post, htable, hpre⟩ := List.find?_eq_some_iff_append.mp
      (e.find_table pack)
    refine ⟨e.rule pack, ⟨pre, post, htable, hfires, fun q hq => ?_⟩, _,
      rule_effect e pack, rfl⟩
    simpa using hpre q hq
  have hdecision : (decisionOf pack (e.rule pack).verdict).decision =
      (e.rule pack).verdict.decision := rfl
  -- The kind of the first rule to fire decides, and what precedes it is quiet.
  generalize hr : e.rule pack = r at hcredits hdecision ⊢
  have hout := e.rule_outcome pack
  rw [hr] at hout
  cases hout with
  | rejected _ h mem =>
      rw [(e.rejectRules_says r mem).1] at hdecision
      refine ⟨?_, ?_, ?_, ?_, hcredits⟩ <;> simp [hdecision, h]
  | blocked _ hrej h mem =>
      rw [(e.blockRules_says r mem).1] at hdecision
      refine ⟨?_, ?_, ?_, ?_, hcredits⟩ <;> simp [hdecision, hrej, h]
  | compiler _ hrej hblock h mem =>
      rw [(e.compilerRules_says pack r mem).1] at hdecision
      have hrev : e.Reviews pack := .inl h
      refine ⟨?_, ?_, ?_, ?_, hcredits⟩ <;> simp [hdecision, hrej, hblock, hrev]
  | review _ hrej hblock hc h mem =>
      rw [(e.reviewRules_says pack r mem).1] at hdecision
      refine ⟨?_, ?_, ?_, ?_, hcredits⟩ <;> simp [hdecision, hrej, hblock, h]
  | accepted hrej hblock h =>
      replace hdecision : (decisionOf pack Evidence.acceptRule.verdict).decision = .accepted := rfl
      refine ⟨?_, ?_, ?_, ?_, hcredits⟩ <;> simp [hdecision, hrej, hblock, h]

end PolicyEngine

end ObligationRuntime
