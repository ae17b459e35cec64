/-
  ObligationRuntime.Guarantees.PolicyOrder — more to see is never less severe.

  Two laws of `PolicyEngine.evaluate` that compare two runs.  The first: more changed
  files, protected paths, error diagnostics or rules, and stricter flags, never lower
  the severity of the decision.  The second: the order of the files, the rules, the
  globs and the diagnostics does not matter to the decision and its trust level.

  Both follow from a split of the gates in those that refuse and those that ask for a
  reviewer: within a part every gate says the same, so it only matters whether one fires.

  Main results:
    * `evaluate_added` — the first law,
    * `evaluate_reordered` — the second law,
    * `policy_order` — both.
-/
import ObligationRuntime.Lib.Insertion
import ObligationRuntime.Policy.Engine
import Mathlib.Data.List.Forall2

namespace ObligationRuntime

open Py EarlyReturn Insertion

namespace PolicyEngine

/-! ## §1. The gates in two parts. -/

/-- What an evaluation reads. -/
structure Input where
  interactive : Option Dict
  batch : Option Dict
  patchMetadata : Dict
  pack : PolicyPack

namespace Input

/-- `PolicyEngine().evaluate(...)`. -/
def evaluate (x : Input) : Except PyError PolicyDecision :=
  PolicyEngine.evaluate x.interactive x.batch x.patchMetadata x.pack

/-- The changed files as the rules see them. -/
def files (x : Input) : List String := normalizedFiles x.patchMetadata

/-- The gates that refuse a patch. -/
def refusals (x : Input) : List (Except PyError (Option Verdict)) :=
  interactiveGate x.interactive ::
    match Dict.present x.batch with
    | none => []
    | some b => [batchOkGate b, axiomGate b]

/-- The gates on the trust of a batch result. -/
def trustReviews (x : Input) : List (Option Verdict) :=
  match Dict.present x.batch with
  | none => []
  | some b => [trustCompilerGate x.pack b, trustGate x.pack b x.files]

/-- The gates that ask for a reviewer. -/
def reviews (x : Input) : List (Option Verdict) :=
  x.trustReviews ++ patchGates x.pack x.patchMetadata

theorem gates_eq (x : Input) :
    gates x.interactive x.batch x.patchMetadata x.pack = x.refusals ++ x.reviews.map .ok := by
  unfold gates refusals reviews trustReviews batchGates files
  cases Dict.present x.batch <;> rfl

/-- The verdict of an evaluation, if a gate fires. -/
def verdict (x : Input) : Except PyError (Option Verdict) :=
  first x.refusals >>= fun
    | some v => .ok (some v)
    | none => .ok (x.reviews.findSome? id)

theorem evaluate_eq (x : Input) :
    x.evaluate = x.verdict >>= fun v => .ok (decisionOf x.pack (v.getD acceptance)) := by
  unfold evaluate PolicyEngine.evaluate verdict
  rw [gates_eq, first_append, first_map_ok]
  match first x.refusals with
  | .error e => rfl
  | .ok none => rfl
  | .ok (some v) => rfl

/-- A gate of the first part that fires rejects, or blocks. -/
theorem refusals_refuse {x : Input} {v : Verdict} (h : first x.refusals = .ok (some v)) :
    v.decision = .rejected ∨ v.decision = .blocked := by
  have hmem := mem_of_first_some h
  unfold refusals at hmem
  rcases List.mem_cons.mp hmem with h | h
  · exact .inl (interactiveGate_refuses h.symm)
  split at h
  · cases h
  · rcases List.mem_cons.mp h with h | h
    · exact .inl (batchOkGate_refuses h.symm)
    · exact .inr (axiomGate_refuses (List.mem_singleton.mp h).symm)

/-- A gate of the second part that fires asks for a reviewer. -/
theorem reviews_review {x : Input} {v : Verdict} (h : x.reviews.findSome? id = some v) :
    v.decision = .needsReview := by
  obtain ⟨g, hg, rfl⟩ := List.exists_of_findSome?_eq_some h
  unfold reviews trustReviews at hg
  rcases List.mem_append.mp hg with hg | hg
  · split at hg
    · cases hg
    · rcases List.mem_cons.mp hg with hg | hg
      · exact trustCompilerGate_reviews hg.symm
      · exact trustGate_reviews (List.mem_singleton.mp hg).symm
  · exact patchGates_review hg

end Input

/-! ## §2. More to see. -/

/-- How severe a decision is; the engine returns neither of the last two. -/
def severity : Decision → Nat
  | .accepted => 0
  | .needsReview => 1
  | .blocked => 2
  | .rejected => 2
  | .lowerTrust => 1
  | .failed => 2

/-- A diagnostic of severity `error`. -/
def isError (d : Json) : Bool := decide (d.pyGet "severity" = .ok (.str "error"))

/-- The diagnostics that the engine looks at. -/
def Input.diagnostics (x : Input) : Json :=
  match Dict.present x.interactive with
  | none => .null
  | some d => d.getD "diagnostics" .null

/-- The list of changed files. -/
def Input.changedFiles (x : Input) : List Json :=
  match x.patchMetadata.getD "changed_files" .null with
  | .arr xs => xs
  | _ => []

/-- A key of the patch metadata. -/
def Input.meta (x : Input) (key : String) : Json := x.patchMetadata.getD key .null

/-- `w` is `v` with error diagnostics put in; a value that counts as no diagnostics
may become a list of them. -/
inductive ErrorsAdded : Json → Json → Prop
  | same (v : Json) : ErrorsAdded v v
  | list {xs ys : List Json} : Inserted (isError · = true) xs ys → ErrorsAdded (.arr xs) (.arr ys)
  | fresh {v : Json} {ys : List Json} : v.truthy = false → (∀ d ∈ ys, isError d = true) →
      ErrorsAdded v (.arr ys)

/-- The same path rule, or a stricter one. -/
structure PathRuleStricter (a b : PathRule) : Prop where
  glob : b.glob = a.glob
  requireHuman : a.requireHuman = true → b.requireHuman = true

/-- The same trust gate, or a stricter one. -/
structure TrustGateStricter (a b : TrustGateRule) : Prop where
  whenTrustLevel : b.whenTrustLevel = a.whenTrustLevel
  pathGlobs : b.pathGlobs = a.pathGlobs
  requireHuman : a.requireHuman = true → b.requireHuman = true

/-- `y` is `x` with more to see and a stricter pack. -/
structure Adds (x y : Input) : Prop where
  diagnostics : ErrorsAdded x.diagnostics y.diagnostics
  batch : y.batch = x.batch
  changedFiles : x.changedFiles.Sublist y.changedFiles
  -- A list with more in it is truthy when it was before.
  protectedPaths : (x.meta "protected_paths_touched").truthy = true →
    (y.meta "protected_paths_touched").truthy = true
  importsChanged : (x.meta "imports_changed").truthy = true →
    (y.meta "imports_changed").truthy = true
  trustDelta : (x.meta "trust_delta").truthy = true → (y.meta "trust_delta").truthy = true
  pathRules : List.SublistForall₂ PathRuleStricter x.pack.pathRules y.pack.pathRules
  trustGates : List.SublistForall₂ TrustGateStricter x.pack.trustGates y.pack.trustGates
  allowTrustCompiler : y.pack.allowTrustCompiler = true → x.pack.allowTrustCompiler = true
  requireHumanIfImportsChange : x.pack.requireHumanIfImportsChange = true →
    y.pack.requireHumanIfImportsChange = true
  requireHumanOnTrustDelta : x.pack.requireHumanOnTrustDelta = true →
    y.pack.requireHumanOnTrustDelta = true

/-! ## §3. The diagnostics. -/

/-- The errors among mappings; anything else has no `.get`. -/
theorem errorLike_eq (ds : List Json) :
    errorLike ds =
      if ds.all (fun d => d.dict?.isSome) then .ok (ds.filter isError)
      else .error (.attributeError "severity") := by
  induction ds with
  | nil => rfl
  | cons d ds ih =>
      rw [errorLike, ih]
      cases d with
      | obj e =>
          simp only [Json.pyGet_obj, ok_bind, List.all_cons, Json.dict?_obj, Option.isSome_some,
            Bool.true_and]
          split
          · by_cases he : Dict.getD e "severity" .null = .str "error" <;>
              simp [isError, he, pure_eq_ok]
          · rfl
      | _ => rfl

/-- The gate on the diagnostics. -/
def diagnosticsGate (v : Json) : Except PyError (Option Verdict) :=
  if v.truthy then do
    let ds ← v.pyIter
    let errors ← errorLike ds
    return if errors = [] then none else some
      ⟨.rejected, .blocked, ["interactive_errors_present"], "interactive_errors", .rejected,
        "interactive_errors_present"⟩
  else .ok none

theorem Input.interactiveGate_eq (x : Input) :
    interactiveGate x.interactive = diagnosticsGate x.diagnostics := by
  unfold interactiveGate Input.diagnostics
  cases Dict.present x.interactive with
  | none => rfl
  | some d => rfl

theorem diagnosticsGate_arr (ds : List Json) :
    diagnosticsGate (.arr ds) =
      if ds.all (fun d => d.dict?.isSome) then
        .ok (if ds.filter isError = [] then none else some
          ⟨.rejected, .blocked, ["interactive_errors_present"], "interactive_errors", .rejected,
            "interactive_errors_present"⟩)
      else .error (.attributeError "severity") := by
  unfold diagnosticsGate
  rw [Json.pyIter_arr, ok_bind, errorLike_eq]
  cases ds with
  | nil => rfl
  | cons d ds =>
      simp only [Json.truthy_arr, List.isEmpty_cons, Bool.not_false, if_true]
      split
      · rfl
      · rfl

theorem dict_of_isError {d : Json} (h : isError d = true) : d.dict?.isSome = true := by
  cases d with
  | obj e => rfl
  | _ => simp [isError, Json.pyGet] at h

/-- A list that passed, or was found to have errors, with errors put in. -/
theorem diagnosticsGate_inserted {xs ys : List Json} {g : Option Verdict}
    (h : Inserted (isError · = true) xs ys) (hg : diagnosticsGate (.arr xs) = .ok g) :
    ∃ g', diagnosticsGate (.arr ys) = .ok g' ∧ (g = none ∨ g' = g) := by
  rw [diagnosticsGate_arr] at hg ⊢
  split at hg
  next hall =>
    have hys : ys.all (fun d => d.dict?.isSome) = true := by
      rw [List.all_eq_true] at hall ⊢
      intro d hd
      rcases h.mem hd with hd | hd
      · exact hall d hd
      · exact dict_of_isError hd
    rw [if_pos hys]
    refine ⟨_, rfl, ?_⟩
    obtain rfl := Except.ok.inj hg
    by_cases hx : xs.filter isError = []
    · exact .inl (if_pos hx)
    · right
      have hy : ys.filter isError ≠ [] := fun hy =>
        hx (List.sublist_nil.mp (hy ▸ h.sublist.filter isError))
      rw [if_neg hx, if_neg hy]
  · cases hg

theorem diagnosticsGate_added {v w : Json} {g : Option Verdict} (h : ErrorsAdded v w)
    (hg : diagnosticsGate v = .ok g) :
    ∃ g', diagnosticsGate w = .ok g' ∧ (g = none ∨ g' = g) := by
  cases h with
  | same => exact ⟨g, hg, .inr rfl⟩
  | list hins => exact diagnosticsGate_inserted hins hg
  | @fresh _ ys hv hys =>
      have hnil : diagnosticsGate (.arr []) = .ok none := rfl
      have hins : Inserted (isError · = true) [] ([] ++ (ys ++ [])) := .middle hys [] []
      rw [List.nil_append, List.append_nil] at hins
      obtain ⟨g', hg', -⟩ := diagnosticsGate_inserted hins hnil
      refine ⟨g', hg', .inl ?_⟩
      rw [diagnosticsGate, if_neg (by simp [hv])] at hg
      exact (Except.ok.inj hg).symm

/-- The gates that refuse: a pass stays a pass or becomes a refusal. -/
theorem refusals_added {x y : Input} (h : Adds x y) {v : Option Verdict}
    (hv : first x.refusals = .ok v) :
    ∃ v', first y.refusals = .ok v' ∧ (v' = none → v = none) := by
  unfold Input.refusals at hv ⊢
  rw [h.batch]
  rw [Input.interactiveGate_eq] at hv ⊢
  rcases first_cons_ok hv with ⟨u, hu, rfl⟩ | ⟨hu, hrest⟩
  · obtain ⟨g', hg', hor⟩ := diagnosticsGate_added h.diagnostics hu
    obtain rfl : g' = some u := hor.resolve_left (by simp)
    exact ⟨some u, by rw [hg', first_some], by simp⟩
  · obtain ⟨g', hg', -⟩ := diagnosticsGate_added h.diagnostics hu
    cases g' with
    | none => exact ⟨v, by rw [hg', first_pass, hrest], id⟩
    | some u => exact ⟨some u, by rw [hg', first_some], by simp⟩

/-! ## §4. The rules. -/

theorem Input.files_eq (x : Input) :
    x.files = x.changedFiles.filterMap fun
      | .str s => some (replaceChar '\\' '/' s)
      | _ => none := by
  unfold Input.files normalizedFiles Input.changedFiles
  cases x.patchMetadata.getD "changed_files" .null <;> rfl

theorem exists_of_sublistForall₂ {α : Type} {R : α → α → Prop} {xs ys : List α}
    (h : List.SublistForall₂ R xs ys) {a : α} (ha : a ∈ xs) : ∃ b ∈ ys, R a b := by
  induction h with
  | nil => cases ha
  | cons hr _ ih =>
      rcases List.mem_cons.mp ha with rfl | ha
      · exact ⟨_, List.mem_cons_self .., hr⟩
      · obtain ⟨b, hb, hab⟩ := ih ha
        exact ⟨b, List.mem_cons_of_mem _ hb, hab⟩
  | cons_right _ ih =>
      obtain ⟨b, hb, hab⟩ := ih ha
      exact ⟨b, List.mem_cons_of_mem _ hb, hab⟩

theorem any_mono {α : Type} {p : α → Bool} {xs ys : List α} (h : xs ⊆ ys)
    (hx : xs.any p = true) : ys.any p = true := by
  obtain ⟨a, ha, hp⟩ := List.any_eq_true.mp hx
  exact List.any_eq_true.mpr ⟨a, h ha, hp⟩

section Rules

variable {fs gs : List String}

theorem pathRuleFires_mono (hf : fs ⊆ gs) {a b : PathRule} (h : PathRuleStricter a b)
    (ha : pathRuleFires fs a = true) : pathRuleFires gs b = true := by
  unfold pathRuleFires at ha ⊢
  rw [Bool.and_eq_true] at ha ⊢
  rw [h.glob]
  exact ⟨any_mono hf ha.1, h.requireHuman ha.2⟩

theorem trustGatePaths_mono (hf : fs ⊆ gs) {a : TrustGateRule}
    (ha : trustGatePaths fs a = true) : trustGatePaths gs a = true := by
  unfold trustGatePaths at ha ⊢
  split at ha
  next hnil =>
    rw [if_pos hnil]
    cases fs with
    | nil => simp at ha
    | cons f fs =>
        have hmem : f ∈ gs := hf (List.mem_cons_self ..)
        cases gs with
        | nil => cases hmem
        | cons g gs => rfl
  next hne =>
    rw [if_neg hne]
    exact any_mono hf ha

theorem trustGateFires_mono (hf : fs ⊆ gs) (batch : Dict) {a b : TrustGateRule}
    (h : TrustGateStricter a b) (ha : trustGateFires batch fs a = true) :
    trustGateFires batch gs b = true := by
  have hpaths : trustGatePaths fs b = trustGatePaths fs a := by
    unfold trustGatePaths
    rw [h.pathGlobs]
  unfold trustGateFires at ha ⊢
  simp only [Bool.and_eq_true] at ha ⊢
  obtain ⟨⟨hlevel, hp⟩, hr⟩ := ha
  refine ⟨⟨?_, trustGatePaths_mono hf (hpaths ▸ hp)⟩, h.requireHuman hr⟩
  rw [h.whenTrustLevel]
  exact hlevel

end Rules

/-- When no gate asks for a reviewer. -/
theorem reviews_pass_iff {x : Input} :
    x.reviews.findSome? id = none ↔
      (∀ b, Dict.present x.batch = some b →
        (trustLevelOf b = .str "warning" → x.pack.allowTrustCompiler = true) ∧
          ∀ tg ∈ x.pack.trustGates, trustGateFires b x.files tg = false) ∧
        PatchPasses x.pack x.patchMetadata := by
  rw [List.findSome?_eq_none_iff, ← patchGates_pass_iff]
  unfold Input.reviews Input.trustReviews
  simp only [id_eq, List.forall_mem_append]
  refine and_congr_left fun _ => ?_
  cases Dict.present x.batch with
  | none => simp
  | some b => simp [trustCompilerGate, trustGate]

/-- A reviewer who was asked for is still asked for. -/
theorem reviews_added {x y : Input} (h : Adds x y) (hy : y.reviews.findSome? id = none) :
    x.reviews.findSome? id = none := by
  rw [reviews_pass_iff] at hy ⊢
  obtain ⟨hbatch, hpatch⟩ := hy
  rw [h.batch] at hbatch
  have hf : x.files ⊆ y.files := by
    rw [x.files_eq, y.files_eq]
    exact (h.changedFiles.filterMap _).subset
  -- What passes in the stricter run passes: every gate of the other is weaker.
  refine ⟨fun b hb => ⟨fun hw => h.allowTrustCompiler ((hbatch b hb).1 hw), fun tg htg => ?_⟩,
    ⟨fun ht => ?_, fun rule hrule => ?_, ?_, fun hi => ?_⟩⟩
  · obtain ⟨tg', htg', hstrict⟩ := exists_of_sublistForall₂ h.trustGates htg
    rw [Bool.eq_false_iff]
    intro hfire
    exact absurd (trustGateFires_mono hf b hstrict hfire) (by simp [(hbatch b hb).2 tg' htg'])
  · have hoff := hpatch.trustDelta (h.trustDelta ht)
    rw [Bool.eq_false_iff] at hoff ⊢
    exact fun hon => hoff (h.requireHumanOnTrustDelta hon)
  · obtain ⟨rule', hrule', hstrict⟩ := exists_of_sublistForall₂ h.pathRules hrule
    rw [Bool.eq_false_iff]
    intro hfire
    have hoff : pathRuleFires y.files rule' = false := hpatch.pathRules rule' hrule'
    exact absurd (pathRuleFires_mono hf hstrict hfire) (by simp [hoff])
  · have hoff := hpatch.protectedPaths
    rw [Bool.eq_false_iff] at hoff ⊢
    exact fun hon => hoff (h.protectedPaths hon)
  · have hoff := hpatch.imports (h.importsChanged hi)
    rw [Bool.eq_false_iff] at hoff ⊢
    exact fun hon => hoff (h.requireHumanIfImportsChange hon)

/-! ## §5. The first law. -/

theorem Input.evaluate_ok_iff {x : Input} {d : PolicyDecision} :
    x.evaluate = .ok d ↔ ∃ v, x.verdict = .ok v ∧ d = decisionOf x.pack (v.getD acceptance) := by
  rw [Input.evaluate_eq]
  simp only [bind_eq_ok_iff, Except.ok.injEq]
  exact exists_congr fun v => and_congr_right fun _ => eq_comm

/-- What the verdict of an input is, by its two parts. -/
theorem Input.verdict_ok_iff {x : Input} {v : Option Verdict} :
    x.verdict = .ok v ↔
      (∃ u, first x.refusals = .ok (some u) ∧ v = some u) ∨
        (first x.refusals = .ok none ∧ v = x.reviews.findSome? id) := by
  unfold Input.verdict
  match first x.refusals with
  | .error e => simp
  | .ok none => simp [eq_comm]
  | .ok (some u) => simp [eq_comm]

/-- How severe a verdict is; none is an acceptance. -/
def severityOf (v : Option Verdict) : Nat := severity (v.getD acceptance).decision

theorem Input.severityOf_refusal {x : Input} {v : Verdict}
    (h : first x.refusals = .ok (some v)) : severityOf (some v) = 2 := by
  unfold severityOf
  rcases Input.refusals_refuse h with h | h <;> simp [h, severity]

theorem Input.severityOf_reviews (x : Input) :
    severityOf (x.reviews.findSome? id) =
      if x.reviews.findSome? id = none then 0 else 1 := by
  cases h : x.reviews.findSome? id with
  | none => rfl
  | some v => simp [severityOf, Input.reviews_review h, severity]

/-- No verdict is more severe than a refusal. -/
theorem severityOf_le {x : Input} {v : Option Verdict} (h : x.verdict = .ok v) :
    severityOf v ≤ 2 := by
  rcases Input.verdict_ok_iff.mp h with ⟨u, hu, rfl⟩ | ⟨-, rfl⟩
  · exact (Input.severityOf_refusal hu).le
  · rw [Input.severityOf_reviews]
    split <;> omega

theorem verdict_added {x y : Input} (h : Adds x y) {v : Option Verdict}
    (hv : x.verdict = .ok v) : ∃ v', y.verdict = .ok v' ∧ severityOf v ≤ severityOf v' := by
  have hle := severityOf_le hv
  -- A refusal stays one; without any, a reviewer who was asked is still asked.
  rcases Input.verdict_ok_iff.mp hv with ⟨u, hu, rfl⟩ | ⟨hpass, rfl⟩
  · obtain ⟨v', hv', himp⟩ := refusals_added h hu
    cases v' with
    | none => exact absurd (himp rfl) (by simp)
    | some u' =>
        refine ⟨some u', Input.verdict_ok_iff.mpr (.inl ⟨u', hv', rfl⟩), ?_⟩
        rw [Input.severityOf_refusal hv']
        exact hle
  · obtain ⟨v', hv', -⟩ := refusals_added h hpass
    cases v' with
    | some u' =>
        refine ⟨some u', Input.verdict_ok_iff.mpr (.inl ⟨u', hv', rfl⟩), ?_⟩
        rw [Input.severityOf_refusal hv']
        exact hle
    | none =>
        refine ⟨_, Input.verdict_ok_iff.mpr (.inr ⟨hv', rfl⟩), ?_⟩
        rw [Input.severityOf_reviews, Input.severityOf_reviews]
        by_cases hy : y.reviews.findSome? id = none
        · rw [if_pos hy, if_pos (reviews_added h hy)]
        · rw [if_neg hy]
          split <;> omega

/-- **More to see is never less severe**: where the one input is decided the other is,
at least as severely. -/
theorem evaluate_added {x y : Input} (h : Adds x y) {d : PolicyDecision}
    (hd : x.evaluate = .ok d) :
    ∃ d', y.evaluate = .ok d' ∧ severity d.decision ≤ severity d'.decision := by
  obtain ⟨v, hv, rfl⟩ := Input.evaluate_ok_iff.mp hd
  obtain ⟨v', hv', hle⟩ := verdict_added h hv
  exact ⟨_, Input.evaluate_ok_iff.mpr ⟨v', hv', rfl⟩, hle⟩

/-! ## §6. The second law. -/

/-- The same value, or the same list in another order. -/
def ListPerm (v w : Json) : Prop :=
  v = w ∨ ∃ xs ys : List Json, v = .arr xs ∧ w = .arr ys ∧ xs.Perm ys

/-- The same trust gate, its globs in another order. -/
def SameTrustGate (a b : TrustGateRule) : Prop :=
  ∃ globs, a.pathGlobs.Perm globs ∧ b = { a with pathGlobs := globs }

/-- `y` is `x` with its diagnostics, its changed files and its rules in another order. -/
structure Permuted (x y : Input) : Prop where
  diagnostics : ListPerm x.diagnostics y.diagnostics
  batch : y.batch = x.batch
  changedFiles : x.changedFiles.Perm y.changedFiles
  others : ∀ key, key ≠ "changed_files" → y.meta key = x.meta key
  pathRules : x.pack.pathRules.Perm y.pack.pathRules
  trustGates : ∃ tgs, x.pack.trustGates.Perm tgs ∧ List.Forall₂ SameTrustGate tgs y.pack.trustGates
  allowTrustCompiler : y.pack.allowTrustCompiler = x.pack.allowTrustCompiler
  requireHumanIfImportsChange :
    y.pack.requireHumanIfImportsChange = x.pack.requireHumanIfImportsChange
  requireHumanOnTrustDelta : y.pack.requireHumanOnTrustDelta = x.pack.requireHumanOnTrustDelta

/-- What the second law keeps of a decision. -/
def outcome (d : PolicyDecision) : Decision × TrustLevel := (d.decision, d.trustLevel)

/-- The same of a verdict. -/
def Verdict.outcome (v : Verdict) : Decision × TrustLevel := (v.decision, v.trustLevel)

theorem diagnosticsGate_perm {v w : Json} (h : ListPerm v w) :
    diagnosticsGate v = diagnosticsGate w := by
  rcases h with rfl | ⟨xs, ys, rfl, rfl, hp⟩
  · rfl
  · have hnil : xs.filter isError = [] ↔ ys.filter isError = [] := by
      have hf := hp.filter isError
      exact ⟨fun hx => (hx ▸ hf).nil_eq.symm, fun hy => (hy ▸ hf).eq_nil⟩
    rw [diagnosticsGate_arr, diagnosticsGate_arr, hp.all_eq]
    simp only [hnil]

theorem refusals_permuted {x y : Input} (h : Permuted x y) : y.refusals = x.refusals := by
  unfold Input.refusals
  rw [h.batch, Input.interactiveGate_eq, Input.interactiveGate_eq,
    diagnosticsGate_perm h.diagnostics]

/-- A family of rules that say the same: it only matters whether one fires. -/
theorem find_outcome {α : Type} (xs : List α) (p : α → Bool) (verdict : α → Verdict)
    (o : Decision × TrustLevel) (ho : ∀ a, (verdict a).outcome = o) :
    ((xs.find? p).map verdict).map Verdict.outcome = if xs.any p then some o else none := by
  cases hf : xs.find? p with
  | none =>
      rw [if_neg]
      · rfl
      · simpa using hf
  | some a =>
      rw [if_pos]
      · exact congrArg some (ho a)
      · exact List.any_eq_true.mpr ⟨a, List.mem_of_find?_eq_some hf, List.find?_some hf⟩

theorem any_forall₂ {α : Type} {R : α → α → Prop} {p q : α → Bool} {xs ys : List α}
    (h : List.Forall₂ R xs ys) (hR : ∀ a b, R a b → p a = q b) : xs.any p = ys.any q := by
  induction h with
  | nil => rfl
  | cons hab _ ih => rw [List.any_cons, List.any_cons, hR _ _ hab, ih]

section Reordered

variable {fs gs : List String}

theorem pathRuleFires_perm (hf : fs.Perm gs) (rule : PathRule) :
    pathRuleFires fs rule = pathRuleFires gs rule := by
  unfold pathRuleFires
  rw [hf.any_eq]

theorem trustGateFires_perm (hf : fs.Perm gs) (batch : Dict) {a b : TrustGateRule}
    (h : SameTrustGate a b) : trustGateFires batch fs a = trustGateFires batch gs b := by
  obtain ⟨globs, hg, rfl⟩ := h
  have hpaths : trustGatePaths fs a = trustGatePaths gs { a with pathGlobs := globs } := by
    unfold trustGatePaths
    have hnil : a.pathGlobs = [] ↔ globs = [] :=
      ⟨fun ha => (ha ▸ hg).nil_eq.symm, fun hb => (hb ▸ hg).eq_nil⟩
    have hempty : fs.isEmpty = gs.isEmpty := by
      rw [Bool.eq_iff_iff, List.isEmpty_iff, List.isEmpty_iff]
      exact ⟨fun ha => (ha ▸ hf).nil_eq.symm, fun hb => (hb ▸ hf).eq_nil⟩
    simp only [hnil, hempty, hg.any_eq, hf.any_eq]
  unfold trustGateFires
  rw [hpaths]

end Reordered

/-- The same gates in both runs say the same, but for their reasons. -/
theorem reviews_permuted {x y : Input} (h : Permuted x y) :
    x.reviews.map (Option.map Verdict.outcome) = y.reviews.map (Option.map Verdict.outcome) := by
  have hf : x.files.Perm y.files := by
    rw [x.files_eq, y.files_eq]
    exact h.changedFiles.filterMap _
  -- A gate over a list takes the first entry that fires; which one that is may differ.
  have hpath : (pathRuleGate x.pack x.files).map Verdict.outcome =
      (pathRuleGate y.pack y.files).map Verdict.outcome := by
    have hfires : pathRuleFires x.files = pathRuleFires y.files :=
      funext fun rule => pathRuleFires_perm hf rule
    unfold pathRuleGate
    rw [find_outcome _ _ _ (.needsReview, .clean) fun _ => rfl,
      find_outcome _ _ _ (.needsReview, .clean) fun _ => rfl, h.pathRules.any_eq, hfires]
  have htrust : ∀ b, (trustGate x.pack b x.files).map Verdict.outcome =
      (trustGate y.pack b y.files).map Verdict.outcome := by
    intro b
    obtain ⟨tgs, hperm, hall⟩ := h.trustGates
    unfold trustGate
    rw [find_outcome _ _ _ (.needsReview, .clean) fun _ => rfl,
      find_outcome _ _ _ (.needsReview, .clean) fun _ => rfl, hperm.any_eq,
      any_forall₂ hall fun _ _ hab => trustGateFires_perm hf b hab]
  -- The other gates read nothing that is permuted.
  have hcompiler : ∀ b, trustCompilerGate y.pack b = trustCompilerGate x.pack b := by
    intro b
    unfold trustCompilerGate
    rw [h.allowTrustCompiler]
  have hdelta : trustDeltaGate y.pack y.patchMetadata = trustDeltaGate x.pack x.patchMetadata := by
    have hkey : y.meta "trust_delta" = x.meta "trust_delta" := h.others _ (by decide)
    unfold Input.meta at hkey
    unfold trustDeltaGate
    rw [h.requireHumanOnTrustDelta, hkey]
  have hprotected : protectedGate y.patchMetadata = protectedGate x.patchMetadata := by
    have hkey : y.meta "protected_paths_touched" = x.meta "protected_paths_touched" :=
      h.others _ (by decide)
    unfold Input.meta at hkey
    unfold protectedGate
    rw [hkey]
  have himports : importsGate y.pack y.patchMetadata = importsGate x.pack x.patchMetadata := by
    have hkey : y.meta "imports_changed" = x.meta "imports_changed" := h.others _ (by decide)
    unfold Input.meta at hkey
    unfold importsGate
    rw [h.requireHumanIfImportsChange, hkey]
  unfold Input.files at hpath htrust
  unfold Input.reviews Input.trustReviews patchGates Input.files
  rw [h.batch, hdelta, hprotected, himports]
  cases Dict.present x.batch with
  | none => simp only [List.nil_append, List.map_cons, List.map_nil, hpath]
  | some b =>
      simp only [List.cons_append, List.nil_append, List.map_cons, List.map_nil, hpath, htrust,
        hcompiler]

theorem findSome_outcome (vs : List (Option Verdict)) :
    (vs.findSome? id).map Verdict.outcome =
      (vs.map (Option.map Verdict.outcome)).findSome? id := by
  induction vs with
  | nil => rfl
  | cons v vs ih =>
      cases v with
      | none => simpa using ih
      | some v => rfl

/-- The decision and its trust level, from the verdict. -/
theorem Input.evaluate_outcome (x : Input) :
    x.evaluate.map outcome =
      x.verdict.map fun v => (v.map Verdict.outcome).getD acceptance.outcome := by
  rw [Input.evaluate_eq]
  match x.verdict with
  | .error e => rfl
  | .ok none => rfl
  | .ok (some v) => rfl

/-- **The order does not matter**: the decision and its trust level are the same, or
both evaluations raise the same. -/
theorem evaluate_reordered {x y : Input} (h : Permuted x y) :
    x.evaluate.map outcome = y.evaluate.map outcome := by
  have hreviews : (x.reviews.findSome? id).map Verdict.outcome =
      (y.reviews.findSome? id).map Verdict.outcome := by
    rw [findSome_outcome, findSome_outcome, reviews_permuted h]
  rw [Input.evaluate_outcome, Input.evaluate_outcome]
  unfold Input.verdict
  rw [refusals_permuted h]
  match first x.refusals with
  | .error e => rfl
  | .ok (some v) => rfl
  | .ok none => exact congrArg (fun o => Except.ok (o.getD acceptance.outcome)) hreviews

/-- **The two laws of the engine**: more to see is never less severe, and the order of
what there is to see does not matter. -/
theorem policy_order (x y : Input) :
    (Adds x y → ∀ d, x.evaluate = .ok d →
      ∃ d', y.evaluate = .ok d' ∧ severity d.decision ≤ severity d'.decision) ∧
    (Permuted x y → x.evaluate.map outcome = y.evaluate.map outcome) :=
  ⟨fun h _ hd => evaluate_added h hd, fun h => evaluate_reordered h⟩

namespace Scripted

/-- A patch of one file, seen without an error. -/
def before : Input where
  interactive := some [("diagnostics", .arr [.obj [("severity", .str "info")]])]
  batch := some [("ok", .bool true)]
  patchMetadata := [("changed_files", .arr [.str "Mini/Basic.lean"])]
  pack := { version := "1", name := "p", description := "" }

/-- One more file, one more diagnostic, and a rule for the file. -/
def after : Input where
  interactive := some [("diagnostics",
    .arr [.obj [("severity", .str "error")], .obj [("severity", .str "info")]])]
  batch := some [("ok", .bool true)]
  patchMetadata := [("changed_files", .arr [.str "Mini/Basic.lean", .str "lakefile.lean"])]
  pack :=
    { version := "1", name := "p", description := "", pathRules := [{ glob := "lakefile.*" }] }

/-- The same, in another order. -/
def turned : Input where
  interactive := some [("diagnostics",
    .arr [.obj [("severity", .str "info")], .obj [("severity", .str "error")]])]
  batch := some [("ok", .bool true)]
  patchMetadata := [("changed_files", .arr [.str "lakefile.lean", .str "Mini/Basic.lean"])]
  pack :=
    { version := "1", name := "p", description := "", pathRules := [{ glob := "lakefile.*" }] }

theorem before_after : Adds before after where
  diagnostics := .list (.insert (by decide) (.keep _ .nil))
  batch := rfl
  changedFiles := .cons_cons _ (.cons _ .slnil)
  protectedPaths := by simp [Input.meta, before, Dict.getD]
  importsChanged := by simp [Input.meta, before, Dict.getD]
  trustDelta := by simp [Input.meta, before, Dict.getD]
  pathRules := .nil
  trustGates := .nil
  allowTrustCompiler := by simp [after]
  requireHumanIfImportsChange := by simp [after]
  requireHumanOnTrustDelta := by simp [after]

theorem after_turned : Permuted after turned where
  diagnostics := .inr ⟨_, _, rfl, rfl, .swap _ _ _⟩
  batch := rfl
  changedFiles := .swap _ _ _
  others := by
    intro key hkey
    simp [Input.meta, after, turned, Dict.getD, Ne.symm hkey]
  pathRules := .refl _
  trustGates := ⟨[], .refl _, .nil⟩
  allowTrustCompiler := rfl
  requireHumanIfImportsChange := rfl
  requireHumanOnTrustDelta := rfl

end Scripted

theorem policy_order_scripted :
    (∃ d, Scripted.after.evaluate = .ok d ∧ severity .accepted ≤ severity d.decision) ∧
      Scripted.after.evaluate.map outcome = Scripted.turned.evaluate.map outcome :=
  ⟨(policy_order Scripted.before Scripted.after).1 Scripted.before_after
      (decisionOf Scripted.before.pack acceptance) (by decide),
    (policy_order Scripted.after Scripted.turned).2 Scripted.after_turned⟩

end PolicyEngine

end ObligationRuntime
