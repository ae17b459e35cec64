/-
  ObligationRuntime.Runtime.Review — `policy_review`, as a condition on the state
  it reads.

  `policy_review` keeps a refusal, blocks on a missing token, and else lets the
  engine decide on the evidence and on a summary of the patch.  The summary knows
  the patch by the TEXT of its keys.

  Main results:
    * `reviewDecision_cases` — what the node can write,
    * `letThrough_iff`, `yields_accepted_iff` — when it writes an acceptance,
    * `not_yields_iff` — the reasons for which it does not, one by one,
    * `reviewDecision_eq_iff` — when two patches get the same decision.
-/
import ObligationRuntime.Policy.PatchRules
import ObligationRuntime.Runtime.Handlers

namespace ObligationRuntime

open Py Handlers PolicyEngine

section

variable {deps : Deps}

/-! ## §1. What the node can write. -/

/-- The review looks at the evidence and finds `d`: no refusal stands, and the
reviewer gate, if there is one, has its token. -/
structure Finds (deps : Deps) (t : State) (d : PolicyDecision) : Prop where
  notRefused : alreadyRefused t = false
  token : (loadPackForReview deps t).reviewerGatedExecution = true → tokenMissing t = false
  evaluates : evaluateState deps t = .ok d

/-- What `policy_review` can write: nothing over a refusal, the missing token, or
what it finds. -/
theorem reviewDecision_cases {t : State} {decision : Option Dict}
    (h : reviewDecision deps t = .ok decision) :
    (alreadyRefused t = true ∧ decision = none) ∨
      (alreadyRefused t = false ∧ (loadPackForReview deps t).reviewerGatedExecution = true ∧
        tokenMissing t = true ∧ decision = some missingToken) ∨
      ∃ d, Finds deps t d ∧ decision = some d.dump := by
  unfold reviewDecision at h
  split at h
  next hr => exact .inl ⟨hr, (Except.ok.inj h).symm⟩
  next hr =>
    have hr' : alreadyRefused t = false := by simpa using hr
    split at h
    next hg =>
      simp only [Bool.and_eq_true] at hg
      exact .inr (.inl ⟨hr', hg.1, hg.2, (Except.ok.inj h).symm⟩)
    next hg =>
      cases he : evaluateState deps t with
      | error e => simp [he, Except.map] at h
      | ok d =>
          refine .inr (.inr ⟨d, ⟨hr', ?_, he⟩, ?_⟩)
          · intro hgate
            simpa [hgate] using hg
          · simpa [he, Except.map, eq_comm] using h

/-- What the review decides where the evidence is evaluated. -/
theorem reviewDecision_of_finds {t : State} {d : PolicyDecision} (h : Finds deps t d) :
    reviewDecision deps t = .ok (some d.dump) := by
  have hg : ((loadPackForReview deps t).reviewerGatedExecution && tokenMissing t) = false := by
    cases hgate : (loadPackForReview deps t).reviewerGatedExecution with
    | false => rfl
    | true => simp [h.token hgate]
  simp [reviewDecision, h.notRefused, hg, h.evaluates, Except.map]

/-! ## §2. Letting a state through. -/

/-- The state's evidence gives the engine no reason to stop: neither the
diagnostics, nor a batch result, nor the patch. -/
def EvidencePasses (deps : Deps) (t : State) : Prop :=
  ∃ summary, patchSummary deps t = .ok summary ∧
    InteractivePasses t.interactive ∧
    (∀ b, Dict.present t.batch = some b → BatchPasses (loadPackForReview deps t)
      (normalizedFiles summary.metadata) b) ∧
    PatchPasses (loadPackForReview deps t) summary.metadata

/-- The evaluation accepts exactly where the evidence passes. -/
theorem evaluateState_accepts_iff {t : State} :
    (∃ d, evaluateState deps t = .ok d ∧ d.decision = .accepted) ↔ EvidencePasses deps t := by
  unfold EvidencePasses evaluateState
  constructor
  · intro h
    obtain ⟨d, hd, hacc⟩ := h
    obtain ⟨summary, hs, he⟩ := bind_eq_ok_iff.mp hd
    exact ⟨summary, hs, (evaluate_accepts_iff ..).mp ⟨d, he, hacc⟩⟩
  · intro h
    obtain ⟨summary, hs, hpasses⟩ := h
    obtain ⟨d, hd, hacc⟩ := (evaluate_accepts_iff ..).mpr hpasses
    exact ⟨d, bind_eq_ok_iff.mpr ⟨summary, hs, hd⟩, hacc⟩

/-- The review lets a state through: nothing refused it, the token is there if
the pack wants one, and the evidence passes. -/
structure LetThrough (deps : Deps) (t : State) : Prop where
  notRefused : alreadyRefused t = false
  token : (loadPackForReview deps t).reviewerGatedExecution = true → tokenMissing t = false
  evidence : EvidencePasses deps t

/-- The review lets through what it finds acceptable. -/
theorem letThrough_iff {t : State} :
    LetThrough deps t ↔ ∃ d, Finds deps t d ∧ d.decision = .accepted := by
  constructor
  · intro h
    obtain ⟨href, htok, hev⟩ := h
    obtain ⟨d, hd, hacc⟩ := evaluateState_accepts_iff.mpr hev
    exact ⟨d, ⟨href, htok, hd⟩, hacc⟩
  · intro h
    obtain ⟨d, ⟨href, htok, hd⟩, hacc⟩ := h
    exact ⟨href, htok, evaluateState_accepts_iff.mp ⟨d, hd, hacc⟩⟩

/-- `policy_review` writes a decision. -/
def Yields (deps : Deps) (t : State) (decision : Decision) : Prop :=
  ∃ pd, reviewDecision deps t = .ok (some pd) ∧
    Dict.get? pd "decision" = some (.str decision.text)

instance (t : State) (decision : Decision) : Decidable (Yields deps t decision) :=
  decidable_of_iff
    ((reviewDecision deps t).toOption.join.bind (Dict.get? · "decision") =
      some (.str decision.text))
    (by
      unfold Yields
      rcases reviewDecision deps t with e | (_ | pd) <;> simp [Except.toOption])

/-- **The review writes an acceptance** exactly when it lets the state through. -/
theorem yields_accepted_iff {t : State} : Yields deps t .accepted ↔ LetThrough deps t := by
  rw [letThrough_iff]
  constructor
  · intro h
    obtain ⟨pd, hpd, hacc⟩ := h
    rcases reviewDecision_cases hpd with ⟨-, hnone⟩ | ⟨-, -, -, hmiss⟩ | ⟨d, hd, hfound⟩
    · cases hnone
    -- The missing token is written as `blocked`.
    · obtain rfl := Option.some.inj hmiss
      simp [missingToken, Decision.text] at hacc
    · obtain rfl := Option.some.inj hfound
      rw [PolicyDecision.dump_get_decision] at hacc
      refine ⟨d, hd, ?_⟩
      cases hdec : d.decision <;> simp [hdec, Decision.text] at hacc ⊢
  · intro h
    obtain ⟨d, hd, hacc⟩ := h
    exact ⟨d.dump, reviewDecision_of_finds hd, by rw [PolicyDecision.dump_get_decision, hacc]⟩

/-! ## §3. Why the review does not let a state through. -/

/-- The review is settled before it looks at the patch: a refusal stands, the
token is missing, the obligation's protected paths are no list, or the evidence
is not clear. -/
inductive SettledBefore (deps : Deps) (t : State) : Prop
  | refused (h : alreadyRefused t = true)
  | token (gated : (loadPackForReview deps t).reviewerGatedExecution = true)
      (h : tokenMissing t = true)
  | paths (e : PyError) (h : t.protectedPaths = .error e)
  | evidence (h : ¬ EvidenceClear (loadPackForReview deps t) t.interactive t.batch)

/-- A rule fires on the patch as it is spelled. -/
def RuleFires (deps : Deps) (t : State) : Prop :=
  ∃ summary, patchSummary deps t = .ok summary ∧
    ∃ r ∈ patchRules (loadPackForReview deps t) t.batch, r.fires summary = true

/-- One of the rules fires: this one, or one of the others. -/
theorem ruleFires_split {deps : Deps} {t : State} {rule : PatchRule} {others : List PatchRule}
    (h : ∀ r, r ∈ patchRules (loadPackForReview deps t) t.batch ↔ r = rule ∨ r ∈ others) :
    RuleFires deps t ↔
      (∃ summary, patchSummary deps t = .ok summary ∧ rule.fires summary = true) ∨
        ∃ summary, patchSummary deps t = .ok summary ∧ ∃ r ∈ others, r.fires summary = true := by
  constructor
  · intro hfires
    obtain ⟨summary, hs, r, hr, hf⟩ := hfires
    rcases (h r).mp hr with rfl | hr
    · exact .inl ⟨summary, hs, hf⟩
    · exact .inr ⟨summary, hs, r, hr, hf⟩
  · intro hfires
    rcases hfires with ⟨summary, hs, hf⟩ | ⟨summary, hs, r, hr, hf⟩
    · exact ⟨summary, hs, rule, (h rule).mpr (.inl rfl), hf⟩
    · exact ⟨summary, hs, r, (h r).mpr (.inr hr), hf⟩

/-- The summary of the patch, where the protected paths are a list. -/
theorem patchSummary_eq {t : State} {paths : List Json} (h : t.protectedPaths = .ok paths) :
    patchSummary deps t =
      .ok (summarizePatch deps.sha256 [] (t.currentPatch.getD []) paths) := by
  simp [patchSummary, h]

/-- Where they are none there is no summary. -/
theorem patchSummary_error {t : State} {e : PyError} (h : t.protectedPaths = .error e) :
    patchSummary deps t = .error e := by
  simp [patchSummary, h]

/-- Passing evidence is clear, and no rule fires. -/
theorem evidencePasses_iff {t : State} :
    EvidencePasses deps t ↔
      ∃ summary, patchSummary deps t = .ok summary ∧
        EvidenceClear (loadPackForReview deps t) t.interactive t.batch ∧
        ∀ r ∈ patchRules (loadPackForReview deps t) t.batch, r.fires summary = false := by
  rw [← evaluateState_accepts_iff]
  simp only [evaluateState, ← evaluate_accepts_summary_iff]
  constructor
  · intro h
    obtain ⟨d, hd, hacc⟩ := h
    obtain ⟨summary, hs, he⟩ := bind_eq_ok_iff.mp hd
    exact ⟨summary, hs, d, he, hacc⟩
  · intro h
    obtain ⟨summary, hs, d, he, hacc⟩ := h
    exact ⟨d, bind_eq_ok_iff.mpr ⟨summary, hs, he⟩, hacc⟩

/-- **Why there is no acceptance**: the review was settled before, or a rule
fires. -/
theorem not_yields_iff {t : State} :
    ¬ Yields deps t .accepted ↔ SettledBefore deps t ∨ RuleFires deps t := by
  rw [yields_accepted_iff]
  constructor
  · intro hno
    by_contra hnone
    rw [not_or] at hnone
    obtain ⟨hset, hrule⟩ := hnone
    -- Not settled before, and no rule fires: the state is let through.
    refine hno ⟨?_, fun hgate => ?_, ?_⟩
    · simpa using fun h => hset (.refused h)
    · simpa using fun h => hset (.token hgate h)
    · cases hp : t.protectedPaths with
      | error e => exact absurd (.paths e hp) hset
      | ok paths =>
          refine evidencePasses_iff.mpr ⟨_, patchSummary_eq hp, ?_, fun r hr => ?_⟩
          · by_contra hev
            exact hset (.evidence hev)
          · by_contra hf
            exact hrule ⟨_, patchSummary_eq hp, r, hr, by simpa using hf⟩
  · rintro (hset | ⟨summary, hs, r, hr, hf⟩) ⟨href, htok, hev⟩
    · obtain ⟨summary, hs, hclear, -⟩ := evidencePasses_iff.mp hev
      cases hset with
      | refused h => simp [h] at href
      | token gated h => simp [htok gated] at h
      | paths e h => simp [patchSummary_error h] at hs
      | evidence h => exact h hclear
    · obtain ⟨summary', hs', -, hpass⟩ := evidencePasses_iff.mp hev
      obtain rfl : summary = summary' := by simpa [hs] using hs'
      simp [hpass r hr] at hf

/-! ## §4. One state, two patches. -/

/-- The state with another patch. -/
def State.withPatch (t : State) (p : Patch) : State := { t with currentPatch := some p }

/-- The rules that stop two patches say the same, or none stops either. -/
def SameStop (deps : Deps) (t : State) (p q : Patch) : Prop :=
  ∃ paths, t.protectedPaths = .ok paths ∧
    (stoppingRule (loadPackForReview deps t) t.batch
        (summarizePatch deps.sha256 [] p paths)).map PatchRule.says =
      (stoppingRule (loadPackForReview deps t) t.batch
        (summarizePatch deps.sha256 [] q paths)).map PatchRule.says

/-- The evaluation of another patch. -/
theorem evaluateState_withPatch {t : State} {paths : List Json}
    (h : t.protectedPaths = .ok paths) (p : Patch) :
    evaluateState deps (t.withPatch p) =
      evaluate t.interactive t.batch (summarizePatch deps.sha256 [] p paths).metadata
        (loadPackForReview deps t) := by
  have hp : (t.withPatch p).protectedPaths = .ok paths := h
  rw [evaluateState, patchSummary_eq hp, ok_bind]
  rfl

/-- Without a list of protected paths every patch fails. -/
theorem evaluateState_withPatch_error {t : State} {e : PyError}
    (h : t.protectedPaths = .error e) (p : Patch) :
    evaluateState deps (t.withPatch p) = .error e := by
  have hp : (t.withPatch p).protectedPaths = .error e := h
  rw [evaluateState, patchSummary_error hp]
  rfl

/-- The decision on a patch, where it is looked at. -/
theorem reviewDecision_withPatch {t : State} (href : alreadyRefused t = false)
    (htok : (loadPackForReview deps t).reviewerGatedExecution = true → tokenMissing t = false)
    (p : Patch) :
    reviewDecision deps (t.withPatch p) =
      (evaluateState deps (t.withPatch p)).map fun d => some d.dump := by
  have href' : alreadyRefused (t.withPatch p) = false := href
  have hgate : ((loadPackForReview deps (t.withPatch p)).reviewerGatedExecution &&
      tokenMissing (t.withPatch p)) = false := by
    show ((loadPackForReview deps t).reviewerGatedExecution && tokenMissing t) = false
    cases hg : (loadPackForReview deps t).reviewerGatedExecution with
    | false => rfl
    | true => simp [htok hg]
  simp [reviewDecision, href', hgate]

/-- **When two patches get the same decision**: the review is settled before it
looks at them, or the rules that stop them say the same. -/
theorem reviewDecision_eq_iff {t : State} {p q : Patch} :
    reviewDecision deps (t.withPatch p) = reviewDecision deps (t.withPatch q) ↔
      SettledBefore deps t ∨ SameStop deps t p q := by
  by_cases href : alreadyRefused t = true
  · have hkeep : ∀ p, reviewDecision deps (t.withPatch p) = .ok none := by
      intro p
      have h : alreadyRefused (t.withPatch p) = true := href
      simp [reviewDecision, h]
    simp [hkeep, SettledBefore.refused href]
  -- Neither a standing refusal nor a missing token looks at the patch.
  by_cases htok : (loadPackForReview deps t).reviewerGatedExecution = true ∧ tokenMissing t = true
  · have hblock : ∀ p, reviewDecision deps (t.withPatch p) = .ok (some missingToken) := by
      intro p
      have h : alreadyRefused (t.withPatch p) = false := Bool.eq_false_iff.mpr href
      have hg : (loadPackForReview deps (t.withPatch p)).reviewerGatedExecution = true := htok.1
      have hm : tokenMissing (t.withPatch p) = true := htok.2
      simp [reviewDecision, h, hg, hm]
    simp [hblock, SettledBefore.token htok.1 htok.2]
  have href' : alreadyRefused t = false := by simpa using href
  have htok' : (loadPackForReview deps t).reviewerGatedExecution = true →
      tokenMissing t = false := fun hg => by simpa using fun hm => htok ⟨hg, hm⟩
  rw [reviewDecision_withPatch href' htok', reviewDecision_withPatch href' htok']
  cases hp : t.protectedPaths with
  | error e =>
      rw [evaluateState_withPatch_error hp, evaluateState_withPatch_error hp]
      simp [SettledBefore.paths e hp]
  | ok paths =>
      rw [evaluateState_withPatch hp, evaluateState_withPatch hp]
      by_cases hev : EvidenceClear (loadPackForReview deps t) t.interactive t.batch
      · have hopen : ¬ SettledBefore deps t := by
          intro h
          cases h with
          | refused h => exact href h
          | token gated h => exact htok ⟨gated, h⟩
          | paths e h => simp [hp] at h
          | evidence h => exact h hev
        have hsame : SameStop deps t p q ↔
            evaluate t.interactive t.batch (summarizePatch deps.sha256 [] p paths).metadata
                (loadPackForReview deps t) =
              evaluate t.interactive t.batch (summarizePatch deps.sha256 [] q paths).metadata
                (loadPackForReview deps t) := by
          rw [evaluate_eq_iff hev]
          simp [SameStop, hp]
        simp only [hsame, hopen, false_or]
        constructor
        · intro h
          rw [evaluate_eq_of_clear hev, evaluate_eq_of_clear hev] at h ⊢
          -- The state holds the dumped decision, and dumping is injective.
          have hd := PolicyDecision.dump_injective (Option.some.inj (Except.ok.inj h))
          rw [hd]
        · intro h
          rw [h]
      · rw [(evaluate_eq_of_unclear hev).1 (summarizePatch deps.sha256 [] q paths)]
        simp [SettledBefore.evidence hev]

end

end ObligationRuntime
