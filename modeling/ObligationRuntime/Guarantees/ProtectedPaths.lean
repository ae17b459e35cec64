/-
  ObligationRuntime.Guarantees.ProtectedPaths — protected files.

  The gateway resolves the keys of a patch to files; the review compares them as
  text, with the obligation's own list and with the globs of the pack.  So a
  protected file is protected under the spelling of the rule: plain spellings on
  both sides are enough, another spelling of the same file passes.  The pack's own
  list is compared with nothing.

  Main results:
    * `plain_same_decision`, `plain_protected_reviewed` — what plain spellings
      guarantee,
    * `protected_spellings_iff` — when two spellings get one decision, and when a
      protected file is reviewed,
    * `protected_spellings_fail` — a protected file, accepted,
    * `pack_protected_iff` — when a file of the pack's list is reviewed,
    * `pack_protected_fails` — a file of the pack's list, accepted.
-/
import ObligationRuntime.Gateway.Workspace
import ObligationRuntime.Runtime.Graph
import ObligationRuntime.Runtime.Review

namespace ObligationRuntime

open Py Posix Handlers PolicyEngine Gateway

/-! ## §1. Files and patches. -/

/-- Two patches that are applied, and leave the same files with the same
contents. -/
structure SameFiles (root : List Comp) (p q : Patch) : Prop where
  left : (writeFiles root p).result = .ok ()
  right : (writeFiles root q).result = .ok ()
  same : ∀ file, contentAfter (writeFiles root p).calls file =
    contentAfter (writeFiles root q).calls file

/-- A protected file: an entry of the obligation's list names it, or a path rule
that wants a reviewer matches its path below the root. -/
inductive Protected (root : List Comp) (deps : Deps) (t : State) (file : List Comp) : Prop
  | listed (paths : List Json) (list : t.protectedPaths = .ok paths) (entry : String)
      (mem : Json.str entry ∈ paths) (names : resolveUnderRoot root entry = .ok file)
  | ruled (rule : PathRule) (mem : rule ∈ (loadPackForReview deps t).pathRules)
      (human : rule.requireHuman = true) (rel : List Comp) (path : file = root ++ rel)
      (hit : globMatches rule.glob (replaceChar '\\' '/' (spell rel)) = true)

/-- The state's patch is written onto a protected file. -/
def WritesProtected (root : List Comp) (deps : Deps) (t : State) : Prop :=
  ∃ w ∈ (writeFiles root (t.currentPatch.getD [])).calls, Protected root deps t w.file

/-! ## §2. Plain spellings. -/

section

variable {root : List Comp} {deps : Deps} {t : State} {p q : Patch}

theorem content_of_mem {k content : String} (hnd : p.paths.Nodup) (h : (k, content) ∈ p) :
    p.content k = content := by
  induction p with
  | nil => cases h
  | cons kv p ih =>
      obtain ⟨k', content'⟩ := kv
      simp only [Patch.paths, List.map_cons, List.nodup_cons] at hnd
      rcases List.mem_cons.mp h with h | h
      · obtain ⟨rfl, rfl⟩ := Prod.mk.inj h
        simp [Patch.content]
      · have hne : k' ≠ k := by
          rintro rfl
          exact hnd.1 (List.mem_map_of_mem h)
        simp [Patch.content, hne, ih hnd.2 h]

/-- Plain patches that leave the same files have the same entries. -/
theorem SameFiles.entries (h : SameFiles root p q) (hp : PlainPatch p) (hq : PlainPatch q)
    (k content : String) : (k, content) ∈ p ↔ (k, content) ∈ q := by
  have hto : ∀ {p q : Patch}, SameFiles root p q → PlainPatch p → PlainPatch q →
      (k, content) ∈ p → (k, content) ∈ q := by
    intro p q h hp hq hmem
    have hplain := hp.plain k (List.mem_map_of_mem hmem)
    obtain ⟨file, hf, -⟩ := writeFiles_all h.left _ hmem
    have hafter := (contentAfter_eq_some hp h.left hplain hf).mpr hmem
    exact (contentAfter_eq_some hq h.right hplain hf).mp ((h.same file).symm.trans hafter)
  exact ⟨hto h hp hq, hto ⟨h.right, h.left, fun file => (h.same file).symm⟩ hq hp⟩

/-- Two patches with the same entries have one summary. -/
theorem summarizePatch_congr (sha256 : String → String) (paths : List Json)
    (hp : p.paths.Nodup) (hq : q.paths.Nodup)
    (h : ∀ k content, (k, content) ∈ p ↔ (k, content) ∈ q) :
    summarizePatch sha256 [] p paths = summarizePatch sha256 [] q paths := by
  have hkeys : ∀ k, k ∈ p.paths ↔ k ∈ q.paths := by
    intro k
    simp only [Patch.paths, List.mem_map, Prod.exists, exists_and_right, exists_eq_right]
    exact exists_congr fun content => h k content
  -- Both lists are sorted and have no doubles.
  have hfiles : changedFiles [] p = changedFiles [] q := by
    refine List.Perm.eq_of_pairwise' (r := (· ≤ ·)) (List.pairwise_insertionSort _ _)
      (List.pairwise_insertionSort _ _) ?_
    refine (List.perm_insertionSort _ _).trans (.trans ?_ (List.perm_insertionSort _ _).symm)
    rw [List.perm_ext_iff_of_nodup (List.nodup_dedup _) (List.nodup_dedup _)]
    intro k
    simpa [Patch.paths] using hkeys k
  have hcontent : ∀ k ∈ changedFiles [] q, p.content k = q.content k := by
    intro k hk
    have hk' : k ∈ q.paths := by simpa [mem_changedFiles, Patch.paths] using hk
    obtain ⟨⟨k', content⟩, hmem, rfl⟩ := List.mem_map.mp hk'
    rw [content_of_mem hq hmem, content_of_mem hp ((h _ _).mpr hmem)]
  have himports : (changedFiles [] q).any (importsChangedAt [] p) =
      (changedFiles [] q).any (importsChangedAt [] q) := by
    rw [Bool.eq_iff_iff, List.any_eq_true, List.any_eq_true]
    refine exists_congr fun k => and_congr_right fun hk => ?_
    simp only [importsChangedAt, hcontent k hk]
  have hjoin : (changedFiles [] q).map p.content = (changedFiles [] q).map q.content :=
    List.map_congr_left hcontent
  simp only [summarizePatch, hfiles, himports, hjoin]

/-- **Plain spellings, one decision**: plain patches that leave the same files are
reviewed alike. -/
theorem plain_same_decision (h : SameFiles root p q) (hp : PlainPatch p) (hq : PlainPatch q) :
    reviewDecision deps (t.withPatch p) = reviewDecision deps (t.withPatch q) := by
  rw [reviewDecision_eq_iff]
  cases hpaths : t.protectedPaths with
  | error e => exact .inl (.paths e hpaths)
  | ok paths =>
      refine .inr ⟨paths, hpaths, ?_⟩
      rw [summarizePatch_congr deps.sha256 paths hp.nodup hq.nodup (h.entries hp hq)]

/-- A rule of the table that fires on the state's patch stops its review. -/
theorem ruleFires_of {paths : List Json} (hpaths : t.protectedPaths = .ok paths) {r : PatchRule}
    (hr : r ∈ patchRules (loadPackForReview deps t) t.batch)
    (hf : r.fires (summarizePatch deps.sha256 [] (t.currentPatch.getD []) paths) = true) :
    RuleFires deps t :=
  ⟨_, patchSummary_eq hpaths, r, hr, hf⟩

theorem protectedRule_mem : protectedRule ∈ patchRules (loadPackForReview deps t) t.batch := by
  simp [patchRules]

/-- A key that IS an entry of the obligation's list is touched. -/
theorem protectedRule_fires {sha256 : String → String} {p : Patch} {paths : List Json}
    {k : String} (hk : k ∈ p.paths) (hmem : Json.str k ∈ paths) :
    protectedRule.fires (summarizePatch sha256 [] p paths) = true := by
  have hne : protectedTouched (changedFiles [] p) paths ≠ [] := by
    rw [ne_eq, protectedTouched_eq_nil]
    exact fun h => h k (mem_changedFiles.mpr (.inr hk)) hmem
  simpa [protectedRule, summarizePatch] using hne

/-- A key that matches a path rule is found by it. -/
theorem pathRule_fires {sha256 : String → String} {p : Patch} {paths : List Json} {k : String}
    {rule : PathRule} (hk : k ∈ p.paths) (human : rule.requireHuman = true)
    (hit : globMatches rule.glob (replaceChar '\\' '/' k) = true) :
    (pathRuleOf rule).fires (summarizePatch sha256 [] p paths) = true := by
  simp only [pathRuleOf, pathRuleFires, human, Bool.and_true, List.any_eq_true]
  exact ⟨_, List.mem_map_of_mem (mem_changedFiles.mpr (.inr hk)), hit⟩

/-- **Plain spellings are reviewed**: where the keys of the patch and the entries of
the list are plain, no patch onto a protected file is accepted. -/
theorem plain_protected_reviewed (hkeys : ∀ k ∈ (t.currentPatch.getD []).paths, PlainKey k)
    (hlist : ∀ paths, t.protectedPaths = .ok paths → ∀ entry, Json.str entry ∈ paths →
      PlainKey entry)
    (h : WritesProtected root deps t) : ¬ Yields deps t .accepted := by
  obtain ⟨w, hw, hprot⟩ := h
  obtain ⟨k, hmem, hfile⟩ := mem_writeFiles hw
  have hk : k ∈ (t.currentPatch.getD []).paths := List.mem_map_of_mem hmem
  rw [not_yields_iff]
  cases hprot with
  | listed paths list entry mem names =>
      -- One file, two plain spellings: the key IS the entry of the list.
      obtain rfl := (hkeys k hk).eq_of_file (hlist paths list entry mem) hfile names
      exact .inr (ruleFires_of list protectedRule_mem (protectedRule_fires hk mem))
  | ruled rule mem human rel path hit =>
      cases hpaths : t.protectedPaths with
      | error e => exact .inl (.paths e hpaths)
      | ok paths =>
          obtain ⟨rel', hrel', rfl⟩ := hkeys k hk
          have hplain := eq_of_resolveUnderRoot_spell hrel' hfile
          -- The plain key is the path below the root that the rule matches.
          obtain rfl := List.append_cancel_left (path.symm.trans hplain)
          refine .inr (ruleFires_of hpaths (r := pathRuleOf rule) ?_ (pathRule_fires hk human hit))
          simp only [patchRules, List.mem_append]
          exact .inr (.inl (List.mem_map_of_mem mem))

end

/-! ## §3. Other spellings. -/

/-- **Protected files under another spelling: exactly when.**  Two patches that
leave the same files get one decision iff the review is settled before it looks at
them or the rules that fire first, on the keys as they are spelled, say the same.
A patch onto a protected file is not accepted iff the review is settled before or
some rule fires on its keys as they are spelled. -/
theorem protected_spellings_iff (root : List Comp) (deps : Deps) (t : State) :
    (∀ p q, SameFiles root p q →
      (reviewDecision deps (t.withPatch p) = reviewDecision deps (t.withPatch q) ↔
        SettledBefore deps t ∨ SameStop deps t p q)) ∧
    (WritesProtected root deps t →
      (¬ Yields deps t .accepted ↔ SettledBefore deps t ∨ RuleFires deps t)) :=
  ⟨fun _ _ _ => reviewDecision_eq_iff, fun _ => not_yields_iff⟩

namespace Scripted

/-- The workspace. -/
def root : List Comp := ["workspaces".toList, "s1".toList]

/-- An obligation with one protected file. -/
def protectedObligation : Dict :=
  [("policy", .obj [("protected_paths", .arr [.str "Foo/Safety.lean"])])]

/-- A state before its review, with clean evidence. -/
def unreviewed (obligation : Dict) (key : String) : State where
  obligation := some obligation
  currentPatch := some [(key, "theorem one : 1 = 1 := rfl")]
  interactiveResult := some (some checked.dump)
  batchResult := some (some verified.dump)

end Scripted

/-- **A protected file, accepted**: `./Foo/Safety.lean` is written onto the
protected `Foo/Safety.lean`, and accepted, where the plain key is not. -/
theorem protected_spellings_fail :
    let deps := Scripted.deps "s1" Scripted.checked Scripted.verified Scripted.pack
    let t := Scripted.unreviewed Scripted.protectedObligation "./Foo/Safety.lean"
    let plain : Patch := [("Foo/Safety.lean", "theorem one : 1 = 1 := rfl")]
    WritesProtected Scripted.root deps t ∧ Yields deps t .accepted ∧
      SameFiles Scripted.root (t.currentPatch.getD []) plain ∧
      reviewDecision deps (t.withPatch plain) ≠ reviewDecision deps t := by
  intro deps t plain
  have hwrites : (writeFiles Scripted.root (t.currentPatch.getD [])).calls =
      (writeFiles Scripted.root plain).calls := by decide
  refine ⟨⟨_, List.mem_cons_self .., ?_⟩, by decide, ?_, by decide⟩
  · exact .listed [.str "Foo/Safety.lean"] rfl "Foo/Safety.lean" (by simp) (by decide)
  · exact ⟨by decide, by decide, fun file => by rw [hwrites]⟩

/-! ## §4. The pack's own list. -/

/-- The patch touches a path of the obligation's list. -/
def TouchesObligation (t : State) : Prop :=
  ∃ paths, t.protectedPaths = .ok paths ∧
    ∃ k ∈ (t.currentPatch.getD []).paths, Json.str k ∈ paths

/-- A review that nobody approved, under a pack with protected paths, of a patch
that touches one of them or one of the obligation's. -/
structure PackProtects (deps : Deps) (t : State) : Prop where
  listed : (loadPackForReview deps t).protectedPaths ≠ []
  notApproved : t.approval ≠ .str "approved"
  touches : TouchesObligation t ∨
    ∃ k ∈ (t.currentPatch.getD []).paths, k ∈ (loadPackForReview deps t).protectedPaths

/-- Another rule than the protected paths fires: a trust gate, a path rule, or the
imports. -/
def OtherRuleFires (deps : Deps) (t : State) : Prop :=
  ∃ summary, patchSummary deps t = .ok summary ∧
    ∃ r ∈ trustRules (loadPackForReview deps t) t.batch ++
      ((loadPackForReview deps t).pathRules.map pathRuleOf ++
        [importsRule (loadPackForReview deps t)]), r.fires summary = true

section

variable {deps : Deps} {t : State}

/-- The rules that can fire: the obligation's list, and the others. -/
theorem ruleFires_iff : RuleFires deps t ↔ TouchesObligation t ∨ OtherRuleFires deps t := by
  have hsplit : ∀ r, r ∈ patchRules (loadPackForReview deps t) t.batch ↔
      r = protectedRule ∨ r ∈ trustRules (loadPackForReview deps t) t.batch ++
        ((loadPackForReview deps t).pathRules.map pathRuleOf ++
          [importsRule (loadPackForReview deps t)]) := by
    intro r
    simp only [patchRules, List.mem_append, List.mem_cons, List.not_mem_nil, or_false]
    tauto
  rw [ruleFires_split hsplit]
  refine or_congr_left ?_
  constructor
  · intro h
    obtain ⟨summary, hs, hf⟩ := h
    obtain ⟨paths, hpaths, hs⟩ := bind_eq_ok_iff.mp hs
    obtain rfl := Except.ok.inj hs
    -- The rule fires where a changed file is on the list, and files change by the patch only.
    have hne : protectedTouched (changedFiles [] (t.currentPatch.getD [])) paths ≠ [] := by
      simpa [protectedRule, summarizePatch] using hf
    rw [ne_eq, protectedTouched_eq_nil] at hne
    push Not at hne
    obtain ⟨k, hk, hmem⟩ := hne
    have hk' : k ∈ (t.currentPatch.getD []).paths := by
      simpa [mem_changedFiles, Patch.paths] using hk
    exact ⟨paths, hpaths, k, hk', hmem⟩
  · intro h
    obtain ⟨paths, hpaths, k, hk, hmem⟩ := h
    exact ⟨_, patchSummary_eq hpaths, protectedRule_fires hk hmem⟩

/-- **The pack's list is not read**: another one gives the same decision. -/
theorem reviewDecision_packList (pack : PolicyPack) (hload : ∀ n, deps.loadPack n = .ok pack)
    (paths : List String) :
    reviewDecision { deps with loadPack := fun _ => .ok { pack with protectedPaths := paths } } t =
      reviewDecision deps t := by
  have hpack : loadPackForReview deps t = pack := by simp [loadPackForReview, hload]
  simp only [reviewDecision, evaluateState, hpack]
  rfl

end

/-- The obligation's list is enforced, as text. -/
theorem obligation_protected {deps : Deps} {t : State} (h : TouchesObligation t) :
    ¬ Yields deps t .accepted := by
  rw [not_yields_iff, ruleFires_iff]
  exact .inr (.inl h)

/-- **The pack's protected paths: exactly when they are enforced.**  A patch that
touches them is not accepted iff it touches the obligation's own list, the review
is settled before it looks at the patch, or another rule fires. -/
theorem pack_protected_iff (deps : Deps) (t : State) :
    (PackProtects deps t → ¬ Yields deps t .accepted) ↔
      (PackProtects deps t →
        TouchesObligation t ∨ SettledBefore deps t ∨ OtherRuleFires deps t) := by
  rw [not_yields_iff, ruleFires_iff, or_left_comm]

namespace Scripted

/-- The built-in pack for protected modules. -/
def protectedModuleReview : PolicyPack where
  version := "0.1.0"
  name := "protected_module_review_v1"
  description := "Protected modules always require human sign-off"
  protectedPaths := ["Foo/Safety.lean", "Foo/Policy.lean"]

/-- The scripted gateway, under that pack. -/
def protectedDeps : Deps := deps "s1" checked verified protectedModuleReview

end Scripted

/-- **A file of the pack's list, accepted.** -/
theorem pack_protected_fails :
    PackProtects Scripted.protectedDeps (Scripted.unreviewed [] "Foo/Safety.lean") ∧
      Yields Scripted.protectedDeps (Scripted.unreviewed [] "Foo/Safety.lean") .accepted :=
  ⟨⟨by decide, by decide, .inr ⟨"Foo/Safety.lean", by decide, by decide⟩⟩, by decide⟩

end ObligationRuntime
