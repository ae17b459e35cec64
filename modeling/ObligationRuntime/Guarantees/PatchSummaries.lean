/-
  ObligationRuntime.Guarantees.PatchSummaries — what the summary of a patch can tell.

  `summarize_patch` compares two versions of the files, and is called with an empty first
  one.  So it sees an import that a patch writes, if the text `import ` stands in the new
  content, and no import that a patch removes.  And its hash is taken of the contents one
  after the other, without the names and the ends of the files.

  Main results:
    * `importsChanged_iff` — what the summary sees of the imports,
    * `import_changes_iff` — when a change of the imports is not accepted,
    * `import_removed_accepted` — imports removed, and accepted,
    * `diffText_absorbs` — an empty file does not show in the hash,
    * `diff_hash_never_identifies` — every patch shares its hash with another one.
-/
import ObligationRuntime.Guarantees.ProtectedPaths

namespace ObligationRuntime

open Py Handlers PolicyEngine

/-! ## §1. Import lines. -/

/-- A line that imports: `import`, blank space, and a name. -/
def isImportLine (line : String) : Bool :=
  match line.toList.dropWhile isSpace with
  | 'i' :: 'm' :: 'p' :: 'o' :: 'r' :: 't' :: c :: rest => isSpace c && rest.any fun d => !isSpace d
  | _ => false

/-- The import lines of a file. -/
def importLines (content : String) : List String := (splitLines content).filter isImportLine

/-- For some patched file the set of import lines is another one than before the patch. -/
def ImportsDiffer (original : String → String) (p : Patch) : Prop :=
  ∃ k ∈ p.paths, ∃ line,
    ¬ (line ∈ importLines (original k) ↔ line ∈ importLines (p.content k))

/-- The text `import ` stands in a new content. -/
def ImportVisible (p : Patch) : Prop :=
  ∃ k ∈ p.paths, contains "import " (p.content k) = true

/-! ## §2. What the review sees of them. -/

theorem importsChangedAt_nil (p : Patch) (k : String) :
    importsChangedAt [] p k = contains "import " (p.content k) := by
  have hempty : contains "import " "" = false := by decide
  have heq : importsChangedAt [] p k = (decide ("" ≠ p.content k) &&
      (contains "import " "" || contains "import " (p.content k))) := rfl
  rw [heq, hempty, Bool.false_or]
  cases hc : contains "import " (p.content k) with
  | false => exact Bool.and_false _
  | true =>
      -- A content with an import in it is not the empty one.
      have hne : "" ≠ p.content k := by
        intro he
        rw [← he, hempty] at hc
        cases hc
      rw [Bool.and_true]
      exact decide_eq_true hne

/-- **What the summary sees of the imports.** -/
theorem importsChanged_iff (sha256 : String → String) (p : Patch) (paths : List Json) :
    (summarizePatch sha256 [] p paths).importsChanged = true ↔ ImportVisible p := by
  simp only [summarizePatch, List.any_eq_true, importsChangedAt_nil, mem_changedFiles]
  exact exists_congr fun k => and_congr_left fun _ => by simp [Patch.paths]

/-- A rule that is not about imports fires: a trust gate, a path rule, or the protected
paths of the obligation. -/
def NonImportRuleFires (deps : Deps) (t : State) : Prop :=
  ∃ summary, patchSummary deps t = .ok summary ∧
    ∃ r ∈ trustRules (loadPackForReview deps t) t.batch ++
      ((loadPackForReview deps t).pathRules.map pathRuleOf ++ [protectedRule]),
      r.fires summary = true

section

variable {deps : Deps} {t : State}

/-- The rules that can fire: the imports, where the pack asks for them, and the others. -/
theorem ruleFires_imports (hpack : (loadPackForReview deps t).requireHumanIfImportsChange = true)
    {paths : List Json} (hpaths : t.protectedPaths = .ok paths) :
    RuleFires deps t ↔ ImportVisible (t.currentPatch.getD []) ∨ NonImportRuleFires deps t := by
  have hsplit : ∀ r, r ∈ patchRules (loadPackForReview deps t) t.batch ↔
      r = importsRule (loadPackForReview deps t) ∨
        r ∈ trustRules (loadPackForReview deps t) t.batch ++
          ((loadPackForReview deps t).pathRules.map pathRuleOf ++ [protectedRule]) := by
    intro r
    simp only [patchRules, List.mem_append, List.mem_cons, List.not_mem_nil, or_false]
    tauto
  rw [ruleFires_split hsplit]
  refine or_congr_left ?_
  rw [patchSummary_eq hpaths, ← importsChanged_iff deps.sha256 _ paths]
  constructor
  · intro h
    obtain ⟨summary, hs, hf⟩ := h
    obtain rfl := Except.ok.inj hs
    simpa [importsRule, hpack] using hf
  · intro h
    exact ⟨_, rfl, by simpa [importsRule, hpack] using h⟩

end

/-- **Changes of the imports: exactly when they are not accepted.**  Under a pack that asks
for a reviewer when imports change, a change is not accepted iff the text `import ` stands
in a new content, the review is settled before it looks at the patch, or another rule
fires. -/
theorem import_changes_iff (original : String → String) (deps : Deps) (t : State) :
    ((loadPackForReview deps t).requireHumanIfImportsChange = true →
      ImportsDiffer original (t.currentPatch.getD []) → ¬ Yields deps t .accepted) ↔
    ((loadPackForReview deps t).requireHumanIfImportsChange = true →
      ImportsDiffer original (t.currentPatch.getD []) →
        ImportVisible (t.currentPatch.getD []) ∨ SettledBefore deps t ∨
          NonImportRuleFires deps t) := by
  refine forall_congr' fun hpack => forall_congr' fun _ => ?_
  rw [not_yields_iff]
  cases hpaths : t.protectedPaths with
  | error e =>
      -- The review raises before it has a summary.
      have hset : SettledBefore deps t := .paths e hpaths
      exact ⟨fun _ => .inr (.inl hset), fun _ => .inl hset⟩
  | ok paths =>
      rw [ruleFires_imports hpack hpaths]
      exact or_left_comm

namespace Scripted

/-- A file that imports another. -/
def importing : String → String
  | "Mini/Basic.lean" => "import Mini.Safety\n\ntheorem one : 1 = 1 := rfl"
  | _ => ""

/-- A review of a new content for it. -/
def rewriting (content : String) : State where
  currentPatch := some [("Mini/Basic.lean", content)]
  interactiveResult := some (some checked.dump)
  batchResult := some (some verified.dump)

/-- The scripted gateway, under a pack that asks for a reviewer when imports change. -/
def importDeps : Deps :=
  deps "s1" checked verified { version := "1", name := "imports", description := "" }

end Scripted

/-- **Imports removed, or replaced under another spelling, and accepted.** -/
theorem import_removed_accepted :
    (∀ t, (loadPackForReview Scripted.importDeps t).requireHumanIfImportsChange = true) ∧
      (ImportsDiffer Scripted.importing
          ((Scripted.rewriting "theorem one : 1 = 1 := rfl").currentPatch.getD []) ∧
        Yields Scripted.importDeps (Scripted.rewriting "theorem one : 1 = 1 := rfl") .accepted) ∧
      ImportsDiffer Scripted.importing
          ((Scripted.rewriting "import\tMini.Unsafe").currentPatch.getD []) ∧
        Yields Scripted.importDeps (Scripted.rewriting "import\tMini.Unsafe") .accepted := by
  refine ⟨fun _ => rfl, ⟨⟨_, List.mem_cons_self .., "import Mini.Safety", by decide⟩, by decide⟩,
    ⟨_, List.mem_cons_self .., "import Mini.Safety", by decide⟩, by decide⟩

/-! ## §3. The hash of a patch. -/

/-- The text whose digest is the hash of a patch. -/
def diffText (p : Patch) : String := String.join ((changedFiles [] p).map p.content)

theorem diffHash_eq (sha256 : String → String) (p : Patch) (paths : List Json) :
    (summarizePatch sha256 [] p paths).diffHash = sha256 (diffText p) := rfl

/-- A patch: every path has one content. -/
structure PatchMap where
  entries : Patch
  nodup : entries.paths.Nodup

/-- The same paths, with the same contents. -/
def PatchMap.Same (p q : PatchMap) : Prop := ∀ k, p.entries.lookup k = q.entries.lookup k

/-- A path that no file of the patch has. -/
def freshPath (p : Patch) : String := String.join p.paths ++ "x"

theorem freshPath_not_mem (p : Patch) : freshPath p ∉ p.paths := by
  intro hmem
  -- It is longer than all of them together.
  obtain ⟨pre, post, hsplit⟩ := List.append_of_mem hmem
  have hlong : (freshPath p).length = (String.join p.paths).length + 1 :=
    String.length_append _ _
  rw [hsplit, String.join_append, String.join_cons, String.length_append,
    String.length_append] at hlong
  omega

/-- Of an ordered list of files, one that is empty does not show. -/
theorem join_orderedInsert (f : String → String) {k : String} (hk : f k = "")
    (ks : List String) :
    String.join ((ks.orderedInsert (· ≤ ·) k).map f) = String.join (ks.map f) := by
  induction ks with
  | nil => simp [hk]
  | cons l ks ih =>
      rw [List.orderedInsert_cons]
      split
      · simp [hk]
      · rw [List.map_cons, List.map_cons, String.join_cons, String.join_cons, ih]

/-- **An empty file does not show**: the text is the same without it. -/
theorem diffText_absorbs {p : Patch} {k : String} (hk : k ∉ p.paths) :
    diffText ((k, "") :: p) = diffText p := by
  have hfiles : changedFiles [] ((k, "") :: p) = (changedFiles [] p).orderedInsert (· ≤ ·) k := by
    have hdedup : (Patch.paths ((k, "") :: p)).dedup = k :: p.paths.dedup :=
      List.dedup_cons_of_notMem hk
    show (([] ++ Patch.paths ((k, "") :: p)).dedup).insertionSort (· ≤ ·) = _
    rw [List.nil_append, hdedup]
    rfl
  have hself : Patch.content ((k, "") :: p) k = "" := if_pos rfl
  have hothers : (changedFiles [] p).map (Patch.content ((k, "") :: p)) =
      (changedFiles [] p).map p.content := by
    refine List.map_congr_left fun l hl => ?_
    have hmem : l ∈ p.paths := by simpa [mem_changedFiles, Patch.paths] using hl
    have hne : k ≠ l := fun h => hk (h ▸ hmem)
    exact if_neg hne
  unfold diffText
  rw [hfiles, join_orderedInsert _ hself, hothers]

/-- The patch with one more file, which is empty. -/
def PatchMap.withEmptyFile (p : PatchMap) : PatchMap where
  entries := (freshPath p.entries, "") :: p.entries
  nodup := List.nodup_cons.mpr ⟨freshPath_not_mem p.entries, p.nodup⟩

theorem PatchMap.not_same_withEmptyFile (p : PatchMap) : ¬ p.withEmptyFile.Same p := by
  intro h
  have hlookup : (List.lookup (freshPath p.entries) p.entries).isSome = true := by
    rw [← h (freshPath p.entries)]
    simp [withEmptyFile]
  obtain ⟨kv, hmem, hk⟩ := List.lookup_isSome_iff.mp hlookup
  rw [beq_iff_eq] at hk
  exact freshPath_not_mem p.entries (hk ▸ List.mem_map_of_mem hmem)

/-- The hash of a patch is that of no other patch. -/
def Identified (sha256 : String → String) (paths : List Json) (p : PatchMap) : Prop :=
  ∀ q : PatchMap, (summarizePatch sha256 [] q.entries paths).diffHash =
    (summarizePatch sha256 [] p.entries paths).diffHash → q.Same p

/-- **The hash never identifies a patch**, whatever the digest: another patch has the same
text, and so the same hash. -/
theorem diff_hash_never_identifies (p : PatchMap) :
    (∃ q : PatchMap, ¬ q.Same p ∧ diffText q.entries = diffText p.entries) ∧
      ∀ (sha256 : String → String) (paths : List Json), ¬ Identified sha256 paths p := by
  have htext : diffText p.withEmptyFile.entries = diffText p.entries :=
    diffText_absorbs (freshPath_not_mem p.entries)
  refine ⟨⟨p.withEmptyFile, p.not_same_withEmptyFile, htext⟩, fun sha256 paths h => ?_⟩
  refine p.not_same_withEmptyFile (h _ ?_)
  rw [diffHash_eq, diffHash_eq, htext]

namespace Scripted

/-- A lemma in the first file. -/
def lemmaInFirst : PatchMap where
  entries := [("A.lean", "axiom cheat : False"), ("B.lean", "")]
  nodup := by decide

/-- The same text in the second. -/
def lemmaInSecond : PatchMap where
  entries := [("A.lean", ""), ("B.lean", "axiom cheat : False")]
  nodup := by decide

end Scripted

/-- Two patches of the same files, with one text. -/
theorem diff_hash_collides :
    ¬ Scripted.lemmaInFirst.Same Scripted.lemmaInSecond ∧
      diffText Scripted.lemmaInFirst.entries = diffText Scripted.lemmaInSecond.entries := by
  refine ⟨fun h => ?_, by decide⟩
  have hA := h "A.lean"
  exact absurd hA (by decide)

end ObligationRuntime
