/-
  ObligationRuntime.Gateway.Workspace — what the gateway writes: path_safety.py
  and the `apply_patch` route of routes_sessions.py.

  The gateway knows a patch by the FILES its keys resolve to below the session's
  workspace.  It writes key by key and stops at the first that leaves the
  workspace, or has a NUL; the files before that one stay written.

  Main results:
    * `mem_writeFiles` — what is written, and from which key,
    * `resolveUnderRoot_cases` — what `resolve_under_root` does,
    * `eq_of_resolveUnderRoot_spell` — the plain spelling of a path that is accepted
      names it,
    * `contentAfter_eq_some` — what a patch of plain keys leaves in a file.
-/
import ObligationRuntime.Lib.Flow
import ObligationRuntime.Lib.Path
import ObligationRuntime.Policy.PatchMetadata

namespace ObligationRuntime

open Py Posix Flow

namespace Gateway

/-! ## §1. path_safety.py -/

/-- `(base / s).resolve()`: it looks for symbolic links, of which there are none, and the
system call raises on a NUL. -/
def resolvePath (base : List Comp) (s : String) : Except PyError (List Comp) :=
  if hasNul s then .error (.valueError "embedded null byte") else .ok (resolve base s)

/-- A path without a NUL is resolved, -/
theorem resolvePath_ok {s : String} (h : hasNul s = false) (base : List Comp) :
    resolvePath base s = .ok (resolve base s) := by
  simp [resolvePath, h]

/-- and one with a NUL raises. -/
theorem resolvePath_nul {s : String} (h : hasNul s = true) (base : List Comp) :
    resolvePath base s = .error (.valueError "embedded null byte") := by
  simp [resolvePath, h]

/-- `resolve_under_root`, of a root that is resolved. -/
def resolveUnderRoot (root : List Comp) (relPath : String) : Except PyError (List Comp) := do
  let combined ← resolvePath root relPath
  if root <+: combined then return combined
  else .error (.valueError ("Path escapes workspace: " ++ relPath))

/-- `resolve_under_root`, from the text of a root. -/
def resolveUnderRootOf (cwd : List Comp) (root relPath : String) : Except PyError (List Comp) := do
  resolveUnderRoot (← resolvePath cwd root) relPath

/-- The text is taken for a path, and for one below the root. -/
def InRoot (root : List Comp) (relPath : String) : Prop :=
  hasNul relPath = false ∧ root <+: resolve root relPath

instance (root : List Comp) (relPath : String) : Decidable (InRoot root relPath) :=
  inferInstanceAs (Decidable (hasNul relPath = false ∧ root <+: resolve root relPath))

/-- **The outcome**: the resolved path if the text is taken for one below the root, and else a
`ValueError`. -/
theorem resolveUnderRoot_cases (root : List Comp) (relPath : String) :
    (InRoot root relPath ∧ resolveUnderRoot root relPath = .ok (resolve root relPath)) ∨
      (¬ InRoot root relPath ∧
        ∃ text, resolveUnderRoot root relPath = .error (.valueError text)) := by
  cases hnul : hasNul relPath with
  | true =>
      refine .inr ⟨fun h => ?_, "embedded null byte", ?_⟩
      · rw [h.1] at hnul
        cases hnul
      · rw [resolveUnderRoot, resolvePath_nul hnul]
        rfl
  | false =>
      by_cases h : root <+: resolve root relPath
      · refine .inl ⟨⟨hnul, h⟩, ?_⟩
        simp [resolveUnderRoot, resolvePath_ok hnul, h]
      · refine .inr ⟨fun hin => h hin.2, "Path escapes workspace: " ++ relPath, ?_⟩
        simp [resolveUnderRoot, resolvePath_ok hnul, h]

/-- A path in the root is answered, -/
theorem resolveUnderRoot_of_inRoot {root : List Comp} {relPath : String}
    (h : InRoot root relPath) : resolveUnderRoot root relPath = .ok (resolve root relPath) := by
  rcases resolveUnderRoot_cases root relPath with ⟨-, hok⟩ | ⟨hout, -⟩
  · exact hok
  · exact absurd h hout

/-- and any other is refused. -/
theorem resolveUnderRoot_of_not_inRoot {root : List Comp} {relPath : String}
    (h : ¬ InRoot root relPath) :
    ∃ text, resolveUnderRoot root relPath = .error (.valueError text) := by
  rcases resolveUnderRoot_cases root relPath with ⟨hin, -⟩ | ⟨-, herror⟩
  · exact absurd hin h
  · exact herror

/-- What is answered, and when. -/
theorem resolveUnderRoot_ok_iff {root file : List Comp} {relPath : String} :
    resolveUnderRoot root relPath = .ok file ↔
      InRoot root relPath ∧ resolve root relPath = file := by
  rcases resolveUnderRoot_cases root relPath with ⟨hin, hok⟩ | ⟨hout, text, herror⟩
  · simp [hok, hin]
  · simp [herror, hout]

/-- What is answered starts with the root. -/
theorem resolveUnderRoot_ok {root file : List Comp} {relPath : String}
    (h : resolveUnderRoot root relPath = .ok file) :
    resolve root relPath = file ∧ root <+: file := by
  obtain ⟨hin, rfl⟩ := resolveUnderRoot_ok_iff.mp h
  exact ⟨rfl, hin.2⟩

/-- **The plain spelling** of a path below the root names it, if anything. -/
theorem eq_of_resolveUnderRoot_spell {root rel file : List Comp} (h : ∀ c ∈ rel, Normal c)
    (hok : resolveUnderRoot root (spell rel) = .ok file) : file = root ++ rel := by
  rw [← (resolveUnderRoot_ok hok).1, resolve_spell root h]

/-! ## §2. routes_sessions.py -/

/-- `path.write_text(content)`. -/
structure Write where
  file : List Comp
  content : String
  deriving DecidableEq

/-- The loop of `apply_patch`: a key that is no path of the workspace ends it. -/
def writeFiles (root : List Comp) : Patch → Eff Write PyError Unit
  | [] => return ()
  | (relPath, content) :: files =>
      match resolveUnderRoot root relPath with
      -- What was written before stays written, whatever the `ValueError` says.
      | .error _ => Eff.lift (.error (.apiError 400 "path_traversal"))
      | .ok path => do
          Eff.call ⟨path, content⟩ (.ok ())
          writeFiles root files

/-- `apply_patch`, in a session whose workspace is `root`. -/
def applyPatch (root : List Comp) (sessionId : String) (files : Patch) :
    Eff Write PyError ApplyPatchResponse := do
  writeFiles root files
  return { sessionId, changedFiles := files.paths.insertionSort (· ≤ ·) }

/-- What the writes leave in a file: the last one counts. -/
def contentAfter (writes : List Write) (file : List Comp) : Option String :=
  (writes.reverse.find? fun w => w.file = file).map Write.content

section

variable {root : List Comp}

/-- Every write comes from a key that names its file. -/
theorem mem_writeFiles {p : Patch} {w : Write} (h : w ∈ (writeFiles root p).calls) :
    ∃ relPath, (relPath, w.content) ∈ p ∧ resolveUnderRoot root relPath = .ok w.file := by
  induction p with
  | nil => cases h
  | cons kv p ih =>
      obtain ⟨relPath, content⟩ := kv
      unfold writeFiles at h
      split at h
      · cases h
      next path hpath =>
        rw [Eff.call_ok_bind] at h
        rcases List.mem_cons.mp h with rfl | h
        · exact ⟨relPath, List.mem_cons_self .., hpath⟩
        · obtain ⟨k, hk, hf⟩ := ih h
          exact ⟨k, List.mem_cons_of_mem _ hk, hf⟩

/-- A patch that is applied is applied whole. -/
theorem writeFiles_all {p : Patch} (h : (writeFiles root p).result = .ok ()) :
    ∀ kv ∈ p, ∃ path, resolveUnderRoot root kv.1 = .ok path ∧
      ⟨path, kv.2⟩ ∈ (writeFiles root p).calls := by
  induction p with
  | nil => simp
  | cons kv p ih =>
      obtain ⟨relPath, content⟩ := kv
      unfold writeFiles at h ⊢
      split at h
      · cases h
      next path hpath =>
        rw [Eff.call_ok_bind] at h
        simp only [Eff.call_ok_bind]
        intro kv hkv
        rcases List.mem_cons.mp hkv with rfl | hkv
        · exact ⟨path, hpath, List.mem_cons_self ..⟩
        · obtain ⟨path', hp', hw⟩ := ih h kv hkv
          exact ⟨path', hp', List.mem_cons_of_mem _ hw⟩

/-- The writes of a patch are those of its loop. -/
theorem applyPatch_calls (sessionId : String) (p : Patch) :
    (applyPatch root sessionId p).calls = (writeFiles root p).calls := by
  unfold applyPatch
  cases h : (writeFiles root p).result with
  | ok u => simp [Eff.bind_of_ok h]
  | error e => simp [Eff.bind_of_error h]

/-- A patch with a key that is no path of the workspace is refused. -/
theorem applyPatch_refused (sessionId : String) {p : Patch} {key : String} (hkey : key ∈ p.paths)
    (hout : ¬ InRoot root key) :
    ∃ e, (applyPatch root sessionId p).result = .error e := by
  unfold applyPatch
  cases h : (writeFiles root p).result with
  | ok u =>
      obtain ⟨kv, hkv, rfl⟩ := List.mem_map.mp hkey
      obtain ⟨path, hpath, -⟩ := writeFiles_all h kv hkv
      exact absurd (resolveUnderRoot_ok_iff.mp hpath).1 hout
  | error e => exact ⟨e, by rw [Eff.bind_of_error h]⟩

/-- The content of a file was written to it. -/
theorem contentAfter_mem {writes : List Write} {file : List Comp} {content : String}
    (h : contentAfter writes file = some content) : ⟨file, content⟩ ∈ writes := by
  obtain ⟨w, hw, rfl⟩ := Option.map_eq_some_iff.mp h
  obtain rfl : w.file = file := by simpa using List.find?_some hw
  exact List.mem_reverse.mp (List.mem_of_find?_eq_some hw)

/-- A file that was written has a content. -/
theorem contentAfter_of_mem {writes : List Write} {w : Write} (h : w ∈ writes) :
    ∃ content, contentAfter writes w.file = some content := by
  unfold contentAfter
  cases hf : writes.reverse.find? fun v => v.file = w.file with
  | none => simpa using List.find?_eq_none.mp hf w (List.mem_reverse.mpr h)
  | some v => exact ⟨v.content, rfl⟩

/-! ## §3. Plain keys. -/

/-- A key that is the plain spelling of the path it names. -/
def PlainKey (relPath : String) : Prop := ∃ rel, (∀ c ∈ rel, Normal c) ∧ relPath = spell rel

/-- A patch of plain keys, no key twice. -/
structure PlainPatch (p : Patch) : Prop where
  plain : ∀ k ∈ p.paths, PlainKey k
  nodup : p.paths.Nodup

/-- Plain keys that name one file are one key. -/
theorem PlainKey.eq_of_file {k k' : String} (hk : PlainKey k) (hk' : PlainKey k')
    {file : List Comp} (h : resolveUnderRoot root k = .ok file)
    (h' : resolveUnderRoot root k' = .ok file) : k = k' := by
  obtain ⟨rel, hrel, rfl⟩ := hk
  obtain ⟨rel', hrel', rfl⟩ := hk'
  have hfile := eq_of_resolveUnderRoot_spell hrel h
  have hfile' := eq_of_resolveUnderRoot_spell hrel' h'
  rw [List.append_cancel_left (hfile.symm.trans hfile')]

/-- **What a plain patch leaves in a file**: the content under its key. -/
theorem contentAfter_eq_some {p : Patch} (hp : PlainPatch p)
    (hok : (writeFiles root p).result = .ok ()) {k content : String} {file : List Comp}
    (hk : PlainKey k) (hf : resolveUnderRoot root k = .ok file) :
    contentAfter (writeFiles root p).calls file = some content ↔ (k, content) ∈ p := by
  have hkey : ∀ c, contentAfter (writeFiles root p).calls file = some c → (k, c) ∈ p := by
    intro c hc
    obtain ⟨k', hk', hf'⟩ := mem_writeFiles (contentAfter_mem hc)
    obtain rfl := hk.eq_of_file (hp.plain k' (List.mem_map_of_mem hk')) hf hf'
    exact hk'
  refine ⟨hkey content, fun hmem => ?_⟩
  obtain ⟨path, hpath, hw⟩ := writeFiles_all hok _ hmem
  obtain rfl : file = path := by simpa [hf] using hpath
  obtain ⟨c, hc⟩ := contentAfter_of_mem hw
  -- Some content is left, from this key, and the key occurs once.
  rw [hc, List.inj_on_of_nodup_map hp.nodup (hkey c hc) hmem rfl |> Prod.mk.inj |>.2]

end

end Gateway

end ObligationRuntime
