/-
  ObligationRuntime.Policy.PackEntry — loading a pack by its name, with the cache of
  merged packs.

  `load_pack` resolves the name to a path, and loads the text of that path.  A pack without
  references is read from its file alone; what a pack was merged to is kept under the text
  of its path.

  Main results:
    * `resolve_text` — the text of a resolved path leads back to it,
    * `mergedDictForEntry_spec` — the cache does not change what an entry is merged to.
-/
import ObligationRuntime.Policy.PackLoader

namespace ObligationRuntime

open Py Posix

namespace PackLoader

/-! ## §1. Entries. -/

/-- `_entry_key`. -/
def entryKey (files : PackFiles) (name : String) : Except PyError String :=
  if '/' ∈ name.toList then do
    let path ← files.resolvePathForName name
    return text path
  else return name

/-- `raw.get("extends") is None and not raw.get("import")`. -/
def singleFile (raw : Dict) : Bool :=
  decide (extendsOf raw = .null) && !(raw.getD "import" .null).truthy

/-- `_merged_cache`. -/
abbrev Cache := List (String × Dict)

/-- What `_merged_dict_for_entry` does for an entry that is not in the cache. -/
def readEntry (files : PackFiles) (entry : String) : Except PyError Dict := do
  let path ← files.resolvePathForName entry
  if files.exists? path then do
    let raw ← files.readYamlMapping path
    if singleFile raw then return raw else mergePack files entry
  else throw (PyError.fileNotFoundError entry)

/-- `_merged_dict_for_entry`. -/
def mergedDictForEntry (files : PackFiles) (entry : String) : Attempt Cache PyError Dict := do
  let cacheKey ← Attempt.lift (entryKey files entry)
  let cache ← Attempt.get
  match cache.lookup cacheKey with
  | some merged => return merged
  | none =>
      let merged ← Attempt.lift (readEntry files entry)
      Attempt.modify fun cache => (cacheKey, merged) :: cache
      return merged

/-- `load_pack_from_path`, of a resolved path. -/
def loadPackFromPath (files : PackFiles) (path : PackPath) : Attempt Cache PyError PolicyPack :=
  if files.exists? path then do
    let merged ← mergedDictForEntry files (text path)
    Attempt.lift (PolicyPack.validate merged)
  else throw (PyError.fileNotFoundError (text path))

/-- `load_pack`. -/
def loadPack (files : PackFiles) (name : String) : Attempt Cache PyError PolicyPack := do
  let path ← Attempt.lift (files.resolvePathForName name)
  loadPackFromPath files path

/-- The outcomes of calls of `load_pack`, one after the other. -/
def outcomes (files : PackFiles) : List String → Cache → List (Except PyError PolicyPack)
  | [], _ => []
  | name :: names, cache =>
      let r := loadPack files name cache
      r.1 :: outcomes files names r.2

/-! ## §2. The text of a resolved path. -/

/-- A name with the suffix has it. -/
theorem hasSuffix_yaml {name : Comp} (h : name ≠ []) :
    hasSuffix (name ++ ".yaml".toList) = true := by
  have hlen : 0 < name.length := List.length_pos_of_ne_nil h
  have htail : (name ++ ".yaml".toList).reverse.takeWhile (· ≠ '.') = "lmay".toList := by
    rw [List.reverse_append]
    rfl
  unfold hasSuffix
  rw [htail]
  simp
  omega

/-- A name with a suffix is an entry of a directory. -/
theorem normal_of_hasSuffix {name : Comp} (h : hasSuffix name = true) (hslash : '/' ∉ name) :
    Normal name := by
  refine ⟨?_, ?_, ?_, hslash⟩ <;>
    · intro he
      subst he
      cases h

/-- The parts of a path are not empty and have no slash. -/
theorem mem_pathParts {name : String} {c : Comp} (h : c ∈ pathParts name) : c ≠ [] ∧ '/' ∉ c := by
  obtain ⟨hmem, hc⟩ := List.mem_filter.mp h
  exact ⟨(of_decide_eq_true hc).1, splitOn_no_sep '/' name.toList c hmem⟩

/-- What a suffix is given to has a last component with one. -/
theorem withYamlSuffix_ok {parts parts' : List Comp} (hparts : ∀ c ∈ parts, c ≠ [] ∧ '/' ∉ c)
    (h : withYamlSuffix parts = .ok parts') :
    ∃ dir last, parts' = dir ++ [last] ∧ hasSuffix last = true ∧ ∀ c ∈ parts', '/' ∉ c := by
  unfold withYamlSuffix at h
  split at h
  · cases h
  next last hlast =>
    obtain ⟨dir, rfl⟩ := List.getLast?_eq_some_iff.mp hlast
    have hslash : ∀ c ∈ dir ++ [last], '/' ∉ c := fun c hc => (hparts c hc).2
    split at h
    next hsuffix =>
      obtain rfl := Except.ok.inj h
      exact ⟨dir, last, rfl, hsuffix, hslash⟩
    · -- The last component is given one.
      obtain rfl := Except.ok.inj h
      have hmem : last ∈ dir ++ [last] := List.mem_append_right _ (List.mem_singleton_self last)
      rw [List.dropLast_concat]
      refine ⟨dir, _, rfl, hasSuffix_yaml (hparts last hmem).1, fun c hc => ?_⟩
      rcases List.mem_append.mp hc with hc | hc
      · exact hslash c (List.mem_append_left _ hc)
      · obtain rfl := List.mem_singleton.mp hc
        rw [List.mem_append, not_or]
        exact ⟨hslash last hmem, by decide⟩

section

variable {files : PackFiles} {path : PackPath} {name : String}

/-- The path of a built-in pack. -/
theorem resolve_builtIn (hslash : '/' ∉ name.toList) :
    resolve files.packsDir (name ++ ".yaml") =
      push files.packsDir (name.toList ++ ".yaml".toList) := by
  have hslash' : '/' ∉ (name ++ ".yaml").toList := by
    rw [String.toList_append, List.mem_append, not_or]
    exact ⟨hslash, by decide⟩
  have habs : isAbsolute (name ++ ".yaml") = false :=
    decide_eq_false fun he => hslash' (List.mem_of_mem_head? he)
  unfold resolve
  rw [comps_of_not_mem hslash', habs, String.toList_append]
  rfl

/-- A resolved path has normal components, and a suffix unless the name is empty. -/
theorem resolved_normal (h : files.resolvePathForName name = .ok path) :
    ∀ c ∈ path, Normal c := by
  unfold PackFiles.resolvePathForName at h
  split at h
  next hslash =>
    obtain ⟨parts, hparts, h⟩ := bind_eq_ok_iff.mp h
    obtain ⟨-, -, -, -, hnoslash⟩ := withYamlSuffix_ok (fun c hc => mem_pathParts hc) hparts
    obtain rfl := Except.ok.inj h
    refine foldl_push_normal parts _ hnoslash ?_
    split
    · simp
    · exact files.cwd_normal
  · obtain rfl := Except.ok.inj h
    exact resolve_normal files.packsDir_normal _

/-- A name is resolved to a file with the suffix. -/
theorem resolved_suffix (h : files.resolvePathForName name = .ok path) (hne : name ≠ "") :
    ∃ dir last, path = dir ++ [last] ∧ hasSuffix last = true := by
  unfold PackFiles.resolvePathForName at h
  split at h
  next hslash =>
    obtain ⟨parts, hparts, h⟩ := bind_eq_ok_iff.mp h
    obtain ⟨dir, last, rfl, hsuffix, hnoslash⟩ :=
      withYamlSuffix_ok (fun c hc => mem_pathParts hc) hparts
    obtain rfl := Except.ok.inj h
    have hlast : '/' ∉ last := hnoslash last (List.mem_append_right _ (List.mem_singleton_self _))
    rw [List.foldl_concat, push_proper (normal_of_hasSuffix hsuffix hlast).proper]
    exact ⟨_, last, rfl, hsuffix⟩
  next hslash =>
    obtain rfl := Except.ok.inj h
    have hsuffix : hasSuffix (name.toList ++ ".yaml".toList) = true :=
      hasSuffix_yaml fun he => hne (String.toList_eq_nil_iff.mp he)
    have hnoslash : '/' ∉ name.toList ++ ".yaml".toList := by
      rw [List.mem_append, not_or]
      exact ⟨hslash, by decide⟩
    rw [resolve_builtIn hslash, push_proper (normal_of_hasSuffix hsuffix hnoslash).proper]
    exact ⟨_, _, rfl, hsuffix⟩

/-- A path is read back from its text. -/
theorem pathParts_text (h : ∀ c ∈ path, Normal c) : pathParts (text path) = path := by
  have hself : path.filter (fun c => decide (c ≠ [] ∧ c ≠ ['.'])) = path :=
    List.filter_eq_self.mpr fun c hc => decide_eq_true ⟨(h c hc).1, (h c hc).2.1⟩
  unfold pathParts
  by_cases hne : path = []
  · subst hne
    decide
  · rw [comps_text h hne, List.filter_cons_of_neg (by simp), hself]

/-- The text of a path has a slash, which no name has. -/
theorem slash_mem_text (path : PackPath) : '/' ∈ (text path).toList := by
  simp [text]

/-- **The text of a resolved path leads back to it**, unless the name was empty. -/
theorem resolve_text (h : files.resolvePathForName name = .ok path) (hne : name ≠ "") :
    files.resolvePathForName (text path) = .ok path := by
  have hnormal := resolved_normal h
  obtain ⟨dir, last, hpath, hsuffix⟩ := resolved_suffix h hne
  have hyaml : withYamlSuffix path = .ok path := by
    unfold withYamlSuffix
    rw [hpath, List.getLast?_concat]
    exact if_pos hsuffix
  unfold PackFiles.resolvePathForName
  rw [if_pos (slash_mem_text path), pathParts_text hnormal, hyaml, ok_bind, isAbsolute_text,
    if_pos rfl, foldl_push_proper path [] fun c hc => (hnormal c hc).proper]
  rfl

end

/-! ## §3. The cache. -/

section

variable {files : PackFiles} {path : PackPath} {name name' : String} {levels : Nat}
  {visiting : Visiting}

/-- A merge depends on the path of its name only, up to the texts of its errors. -/
theorem mergedAt_alike (h : files.resolvePathForName name = .ok path)
    (h' : files.resolvePathForName name' = .ok path) :
    Alike (mergedAt files (levels + 1) visiting name)
      (mergedAt files (levels + 1) visiting name') := by
  rw [mergedAt, mergedAt, h, h', ok_bind, ok_bind]
  by_cases hmem : path ∈ visiting
  · rw [if_pos hmem, if_pos hmem]
    exact .refl _
  · rw [if_neg hmem, if_neg hmem]
    split
    · exact .refl _
    · exact .error rfl

/-- Names of one path are composed alike. -/
theorem mergePack_alike (h : files.resolvePathForName name = .ok path)
    (h' : files.resolvePathForName name' = .ok path) :
    Alike (mergePack files name) (mergePack files name') := by
  rw [mergePack_eq, mergePack_eq]
  exact mergedAt_alike h h'

/-- So does what is read for an entry. -/
theorem readEntry_alike (h : files.resolvePathForName name = .ok path)
    (h' : files.resolvePathForName name' = .ok path) :
    Alike (readEntry files name) (readEntry files name') := by
  unfold readEntry
  rw [h, h', ok_bind, ok_bind]
  split
  · cases hraw : files.readYamlMapping path with
    | error e => exact .refl _
    | ok raw =>
        rw [ok_bind, ok_bind]
        split
        · exact .refl _
        · exact mergePack_alike h h'
  · exact .error rfl

/-- Every mapping in the cache is what is read for its key. -/
def CacheOk (files : PackFiles) (cache : Cache) : Prop :=
  ∀ key merged, cache.lookup key = some merged → readEntry files key = .ok merged

/-- Nothing is wrong in an empty cache. -/
theorem cacheOk_nil : CacheOk files [] := fun _ _ h => by cases h

/-- A composed entry may be stored. -/
theorem CacheOk.store {cache : Cache} {key : String} {merged : Dict} (h : CacheOk files cache)
    (hread : readEntry files key = .ok merged) : CacheOk files ((key, merged) :: cache) := by
  intro key' merged' hlookup
  rw [List.lookup_cons] at hlookup
  by_cases hk : key' = key
  · subst hk
    rw [beq_self_eq_true] at hlookup
    obtain rfl := Option.some.inj hlookup
    exact hread
  · rw [beq_eq_false_iff_ne.mpr hk] at hlookup
    exact h key' merged' hlookup

/-- **The cache does not change what an entry is merged to.** -/
theorem mergedDictForEntry_spec {cache : Cache} {entry : String} (h : CacheOk files cache)
    (hslash : '/' ∈ entry.toList) :
    (mergedDictForEntry files entry cache).1 = readEntry files entry ∧
      CacheOk files (mergedDictForEntry files entry cache).2 := by
  have hkey : entryKey files entry = files.resolvePathForName entry >>= fun path =>
      pure (text path) := if_pos hslash
  cases hpath : files.resolvePathForName entry with
  | error e =>
      have hread : readEntry files entry = .error e := by
        unfold readEntry
        rw [hpath, error_bind]
      rw [hpath, error_bind] at hkey
      have hrun : mergedDictForEntry files entry cache = (.error e, cache) :=
        Attempt.bind_error (Attempt.lift_error hkey cache) _
      rw [hrun, hread]
      exact ⟨rfl, h⟩
  | ok path =>
      rw [hpath, ok_bind] at hkey
      -- The key leads to the same path as the entry.
      have hne : entry ≠ "" := by
        intro he
        subst he
        cases hslash
      have halike := readEntry_alike (resolve_text hpath hne) hpath
      have hstart : mergedDictForEntry files entry cache =
          (match cache.lookup (text path) with
            | some merged => (pure merged : Attempt Cache PyError Dict)
            | none => do
                let merged ← Attempt.lift (readEntry files entry)
                Attempt.modify fun cache => (text path, merged) :: cache
                return merged) cache :=
        Attempt.bind_ok (Attempt.lift_ok hkey cache) _
      rw [hstart]
      cases hlookup : cache.lookup (text path) with
      | some merged =>
          -- A hit: the mapping is what is read for the key, so for the entry.
          rw [h _ _ hlookup] at halike
          exact ⟨halike.eq_ok.symm, h⟩
      | none =>
          cases hread : readEntry files entry with
          | error e => exact ⟨rfl, h⟩
          | ok merged =>
              -- A miss: what was read for the entry is stored under the key.
              have hkeyRead := readEntry_alike hpath (resolve_text hpath hne)
              rw [hread] at hkeyRead
              exact ⟨rfl, h.store hkeyRead.eq_ok⟩

end

end PackLoader

end ObligationRuntime
