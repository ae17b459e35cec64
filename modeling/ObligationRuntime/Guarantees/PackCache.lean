/-
  ObligationRuntime.Guarantees.PackCache — loading a pack against merging it.

  `load_pack` ought to validate what `_merge_pack_layers` gives.  The cache keeps to this.
  The fast path does not: it reads a pack without references from its file and leaves
  `extends` and `import` in it, which a merge consumes, and which the validator refuses.

  Main results:
    * `outcomes_eq` — every call of a sequence comes to what it comes to alone,
    * `load_pack_agrees_iff` — when a call agrees with validating the merged entry,
    * `load_pack_refuses_import` — a pack with an empty import list is refused.
-/
import ObligationRuntime.Policy.PackEntry

namespace ObligationRuntime

open Py Posix

namespace PackLoader

/-- `PolicyPack.model_validate(_merge_pack_layers(entry, depth=0, visiting=set()))`. -/
def validated (files : PackFiles) (entry : String) : Except PyError PolicyPack :=
  mergePack files entry >>= PolicyPack.validate

/-! ## §1. Calls one after the other. -/

/-- What a call of `load_pack` comes to. -/
def loaded (files : PackFiles) (name : String) : Except PyError PolicyPack := do
  let path ← files.resolvePathForName name
  if files.exists? path then readEntry files (text path) >>= PolicyPack.validate
  else throw (PyError.fileNotFoundError (text path))

section

variable {files : PackFiles} {path : PackPath} {raw : Dict} {name : String} {cache : Cache}

theorem loadPack_spec (h : CacheOk files cache) (name : String) :
    (loadPack files name cache).1 = loaded files name ∧
      CacheOk files (loadPack files name cache).2 := by
  unfold loaded
  cases hpath : files.resolvePathForName name with
  | error e =>
      have hrun : loadPack files name cache = (.error e, cache) :=
        Attempt.bind_error (Attempt.lift_error hpath cache) _
      rw [hrun]
      exact ⟨rfl, h⟩
  | ok path =>
      have hrun : loadPack files name cache = loadPackFromPath files path cache :=
        Attempt.bind_ok (Attempt.lift_ok hpath cache) _
      rw [hrun, ok_bind]
      unfold loadPackFromPath
      split
      · -- Cached or merged anew, the mapping is the same, and so is its validation.
        obtain ⟨hread, hcache⟩ := mergedDictForEntry_spec h (slash_mem_text path)
        rw [← hread]
        cases hmerged : mergedDictForEntry files (text path) cache with
        | mk r cache' =>
            rw [hmerged] at hcache
            cases r with
            | error e => exact ⟨congrArg Prod.fst (Attempt.bind_error hmerged _),
                (congrArg Prod.snd (Attempt.bind_error hmerged _)).symm ▸ hcache⟩
            | ok merged => exact ⟨congrArg Prod.fst (Attempt.bind_ok hmerged _),
                (congrArg Prod.snd (Attempt.bind_ok hmerged _)).symm ▸ hcache⟩
      · exact ⟨rfl, h⟩

/-- **Every call of a sequence comes to what it comes to alone.** -/
theorem outcomes_eq (h : CacheOk files cache) (names : List String) :
    outcomes files names cache = names.map (loaded files) := by
  induction names generalizing cache with
  | nil => rfl
  | cons name names ih =>
      obtain ⟨hfst, hcache⟩ := loadPack_spec h name
      rw [outcomes, List.map_cons, hfst, ih hcache]

/-! ## §2. A call against a merge. -/

/-- The empty name, if it names a file: its path has no suffix, and so the text of this
path does not lead back to it. -/
def NamesDotfile (files : PackFiles) (name : String) : Prop :=
  name = "" ∧ ∃ path, files.resolvePathForName name = .ok path ∧ files.exists? path = true

/-- No pack that would be valid has a composition key and no references. -/
def NoEmptyReferences (files : PackFiles) (name : String) : Prop :=
  ∀ path raw, files.resolvePathForName name = .ok path → Mapping files path raw →
    singleFile raw = true → (∃ k ∈ compositionKeys, k ∈ Dict.keys raw) →
    ∃ e, PolicyPack.validate (bodyOf raw) = .error e

/-- A pack without references is merged to its own body. -/
theorem mergePack_singleFile (hpath : files.resolvePathForName name = .ok path)
    (hraw : Mapping files path raw) (h : singleFile raw = true) :
    mergePack files name = .ok (bodyOf raw) := by
  unfold singleFile at h
  rw [Bool.and_eq_true, decide_eq_true_eq, Bool.not_eq_true'] at h
  obtain ⟨hextends, himport⟩ := h
  have hnames : NamesExtends raw := by
    intro ht
    rw [hextends] at ht
    cases ht
  have hrefs : refNames raw = [] := by
    unfold refNames extendsNames importNames importsOf Json.orElse
    rw [hextends, himport]
    rfl
  have hbody : Dict.update [] (bodyOf raw) = bodyOf raw :=
    Dict.nil_update (Dict.unique_iff.mp (unique_bodyOf hraw.unique)).1
  rw [mergePack_eq, mergedAt_mapping hpath List.not_mem_nil hraw, mergeLayers_eq hnames, hrefs]
  exact congrArg Except.ok hbody

/-- A pack with a composition key is refused. -/
theorem validate_compositionKey {k : String} (hk : k ∈ compositionKeys) (hmem : k ∈ Dict.keys raw) :
    ∃ l, PolicyPack.validate raw = .error (.validationError l "extra_forbidden") := by
  have hunknown : ∀ k ∈ compositionKeys, k ∉ PolicyPack.fields := by decide
  exact PolicyPack.validate_unknown hmem (hunknown k hk)

/-- A call on a pack without references agrees with the merge exactly when no composition
key comes to the validator, or the pack is refused without it. -/
theorem validate_alike_iff :
    Alike (PolicyPack.validate raw) (PolicyPack.validate (bodyOf raw)) ↔
      ((∃ k ∈ compositionKeys, k ∈ Dict.keys raw) →
        ∃ e, PolicyPack.validate (bodyOf raw) = .error e) := by
  by_cases hkey : ∃ k ∈ compositionKeys, k ∈ Dict.keys raw
  · obtain ⟨k, hk, hmem⟩ := hkey
    obtain ⟨l, hl⟩ := validate_compositionKey hk hmem
    rw [hl]
    constructor
    · exact fun halike _ => halike.exists_error
    · intro hbody
      obtain ⟨e, he⟩ := hbody ⟨k, hk, hmem⟩
      obtain ⟨field, type, rfl⟩ := PolicyPack.validate_failsInvalid _ e he
      rw [he]
      exact .error rfl
  · have hself : bodyOf raw = raw := by
      refine Dict.without_eq_self fun k hk => Dict.get?_eq_none_iff.mpr fun hmem => ?_
      exact hkey ⟨k, hk, hmem⟩
    rw [hself]
    exact ⟨fun _ h => absurd h hkey, fun _ => .refl _⟩

/-- The condition on the file of the name. -/
theorem noEmptyReferences_iff (hpath : files.resolvePathForName name = .ok path)
    (hraw : Mapping files path raw) :
    NoEmptyReferences files name ↔
      (singleFile raw = true → (∃ k ∈ compositionKeys, k ∈ Dict.keys raw) →
        ∃ e, PolicyPack.validate (bodyOf raw) = .error e) := by
  constructor
  · intro h
    exact h path raw hpath hraw
  · intro h path' raw' hpath' hraw'
    obtain rfl : path = path' := Except.ok.inj (hpath.symm.trans hpath')
    obtain rfl : raw = raw' := hraw.eq hraw'
    exact h

/-- Without a mapping there is nothing to ask. -/
theorem noEmptyReferences_of_unmapped
    (h : ∀ path raw, files.resolvePathForName name = .ok path → ¬ Mapping files path raw) :
    NoEmptyReferences files name :=
  fun path raw hpath hraw => absurd hraw (h path raw hpath)

theorem mergePack_absent (hpath : files.resolvePathForName name = .ok path)
    (h : ¬ files.exists? path = true) :
    mergePack files name = .error (.fileNotFoundError name) := by
  rw [mergePack_eq, mergedAt, hpath, ok_bind, if_neg List.not_mem_nil, if_neg h]
  rfl

theorem mergePack_unreadable {e : PyError} (hpath : files.resolvePathForName name = .ok path)
    (hexists : files.exists? path = true) (h : files.readYamlMapping path = .error e) :
    mergePack files name = .error e := by
  rw [mergePack_eq, mergedAt, hpath, ok_bind, if_neg List.not_mem_nil, if_pos hexists, h,
    error_bind]

/-- A call whose path leads back to its file. -/
theorem loaded_of_exists (hdot : ¬ NamesDotfile files name)
    (hpath : files.resolvePathForName name = .ok path) (hexists : files.exists? path = true) :
    loaded files name = (files.readYamlMapping path >>= fun raw =>
      if singleFile raw then pure raw else mergePack files (text path)) >>=
        PolicyPack.validate := by
  have htext : files.resolvePathForName (text path) = .ok path :=
    resolve_text hpath fun he => hdot ⟨he, path, hpath, hexists⟩
  unfold loaded readEntry
  rw [hpath, ok_bind, if_pos hexists, htext, ok_bind, if_pos hexists]

/-- A call on its own, against the merge. -/
theorem loaded_alike_iff (hdot : ¬ NamesDotfile files name) :
    Alike (loaded files name) (validated files name) ↔ NoEmptyReferences files name := by
  cases hpath : files.resolvePathForName name with
  | error e =>
      -- Nothing is found under the name: both sides answer with that error.
      have hnone : NoEmptyReferences files name := by
        refine noEmptyReferences_of_unmapped fun path raw hp => ?_
        rw [hpath] at hp
        cases hp
      refine ⟨fun _ => hnone, fun _ => ?_⟩
      unfold loaded validated
      rw [mergePack_eq, mergedAt, hpath]
      exact .refl _
  | ok path =>
      have huniq : ∀ p, files.resolvePathForName name = .ok p → p = path :=
        fun p hp => Except.ok.inj (hp.symm.trans hpath)
      by_cases hexists : files.exists? path = true
      · rw [loaded_of_exists hdot hpath hexists]
        unfold validated
        cases hraw : files.readYamlMapping path with
        | error e =>
            have hnone : NoEmptyReferences files name := by
              refine noEmptyReferences_of_unmapped fun p raw hp hmapping => ?_
              rw [huniq p hp] at hmapping
              exact absurd (hraw.symm.trans hmapping.read) (by simp)
            rw [mergePack_unreadable hpath hexists hraw]
            exact ⟨fun _ => hnone, fun _ => .refl _⟩
        | ok raw =>
            have hmapping : Mapping files path raw := readYamlMapping_ok_iff.mp hraw
            rw [ok_bind, noEmptyReferences_iff hpath hmapping]
            by_cases hsingle : singleFile raw = true
            · -- The fast path: the file itself is validated.
              rw [if_pos hsingle, mergePack_singleFile hpath hmapping hsingle, pure_eq_ok, ok_bind,
                ok_bind, validate_alike_iff]
              exact ⟨fun h _ => h, fun h => h hsingle⟩
            · -- The merge of the path's text is that of the name.
              have htext : files.resolvePathForName (text path) = .ok path :=
                resolve_text hpath fun he => hdot ⟨he, path, hpath, hexists⟩
              rw [if_neg hsingle]
              exact ⟨fun _ h => absurd h hsingle, fun _ => (mergePack_alike htext hpath).bind _⟩
      · have hnone : NoEmptyReferences files name := by
          refine noEmptyReferences_of_unmapped fun p raw hp hmapping => ?_
          rw [huniq p hp] at hmapping
          exact hexists hmapping.exists?
        refine ⟨fun _ => hnone, fun _ => ?_⟩
        unfold loaded validated
        rw [hpath, ok_bind, if_neg hexists, mergePack_absent hpath hexists]
        exact .error rfl

/-- **When loading agrees with merging.**  In every sequence of calls, a call that does
not name the file `.yaml` agrees with validating the merged entry exactly when its pack
has no composition key without a reference, or is refused without it as well. -/
theorem load_pack_agrees_iff (files : PackFiles) (names : List String) :
    List.Forall₂
      (fun name outcome => ¬ NamesDotfile files name →
        (Alike outcome (validated files name) ↔ NoEmptyReferences files name))
      names (outcomes files names []) := by
  rw [outcomes_eq cacheOk_nil]
  refine List.forall₂_map_right_iff.mpr ?_
  exact List.forall₂_same.mpr fun name _ hdot => loaded_alike_iff hdot

end

/-- A built-in pack whose import list is empty. -/
def emptyImport : List (String × Dict) :=
  [("plain", [("version", .str "1"), ("name", .str "plain"), ("description", .str "d"),
    ("import", .arr [])])]

theorem emptyImport_unique : ∀ pack ∈ emptyImport, Dict.Unique pack.2 := by
  decide

/-- **A pack with an empty import list is refused**, which merging it accepts. -/
theorem load_pack_refuses_import :
    ¬ ∀ (files : PackFiles) (names : List String),
      List.Forall₂ (fun name outcome => Alike outcome (validated files name)) names
        (outcomes files names []) := by
  intro h
  have hcall := h (.builtIn emptyImport emptyImport_unique) ["plain"]
  have hload : outcomes (.builtIn emptyImport emptyImport_unique) ["plain"] [] =
      [.error (.validationError "import" "extra_forbidden")] := rfl
  have hmerge : validated (.builtIn emptyImport emptyImport_unique) "plain" =
      .ok { version := "1", name := "plain", description := "d" } := rfl
  rw [hload] at hcall
  cases hcall with
  | cons halike _ =>
      rw [hmerge] at halike
      cases halike

end PackLoader

end ObligationRuntime
