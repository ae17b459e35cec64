/-
  ObligationRuntime.Policy.PackLoader — pack_loader.py of `lean_langchain_policy`.

  A pack is a YAML mapping in a file.  It may extend one pack and import others; the
  loader merges these first, one after the other, and the pack's own keys last.  It goes
  down with the set of packs it is in (`visiting`) and a bound on the depth.

  The file system is a function from resolved paths to what reading and parsing the file
  gives; it does not change, and has no symbolic links.

  Main results:
    * `mergePackLayers_gives` — a merge leaves `visiting` as it found it, however it ends,
    * `mergeLayers_ok_iff`, `mergeLayers_error` — when one level of a merge succeeds, and
      where its errors come from,
    * `mergedAt_ok_iff`, `mergedAt_mono` — when a merge succeeds, and that more levels and
      fewer packs around it do not change what it comes to.
-/
import ObligationRuntime.Lib.Attempt
import ObligationRuntime.Lib.DictUpdate
import ObligationRuntime.Lib.Path
import ObligationRuntime.Policy.PackSchema

namespace ObligationRuntime

open Py Posix

namespace PackLoader

/-! ## §1. Names and files. -/

/-- A resolved path. -/
abbrev PackPath := List Comp

/-- What the loader can see of the file system: where it runs, where the built-in packs
are, and what reading and parsing a file gives. -/
structure PackFiles where
  cwd : PackPath
  packsDir : PackPath
  file : PackPath → Option (Except PyError Json)
  cwd_normal : ∀ c ∈ cwd, Normal c
  packsDir_normal : ∀ c ∈ packsDir, Normal c
  uniqueKeys : ∀ p v, file p = some (.ok v) → v.UniqueKeys

/-- `p.suffix` is not empty: the name has a dot that is neither its first character nor
its last. -/
def hasSuffix (name : Comp) : Bool :=
  let tail := name.reverse.takeWhile (· ≠ '.')
  decide (tail ≠ []) && decide (tail.length + 1 < name.length)

/-- The components of `Path(name)`. -/
def pathParts (name : String) : List Comp :=
  (comps name).filter fun c => decide (c ≠ [] ∧ c ≠ ['.'])

/-- `if not p.suffix: p = p.with_suffix(".yaml")`. -/
def withYamlSuffix (parts : List Comp) : Except PyError (List Comp) :=
  match parts.getLast? with
  -- A path without a last component has no suffix, and cannot be given one.
  | none => .error (.valueError "empty name")
  | some last =>
      if hasSuffix last then .ok parts else .ok (parts.dropLast ++ [last ++ ".yaml".toList])

namespace PackFiles

variable (files : PackFiles)

/-- `_resolve_path_for_name`. -/
def resolvePathForName (name : String) : Except PyError PackPath :=
  -- An absolute path has a separator in it.
  if '/' ∈ name.toList then do
    let parts ← withYamlSuffix (pathParts name)
    return parts.foldl push (if isAbsolute name then [] else files.cwd)
  else return resolve files.packsDir (name ++ ".yaml")

/-- `path.exists()`. -/
def exists? (path : PackPath) : Bool := (files.file path).isSome

/-- `_read_yaml_mapping`. -/
def readYamlMapping (path : PackPath) : Except PyError Dict :=
  match files.file path with
  | none => .error (.fileNotFoundError (text path))
  | some (.error e) => .error e
  | some (.ok (.obj raw)) => .ok raw
  | some (.ok _) => .error (.valueError "Policy pack must be a YAML mapping")

end PackFiles

/-- An installation with built-in packs only. -/
def PackFiles.builtIn (packs : List (String × Dict))
    (h : ∀ pack ∈ packs, Dict.Unique pack.2) : PackFiles where
  cwd := []
  packsDir := ["packs".toList]
  file path :=
    (packs.find? fun pack =>
      decide (path = ["packs".toList, pack.1.toList ++ ".yaml".toList])).map fun pack =>
        .ok (.obj pack.2)
  cwd_normal := by simp
  packsDir_normal c hc := by
    obtain rfl := List.mem_singleton.mp hc
    decide
  uniqueKeys p v hv := by
    obtain ⟨pack, hpack, hv⟩ := Option.map_eq_some_iff.mp hv
    rw [← Except.ok.inj hv]
    exact h pack (List.mem_of_find?_eq_some hpack)

/-! ## §2. The layers of a pack. -/

/-- `_IMPORT_SCALAR_KEYS`. -/
def importScalarKeys : List String :=
  ["allow_trust_compiler", "block_sorry_ax", "block_unexpected_custom_axioms",
    "require_human_if_imports_change", "require_human_on_trust_delta",
    "allow_interactive_warnings", "single_owner_handoff", "reviewer_gated_execution",
    "lock_ownership_invariant", "evidence_complete_execution_token", "delegation_admissibility",
    "state_transition_preservation", "artifact_admissibility", "side_effect_authorization"]

/-- `_MAX_COMPOSITION_DEPTH`. -/
def maxCompositionDepth : Nat := 12

/-- The keys that are consumed by the loader. -/
def compositionKeys : List String := ["extends", "import"]

/-- `raw.get("extends")`. -/
def extendsOf (raw : Dict) : Json := raw.getD "extends" .null

/-- `raw.get("import") or []`, if it is a list. -/
def importsOf (raw : Dict) : List Json :=
  match (raw.getD "import" .null).orElse (.arr []) with
  | .arr imports => imports
  | _ => []

/-- `strict_imports`. -/
def strictImports (raw : Dict) : Bool :=
  decide (raw.getD "composition_conflict_policy" .null = .str "error_on_import_scalar_override")

/-- `{k: v for k, v in raw.items() if k not in ("extends", "import")}`. -/
def bodyOf (raw : Dict) : Dict := raw.without compositionKeys

/-- The two mappings have different values at a key. -/
def conflictAt (merged incoming : Dict) (k : String) : Bool :=
  match merged.get? k, incoming.get? k with
  | some v, some w => !v.pyEq w
  | _, _ => false

/-- `_import_scalar_conflict` raises. -/
def importScalarConflict (merged incoming : Dict) : Bool :=
  importScalarKeys.any (conflictAt merged incoming)

section Layers

variable {m : Type → Type} [Monad m] [MonadExceptOf PyError m]

/-- The layer of the `extends` pack. -/
def extendsLayer (merge : String → m Dict) (raw : Dict) : m Dict :=
  if (extendsOf raw).truthy then
    match extendsOf raw with
    | .str ext => do
        let sub ← merge ext
        return Dict.update [] sub
    | _ => throw (PyError.typeError "extends must be a pack name string")
  else return []

/-- The layer of one entry of the import list. -/
def importLayer (merge : String → m Dict) (strict : Bool) (merged : Dict) : Json → m Dict
  | .str imp => do
      let sub ← merge imp
      if strict && importScalarConflict merged sub then
        throw (PyError.valueError "composition_conflict_policy=error_on_import_scalar_override")
      else return merged.update sub
  -- An entry that is no text is passed over.
  | _ => return merged

/-- The layers of a pack: what it extends, what it imports, its own body. -/
def mergeLayers (merge : String → m Dict) (raw : Dict) : m Dict := do
  let base ← extendsLayer merge raw
  let merged ← (importsOf raw).foldlM (importLayer merge (strictImports raw)) base
  return merged.update (bodyOf raw)

end Layers

/-- The set of packs a merge is in. -/
abbrev Visiting := List PackPath

/-- `_merge_pack_layers`, with the levels that are left before the depth is exceeded. -/
def mergePackLayers (files : PackFiles) : Nat → String → Attempt Visiting PyError Dict
  | 0, _ => throw (PyError.valueError "Policy pack composition depth exceeded")
  | levels + 1, name => do
      let path ← Attempt.lift (files.resolvePathForName name)
      let visiting ← Attempt.get
      if path ∈ visiting then throw (PyError.valueError "Circular policy pack reference")
      else
        Attempt.within (path :: ·) (fun visiting => visiting.filter fun p => decide (p ≠ path)) <|
          if files.exists? path then do
            let raw ← Attempt.lift (files.readYamlMapping path)
            mergeLayers (mergePackLayers files levels) raw
          else throw (PyError.fileNotFoundError name)

/-- `_merge_pack_layers(entry, depth=0, visiting=set())`. -/
def mergePack (files : PackFiles) (entry : String) : Except PyError Dict :=
  (mergePackLayers files (maxCompositionDepth + 1) entry []).1

/-! ## §3. A merge leaves the set as it found it. -/

/-- A merge, of the set it is called with. -/
def mergedAt (files : PackFiles) : Nat → Visiting → String → Except PyError Dict
  | 0, _, _ => throw (PyError.valueError "Policy pack composition depth exceeded")
  | levels + 1, visiting, name => do
      let path ← files.resolvePathForName name
      if path ∈ visiting then throw (PyError.valueError "Circular policy pack reference")
      else if files.exists? path then do
        let raw ← files.readYamlMapping path
        mergeLayers (mergedAt files levels (path :: visiting)) raw
      else throw (PyError.fileNotFoundError name)

section

variable {s : Visiting} {merge : String → Attempt Visiting PyError Dict}
  {sub : String → Except PyError Dict}

/-- The same of the base layer, -/
theorem extendsLayer_gives (h : ∀ name, (merge name).Gives s (sub name)) (raw : Dict) :
    (extendsLayer merge raw).Gives s (extendsLayer sub raw) := by
  unfold extendsLayer
  split
  · cases extendsOf raw with
    | str ext => exact (h ext).bind fun d _ => Attempt.gives_pure _
    | _ => exact Attempt.gives_throw _
  · exact Attempt.gives_pure _

/-- of one import, -/
theorem importLayer_gives (h : ∀ name, (merge name).Gives s (sub name)) (strict : Bool)
    (merged : Dict) (imp : Json) :
    (importLayer merge strict merged imp).Gives s (importLayer sub strict merged imp) := by
  cases imp with
  | str imp =>
      refine (h imp).bind fun d _ => ?_
      split
      · exact Attempt.gives_throw _
      · exact Attempt.gives_pure _
  | _ => exact Attempt.gives_pure _

/-- and of all the layers of a pack. -/
theorem mergeLayers_gives (h : ∀ name, (merge name).Gives s (sub name)) (raw : Dict) :
    (mergeLayers merge raw).Gives s (mergeLayers sub raw) := by
  refine (extendsLayer_gives h raw).bind fun base _ => ?_
  refine Attempt.Gives.bind ?_ fun merged _ => Attempt.gives_pure _
  exact Attempt.Gives.foldlM (fun merged imp _ => importLayer_gives h _ merged imp) base

end

/-- What is entered into the set and discarded again. -/
theorem discard_add {path : PackPath} {visiting : Visiting} (h : path ∉ visiting) :
    (path :: visiting).filter (fun p => decide (p ≠ path)) = visiting := by
  rw [List.filter_cons_of_neg (by simp), List.filter_eq_self]
  intro p hp
  have hne : p ≠ path := fun he => h (he ▸ hp)
  simpa using hne

/-- **A merge leaves `visiting` as it found it**, however it ends. -/
theorem mergePackLayers_gives (files : PackFiles) (levels : Nat) (name : String)
    (visiting : Visiting) :
    (mergePackLayers files levels name).Gives visiting (mergedAt files levels visiting name) := by
  induction levels generalizing name visiting with
  | zero => exact Attempt.gives_throw _
  | succ levels ih =>
      refine (Attempt.gives_lift _).bind fun path _ => ?_
      show (if path ∈ visiting then _ else _ : Attempt Visiting PyError Dict) visiting = _
      by_cases hmem : path ∈ visiting
      · rw [if_pos hmem, if_pos hmem]
        rfl
      · rw [if_neg hmem, if_neg hmem]
        refine Attempt.Gives.within ?_ (discard_add hmem)
        split
        · refine (Attempt.gives_lift _).bind fun raw _ => ?_
          exact mergeLayers_gives (fun sub => ih sub _) raw
        · exact Attempt.gives_throw _

/-- A merge is what it is of the set it is called with. -/
theorem mergePackLayers_fst (files : PackFiles) (levels : Nat) (name : String)
    (visiting : Visiting) :
    (mergePackLayers files levels name visiting).1 = mergedAt files levels visiting name := by
  rw [mergePackLayers_gives]

/-- Composition starts without ancestors, and with the whole depth. -/
theorem mergePack_eq (files : PackFiles) (entry : String) :
    mergePack files entry = mergedAt files (maxCompositionDepth + 1) [] entry := by
  unfold mergePack
  rw [mergePackLayers_fst]

/-! ## §4. One level. -/

/-- The name of the pack that a pack extends, if any. -/
def extendsNames (raw : Dict) : List String :=
  match extendsOf raw with
  | .str ext => if ext = "" then [] else [ext]
  | _ => []

/-- The name in an entry of the import list. -/
def importName? : Json → Option String
  | .str imp => some imp
  | _ => none

/-- The names in the import list. -/
def importNames (raw : Dict) : List String := (importsOf raw).filterMap importName?

/-- All names a pack refers to, in the order in which they are merged. -/
def refNames (raw : Dict) : List String := extendsNames raw ++ importNames raw

/-- What a pack extends is given by its name, if it extends anything. -/
def NamesExtends (raw : Dict) : Prop :=
  (extendsOf raw).truthy = true → ∃ ext, extendsOf raw = .str ext

section

variable {merge merge' : String → Except PyError Dict} {strict : Bool} {raw m : Dict}
  {e : PyError}

/-- The layer of one pack that is referred to. -/
def refLayer (merge : String → Except PyError Dict) (strict : Bool) (merged : Dict)
    (name : String) : Except PyError Dict := do
  let sub ← merge name
  if strict && importScalarConflict merged sub then
    throw (PyError.valueError "composition_conflict_policy=error_on_import_scalar_override")
  else return merged.update sub

/-- Nothing conflicts with the empty mapping. -/
@[simp] theorem importScalarConflict_nil (incoming : Dict) :
    importScalarConflict [] incoming = false := by
  unfold importScalarConflict
  rw [List.any_eq_false]
  intro k _
  simp [conflictAt]

/-- The base layers of named packs are merged in order. -/
theorem extendsLayer_eq (strict : Bool) (h : NamesExtends raw) :
    extendsLayer merge raw = (extendsNames raw).foldlM (refLayer merge strict) [] := by
  unfold extendsLayer extendsNames
  split
  next ht =>
    obtain ⟨ext, hext⟩ := h ht
    have hne : ext ≠ "" := by simpa [hext] using ht
    rw [hext]
    simp only [if_neg hne, List.foldlM_cons, List.foldlM_nil, bind_pure]
    unfold refLayer
    simp only [importScalarConflict_nil, Bool.and_false, Bool.false_eq_true, if_false]
  next hf =>
    -- A falsy value extends nothing: an empty text is no name.
    cases hext : extendsOf raw with
    | str ext =>
        have he : ext = "" := by simpa [hext] using hf
        rw [he]
        rfl
    | _ => rfl

/-- Only the imports that name a pack do anything. -/
theorem foldlM_importLayer (strict : Bool) (imports : List Json) (merged : Dict) :
    imports.foldlM (importLayer merge strict) merged =
      (imports.filterMap importName?).foldlM (refLayer merge strict) merged := by
  induction imports generalizing merged with
  | nil => rfl
  | cons imp imports ih =>
      cases imp with
      | str name =>
          rw [List.filterMap_cons_some (f := importName?) (b := name) rfl, List.foldlM_cons,
            List.foldlM_cons]
          exact congrArg (refLayer merge strict merged name >>= ·) (funext ih)
      | _ =>
          rw [List.filterMap_cons_none (f := importName?) rfl, List.foldlM_cons]
          exact ih merged

/-- One level of a merge: the packs that are referred to in order, then the body. -/
theorem mergeLayers_eq (h : NamesExtends raw) :
    mergeLayers merge raw =
      (refNames raw).foldlM (refLayer merge (strictImports raw)) [] >>= fun merged =>
        pure (merged.update (bodyOf raw)) := by
  unfold mergeLayers refNames
  rw [extendsLayer_eq (strictImports raw) h, List.foldlM_append, bind_assoc]
  refine congrArg _ (funext fun base => ?_)
  rw [foldlM_importLayer]
  rfl

/-- A pack that does not name what it extends is not merged. -/
theorem mergeLayers_unnamed (h : ¬ NamesExtends raw) :
    mergeLayers merge raw = .error (.typeError "extends must be a pack name string") := by
  unfold NamesExtends at h
  rw [Classical.not_imp] at h
  obtain ⟨ht, hne⟩ := h
  unfold mergeLayers extendsLayer
  rw [if_pos ht]
  cases hext : extendsOf raw with
  | str ext => exact absurd ⟨ext, hext⟩ hne
  | _ => rfl

/-- The mappings merged one after the other, unless one of them is in conflict. -/
def combine (strict : Bool) : Dict → List Dict → Option Dict
  | merged, [] => some merged
  | merged, sub :: subs =>
      if strict && importScalarConflict merged sub then none
      else combine strict (merged.update sub) subs

/-- Strict or not, what is combined is the update by all of them. -/
theorem combine_eq_some {merged : Dict} {subs : List Dict}
    (h : combine strict merged subs = some m) : m = merged.updateAll subs := by
  induction subs generalizing merged with
  | nil => exact (Option.some.inj h).symm
  | cons sub subs ih =>
      rw [combine] at h
      split at h
      · cases h
      · exact ih h

/-- Without strictness nothing is refused. -/
@[simp] theorem combine_false (merged : Dict) (subs : List Dict) :
    combine false merged subs = some (merged.updateAll subs) := by
  induction subs generalizing merged with
  | nil => rfl
  | cons sub subs ih => exact ih _

/-- The mappings that `merge` gives for the names. -/
def Gives (merge : String → Except PyError Dict) (names : List String) (subs : List Dict) : Prop :=
  List.Forall₂ (fun name sub => merge name = .ok sub) names subs

/-- A list of names is composed where each of them is. -/
theorem exists_gives_iff {names : List String} :
    (∃ subs, Gives merge names subs) ↔ ∀ name ∈ names, ∃ sub, merge name = .ok sub := by
  induction names with
  | nil => exact ⟨fun _ => by simp, fun _ => ⟨[], .nil⟩⟩
  | cons name names ih =>
      rw [List.forall_mem_cons, ← ih]
      constructor
      · intro h
        obtain ⟨subs, h⟩ := h
        cases h with
        | cons h hs => exact ⟨⟨_, h⟩, _, hs⟩
      · intro h
        obtain ⟨⟨sub, h⟩, subs, hs⟩ := h
        exact ⟨sub :: subs, .cons h hs⟩

/-- It is composed to one list of mappings. -/
theorem Gives.unique {names : List String} {subs subs' : List Dict} (h : Gives merge names subs)
    (h' : Gives merge names subs') : subs = subs' := by
  induction h generalizing subs' with
  | nil =>
      cases h'
      rfl
  | cons hsub _ ih =>
      cases h' with
      | cons hsub' hsubs' =>
          rw [Except.ok.inj (hsub.symm.trans hsub'), ih hsubs']

/-- What holds of all that `merge` gives holds of these mappings. -/
theorem Gives.forall {names : List String} {subs : List Dict} {P : Dict → Prop}
    (h : Gives merge names subs) (hP : ∀ name ∈ names, ∀ sub, merge name = .ok sub → P sub) :
    ∀ sub ∈ subs, P sub := by
  induction h with
  | nil => simp
  | cons hsub _ ih =>
      rw [List.forall_mem_cons] at hP ⊢
      exact ⟨hP.1 _ hsub, ih hP.2⟩

/-- The layers of a list of names: all are composed, and may be combined. -/
theorem foldlM_refLayer_ok {names : List String} {merged : Dict} :
    names.foldlM (refLayer merge strict) merged = .ok m ↔
      ∃ subs, Gives merge names subs ∧ combine strict merged subs = some m := by
  induction names generalizing merged with
  | nil =>
      constructor
      · intro h
        exact ⟨[], .nil, congrArg some (Except.ok.inj h)⟩
      · intro h
        obtain ⟨subs, hsubs, h⟩ := h
        cases hsubs
        exact congrArg Except.ok (Option.some.inj h)
  | cons name names ih =>
      rw [List.foldlM_cons, bind_eq_ok_iff]
      constructor
      · intro h
        obtain ⟨next, hnext, h⟩ := h
        obtain ⟨subs, hsubs, hcomb⟩ := ih.mp h
        obtain ⟨sub, hsub, hstep⟩ := bind_eq_ok_iff.mp hnext
        refine ⟨sub :: subs, .cons hsub hsubs, ?_⟩
        -- In strict mode a layer that changes a key is an error, and nothing is combined.
        split at hstep
        · cases hstep
        next hc =>
          obtain rfl : merged.update sub = next := Except.ok.inj hstep
          rw [combine, if_neg hc]
          exact hcomb
      · intro h
        obtain ⟨subs, hsubs, hcomb⟩ := h
        cases hsubs with
        | @cons _ sub _ subs hsub hsubs =>
            rw [combine] at hcomb
            split at hcomb
            · cases hcomb
            next hc =>
              refine ⟨merged.update sub, ?_, ih.mpr ⟨subs, hsubs, hcomb⟩⟩
              unfold refLayer
              rw [hsub, ok_bind, if_neg hc]
              rfl

/-- Where the layers fail, a name failed or strictness refused. -/
theorem foldlM_refLayer_error {names : List String} {merged : Dict}
    (h : names.foldlM (refLayer merge strict) merged = .error e) :
    (∃ name ∈ names, merge name = .error e) ∨ strict = true ∧ ∃ what, e = .valueError what := by
  induction names generalizing merged with
  | nil => cases h
  | cons name names ih =>
      rw [List.foldlM_cons] at h
      unfold refLayer at h
      cases hsub : merge name with
      | error e' =>
          rw [hsub] at h
          obtain rfl : e' = e := Except.error.inj h
          exact .inl ⟨name, List.mem_cons_self .., hsub⟩
      | ok sub =>
          rw [hsub, ok_bind] at h
          split at h
          next hc =>
            rw [Bool.and_eq_true] at hc
            exact .inr ⟨hc.1, _, (Except.error.inj h).symm⟩
          · refine (ih h).imp_left fun h => ?_
            obtain ⟨name, hmem, h⟩ := h
            exact ⟨name, List.mem_cons_of_mem _ hmem, h⟩

/-- **When one level succeeds**, and with what. -/
theorem mergeLayers_ok_iff :
    mergeLayers merge raw = .ok m ↔
      NamesExtends raw ∧ ∃ subs merged, Gives merge (refNames raw) subs ∧
        combine (strictImports raw) [] subs = some merged ∧ m = merged.update (bodyOf raw) := by
  by_cases h : NamesExtends raw
  · rw [mergeLayers_eq h, bind_eq_ok_iff]
    constructor
    · intro hm
      obtain ⟨merged, hmerged, hbody⟩ := hm
      obtain ⟨subs, hsubs, hcomb⟩ := foldlM_refLayer_ok.mp hmerged
      exact ⟨h, subs, merged, hsubs, hcomb, (Except.ok.inj hbody).symm⟩
    · intro hm
      obtain ⟨-, subs, merged, hsubs, hcomb, rfl⟩ := hm
      exact ⟨merged, foldlM_refLayer_ok.mpr ⟨subs, hsubs, hcomb⟩, rfl⟩
  · rw [mergeLayers_unnamed h]
    constructor
    · intro hm
      cases hm
    · intro hm
      exact absurd hm.1 h

/-- Where the error of one level comes from. -/
theorem mergeLayers_error (hext : NamesExtends raw) (h : mergeLayers merge raw = .error e) :
    (∃ name ∈ refNames raw, merge name = .error e) ∨
      strictImports raw = true ∧ ∃ what, e = .valueError what := by
  rw [mergeLayers_eq hext] at h
  cases hfold : (refNames raw).foldlM (refLayer merge (strictImports raw)) [] with
  | error e' =>
      rw [hfold] at h
      obtain rfl : e' = e := Except.error.inj h
      exact foldlM_refLayer_error hfold
  | ok merged =>
      rw [hfold] at h
      cases h

/-- More merges that succeed, with the same results: the level succeeds with the same. -/
theorem mergeLayers_mono (hsub : ∀ name sub, merge name = .ok sub → merge' name = .ok sub)
    (h : mergeLayers merge raw = .ok m) : mergeLayers merge' raw = .ok m := by
  obtain ⟨hext, subs, merged, hsubs, hcomb, hm⟩ := mergeLayers_ok_iff.mp h
  exact mergeLayers_ok_iff.mpr ⟨hext, subs, merged, hsubs.imp fun _ _ => hsub _ _, hcomb, hm⟩

end

/-! ## §5. A whole merge. -/

/-- The file of a path is a mapping. -/
def Mapping (files : PackFiles) (path : PackPath) (raw : Dict) : Prop :=
  files.file path = some (.ok (.obj raw))

section

variable {files files' : PackFiles} {path : PackPath} {raw m : Dict} {visiting visiting' : Visiting}
  {levels levels' : Nat} {name : String}

/-- The file of a mapping exists. -/
theorem Mapping.exists? (h : Mapping files path raw) : files.exists? path = true := by
  unfold PackFiles.exists?
  rw [h]
  rfl

/-- Its keys are unique. -/
theorem Mapping.unique (h : Mapping files path raw) : raw.Unique := files.uniqueKeys path _ h

/-- A path has one mapping. -/
theorem Mapping.eq {raw' : Dict} (h : Mapping files path raw) (h' : Mapping files path raw') :
    raw = raw' :=
  Json.obj.inj (Except.ok.inj (Option.some.inj (h.symm.trans h')))

/-- It is what is read. -/
theorem Mapping.read (h : Mapping files path raw) : files.readYamlMapping path = .ok raw := by
  unfold PackFiles.readYamlMapping
  rw [h]

/-- What is read is the mapping of the path. -/
theorem readYamlMapping_ok_iff : files.readYamlMapping path = .ok raw ↔ Mapping files path raw := by
  refine ⟨fun h => ?_, Mapping.read⟩
  unfold PackFiles.readYamlMapping at h
  split at h
  · cases h
  · cases h
  next hobj => exact hobj.trans (congrArg _ (congrArg _ (congrArg _ (Except.ok.inj h))))
  · cases h

/-- A built-in file has a mapping, -/
theorem exists?_builtIn {packs : List (String × Dict)} {h : ∀ pack ∈ packs, Dict.Unique pack.2}
    (hpath : (PackFiles.builtIn packs h).exists? path = true) :
    ∃ raw, Mapping (.builtIn packs h) path raw := by
  obtain ⟨v, hv⟩ := Option.isSome_iff_exists.mp hpath
  obtain ⟨pack, hpack, rfl⟩ := Option.map_eq_some_iff.mp hv
  exact ⟨pack.2, hv⟩

/-- which is that of one of the packs. -/
theorem Mapping.mem_builtIn {packs : List (String × Dict)}
    {h : ∀ pack ∈ packs, Dict.Unique pack.2} (hraw : Mapping (.builtIn packs h) path raw) :
    raw ∈ packs.map Prod.snd := by
  obtain ⟨pack, hpack, heq⟩ := Option.map_eq_some_iff.mp hraw
  rw [← Json.obj.inj (Except.ok.inj heq)]
  exact List.mem_map_of_mem (List.mem_of_find?_eq_some hpack)

/-- A merge of a pack whose file is a mapping. -/
theorem mergedAt_mapping (hpath : files.resolvePathForName name = .ok path)
    (hnew : path ∉ visiting) (h : Mapping files path raw) :
    mergedAt files (levels + 1) visiting name =
      mergeLayers (mergedAt files levels (path :: visiting)) raw := by
  rw [mergedAt, hpath, ok_bind, if_neg hnew, if_pos h.exists?, h.read, ok_bind]

/-- **When a merge succeeds.** -/
theorem mergedAt_ok_iff :
    mergedAt files (levels + 1) visiting name = .ok m ↔
      ∃ path raw, files.resolvePathForName name = .ok path ∧ path ∉ visiting ∧
        Mapping files path raw ∧
        mergeLayers (mergedAt files levels (path :: visiting)) raw = .ok m := by
  constructor
  · intro h
    rw [mergedAt, bind_eq_ok_iff] at h
    obtain ⟨path, hpath, h⟩ := h
    split at h
    · cases h
    next hnew =>
      split at h
      · obtain ⟨raw, hraw, h⟩ := bind_eq_ok_iff.mp h
        exact ⟨path, raw, hpath, hnew, readYamlMapping_ok_iff.mp hraw, h⟩
      · cases h
  · intro h
    obtain ⟨path, raw, hpath, hnew, hraw, h⟩ := h
    rw [mergedAt_mapping hpath hnew hraw]
    exact h

/-- Without the composition keys the rest stay unique. -/
theorem unique_bodyOf (h : raw.Unique) : (bodyOf raw).Unique := h.without compositionKeys

/-- The own body first, then what the references merge to. -/
theorem get?_update_bodyOf (h : raw.Unique) (merged : Dict) (k : String) :
    (merged.update (bodyOf raw)).get? k =
      (if k ∈ compositionKeys then none else raw.get? k).or (merged.get? k) := by
  have hkeys : (bodyOf raw).keys.Nodup := (Dict.unique_iff.mp (unique_bodyOf h)).1
  rw [Dict.get?_update hkeys, bodyOf, Dict.get?_without]

/-- The keys of a merged mapping are unique. -/
theorem mergedAt_unique (h : mergedAt files levels visiting name = .ok m) : m.Unique := by
  induction levels generalizing visiting name m with
  | zero => cases h
  | succ levels ih =>
      obtain ⟨path, raw, -, -, hraw, hm⟩ := mergedAt_ok_iff.mp h
      obtain ⟨-, subs, merged, hsubs, hcomb, rfl⟩ := mergeLayers_ok_iff.mp hm
      have hall : ∀ sub ∈ subs, Dict.Unique sub := hsubs.forall fun _ _ _ hsub => ih hsub
      rw [combine_eq_some hcomb]
      exact (Dict.unique_nil.updateAll hall).update (unique_bodyOf hraw.unique)

/-- With more levels, and in fewer packs, a merge comes to the same. -/
theorem mergedAt_mono (h : mergedAt files levels visiting name = .ok m)
    (hlevels : levels ≤ levels') (hvisiting : visiting' ⊆ visiting) :
    mergedAt files levels' visiting' name = .ok m := by
  induction levels generalizing visiting visiting' levels' name m with
  | zero => cases h
  | succ levels ih =>
      -- There is a level on the other side too; the references have one less on both.
      obtain ⟨levels', rfl⟩ := Nat.exists_eq_add_of_le' (Nat.one_le_of_lt hlevels)
      obtain ⟨path, raw, hpath, hnew, hraw, hm⟩ := mergedAt_ok_iff.mp h
      refine mergedAt_ok_iff.mpr ⟨path, raw, hpath, fun hmem => hnew (hvisiting hmem), hraw, ?_⟩
      exact mergeLayers_mono (fun name sub hsub =>
        ih hsub (Nat.le_of_succ_le_succ hlevels) (List.cons_subset_cons path hvisiting)) hm

end

end PackLoader

end ObligationRuntime
