/-
  ObligationRuntime.Guarantees.StrictImports — packs whose imports must not disagree.

  Under `error_on_import_scalar_override` each import is compared with what is merged so
  far.  As long as no comparison fails, what is merged holds every tracked value of every
  layer, up to `==`; so the comparisons together say that every two layers agree, and
  their order does not matter.

  Main results:
    * `combine_true_iff` — the comparisons succeed exactly when every two layers agree,
    * `mergedAt_replace` — a merge inside a pack does not read that pack's file,
    * `strict_imports_agree` — strict imports cannot silently disagree.
-/
import Mathlib.Data.List.Perm.Basic
import ObligationRuntime.Policy.PackLoader

namespace ObligationRuntime

open Py Posix

namespace PackLoader

/-! ## §1. Comparing with what is merged so far. -/

/-- Two layers have the same tracked values, where both have them. -/
abbrev Agree : Dict → Dict → Prop := Dict.AgreeOn importScalarKeys

section

variable {merged incoming m : Dict} {seen subs : List Dict}

theorem importScalarConflict_eq_false_iff :
    importScalarConflict merged incoming = false ↔ Agree merged incoming := by
  unfold importScalarConflict
  rw [List.any_eq_false]
  refine forall_congr' fun k => forall_congr' fun _ => ?_
  unfold conflictAt
  cases hv : merged.get? k with
  | none => simp
  | some v => cases hw : incoming.get? k <;> simp

/-- A run of comparisons that succeeds gathers the values of its layers. -/
theorem gathers_combine (h : Dict.Gathers importScalarKeys seen merged)
    (hsubs : ∀ sub ∈ subs, Dict.Unique sub) (hcomb : combine true merged subs = some m) :
    Dict.Gathers importScalarKeys (seen ++ subs) m := by
  induction subs generalizing seen merged with
  | nil =>
      obtain rfl := Option.some.inj hcomb
      rw [List.append_nil]
      exact h
  | cons sub subs ih =>
      rw [List.forall_mem_cons] at hsubs
      rw [combine, Bool.true_and] at hcomb
      split at hcomb
      · cases hcomb
      next hc =>
        have hagree : Agree merged sub :=
          importScalarConflict_eq_false_iff.mp (Bool.eq_false_iff.mpr hc)
        have hnext := ih (h.update hsubs.1 hagree) hsubs.2 hcomb
        rwa [List.append_assoc, List.singleton_append] at hnext

/-- **The comparisons succeed exactly when every two layers agree.** -/
theorem combine_true_iff (h : Dict.Gathers importScalarKeys seen merged)
    (hsubs : ∀ sub ∈ subs, Dict.Unique sub) :
    (∃ m, combine true merged subs = some m) ↔
      (∀ s ∈ seen, ∀ sub ∈ subs, Agree s sub) ∧ subs.Pairwise Agree := by
  induction subs generalizing seen merged with
  | nil => exact ⟨fun _ => ⟨by simp, .nil⟩, fun _ => ⟨merged, rfl⟩⟩
  | cons sub subs ih =>
      rw [List.forall_mem_cons] at hsubs
      rw [combine, Bool.true_and, List.pairwise_cons]
      -- What was gathered agrees with this layer iff every layer before it does.
      by_cases hagree : Agree merged sub
      · have hseen : ∀ s ∈ seen, Agree s sub := h.agreeOn_iff.mp hagree
        rw [importScalarConflict_eq_false_iff.mpr hagree, if_neg Bool.false_ne_true,
          ih (h.update hsubs.1 hagree) hsubs.2]
        constructor
        · intro hrest
          obtain ⟨hall, hpair⟩ := hrest
          refine ⟨fun s hs => List.forall_mem_cons.mpr ⟨hseen s hs, ?_⟩, ?_, hpair⟩
          · exact hall s (List.mem_append_left _ hs)
          · exact hall sub (List.mem_append_right _ (List.mem_singleton_self sub))
        · intro hrest
          obtain ⟨hall, hsub, hpair⟩ := hrest
          refine ⟨fun s hs => ?_, hpair⟩
          rcases List.mem_append.mp hs with hs | hs
          · exact (List.forall_mem_cons.mp (hall s hs)).2
          · exact List.mem_singleton.mp hs ▸ hsub
      · have hc : importScalarConflict merged sub = true := by
          rw [← Bool.not_eq_false, importScalarConflict_eq_false_iff]
          exact hagree
        rw [if_pos hc]
        constructor
        · intro hm
          obtain ⟨m, hm⟩ := hm
          cases hm
        · intro hrest
          exact absurd (h.agreeOn_iff.mpr fun s hs =>
            (List.forall_mem_cons.mp (hrest.1 s hs)).1) hagree

end

/-! ## §2. Another text of one pack. -/

/-- The files with another mapping in one of them. -/
def PackFiles.replace (files : PackFiles) (path : PackPath) (raw : Dict) (h : raw.Unique) :
    PackFiles where
  cwd := files.cwd
  packsDir := files.packsDir
  file p := if p = path then some (.ok (.obj raw)) else files.file p
  cwd_normal := files.cwd_normal
  packsDir_normal := files.packsDir_normal
  uniqueKeys p v hv := by
    split at hv
    · obtain rfl := Except.ok.inj (Option.some.inj hv)
      exact h
    · exact files.uniqueKeys p v hv

section

variable {files : PackFiles} {path : PackPath} {raw raw' : Dict} {h : raw'.Unique}

theorem replace_mapping : Mapping (files.replace path raw' h) path raw' := if_pos rfl

/-- **A merge inside a pack does not read that pack's file.** -/
theorem mergedAt_replace {levels : Nat} {visiting : Visiting} (hmem : path ∈ visiting)
    (name : String) :
    mergedAt (files.replace path raw' h) levels visiting name =
      mergedAt files levels visiting name := by
  induction levels generalizing visiting name with
  | zero => rfl
  | succ levels ih =>
      have hres : (files.replace path raw' h).resolvePathForName name =
          files.resolvePathForName name := rfl
      rw [mergedAt, mergedAt, hres]
      refine congrArg (files.resolvePathForName name >>= ·) (funext fun p => ?_)
      by_cases hp : p ∈ visiting
      · rw [if_pos hp, if_pos hp]
      · -- A file that is read is not one of those the merge is in.
        have hne : p ≠ path := fun he => hp (he ▸ hmem)
        have hfile : (files.replace path raw' h).file p = files.file p := if_neg hne
        have hrec : mergedAt (files.replace path raw' h) levels (p :: visiting) =
            mergedAt files levels (p :: visiting) :=
          funext fun name => ih (List.mem_cons_of_mem _ hmem) name
        rw [if_neg hp, if_neg hp, hrec]
        unfold PackFiles.exists? PackFiles.readYamlMapping
        rw [hfile]

end

/-- The same pack with its import list in another order. -/
structure Reordered (raw raw' : Dict) : Prop where
  imports : (importsOf raw).Perm (importsOf raw')
  others : ∀ k, k ≠ "import" → raw'.get? k = raw.get? k

section

variable {raw raw' : Dict} (h : Reordered raw raw')
include h

theorem Reordered.extendsOf_eq : extendsOf raw' = extendsOf raw := by
  unfold extendsOf Dict.getD
  rw [h.others "extends" (by decide)]

theorem Reordered.strictImports_eq : strictImports raw' = strictImports raw := by
  unfold strictImports Dict.getD
  rw [h.others "composition_conflict_policy" (by decide)]

theorem Reordered.refNames_perm : (refNames raw).Perm (refNames raw') := by
  unfold refNames extendsNames
  rw [h.extendsOf_eq]
  exact (h.imports.filterMap importName?).append_left _

end

/-! ## §3. A strict pack. -/

/-- No tracked key is a composition key. -/
theorem importScalarKeys_tracked : ∀ k ∈ importScalarKeys, k ∉ compositionKeys := by decide

section

variable {merge : String → Except PyError Dict} {raw raw' m m' : Dict} {subs : List Dict}

/-- A strict level succeeds exactly when every two of its layers agree. -/
theorem mergeLayers_strict (hext : NamesExtends raw) (hstrict : strictImports raw = true)
    (hsubs : Gives merge (refNames raw) subs) (hunique : ∀ sub ∈ subs, Dict.Unique sub) :
    (∃ m, mergeLayers merge raw = .ok m) ↔ subs.Pairwise Agree := by
  have hcombine : (∃ m, combine true [] subs = some m) ↔ subs.Pairwise Agree := by
    rw [combine_true_iff (Dict.gathers_nil importScalarKeys) hunique]
    exact ⟨fun h => h.2, fun h => ⟨by simp, h⟩⟩
  rw [← hcombine]
  constructor
  · intro h
    obtain ⟨m, hm⟩ := h
    obtain ⟨-, subs', merged, hsubs', hcomb, -⟩ := mergeLayers_ok_iff.mp hm
    obtain rfl := hsubs.unique hsubs'
    exact ⟨merged, hstrict ▸ hcomb⟩
  · intro h
    obtain ⟨merged, hcomb⟩ := h
    exact ⟨_, mergeLayers_ok_iff.mpr ⟨hext, subs, merged, hsubs, hstrict.symm ▸ hcomb, rfl⟩⟩

/-- What a strict level holds, under its own body. -/
theorem mergeLayers_gathers (hstrict : strictImports raw = true)
    (hsubs : Gives merge (refNames raw) subs) (hunique : ∀ sub ∈ subs, Dict.Unique sub)
    (h : mergeLayers merge raw = .ok m) :
    ∃ merged, Dict.Gathers importScalarKeys subs merged ∧ m = merged.update (bodyOf raw) := by
  obtain ⟨-, subs', merged, hsubs', hcomb, hm⟩ := mergeLayers_ok_iff.mp h
  obtain rfl := hsubs.unique hsubs'
  rw [hstrict] at hcomb
  exact ⟨merged, gathers_combine (Dict.gathers_nil _) hunique hcomb, hm⟩

end

section

variable {files : PackFiles} {levels : Nat} {visiting : Visiting} {name : String}
  {path : PackPath} {raw raw' m m' : Dict} {subs : List Dict}

/-- The layers of a reordered pack are those of the pack, in another order. -/
theorem Reordered.gives {merge : String → Except PyError Dict} (h : Reordered raw raw')
    (hsubs : Gives merge (refNames raw) subs) :
    ∃ subs', Gives merge (refNames raw') subs' ∧ subs.Perm subs' := by
  obtain ⟨subs', hsubs', hperm⟩ := List.perm_comp_forall₂ h.refNames_perm.symm hsubs
  exact ⟨subs', hsubs', hperm.symm⟩

/-- Bodies that are the same over what is the same. -/
theorem sameOn_update_bodyOf {merged merged' : Dict} (hraw : raw.Unique) (hraw' : raw'.Unique)
    (h : Reordered raw raw') (hsame : Dict.SameOn importScalarKeys merged merged') :
    Dict.SameOn importScalarKeys (merged.update (bodyOf raw)) (merged'.update (bodyOf raw')) := by
  intro k hk
  have htracked : k ∉ compositionKeys := importScalarKeys_tracked k hk
  have hne : k ≠ "import" := fun he => htracked (he ▸ by decide)
  rw [get?_update_bodyOf hraw, get?_update_bodyOf hraw', if_neg htracked, if_neg htracked,
    h.others k hne]
  cases hv : raw.get? k with
  -- The body is the same, and wins.
  | some v => exact .some (Json.pyEq_refl v (hraw.value hv))
  | none => exact hsame k hk

/-- **Strict imports cannot silently disagree.**  Where the extended pack and all imports
are merged, a strict pack is merged exactly when every two of them agree on the tracked
keys; in every order of its imports it succeeds or fails alike, with the same tracked
values; and its own body overrides. -/
theorem strict_imports_agree (hpath : files.resolvePathForName name = .ok path)
    (hnew : path ∉ visiting) (hraw : Mapping files path raw) (hext : NamesExtends raw)
    (hstrict : strictImports raw = true)
    (hsubs : Gives (fun ref => (mergePackLayers files levels ref (path :: visiting)).1)
      (refNames raw) subs) :
    ((∃ m, (mergePackLayers files (levels + 1) name visiting).1 = .ok m) ↔
      subs.Pairwise Agree) ∧
    (∀ raw' (hunique : raw'.Unique), Reordered raw raw' →
      ((∃ m, (mergePackLayers (files.replace path raw' hunique) (levels + 1) name
          visiting).1 = .ok m) ↔
        ∃ m, (mergePackLayers files (levels + 1) name visiting).1 = .ok m) ∧
      ∀ m m', (mergePackLayers files (levels + 1) name visiting).1 = .ok m →
        (mergePackLayers (files.replace path raw' hunique) (levels + 1) name visiting).1 = .ok m' →
        Dict.SameOn importScalarKeys m m') ∧
    ∀ m, (mergePackLayers files (levels + 1) name visiting).1 = .ok m →
      ∀ k ∉ compositionKeys, ∀ v, raw.get? k = some v → m.get? k = some v := by
  simp only [mergePackLayers_fst] at hsubs ⊢
  rw [mergedAt_mapping hpath hnew hraw]
  have huniques : ∀ sub ∈ subs, Dict.Unique sub :=
    hsubs.forall fun _ _ _ hsub => mergedAt_unique hsub
  have hpair := mergeLayers_strict hext hstrict hsubs huniques
  refine ⟨hpair, fun raw' hunique hre => ?_, fun m hm k hk v hv => ?_⟩
  · have hext' : NamesExtends raw' := by
      unfold NamesExtends
      rw [hre.extendsOf_eq]
      exact hext
    have hstrict' : strictImports raw' = true := hre.strictImports_eq.trans hstrict
    obtain ⟨subs', hsubs', hperm⟩ := hre.gives hsubs
    have huniques' : ∀ sub ∈ subs', Dict.Unique sub :=
      fun sub hsub => huniques sub (hperm.mem_iff.mpr hsub)
    -- The packs below are merged without looking at this one.
    have hbelow : mergedAt (files.replace path raw' hunique) levels (path :: visiting) =
        mergedAt files levels (path :: visiting) :=
      funext fun ref => mergedAt_replace (List.mem_cons_self ..) ref
    have hhere : mergedAt (files.replace path raw' hunique) (levels + 1) visiting name =
        mergeLayers (mergedAt files levels (path :: visiting)) raw' := by
      have hpath' : (files.replace path raw' hunique).resolvePathForName name = .ok path := hpath
      rw [mergedAt_mapping hpath' hnew replace_mapping, hbelow]
    rw [hhere]
    refine ⟨?_, fun m m' hm hm' => ?_⟩
    · rw [mergeLayers_strict hext' hstrict' hsubs' huniques', hpair]
      exact ⟨Dict.pairwise_agreeOn_perm hperm.symm huniques',
        Dict.pairwise_agreeOn_perm hperm huniques⟩
    · obtain ⟨merged, hgathers, rfl⟩ := mergeLayers_gathers hstrict hsubs huniques hm
      obtain ⟨merged', hgathers', rfl⟩ := mergeLayers_gathers hstrict' hsubs' huniques' hm'
      exact sameOn_update_bodyOf hraw.unique hunique hre
        (hgathers.sameOn hgathers' fun sub => hperm.mem_iff)
  · obtain ⟨merged, -, rfl⟩ := mergeLayers_gathers hstrict hsubs huniques hm
    rw [get?_update_bodyOf hraw.unique, if_neg hk, hv]
    rfl

end

/-- A strict pack. -/
def both : Dict :=
  [("composition_conflict_policy", .str "error_on_import_scalar_override"),
    ("import", .arr [.str "left", .str "right"]), ("block_sorry_ax", .bool false)]

/-- A strict pack and its imports, which agree: `True == 1`. -/
def siblings : List (String × Dict) :=
  [("both", both), ("left", [("block_sorry_ax", .bool true)]),
    ("right", [("block_sorry_ax", .int 1), ("single_owner_handoff", .bool true)])]

theorem siblings_unique : ∀ pack ∈ siblings, Dict.Unique pack.2 := by
  decide

theorem siblings_gives :
    Gives (fun ref => (mergePackLayers (.builtIn siblings siblings_unique) 12 ref
        [["packs".toList, "both.yaml".toList]]).1) (refNames both)
      [[("block_sorry_ax", .bool true)],
        [("block_sorry_ax", .int 1), ("single_owner_handoff", .bool true)]] :=
  .cons rfl (.cons rfl .nil)

theorem strict_imports_agree_scripted :
    ((∃ m, (mergePackLayers (.builtIn siblings siblings_unique) 13 "both" []).1 = .ok m) ↔
      [[("block_sorry_ax", Json.bool true)],
        [("block_sorry_ax", .int 1), ("single_owner_handoff", .bool true)]].Pairwise Agree) ∧
    ∀ m, (mergePackLayers (.builtIn siblings siblings_unique) 13 "both" []).1 = .ok m →
      m.get? "block_sorry_ax" = some (.bool false) := by
  have hraw : Mapping (.builtIn siblings siblings_unique)
      ["packs".toList, "both.yaml".toList] both := rfl
  have hext : NamesExtends both := fun h => by cases h
  have hpath : (PackFiles.builtIn siblings siblings_unique).resolvePathForName "both" =
      .ok ["packs".toList, "both.yaml".toList] := rfl
  have h := strict_imports_agree hpath List.not_mem_nil hraw hext rfl siblings_gives
  exact ⟨h.1, fun m hm => h.2.2 m hm "block_sorry_ax" (by decide) _ rfl⟩

end PackLoader

end ObligationRuntime
