/-
  ObligationRuntime.Guarantees.PackComposition — when packs compose, and to what.

  The packs and their references form a graph: its nodes are the files, and there is an
  edge from a pack to every pack that it extends or imports.  A merge goes down this graph
  with the packs it is in and the levels it has left, and so it succeeds exactly when
  nothing that can be reached is missing, on a cycle or too deep.  A pack that is reached
  in two ways is merged twice, which is no error.

  Main results:
    * `merge_succeeds_iff` — composition fails exactly on bad graphs,
    * `merged_lookup` — what a merged pack has at a key.
-/
import ObligationRuntime.Lib.Descent
import ObligationRuntime.Policy.PackLoader

namespace ObligationRuntime

open Py Posix Descent Relation

namespace PackLoader

/-! ## §1. The graph of the packs. -/

/-- The files are packs: mappings that name what they extend, with the default conflict
policy. -/
structure WellFormed (files : PackFiles) : Prop where
  mapping : ∀ path, files.exists? path = true → ∃ raw, Mapping files path raw
  namesExtends : ∀ path raw, Mapping files path raw → NamesExtends raw
  lastWins : ∀ path raw, Mapping files path raw → strictImports raw = false

/-- One pack extends or imports another. -/
def Refers (files : PackFiles) (p q : PackPath) : Prop :=
  ∃ raw, Mapping files p raw ∧ ∃ name ∈ refNames raw, files.resolvePathForName name = .ok q

/-- The pack exists, and what it names can be the name of a file. -/
def Present (files : PackFiles) (p : PackPath) : Prop :=
  files.exists? p = true ∧ ∀ raw, Mapping files p raw →
    ∀ name ∈ refNames raw, ∃ q, files.resolvePathForName name = .ok q

/-- Every pack that can be reached from the entry exists. -/
def AllPresent (files : PackFiles) (entry : String) : Prop :=
  ∃ p, files.resolvePathForName entry = .ok p ∧
    ∀ q, ReflTransGen (Refers files) p q → Present files q

/-- No pack that can be reached from the entry is on a cycle. -/
def Acyclic (files : PackFiles) (entry : String) : Prop :=
  ∀ p, files.resolvePathForName entry = .ok p →
    ∀ q, ReflTransGen (Refers files) p q → ¬ TransGen (Refers files) q q

/-- No chain of references from the entry is longer than `n`. -/
def ChainsWithin (files : PackFiles) (n : Nat) (entry : String) : Prop :=
  ∀ p, files.resolvePathForName entry = .ok p →
    ∀ ps, List.IsChain (Refers files) (p :: ps) → ps.length ≤ n

section

variable {files : PackFiles} {levels : Nat} {visiting : Visiting} {name entry : String}
  {e : PyError}

/-! ## §2. When a merge succeeds. -/

/-- A merge is a descent in the graph of the packs. -/
theorem mergedAt_descends (h : WellFormed files) :
    (∃ m, mergedAt files levels visiting name = .ok m) ↔
      ∃ p, files.resolvePathForName name = .ok p ∧
        Descends (Refers files) (Present files) levels visiting p := by
  induction levels generalizing visiting name with
  | zero =>
      -- Without a level the merge raises, and no descent has begun.
      constructor
      · intro hm
        obtain ⟨m, hm⟩ := hm
        cases hm
      · intro hd
        obtain ⟨p, -, hd⟩ := hd
        cases hd
  | succ levels ih =>
      constructor
      · intro hm
        obtain ⟨m, hm⟩ := hm
        obtain ⟨p, raw, hp, hnew, hraw, hm⟩ := mergedAt_ok_iff.mp hm
        obtain ⟨-, subs, -, hsubs, -⟩ := mergeLayers_ok_iff.mp hm
        -- Every reference was merged one level below: by induction it is a descent.
        have hrefs : ∀ name ∈ refNames raw, ∃ q, files.resolvePathForName name = .ok q ∧
            Descends (Refers files) (Present files) levels (p :: visiting) q :=
          fun name hname => ih.mp (exists_gives_iff.mp ⟨subs, hsubs⟩ name hname)
        refine ⟨p, hp, .intro hnew ⟨hraw.exists?, fun raw' hraw' name hname => ?_⟩ ?_⟩
        · obtain ⟨q, hq, -⟩ := hrefs name (hraw'.eq hraw ▸ hname)
          exact ⟨q, hq⟩
        · intro q hpq
          obtain ⟨raw', hraw', name, hname, hq⟩ := hpq
          obtain ⟨q', hq', hd⟩ := hrefs name (hraw'.eq hraw ▸ hname)
          obtain rfl : q' = q := Except.ok.inj (hq'.symm.trans hq)
          exact hd
      · intro hd
        obtain ⟨p, hp, hd⟩ := hd
        cases hd with
        | intro hnew hpresent hbelow =>
            obtain ⟨raw, hraw⟩ := h.mapping p hpresent.1
            -- Every reference is an edge that was gone down: by induction it is merged.
            have hsub : ∀ name ∈ refNames raw,
                ∃ sub, mergedAt files levels (p :: visiting) name = .ok sub := by
              intro name hname
              obtain ⟨q, hq⟩ := hpresent.2 raw hraw name hname
              exact ih.mpr ⟨q, hq, hbelow q ⟨raw, hraw, name, hname, hq⟩⟩
            obtain ⟨subs, hsubs⟩ := exists_gives_iff.mpr hsub
            refine ⟨(Dict.updateAll [] subs).update (bodyOf raw), mergedAt_ok_iff.mpr ?_⟩
            refine ⟨p, raw, hp, hnew, hraw, mergeLayers_ok_iff.mpr ?_⟩
            refine ⟨h.namesExtends p raw hraw, subs, _, hsubs, ?_, rfl⟩
            -- Under the default policy no layer is in conflict.
            rw [h.lastWins p raw hraw, combine_false]

/-- A merge of packs that all exist fails with a `ValueError`. -/
theorem mergedAt_error (h : WellFormed files) {p : PackPath}
    (hp : files.resolvePathForName name = .ok p)
    (hall : ∀ q, ReflTransGen (Refers files) p q → Present files q)
    (herr : mergedAt files levels visiting name = .error e) : ∃ what, e = .valueError what := by
  induction levels generalizing visiting name p with
  | zero => exact ⟨_, (Except.error.inj herr).symm⟩
  | succ levels ih =>
      by_cases hmem : p ∈ visiting
      · rw [mergedAt, hp, ok_bind, if_pos hmem] at herr
        exact ⟨_, (Except.error.inj herr).symm⟩
      · obtain ⟨hexists, hnames⟩ := hall p .refl
        obtain ⟨raw, hraw⟩ := h.mapping p hexists
        rw [mergedAt_mapping hp hmem hraw] at herr
        -- The error is that of a reference, which exists as well.
        rcases mergeLayers_error (h.namesExtends p raw hraw) herr with ⟨ref, href, herr⟩ | hstrict
        · obtain ⟨q, hq⟩ := hnames raw hraw ref href
          have hpq : Refers files p q := ⟨raw, hraw, ref, href, hq⟩
          exact ih hq (fun r hr => hall r (.head hpq hr)) herr
        · exact hstrict.2

/-- The graph below the entry is good exactly when the entry is merged. -/
theorem mergePack_ok_iff (h : WellFormed files) :
    (∃ m, mergePack files entry = .ok m) ↔
      AllPresent files entry ∧ Acyclic files entry ∧
        ChainsWithin files maxCompositionDepth entry := by
  rw [mergePack_eq, mergedAt_descends h]
  constructor
  · intro hd
    obtain ⟨p, hp, hd⟩ := hd
    obtain ⟨hall, hacyclic, hlen⟩ := descends_iff.mp hd
    have huniq : ∀ q, files.resolvePathForName entry = .ok q → q = p :=
      fun q hq => Except.ok.inj (hq.symm.trans hp)
    refine ⟨⟨p, hp, hall⟩, fun q hq => ?_, fun q hq ps hps => ?_⟩
    · exact huniq q hq ▸ hacyclic
    · exact Nat.le_of_lt_succ (hlen ps (huniq q hq ▸ hps))
  · intro hgraph
    obtain ⟨⟨p, hp, hall⟩, hacyclic, hlen⟩ := hgraph
    exact ⟨p, hp, descends_iff.mpr
      ⟨hall, hacyclic p hp, fun ps hps => Nat.lt_succ_of_le (hlen p hp ps hps)⟩⟩

/-- **Composition fails exactly on bad graphs.**  The entry is merged exactly when every
pack that can be reached exists, none of them is on a cycle and no chain of references is
longer than 12; where all of them exist, the failure is a `ValueError`. -/
theorem merge_succeeds_iff (h : WellFormed files) (entry : String) :
    ((∃ m, mergePack files entry = .ok m) ↔
      AllPresent files entry ∧ Acyclic files entry ∧ ChainsWithin files 12 entry) ∧
    (AllPresent files entry → ¬ (Acyclic files entry ∧ ChainsWithin files 12 entry) →
      ∃ what, mergePack files entry = .error (.valueError what)) := by
  refine ⟨mergePack_ok_iff h, fun hall hbad => ?_⟩
  cases hm : mergePack files entry with
  | ok m => exact absurd ((mergePack_ok_iff h).mp ⟨m, hm⟩).2 hbad
  | error e =>
      obtain ⟨p, hp, hreach⟩ := hall
      rw [mergePack_eq] at hm
      obtain ⟨what, rfl⟩ := mergedAt_error h hp hreach hm
      exact ⟨what, rfl⟩

end

/-- Two packs that extend one base, and a pack that imports both. -/
def diamond : List (String × Dict) :=
  [("top", [("import", .arr [.str "left", .int 7, .str "right"]), ("name", .str "top")]),
    ("left", [("extends", .str "base"), ("block_sorry_ax", .bool false)]),
    ("right", [("extends", .str "base"), ("protected_paths", .arr [.str "Core"])]),
    ("base", [("block_sorry_ax", .bool true), ("protected_paths", .arr [.str "Base"])]),
    ("loop", [("extends", .str "loop")])]

theorem diamond_unique : ∀ pack ∈ diamond, Dict.Unique pack.2 := by
  decide

theorem diamond_wellFormed : WellFormed (.builtIn diamond diamond_unique) where
  mapping _ := exists?_builtIn
  namesExtends _ raw hraw := by
    have hmem := hraw.mem_builtIn
    simp only [diamond, List.map_cons, List.map_nil, List.mem_cons, List.not_mem_nil,
      or_false] at hmem
    unfold NamesExtends
    rcases hmem with rfl | rfl | rfl | rfl | rfl <;> simp [extendsOf, Dict.getD]
  lastWins _ raw hraw := by
    have hmem := hraw.mem_builtIn
    simp only [diamond, List.map_cons, List.map_nil, List.mem_cons, List.not_mem_nil,
      or_false] at hmem
    rcases hmem with rfl | rfl | rfl | rfl | rfl <;> rfl

theorem merge_succeeds_iff_scripted :
    ((∃ m, mergePack (.builtIn diamond diamond_unique) "loop" = .ok m) ↔
      AllPresent (.builtIn diamond diamond_unique) "loop" ∧
        Acyclic (.builtIn diamond diamond_unique) "loop" ∧
        ChainsWithin (.builtIn diamond diamond_unique) 12 "loop") ∧
    (AllPresent (.builtIn diamond diamond_unique) "loop" →
      ¬ (Acyclic (.builtIn diamond diamond_unique) "loop" ∧
          ChainsWithin (.builtIn diamond diamond_unique) 12 "loop") →
      ∃ what, mergePack (.builtIn diamond diamond_unique) "loop" = .error (.valueError what)) :=
  merge_succeeds_iff diamond_wellFormed "loop"

/-! ## §3. What a merged pack has at a key. -/

/-- What the merged pack of a name has at a key. -/
def mergedValue (files : PackFiles) (k name : String) : Option Json :=
  (mergePack files name).toOption.bind (·.get? k)

/-- What the last import that has the key has, else what the extended pack has. -/
def inheritedValue (files : PackFiles) (raw : Dict) (k : String) : Option Json :=
  ((importNames raw).reverse.findSome? (mergedValue files k)).or
    ((extendsNames raw).findSome? (mergedValue files k))

section

variable {files : PackFiles} {raw m : Dict} {subs : List Dict} {entry k : String}

theorem extendsNames_reverse (raw : Dict) : (extendsNames raw).reverse = extendsNames raw := by
  unfold extendsNames
  split
  · split <;> rfl
  · rfl

/-- The last of the merged packs with a key is that of the last name with the key. -/
theorem findSome?_gives {names : List String} (h : Gives (mergePack files) names subs)
    (k : String) :
    subs.reverse.findSome? (·.get? k) = names.reverse.findSome? (mergedValue files k) := by
  induction h with
  | nil => rfl
  | @cons name sub names subs hsub _ ih =>
      have hvalue : mergedValue files k name = sub.get? k := by
        unfold mergedValue
        rw [hsub]
        rfl
      rw [List.reverse_cons, List.reverse_cons, List.findSome?_append, List.findSome?_append, ih]
      congr 1
      simp [hvalue]

theorem findSome?_refNames (raw : Dict) (k : String) :
    (refNames raw).reverse.findSome? (mergedValue files k) = inheritedValue files raw k := by
  unfold refNames inheritedValue
  rw [List.reverse_append, List.findSome?_append, extendsNames_reverse]

/-- A pack that is merged: its file, and the merged packs it refers to. -/
theorem mergePack_layers (h : mergePack files entry = .ok m) :
    ∃ path raw subs merged, files.resolvePathForName entry = .ok path ∧
      Mapping files path raw ∧ Gives (mergePack files) (refNames raw) subs ∧
      combine (strictImports raw) [] subs = some merged ∧ m = merged.update (bodyOf raw) := by
  rw [mergePack_eq] at h
  obtain ⟨path, raw, hpath, -, hraw, hm⟩ := mergedAt_ok_iff.mp h
  obtain ⟨-, subs, merged, hsubs, hcomb, hm⟩ := mergeLayers_ok_iff.mp hm
  refine ⟨path, raw, subs, merged, hpath, hraw, hsubs.imp fun name sub hsub => ?_, hcomb, hm⟩
  -- From the entry there are more levels, and no packs it is in.
  rw [mergePack_eq]
  exact mergedAt_mono hsub (Nat.le_succ _) (List.nil_subset _)

theorem mergePack_unique (h : mergePack files entry = .ok m) : m.Unique := by
  rw [mergePack_eq] at h
  exact mergedAt_unique h

/-- A merged mapping has no composition key. -/
theorem mergedAt_compositionKeys {levels : Nat} {visiting : Visiting} {name : String}
    (h : mergedAt files levels visiting name = .ok m) (hk : k ∈ compositionKeys) :
    m.get? k = none := by
  induction levels generalizing visiting name m with
  | zero => cases h
  | succ levels ih =>
      obtain ⟨path, raw, -, -, hraw, hm⟩ := mergedAt_ok_iff.mp h
      obtain ⟨-, subs, merged, hsubs, hcomb, rfl⟩ := mergeLayers_ok_iff.mp hm
      have hunique : ∀ sub ∈ subs, Dict.Unique sub :=
        hsubs.forall fun _ _ _ hsub => mergedAt_unique hsub
      have hnone : ∀ sub ∈ subs, Dict.get? sub k = none := hsubs.forall fun _ _ _ hsub => ih hsub
      -- The body has none of these keys, and by induction no layer has one.
      have hfind : subs.reverse.findSome? (·.get? k) = none :=
        List.findSome?_eq_none_iff.mpr fun sub hsub => hnone sub (List.mem_reverse.mp hsub)
      rw [get?_update_bodyOf hraw.unique, if_pos hk, combine_eq_some hcomb,
        Dict.get?_updateAll hunique, hfind]
      rfl

/-- **What a merged pack has at a key**: its own value, else that of the last import that
has the key, else that of the pack it extends.  The composition keys are consumed. -/
theorem merged_lookup (h : WellFormed files) (hall : AllPresent files entry)
    (hacyclic : Acyclic files entry) (hchains : ChainsWithin files 12 entry) :
    ∃ path raw m, files.resolvePathForName entry = .ok path ∧ Mapping files path raw ∧
      mergePack files entry = .ok m ∧
      (∀ name ∈ refNames raw, ∃ sub, mergePack files name = .ok sub) ∧
      (∀ k ∉ compositionKeys, m.get? k = (raw.get? k).or (inheritedValue files raw k)) ∧
      ∀ k ∈ compositionKeys, m.get? k = none := by
  obtain ⟨m, hm⟩ := (mergePack_ok_iff h).mpr ⟨hall, hacyclic, hchains⟩
  obtain ⟨path, raw, subs, merged, hpath, hraw, hsubs, hcomb, hbody⟩ := mergePack_layers hm
  have hunique : ∀ sub ∈ subs, Dict.Unique sub :=
    hsubs.forall fun _ _ _ hsub => mergePack_unique hsub
  refine ⟨path, raw, m, hpath, hraw, hm, exists_gives_iff.mp ⟨subs, hsubs⟩, fun k hk => ?_, ?_⟩
  · have hinherited : merged.get? k = inheritedValue files raw k := by
      rw [combine_eq_some hcomb, Dict.get?_updateAll hunique, findSome?_gives hsubs,
        findSome?_refNames]
      exact Option.or_none
    rw [hbody, get?_update_bodyOf hraw.unique, if_neg hk, hinherited]
  · intro k hk
    rw [mergePack_eq] at hm
    exact mergedAt_compositionKeys hm hk

end

theorem diamond_top : ∃ m, mergePack (.builtIn diamond diamond_unique) "top" = .ok m :=
  ⟨_, rfl⟩

theorem merged_lookup_scripted :
    ∃ path raw m, (PackFiles.builtIn diamond diamond_unique).resolvePathForName "top" = .ok path ∧
      Mapping (.builtIn diamond diamond_unique) path raw ∧
      mergePack (.builtIn diamond diamond_unique) "top" = .ok m ∧
      (∀ name ∈ refNames raw,
        ∃ sub, mergePack (.builtIn diamond diamond_unique) name = .ok sub) ∧
      (∀ k ∉ compositionKeys, m.get? k =
        (raw.get? k).or (inheritedValue (.builtIn diamond diamond_unique) raw k)) ∧
      ∀ k ∈ compositionKeys, m.get? k = none := by
  have hgraph := (mergePack_ok_iff diamond_wellFormed).mp diamond_top
  exact merged_lookup diamond_wellFormed hgraph.1 hgraph.2.1 hgraph.2.2

end PackLoader

end ObligationRuntime
