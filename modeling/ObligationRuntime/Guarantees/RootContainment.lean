/-
  ObligationRuntime.Guarantees.RootContainment — which paths `resolve_under_root` accepts,
  and as what.

  The path that is asked for is joined to the root and brought to its normal form; it is
  accepted where the components of the root's own normal form are the first ones of it.
  A sibling of the root is not, though the text of its path may begin with the text of the
  root's; a path that goes up and comes back is.  A text with a NUL is no path: it raises,
  whatever it would name.

  Main results:
    * `resolveUnderRootOf_ok_iff` — what is accepted, in terms of normal forms,
    * `resolve_under_root_exact` — the same, and a `ValueError` for everything else,
    * `resolve_under_root_nul` — a text below the root that raises,
    * `sibling_refused`, `detour_accepted` — the plain spellings of a sibling and of a detour.
-/
import ObligationRuntime.Gateway.Workspace
import ObligationRuntime.Lib.PathNormal

namespace ObligationRuntime

open Py Posix

namespace Gateway

/-! ## §1. Normal forms. -/

section

variable {cwd p : List Comp} {root relPath : String}

/-- Both texts are taken for paths. -/
def BothPaths (root relPath : String) : Prop := hasNul root = false ∧ hasNul relPath = false

instance (root relPath : String) : Decidable (BothPaths root relPath) :=
  inferInstanceAs (Decidable (hasNul root = false ∧ hasNul relPath = false))

theorem resolveUnderRootOf_eq (h : hasNul root = false) :
    resolveUnderRootOf cwd root relPath = resolveUnderRoot (resolve cwd root) relPath := by
  rw [resolveUnderRootOf, resolvePath_ok h]
  rfl

theorem resolveUnderRootOf_nul (h : hasNul root = true) :
    resolveUnderRootOf cwd root relPath = .error (.valueError "embedded null byte") := by
  rw [resolveUnderRootOf, resolvePath_nul h]
  rfl

/-- **What is accepted**, and as what. -/
theorem resolveUnderRootOf_ok_iff (hroot : isAbsolute root = true) :
    resolveUnderRootOf cwd root relPath = .ok p ↔
      BothPaths root relPath ∧ IsNormalForm (joined root relPath) p ∧
        ∃ r, IsNormalForm (comps root) r ∧ r <+: p := by
  have hbase : IsNormalForm (comps root) (resolve cwd root) := by
    rw [isNormalForm_iff, resolve_absolute hroot]
  have hpath := resolve_isNormalForm hroot cwd relPath
  cases hnul : hasNul root with
  | true => simp [resolveUnderRootOf_nul hnul, BothPaths, hnul]
  | false =>
      rw [resolveUnderRootOf_eq hnul, resolveUnderRoot_ok_iff]
      constructor
      · rintro ⟨⟨hnul', hin⟩, rfl⟩
        exact ⟨⟨hnul, hnul'⟩, hpath, _, hbase, hin⟩
      · rintro ⟨⟨-, hnul'⟩, hp, r, hr, hin⟩
        -- There is one normal form of each.
        obtain rfl := hr.unique hbase
        obtain rfl := hp.unique hpath
        exact ⟨⟨hnul', hin⟩, rfl⟩

/-- The normal form of a path below the root is accepted. -/
theorem resolveUnderRootOf_of_below (hroot : isAbsolute root = true) {r q : List Comp}
    (hpaths : BothPaths root relPath) (hr : IsNormalForm (comps root) r)
    (hq : IsNormalForm (joined root relPath) (r ++ q)) :
    resolveUnderRootOf cwd root relPath = .ok (r ++ q) :=
  (resolveUnderRootOf_ok_iff hroot).mpr ⟨hpaths, hq, r, hr, List.prefix_append r q⟩

/-- What is not accepted is a `ValueError`. -/
theorem resolveUnderRootOf_raises (h : ∀ p, resolveUnderRootOf cwd root relPath ≠ .ok p) :
    ∃ text, resolveUnderRootOf cwd root relPath = .error (.valueError text) := by
  cases hnul : hasNul root with
  | true => exact ⟨_, resolveUnderRootOf_nul hnul⟩
  | false =>
      rw [resolveUnderRootOf_eq hnul] at h ⊢
      rcases resolveUnderRoot_cases (resolve cwd root) relPath with ⟨-, hok⟩ | ⟨-, herror⟩
      · exact absurd hok (h _)
      · exact herror

/-- A component with more characters is another one. -/
theorem not_prefix_extended {init rest : List Comp} {name ext : Comp} (hext : ext ≠ []) :
    ¬ init ++ [name] <+: init ++ (name ++ ext) :: rest := by
  intro h
  rw [List.prefix_append_right_inj, List.cons_prefix_cons] at h
  have hlen := congrArg List.length h.1
  rw [List.length_append] at hlen
  have hpos := List.length_pos_of_ne_nil hext
  omega

/-- A path whose normal form is in a sibling of the root, or is it, raises. -/
theorem resolveUnderRootOf_of_sibling (hroot : isAbsolute root = true) {init rest : List Comp}
    {name ext : Comp} (hr : IsNormalForm (comps root) (init ++ [name])) (hext : ext ≠ [])
    (hp : IsNormalForm (joined root relPath) (init ++ (name ++ ext) :: rest)) :
    ∃ text, resolveUnderRootOf cwd root relPath = .error (.valueError text) := by
  apply resolveUnderRootOf_raises
  intro p h
  obtain ⟨-, hp', r, hr', hin⟩ := (resolveUnderRootOf_ok_iff hroot).mp h
  obtain rfl := hr'.unique hr
  obtain rfl := hp'.unique hp
  exact not_prefix_extended hext hin

end

/-! ## §2. Spellings. -/

section

variable {r : List Comp}

/-- A relative path follows its components from the root. -/
theorem isNormalForm_joined_spell (hr : ∀ c ∈ r, Normal c) (hne : r ≠ []) {cs p : List Comp}
    (hcs : ∀ c ∈ cs, c ≠ [] ∧ '/' ∉ c) (hne' : cs ≠ []) :
    IsNormalForm (joined (text r) (spell cs)) p ↔ cs.foldl push r = p := by
  have hpath : joined (text r) (spell cs) = [] :: (r ++ cs) := by
    rw [joined, isAbsolute_spell hcs, comps_text hr hne,
      comps_spell (fun c hc => (hcs c hc).2) hne']
    rfl
  have hproper : ∀ c ∈ r, Proper c := fun c hc => (hr c hc).proper
  rw [isNormalForm_iff, hpath, List.foldl_cons, push_skip (.inl rfl), List.foldl_append,
    foldl_push_proper r [] hproper, List.nil_append]

theorem isNormalForm_text (hr : ∀ c ∈ r, Normal c) (hne : r ≠ []) :
    IsNormalForm (comps (text r)) r := by
  have hproper : ∀ c ∈ r, Proper c := fun c hc => (hr c hc).proper
  rw [isNormalForm_iff, comps_text hr hne, List.foldl_cons, push_skip (.inl rfl),
    foldl_push_proper r [] hproper, List.nil_append]

/-- A name with more characters is a name. -/
theorem normal_extended {name ext : Comp} (hname : Normal name) (hext : ext ≠ [])
    (hslash : '/' ∉ ext) : Normal (name ++ ext) := by
  obtain ⟨hne, hdot, -, hnoslash⟩ := hname
  obtain ⟨x, name, rfl⟩ := List.exists_cons_of_ne_nil hne
  obtain ⟨y, ext, rfl⟩ := List.exists_cons_of_ne_nil hext
  refine ⟨by simp, by simp, ?_, ?_⟩
  · intro h
    -- Two characters are one of each, and the first is not a dot.
    cases name with
    | nil => simp_all
    | cons z name => simp at h
  · rw [List.mem_append, not_or]
    exact ⟨hnoslash, hslash⟩

/-- **A sibling** whose name begins with the root's is refused, with all that is in it. -/
theorem sibling_refused {cwd init rest : List Comp} {name ext : Comp}
    (hr : ∀ c ∈ init ++ [name], Normal c) (hrest : ∀ c ∈ rest, Normal c) (hext : ext ≠ [])
    (hslash : '/' ∉ ext) :
    ∃ t, resolveUnderRootOf cwd (text (init ++ [name]))
      (spell (['.', '.'] :: (name ++ ext) :: rest)) = .error (.valueError t) := by
  have hne : init ++ [name] ≠ [] := by simp
  have hsibling : Normal (name ++ ext) := normal_extended (hr name (by simp)) hext hslash
  have hnormal : ∀ c ∈ (name ++ ext) :: rest, Normal c :=
    List.forall_mem_cons.mpr ⟨hsibling, hrest⟩
  have hpath : IsNormalForm
      (joined (text (init ++ [name])) (spell (['.', '.'] :: (name ++ ext) :: rest)))
      (init ++ (name ++ ext) :: rest) := by
    rw [isNormalForm_joined_spell hr hne ?_ (by simp)]
    · rw [List.foldl_cons, push_up, List.dropLast_concat]
      exact foldl_push_proper _ _ fun c hc => (hnormal c hc).proper
    · intro c hc
      rcases List.mem_cons.mp hc with rfl | hc
      · decide
      · exact ⟨(hnormal c hc).1, (hnormal c hc).2.2.2⟩
  exact resolveUnderRootOf_of_sibling (isAbsolute_text _) (isNormalForm_text hr hne) hext hpath

theorem foldl_push_ups (k : Nat) (st : List Comp) :
    (List.replicate k ['.', '.']).foldl push st = st.take (st.length - k) := by
  induction k generalizing st with
  | zero => simp
  | succ k ih =>
      rw [List.replicate_succ, List.foldl_cons, push_up, ih, List.length_dropLast,
        List.dropLast_eq_take, List.take_take]
      congr 1
      omega

/-- **A detour**: a path that goes up from the root and comes back is accepted, as what it
names below the root. -/
theorem detour_accepted {cwd q : List Comp} (hr : ∀ c ∈ r, Normal c) (hne : r ≠ [])
    (hq : ∀ c ∈ q, Normal c) (hnul : ∀ c ∈ r ++ q, '\x00' ∉ c) (k : Nat) (hk : k ≠ 0) :
    resolveUnderRootOf cwd (text r)
      (spell (List.replicate k ['.', '.'] ++ (r.drop (r.length - k) ++ q))) = .ok (r ++ q) := by
  have hnormal : ∀ c ∈ r.drop (r.length - k) ++ q, Normal c := by
    intro c hc
    rcases List.mem_append.mp hc with hc | hc
    · exact hr c (List.mem_of_mem_drop hc)
    · exact hq c hc
  have hpaths : BothPaths (text r)
      (spell (List.replicate k ['.', '.'] ++ (r.drop (r.length - k) ++ q))) := by
    refine ⟨hasNul_text fun c hc => hnul c (List.mem_append_left _ hc), hasNul_spell ?_⟩
    intro c hc
    rcases List.mem_append.mp hc with hc | hc
    · rw [List.eq_of_mem_replicate hc]
      decide
    · rcases List.mem_append.mp hc with hc | hc
      · exact hnul c (List.mem_append_left _ (List.mem_of_mem_drop hc))
      · exact hnul c (List.mem_append_right _ hc)
  refine resolveUnderRootOf_of_below (isAbsolute_text _) hpaths (isNormalForm_text hr hne) ?_
  rw [isNormalForm_joined_spell hr hne ?_ (by simp [hk])]
  · rw [List.foldl_append, foldl_push_ups, foldl_push_proper _ _ fun c hc => (hnormal c hc).proper,
      ← List.append_assoc, List.take_append_drop]
  · intro c hc
    rcases List.mem_append.mp hc with hc | hc
    · rw [List.eq_of_mem_replicate hc]
      decide
    · exact ⟨(hnormal c hc).1, (hnormal c hc).2.2.2⟩

end

/-! ## §3. The guarantee. -/

/-- **`resolve_under_root` is exact**: of texts without a NUL it returns the normal form of the
joined path where this begins with the components of the root's, and it raises a `ValueError`
elsewhere; so for a sibling, however the root's name is extended, and a path may leave the root
on its way. -/
theorem resolve_under_root_exact (cwd : List Comp) (root relPath : String)
    (hroot : isAbsolute root = true) :
    (∀ p, resolveUnderRootOf cwd root relPath = .ok p ↔
      BothPaths root relPath ∧ IsNormalForm (joined root relPath) p ∧
        ∃ r, IsNormalForm (comps root) r ∧ r <+: p) ∧
    ((∀ p, resolveUnderRootOf cwd root relPath ≠ .ok p) →
      ∃ text, resolveUnderRootOf cwd root relPath = .error (.valueError text)) ∧
    (∀ init name ext rest, IsNormalForm (comps root) (init ++ [name]) → ext ≠ [] →
      IsNormalForm (joined root relPath) (init ++ (name ++ ext) :: rest) →
      ∃ text, resolveUnderRootOf cwd root relPath = .error (.valueError text)) ∧
    ∀ r q, BothPaths root relPath → IsNormalForm (comps root) r →
      IsNormalForm (joined root relPath) (r ++ q) →
      resolveUnderRootOf cwd root relPath = .ok (r ++ q) := by
  refine ⟨fun p => resolveUnderRootOf_ok_iff hroot, resolveUnderRootOf_raises, ?_, ?_⟩
  · intro init name ext rest hr hext hp
    exact resolveUnderRootOf_of_sibling hroot hr hext hp
  · intro r q hpaths hr hq
    exact resolveUnderRootOf_of_below hroot hpaths hr hq

namespace Scripted

/-- The root `/srv/ws`, by its components. -/
def srvWs : List Comp := ["srv".toList, "ws".toList]

/-- A path that leaves the root `/srv/ws` and comes back, and a sibling of it. -/
theorem resolve_under_root_exact_scripted :
    resolveUnderRootOf [] "/srv/./ws" "../ws//src/../Main.lean" =
        .ok (srvWs ++ ["Main.lean".toList]) ∧
      ∃ t, resolveUnderRootOf [] "/srv/./ws" "../ws2/Main.lean" = .error (.valueError t) :=
  ⟨(resolve_under_root_exact [] "/srv/./ws" "../ws//src/../Main.lean" (by decide)).2.2.2
      srvWs ["Main.lean".toList] (by decide) (isNormalForm_iff.mpr (by decide))
      (isNormalForm_iff.mpr (by decide)),
    (resolve_under_root_exact [] "/srv/./ws" "../ws2/Main.lean" (by decide)).2.2.1
      ["srv".toList] "ws".toList "2".toList ["Main.lean".toList]
      (isNormalForm_iff.mpr (by decide)) (by decide) (isNormalForm_iff.mpr (by decide))⟩

end Scripted

/-- **A text with a NUL**: its normal form is below the root, and it raises. -/
theorem resolve_under_root_nul :
    ∃ p, IsNormalForm (joined "/srv/ws" "a\x00b") p ∧
      (∃ r, IsNormalForm (comps "/srv/ws") r ∧ r <+: p) ∧
      resolveUnderRootOf [] "/srv/ws" "a\x00b" = .error (.valueError "embedded null byte") := by
  refine ⟨Scripted.srvWs ++ ["a\x00b".toList], isNormalForm_iff.mpr (by decide), ?_, rfl⟩
  exact ⟨Scripted.srvWs, isNormalForm_iff.mpr (by decide), List.prefix_append _ _⟩

end Gateway

end ObligationRuntime
