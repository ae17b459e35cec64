/-
  ObligationRuntime.Lib.Path — lexical POSIX paths.

  A resolved path is the list of its components below the root directory.
  `resolve base s` is what `(base / s).resolve()` computes when no component is
  a symbolic link: an absolute `s` starts again at the root, `.` and empty
  components vanish, `..` drops the last component (and stays at the root).

  Main results:
    * `resolve_normal` — a resolved path has only normal components,
    * `resolve_spell` — the plain spelling of a list of normal components
      resolves to exactly these below the base,
    * `comps_text` — the text of a resolved path has its components.
-/
import ObligationRuntime.Lib.Text

namespace Posix

open Py

/-- A path component. -/
abbrev Comp := List Char

/-- The pieces between the separators. -/
def comps (s : String) : List Comp := s.toList.splitOn '/'

/-- Follow one component. -/
def push (st : List Comp) (c : Comp) : List Comp :=
  if c = [] ∨ c = ['.'] then st
  else if c = ['.', '.'] then st.dropLast
  else st ++ [c]

/-- Does the path start at the root? -/
def isAbsolute (s : String) : Bool := decide (s.toList.head? = some '/')

/-- A text with a NUL: no system call takes it for a path. -/
def hasNul (s : String) : Bool := s.toList.contains '\x00'

/-- `(base / s).resolve()` without symbolic links, of texts without a NUL. -/
def resolve (base : List Comp) (s : String) : List Comp :=
  (comps s).foldl push (if isAbsolute s then [] else base)

/-- The plain spelling of a relative path. -/
def spell (cs : List Comp) : String := String.ofList (['/'].intercalate cs)

/-- The text of a resolved path. -/
def text (cs : List Comp) : String := String.ofList ('/' :: ['/'].intercalate cs)

/-- A component that names an entry of a directory. -/
def Normal (c : Comp) : Prop := c ≠ [] ∧ c ≠ ['.'] ∧ c ≠ ['.', '.'] ∧ '/' ∉ c

instance (c : Comp) : Decidable (Normal c) := by unfold Normal; infer_instance

/-- A component that is neither empty, nor `.`, nor `..`, whatever its characters. -/
def Proper (c : Comp) : Prop := c ≠ [] ∧ c ≠ ['.'] ∧ c ≠ ['.', '.']

instance (c : Comp) : Decidable (Proper c) := by unfold Proper; infer_instance

/-! ## §1. Splitting. -/

/-- A text without a separator is one piece. -/
theorem comps_of_not_mem {s : String} (h : '/' ∉ s.toList) : comps s = [s.toList] := by
  have hsplit : (['/'].intercalate [s.toList]).splitOn '/' = [s.toList] :=
    List.splitOn_intercalate '/' (by simpa using h) (by simp)
  simpa [comps] using hsplit

/-- No piece of a split text contains the separator. -/
theorem splitOn_no_sep (sep : Char) : ∀ (cs : List Char), ∀ p ∈ cs.splitOn sep, sep ∉ p
  | [], p, hp => by
      obtain rfl : p = [] := by simpa [List.splitOn_nil] using hp
      simp
  | c :: cs, p, hp => by
      obtain ⟨q, qs, hq⟩ := List.exists_cons_of_ne_nil (List.splitOn_ne_nil sep cs)
      have ih := splitOn_no_sep sep cs
      rw [List.splitOn_cons_eq_if_modifyHead, hq, List.modifyHead_cons] at hp
      rw [hq] at ih
      split at hp
      · rcases List.mem_cons.mp hp with rfl | hp
        · simp
        · exact ih p hp
      next hc =>
        rcases List.mem_cons.mp hp with rfl | hp
        · have hcs : sep ≠ c := fun e => hc (by simp [e])
          simpa [hcs] using ih q (List.mem_cons_self ..)
        · exact ih p (List.mem_cons_of_mem _ hp)

/-! ## §2. Resolving. -/

/-- A step keeps the components normal, -/
theorem push_normal {st : List Comp} {c : Comp} (hst : ∀ d ∈ st, Normal d) (hc : '/' ∉ c) :
    ∀ d ∈ push st c, Normal d := by
  intro d hd
  unfold push at hd
  split at hd
  · exact hst d hd
  next h1 =>
    split at hd
    · exact hst d (List.mem_of_mem_dropLast hd)
    next h2 =>
      rcases List.mem_append.mp hd with hd | hd
      · exact hst d hd
      · simp only [List.mem_singleton] at hd
        subst hd
        exact ⟨fun e => h1 (.inl e), fun e => h1 (.inr e), h2, hc⟩

/-- and so do all the steps. -/
theorem foldl_push_normal : ∀ (cs st : List Comp), (∀ c ∈ cs, '/' ∉ c) → (∀ d ∈ st, Normal d) →
    ∀ d ∈ cs.foldl push st, Normal d
  | [], _, _, hst => hst
  | c :: cs, st, hcs, hst =>
      foldl_push_normal cs (push st c) (fun d hd => hcs d (List.mem_cons_of_mem _ hd))
        (push_normal hst (hcs c (by simp)))

/-- **A resolved path has only normal components.** -/
theorem resolve_normal {base : List Comp} (hb : ∀ c ∈ base, Normal c) (s : String) :
    ∀ c ∈ resolve base s, Normal c := by
  unfold resolve
  refine foldl_push_normal _ _ (splitOn_no_sep '/' s.toList) ?_
  split
  · simp
  · exact hb

/-- A normal component is a name. -/
theorem Normal.proper {c : Comp} (h : Normal c) : Proper c := ⟨h.1, h.2.1, h.2.2.1⟩

/-- A name goes on top. -/
theorem push_proper {st : List Comp} {c : Comp} (h : Proper c) : push st c = st ++ [c] := by
  obtain ⟨hne, hdot, hup⟩ := h
  simp [push, hne, hdot, hup]

/-- A proper path is followed to itself. -/
theorem foldl_push_proper : ∀ (cs st : List Comp), (∀ c ∈ cs, Proper c) →
    cs.foldl push st = st ++ cs
  | [], st, _ => by simp
  | c :: cs, st, h => by
      rw [List.foldl_cons, push_proper (h c (by simp)),
        foldl_push_proper cs _ (fun d hd => h d (List.mem_cons_of_mem _ hd))]
      simp

/-- A path is read back from its spelling. -/
theorem comps_spell {cs : List Comp} (h : ∀ c ∈ cs, '/' ∉ c) (hne : cs ≠ []) :
    comps (spell cs) = cs := by
  unfold comps spell
  rw [String.toList_ofList]
  exact List.splitOn_intercalate '/' h hne

/-- A spelling does not start at the root. -/
theorem isAbsolute_spell {cs : List Comp} (h : ∀ c ∈ cs, c ≠ [] ∧ '/' ∉ c) :
    isAbsolute (spell cs) = false := by
  have hhead : (['/'].intercalate cs).head? ≠ some '/' := by
    cases cs with
    | nil => simp
    | cons c cs =>
        obtain ⟨hne, hslash⟩ := h c (by simp)
        obtain ⟨x, c, rfl⟩ := List.exists_cons_of_ne_nil hne
        have hx : x ≠ '/' := by
          rintro rfl
          exact hslash (by simp)
        cases cs <;> simpa using hx
  simp [isAbsolute, spell, hhead]

/-- **The plain spelling of normal components resolves to them, below the
base.** -/
theorem resolve_spell (base : List Comp) {cs : List Comp} (h : ∀ c ∈ cs, Normal c) :
    resolve base (spell cs) = base ++ cs := by
  have habs := isAbsolute_spell fun c hc => ⟨(h c hc).1, (h c hc).2.2.2⟩
  by_cases hne : cs = []
  · subst hne
    -- The empty spelling has one piece, and that one vanishes.
    simp [resolve, comps, spell, isAbsolute, push, List.splitOn_nil]
  · have hsplit := comps_spell (fun c hc => (h c hc).2.2.2) hne
    have hproper : ∀ c ∈ cs, Proper c := fun c hc => (h c hc).proper
    rw [resolve, hsplit, habs, foldl_push_proper cs _ hproper]
    rfl

/-! ## §3. The text of a resolved path. -/

/-- The characters between the separators are those of the components. -/
theorem mem_intercalate {x sep : Char} : ∀ {cs : List Comp}, x ∈ [sep].intercalate cs →
    x = sep ∨ ∃ c ∈ cs, x ∈ c
  | [], h => by simp at h
  | [c], h => .inr ⟨c, by simp, by simpa using h⟩
  | c :: d :: cs, h => by
      rw [List.intercalate_cons_cons] at h
      rcases List.mem_append.mp h with h | h
      · rcases List.mem_append.mp h with h | h
        · exact .inr ⟨c, by simp, h⟩
        · exact .inl (List.mem_singleton.mp h)
      · refine (mem_intercalate h).imp_right ?_
        rintro ⟨e, he, hx⟩
        exact ⟨e, List.mem_cons_of_mem _ he, hx⟩

/-- The plain spelling of components without a NUL has none. -/
theorem hasNul_spell {cs : List Comp} (h : ∀ c ∈ cs, '\x00' ∉ c) : hasNul (spell cs) = false := by
  rw [hasNul, spell, String.toList_ofList, Bool.eq_false_iff, ne_eq, List.contains_iff_mem]
  intro hmem
  rcases mem_intercalate hmem with hsep | ⟨c, hc, hnul⟩
  · exact absurd hsep (by decide)
  · exact h c hc hnul

/-- And so does their text. -/
theorem hasNul_text {cs : List Comp} (h : ∀ c ∈ cs, '\x00' ∉ c) : hasNul (text cs) = false := by
  rw [hasNul, text, String.toList_ofList, Bool.eq_false_iff, ne_eq, List.contains_iff_mem]
  intro hmem
  rcases List.mem_cons.mp hmem with hsep | hmem
  · exact absurd hsep (by decide)
  · rcases mem_intercalate hmem with hsep | ⟨c, hc, hnul⟩
    · exact absurd hsep (by decide)
    · exact h c hc hnul

/-- The text of a path is absolute. -/
theorem isAbsolute_text (cs : List Comp) : isAbsolute (text cs) = true := by
  simp [isAbsolute, text]

/-- Before the first separator there is nothing, and then the components follow. -/
theorem comps_text {cs : List Comp} (h : ∀ c ∈ cs, Normal c) (hne : cs ≠ []) :
    comps (text cs) = [] :: cs := by
  have hsplit : (['/'].intercalate cs).splitOn '/' = cs :=
    List.splitOn_intercalate '/' (fun c hc => (h c hc).2.2.2) hne
  unfold comps text
  rw [String.toList_ofList, List.splitOn_cons_eq_if_modifyHead, hsplit]
  simp

end Posix
