/-
  ObligationRuntime.Lib.PathNormal — the normal form of a path, by rewriting.

  A path from the root is a list of components.  Three rules make it shorter, wherever
  they apply: an empty component or a `.` goes, a `..` goes with the component before it,
  and a `..` at the root goes.  A normal form of a path is what the rules lead to and no
  rule applies to.  In which order they are taken makes no difference: following the
  components from the left leads to the same.

  Main results:
    * `stuck_iff` — no rule applies where every component names an entry,
    * `isNormalForm_iff` — every path has one normal form, the one that `push` folds to,
    * `resolve_isNormalForm` — `resolve` gives the normal form of a joined path.
-/
import Mathlib.Logic.Relation
import ObligationRuntime.Lib.Path

namespace Posix

open Relation

/-! ## §1. The rules. -/

/-- One rule, at one place of a path. -/
inductive Shortens : List Comp → List Comp → Prop
  | skip (pre post : List Comp) {c : Comp} (h : c = [] ∨ c = ['.']) :
      Shortens (pre ++ c :: post) (pre ++ post)
  | up (pre post : List Comp) {c : Comp} (h : Proper c) :
      Shortens (pre ++ c :: ['.', '.'] :: post) (pre ++ post)
  | root (post : List Comp) : Shortens (['.', '.'] :: post) post

/-- The rules lead from the path to `p`, and none applies there. -/
structure IsNormalForm (cs p : List Comp) : Prop where
  reaches : ReflTransGen Shortens cs p
  stuck : ∀ q, ¬ Shortens p q

/-- Every component is empty, `.`, `..`, or a proper one. -/
theorem proper_cases (c : Comp) : (c = [] ∨ c = ['.']) ∨ c = ['.', '.'] ∨ Proper c := by
  by_cases hskip : c = [] ∨ c = ['.']
  · exact .inl hskip
  · obtain ⟨hne, hdot⟩ := not_or.mp hskip
    by_cases hup : c = ['.', '.']
    · exact .inr (.inl hup)
    · exact .inr (.inr ⟨hne, hdot, hup⟩)

/-- Where no rule applies, the component after proper ones is proper, and so is the rest. -/
theorem proper_of_stuck {pre post : List Comp} (hpre : ∀ c ∈ pre, Proper c)
    (hstuck : ∀ q, ¬ Shortens (pre ++ post) q) : ∀ c ∈ post, Proper c := by
  induction post generalizing pre with
  | nil => exact nofun
  | cons d post ih =>
      have hd : Proper d := by
        rcases proper_cases d with hskip | rfl | hd
        · exact absurd (.skip pre post hskip) (hstuck _)
        · -- A `..` has a component before it, or is at the root.
          rcases List.eq_nil_or_concat pre with rfl | ⟨pre, c, rfl⟩
          · exact absurd (.root post) (hstuck _)
          · have hc : Proper c := hpre c (by simp)
            rw [List.concat_eq_append, List.append_assoc] at hstuck
            exact absurd (.up pre post hc) (hstuck _)
        · exact hd
      have hnext : ∀ c ∈ pre ++ [d], Proper c := by
        intro c hc
        rcases List.mem_append.mp hc with hc | hc
        · exact hpre c hc
        · rwa [List.mem_singleton.mp hc]
      rw [List.append_cons] at hstuck
      intro c hc
      rcases List.mem_cons.mp hc with rfl | hc
      · exact hd
      · exact ih hnext hstuck c hc

/-- **No rule applies** exactly where every component is proper. -/
theorem stuck_iff {p : List Comp} : (∀ q, ¬ Shortens p q) ↔ ∀ c ∈ p, Proper c := by
  constructor
  · have hnil : ∀ c ∈ ([] : List Comp), Proper c := nofun
    exact fun hstuck => proper_of_stuck hnil hstuck
  · intro h q hq
    cases hq with
    | skip pre post hc =>
        have hproper := h _ (List.mem_append_right pre (List.mem_cons_self ..))
        rcases hc with rfl | rfl
        · exact hproper.1 rfl
        · exact hproper.2.1 rfl
    | up pre post hc =>
        have hproper : Proper ['.', '.'] := h _ (by simp)
        exact hproper.2.2 rfl
    | root =>
        have hproper : Proper ['.', '.'] := h _ (List.mem_cons_self ..)
        exact hproper.2.2 rfl

/-! ## §2. Following the components. -/

/-- A dot, or nothing, is skipped, -/
theorem push_skip {st : List Comp} {c : Comp} (h : c = [] ∨ c = ['.']) : push st c = st :=
  if_pos h

/-- and two dots go up. -/
theorem push_up (st : List Comp) : push st ['.', '.'] = st.dropLast := by
  simp [push]

/-- **A rule leads to the same place.** -/
theorem foldl_push_shortens {cs ds : List Comp} (h : Shortens cs ds) :
    cs.foldl push [] = ds.foldl push [] := by
  cases h with
  | skip pre post hc => rw [List.foldl_append, List.foldl_cons, push_skip hc, List.foldl_append]
  | up pre post hc =>
      rw [List.foldl_append, List.foldl_cons, List.foldl_cons, push_proper hc, push_up,
        List.dropLast_concat, List.foldl_append]
  | root post => rw [List.foldl_cons, push_up, List.dropLast_nil]

/-- **The rules lead to where the components lead.** -/
theorem reaches_foldl_push (cs : List Comp) {st : List Comp} (hst : ∀ c ∈ st, Proper c) :
    ReflTransGen Shortens (st ++ cs) (cs.foldl push st) ∧ ∀ c ∈ cs.foldl push st, Proper c := by
  induction cs generalizing st with
  | nil =>
      rw [List.append_nil]
      exact ⟨.refl, hst⟩
  | cons c cs ih =>
      rw [List.foldl_cons]
      rcases proper_cases c with hskip | rfl | hc
      · rw [push_skip hskip]
        obtain ⟨hreach, hproper⟩ := ih hst
        exact ⟨.head (.skip st cs hskip) hreach, hproper⟩
      · rw [push_up]
        obtain ⟨hreach, hproper⟩ := ih fun c hc => hst c (List.mem_of_mem_dropLast hc)
        refine ⟨.head ?_ hreach, hproper⟩
        -- `..` takes the last component that is kept, or none at the root.
        rcases List.eq_nil_or_concat st with rfl | ⟨st, d, rfl⟩
        · exact .root cs
        · have hd : Proper d := hst d (by simp)
          rw [List.concat_eq_append, List.dropLast_concat, List.append_assoc]
          exact .up st cs hd
      · rw [push_proper hc, List.append_cons]
        refine ih fun d hd => ?_
        rcases List.mem_append.mp hd with hd | hd
        · exact hst d hd
        · rwa [List.mem_singleton.mp hd]

/-- **Every path has one normal form**, and following its components gives it. -/
theorem isNormalForm_iff {cs p : List Comp} : IsNormalForm cs p ↔ cs.foldl push [] = p := by
  constructor
  · rintro ⟨hreach, hstuck⟩
    have hproper := stuck_iff.mp hstuck
    have hsame : cs.foldl push [] = p.foldl push [] := by
      clear hstuck hproper
      induction hreach with
      | refl => rfl
      | tail _ hstep ih => rw [ih, foldl_push_shortens hstep]
    rw [hsame, foldl_push_proper p [] hproper, List.nil_append]
  · rintro rfl
    have hnil : ∀ c ∈ ([] : List Comp), Proper c := nofun
    obtain ⟨hreach, hproper⟩ := reaches_foldl_push cs hnil
    exact ⟨hreach, stuck_iff.mpr hproper⟩

/-- A path has one normal form. -/
theorem IsNormalForm.unique {cs p q : List Comp} (hp : IsNormalForm cs p)
    (hq : IsNormalForm cs q) : p = q := by
  rw [isNormalForm_iff] at hp hq
  exact hp.symm.trans hq

/-! ## §3. Paths that are joined. -/

/-- The components of one path after those of another, if it does not start again at the
root. -/
def joined (base s : String) : List Comp :=
  if isAbsolute s then comps s else comps base ++ comps s

/-- An absolute path resolves to its normal form. -/
theorem resolve_absolute {s : String} (h : isAbsolute s = true) (base : List Comp) :
    resolve base s = (comps s).foldl push [] := by
  rw [resolve, if_pos h]

/-- **What a joined path resolves to** is its normal form. -/
theorem resolve_isNormalForm {base : String} (h : isAbsolute base = true) (cwd : List Comp)
    (s : String) : IsNormalForm (joined base s) (resolve (resolve cwd base) s) := by
  rw [isNormalForm_iff, joined, resolve_absolute h, resolve]
  split
  · rfl
  · rw [List.foldl_append]

end Posix
