/-
  ObligationRuntime.Lib.Descent — going down a graph with a list of ancestors and a budget.

  A descent from a node refuses a node that is its own ancestor, or that is not good, or
  that is too deep, and goes down every edge.  It does not remember the nodes it has left,
  so a node may be reached in several ways.

  Main results:
    * `Descends.reachable`, `Descends.acyclic`, `Descends.length_lt` — what a descent shows,
    * `descends_iff` — a descent succeeds exactly when every reachable node is good, none
      of them is on a cycle, and no chain of edges is too long.
-/
import Mathlib.Data.List.Chain
import Mathlib.Logic.Relation

namespace Descent

open Relation

variable {N : Type}

/-- The descent from `p`, below the ancestors `V`, with `n` levels left, succeeds. -/
inductive Descends (Edge : N → N → Prop) (Good : N → Prop) : Nat → List N → N → Prop
  | intro {n : Nat} {V : List N} {p : N} (fresh : p ∉ V) (good : Good p)
      (below : ∀ q, Edge p q → Descends Edge Good n (p :: V) q) :
      Descends Edge Good (n + 1) V p

section

variable {Edge : N → N → Prop} {Good : N → Prop} {n : Nat} {V : List N} {p q : N}

/-- Every reachable node is good, and no ancestor. -/
theorem Descends.reachable (h : Descends Edge Good n V p) (hq : ReflTransGen Edge p q) :
    q ∉ V ∧ Good q := by
  induction h generalizing q with
  | intro fresh good below ih =>
      rcases ReflTransGen.cases_head hq with rfl | ⟨r, hpr, hrq⟩
      · exact ⟨fresh, good⟩
      · obtain ⟨hnot, hgood⟩ := ih r hpr hrq
        exact ⟨fun hmem => hnot (List.mem_cons_of_mem _ hmem), hgood⟩

/-- The descent comes to every reachable node. -/
theorem Descends.descends_of_reachable (h : Descends Edge Good n V p)
    (hq : ReflTransGen Edge p q) : ∃ m W, Descends Edge Good m W q := by
  induction h generalizing q with
  | @intro n V p fresh good below ih =>
      rcases ReflTransGen.cases_head hq with rfl | ⟨r, hpr, hrq⟩
      · exact ⟨_, _, .intro fresh good below⟩
      · exact ih r hpr hrq

/-- No reachable node is on a cycle. -/
theorem Descends.acyclic (h : Descends Edge Good n V p) (hq : ReflTransGen Edge p q) :
    ¬ TransGen Edge q q := by
  intro hcycle
  obtain ⟨m, W, hdesc⟩ := h.descends_of_reachable hq
  obtain ⟨r, hqr, hrq⟩ := TransGen.head'_iff.mp hcycle
  cases hdesc with
  | intro fresh good below =>
      -- Below `q` the node `q` is an ancestor.
      exact ((below r hqr).reachable hrq).1 (List.mem_cons_self ..)

/-- No chain of edges has more edges than there are levels below. -/
theorem Descends.length_lt (h : Descends Edge Good n V p) {ps : List N}
    (hps : List.IsChain Edge (p :: ps)) : ps.length < n := by
  induction h generalizing ps with
  | intro fresh good below ih =>
      cases ps with
      | nil => exact Nat.succ_pos _
      | cons q ps =>
          obtain ⟨hpq, hchain⟩ := List.isChain_cons_cons.mp hps
          exact Nat.succ_lt_succ (ih q hpq hchain)

/-- The descent succeeds below ancestors that lead to the node. -/
theorem descends_below (hgood : ∀ q, ReflTransGen Edge p q → Good q)
    (hacyclic : ∀ q, ReflTransGen Edge p q → ¬ TransGen Edge q q)
    (hlen : ∀ ps, List.IsChain Edge (p :: ps) → ps.length < n)
    (hV : ∀ v ∈ V, TransGen Edge v p) : Descends Edge Good n V p := by
  induction n generalizing p V with
  | zero => exact absurd (hlen [] (List.isChain_singleton p)) (Nat.not_lt_zero _)
  | succ n ih =>
      refine .intro (fun hmem => hacyclic p .refl (hV p hmem)) (hgood p .refl) fun q hpq => ?_
      refine ih (fun r hr => hgood r (.head hpq hr)) (fun r hr => hacyclic r (.head hpq hr))
        (fun ps hps => ?_) fun v hv => ?_
      · exact Nat.lt_of_succ_lt_succ (hlen (q :: ps) (List.isChain_cons_cons.mpr ⟨hpq, hps⟩))
      · rcases List.mem_cons.mp hv with rfl | hv
        · exact .single hpq
        · exact (hV v hv).tail hpq

/-- **When a descent succeeds.** -/
theorem descends_iff :
    Descends Edge Good n [] p ↔
      (∀ q, ReflTransGen Edge p q → Good q) ∧
        (∀ q, ReflTransGen Edge p q → ¬ TransGen Edge q q) ∧
        ∀ ps, List.IsChain Edge (p :: ps) → ps.length < n := by
  constructor
  · intro h
    exact ⟨fun q hq => (h.reachable hq).2, fun q hq => h.acyclic hq, fun ps hps => h.length_lt hps⟩
  · intro h
    obtain ⟨hgood, hacyclic, hlen⟩ := h
    exact descends_below hgood hacyclic hlen (by simp)

end

end Descent
