/-
  ObligationRuntime.Lib.Redelivery — messages that are sent again until they are
  acknowledged, and receivers that drop what they have already.

  An attempt may be lost, may arrive, and may be acknowledged.  A message is tried a bounded
  number of times, and no more once it has been acknowledged; so it may arrive more than
  once.  A receiver keeps of the messages with one key the first.

  Main results:
    * `tries_initial`, `any_tries` — which attempts are made, and when one is acknowledged,
    * `keepFirst_copies` — where keys are distinct, what is kept of any number of copies is
      each message once, in order.
-/
import Mathlib.Data.List.Basic
import Mathlib.Data.List.Nodup

namespace Redelivery

/-! ## §1. Attempts. -/

/-- What becomes of an attempt. -/
structure Trial where
  arrives : Bool
  acknowledged : Bool
  deriving DecidableEq, Repr

/-- The attempts that are made of those that would be, up to one that is acknowledged. -/
def tries : List Trial → List Trial
  | [] => []
  | a :: as => if a.acknowledged then [a] else a :: tries as

/-- The attempts that are made are the first ones. -/
theorem tries_initial (as : List Trial) : tries as <+: as := by
  induction as with
  | nil => exact List.prefix_rfl
  | cons a as ih =>
      unfold tries
      split
      · exact ⟨as, rfl⟩
      · exact List.cons_prefix_cons.mpr ⟨rfl, ih⟩

/-- The message is acknowledged exactly when one of the attempts would be. -/
theorem any_tries (as : List Trial) :
    (tries as).any Trial.acknowledged = as.any Trial.acknowledged := by
  induction as with
  | nil => rfl
  | cons a as ih =>
      unfold tries
      split
      next ha => simp [ha]
      next ha => simp [ih]

/-- How often a message arrives. -/
def arrivals (as : List Trial) : Nat := (tries as).countP Trial.arrives

/-- What is acknowledged has arrived, where only what arrives is acknowledged. -/
theorem arrivals_pos {as : List Trial}
    (hhonest : ∀ a ∈ as, a.acknowledged = true → a.arrives = true)
    (h : as.any Trial.acknowledged = true) : 0 < arrivals as := by
  rw [← any_tries, List.any_eq_true] at h
  obtain ⟨a, ha, hack⟩ := h
  exact List.countP_pos_iff.mpr ⟨a, ha, hhonest a ((tries_initial as).subset ha) hack⟩

/-! ## §2. Receivers. -/

variable {M K : Type} [DecidableEq K] (key : M → K)

/-- What a receiver keeps that has seen some keys: the first message of each other key. -/
def keepFirst (seen : List K) : List M → List M
  | [] => []
  | m :: ms =>
      if key m ∈ seen then keepFirst seen ms else m :: keepFirst (key m :: seen) ms

/-- Any number of copies of a message whose key was seen. -/
theorem keepFirst_replicate_seen {seen : List K} {m : M} (h : key m ∈ seen) (n : Nat)
    (ms : List M) : keepFirst key seen (List.replicate n m ++ ms) = keepFirst key seen ms := by
  induction n with
  | zero => rfl
  | succ n ih =>
      rw [List.replicate_succ, List.cons_append, keepFirst, if_pos h]
      exact ih

/-- **What is kept of any number of copies**: each message that came, once, in order. -/
theorem keepFirst_copies (sent : List (M × Nat)) (seen : List K)
    (hnodup : (sent.map fun s => key s.1).Nodup) (hseen : ∀ s ∈ sent, key s.1 ∉ seen) :
    keepFirst key seen (sent.flatMap fun s => List.replicate s.2 s.1) =
      (sent.filter fun s => decide (0 < s.2)).map Prod.fst := by
  induction sent generalizing seen with
  | nil => rfl
  | cons s sent ih =>
      obtain ⟨m, n⟩ := s
      rw [List.map_cons, List.nodup_cons] at hnodup
      have hnew : key m ∉ seen := hseen (m, n) (List.mem_cons_self ..)
      have hrest : ∀ s ∈ sent, key s.1 ∉ seen := fun s hs => hseen s (List.mem_cons_of_mem _ hs)
      cases n with
      | zero =>
          rw [List.flatMap_cons, List.replicate_zero, List.nil_append, ih seen hnodup.2 hrest]
          simp
      | succ n =>
          -- The first copy is kept; its key is none of those that follow.
          have hothers : ∀ s ∈ sent, key s.1 ∉ key m :: seen := by
            intro s hs hmem
            rcases List.mem_cons.mp hmem with he | hmem
            · exact hnodup.1 (List.mem_map.mpr ⟨s, hs, he⟩)
            · exact hrest s hs hmem
          rw [List.flatMap_cons, List.replicate_succ, List.cons_append, keepFirst, if_neg hnew,
            keepFirst_replicate_seen key (List.mem_cons_self ..), ih _ hnodup.2 hothers]
          simp

end Redelivery
