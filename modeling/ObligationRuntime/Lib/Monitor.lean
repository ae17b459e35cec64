/-
  ObligationRuntime.Lib.Monitor — judging the events of a history one by one.

  An event is judged after what came before it: on the whole history, or on the part
  of it that has the event's own key.  `Each` and `Somewhere` say of a history that
  every event, or some event, is judged so; `keyed` is the judgement by the part.

  The judgements here look at one earlier event only, the latest of its kind, and a
  loop that keeps that event, in whatever form, is such a judgement.

  Main results:
    * `each_keyed` — every part is judged well exactly when every event is, by its part,
    * `each_iff_each` — when two judgements agree on a history,
    * `latest_on`, `each_keyed_latest` — the latest event of a part,
    * `each_isChain` — events that fit the one before them form a chain,
    * `scan_accepts_iff` — a loop that keeps the latest event.
-/
import ObligationRuntime.Lib.EarlyReturn
import Mathlib.Data.List.Chain
import Mathlib.Data.List.Induction
import Mathlib.Tactic.Tauto

namespace Monitor

open EarlyReturn

variable {α β κ σ E δ : Type}

/-! ## §1. Judging every event. -/

/-- A judgement of an event, after what came before it. -/
abbrev Judgement (α : Type) := List α → α → Prop

/-- Every event is judged well, after `pre` and what precedes it. -/
def EachFrom (J : Judgement α) : List α → List α → Prop
  | _, [] => True
  | pre, a :: as => J pre a ∧ EachFrom J (pre ++ [a]) as

/-- Every event of the history is judged well. -/
def Each (J : Judgement α) (xs : List α) : Prop := EachFrom J [] xs

/-- Some event of the history is. -/
def Somewhere (J : Judgement α) (xs : List α) : Prop := ¬ Each (fun pre a => ¬ J pre a) xs

instance decidableEachFrom (J : Judgement α) [∀ pre a, Decidable (J pre a)] :
    ∀ pre xs, Decidable (EachFrom J pre xs)
  | _, [] => isTrue trivial
  | pre, a :: as =>
      have := decidableEachFrom J (pre ++ [a]) as
      inferInstanceAs (Decidable (J pre a ∧ EachFrom J (pre ++ [a]) as))

instance decidableEach (J : Judgement α) [∀ pre a, Decidable (J pre a)] (xs : List α) :
    Decidable (Each J xs) :=
  inferInstanceAs (Decidable (EachFrom J [] xs))

instance decidableSomewhere (J : Judgement α) [∀ pre a, Decidable (J pre a)] (xs : List α) :
    Decidable (Somewhere J xs) :=
  inferInstanceAs (Decidable (¬ Each _ xs))

section

variable {J K : Judgement α}

theorem eachFrom_append (pre xs ys : List α) :
    EachFrom J pre (xs ++ ys) ↔ EachFrom J pre xs ∧ EachFrom J (pre ++ xs) ys := by
  induction xs generalizing pre with
  | nil => simp [EachFrom]
  | cons a xs ih =>
      show J pre a ∧ EachFrom J (pre ++ [a]) (xs ++ ys) ↔ _
      rw [ih]
      simp [EachFrom, and_assoc]

@[simp] theorem each_nil : Each J [] := trivial

/-- One more event. -/
@[simp] theorem each_concat (xs : List α) (a : α) : Each J (xs ++ [a]) ↔ Each J xs ∧ J xs a := by
  unfold Each
  rw [eachFrom_append]
  simp [EachFrom]

/-- Every event, wherever the history is cut. -/
theorem each_iff {xs : List α} :
    Each J xs ↔ ∀ pre a post, xs = pre ++ a :: post → J pre a := by
  induction xs using List.reverseRecOn with
  | nil => simp
  | append_singleton xs a ih =>
      rw [each_concat, ih]
      constructor
      · intro h pre b post hcut
        obtain ⟨hxs, ha⟩ := h
        rcases List.eq_nil_or_concat post with rfl | ⟨post, c, rfl⟩
        · obtain ⟨rfl, hab⟩ := List.append_inj' hcut rfl
          cases hab
          exact ha
        · rw [List.concat_eq_append, ← List.cons_append, ← List.append_assoc] at hcut
          exact hxs pre b post (List.append_inj' hcut rfl).1
      · intro h
        refine ⟨fun pre b post hcut => ?_, h xs a [] rfl⟩
        exact h pre b (post ++ [a]) (by rw [hcut]; simp)

theorem not_each {xs : List α} : ¬ Each J xs ↔ Somewhere (fun pre a => ¬ J pre a) xs := by
  unfold Somewhere
  simp only [not_not]

theorem each_congr {xs : List α} (h : ∀ pre a, J pre a ↔ K pre a) : Each J xs ↔ Each K xs := by
  rw [each_iff, each_iff]
  simp only [h]

theorem each_mono {xs : List α} (h : ∀ pre a, J pre a → K pre a) (hJ : Each J xs) :
    Each K xs := by
  rw [each_iff] at hJ ⊢
  intro pre a post hcut
  exact h pre a (hJ pre a post hcut)

/-- **When two judgements agree on a history**: they judge every event alike, or each
finds some event wrong. -/
theorem each_iff_each (xs : List α) :
    (Each J xs ↔ Each K xs) ↔ Each (fun pre a => J pre a ↔ K pre a) xs ∨
      (Somewhere (fun pre a => ¬ J pre a) xs ∧ Somewhere (fun pre a => ¬ K pre a) xs) := by
  rw [← not_each, ← not_each]
  have hboth : Each J xs → Each K xs → Each (fun pre a => J pre a ↔ K pre a) xs := by
    intro hJ hK
    rw [each_iff] at hJ hK ⊢
    exact fun pre a post h => iff_of_true (hJ pre a post h) (hK pre a post h)
  have hsame : Each (fun pre a => J pre a ↔ K pre a) xs → (Each J xs ↔ Each K xs) := by
    intro h
    rw [each_iff] at h
    rw [each_iff, each_iff]
    exact forall_congr' fun pre => forall_congr' fun a => forall_congr' fun post =>
      forall_congr' fun hcut => h pre a post hcut
  tauto

end

/-! ## §2. Judging by the key. -/

section Keys

variable [DecidableEq κ] (key : α → κ)

/-- The part of a history with a key. -/
def on (k : κ) (xs : List α) : List α := xs.filter fun a => decide (key a = k)

@[simp] theorem on_nil (k : κ) : on key k [] = [] := rfl

theorem on_concat (k : κ) (xs : List α) (a : α) :
    on key k (xs ++ [a]) = if key a = k then on key k xs ++ [a] else on key k xs := by
  by_cases h : key a = k
  · simp [on, h]
  · simp [on, h]

/-- A history of one key is its only part. -/
theorem on_of_forall {k : κ} {xs : List α} (h : ∀ a ∈ xs, key a = k) (k' : κ) :
    on key k' xs = if k = k' then xs else [] := by
  unfold on
  split
  next hk =>
    rw [List.filter_eq_self]
    intro a ha
    simp [h a ha, hk]
  next hk =>
    rw [List.filter_eq_nil_iff]
    intro a ha
    simp [h a ha, hk]

/-- Judged on the part with the event's own key. -/
def keyed (J : Judgement α) : Judgement α := fun pre a => J (on key (key a) pre) a

/-- **Every part is judged well exactly when every event is, by its own part.** -/
theorem each_keyed (J : Judgement α) (xs : List α) :
    (∀ k, Each J (on key k xs)) ↔ Each (keyed key J) xs := by
  induction xs using List.reverseRecOn with
  | nil => simp
  | append_singleton xs a ih =>
      rw [each_concat, ← ih]
      constructor
      · intro h
        constructor
        · intro k
          have hk := h k
          rw [on_concat] at hk
          split at hk
          · exact ((each_concat _ _).mp hk).1
          · exact hk
        · have ha := h (key a)
          rw [on_concat, if_pos rfl] at ha
          exact ((each_concat _ _).mp ha).2
      · intro h k
        obtain ⟨hxs, ha⟩ := h
        rw [on_concat]
        split
        next hka =>
          subst hka
          exact (each_concat _ _).mpr ⟨hxs (key a), ha⟩
        · exact hxs k

end Keys

/-! ## §3. Judging by the latest event of a kind. -/

/-- The latest event of a kind. -/
def latest (p : α → Bool) (xs : List α) : Option α := (xs.filter p).getLast?

@[simp] theorem latest_nil (p : α → Bool) : latest p [] = none := rfl

theorem latest_concat (p : α → Bool) (xs : List α) (a : α) :
    latest p (xs ++ [a]) = if p a then some a else latest p xs := by
  by_cases h : p a = true
  · simp [latest, h]
  · simp [latest, h]

theorem latest_of_mem {p : α → Bool} {xs : List α} {a : α} (h : a ∈ latest p xs) :
    a ∈ xs ∧ p a = true :=
  List.mem_filter.mp (List.mem_of_getLast? h)

theorem latest_eq_none {p : α → Bool} {xs : List α} :
    latest p xs = none ↔ ∀ a ∈ xs, p a = false := by
  simp [latest]

theorem latest_isSome {p : α → Bool} {xs : List α} :
    (latest p xs).isSome = true ↔ ∃ a ∈ xs, p a = true := by
  rw [← Option.ne_none_iff_isSome, ne_eq, latest_eq_none]
  push Not
  simp

/-- The latest event of a part is the latest of that kind with that key. -/
theorem latest_on [DecidableEq κ] (key : α → κ) (p : α → Bool) (k : κ) (xs : List α) :
    latest p (on key k xs) = latest (fun a => p a && decide (key a = k)) xs := by
  unfold latest on
  rw [List.filter_filter]

/-- The latest of a kind, where it is of a narrower kind. -/
theorem latest_narrow {p q : α → Bool} {xs : List α} {a : α} (h : a ∈ latest p xs)
    (hq : q a = true) : a ∈ latest (fun b => p b && q b) xs := by
  induction xs using List.reverseRecOn with
  | nil => cases h
  | append_singleton xs b ih =>
      rw [latest_concat] at h ⊢
      by_cases hb : p b = true
      · rw [if_pos hb] at h
        cases h
        simp [hb, hq]
      · rw [if_neg hb] at h
        simpa [hb] using ih h

/-- Judged by the latest event of a kind. -/
def byLatest (p : α → Bool) (fits : Option α → α → Prop) : Judgement α :=
  fun pre a => fits (latest p pre) a

instance (p : α → Bool) (fits : Option α → α → Prop) [∀ o a, Decidable (fits o a)]
    (pre : List α) (a : α) : Decidable (byLatest p fits pre a) :=
  inferInstanceAs (Decidable (fits _ a))

theorem each_keyed_latest [DecidableEq κ] (key : α → κ) (p : α → Bool)
    (fits : Option α → α → Prop) (xs : List α) :
    (∀ k, Each (byLatest p fits) (on key k xs)) ↔
      Each (fun pre a => fits (latest (fun b => p b && decide (key b = key a)) pre) a) xs := by
  rw [each_keyed]
  unfold keyed byLatest
  simp only [latest_on]

/-- **Each event of a kind fits the one before it exactly when they form a chain.** -/
theorem each_isChain {p : α → Bool} {R : α → α → Prop} (xs : List α) :
    Each (byLatest p fun o a => p a = true → ∀ b ∈ o, R b a) xs ↔ (xs.filter p).IsChain R := by
  induction xs using List.reverseRecOn with
  | nil => simp
  | append_singleton xs a ih =>
      rw [each_concat, ih, List.filter_append, byLatest, latest]
      cases ha : p a with
      | false => simp [ha]
      | true => simp [ha, List.isChain_append]

/-- Events that are none of the judged ones, and not of the kind that is kept, may be left out. -/
theorem each_filter {p q : α → Bool} {fits : Option α → α → Prop}
    (hp : ∀ a, p a = true → q a = true) (hfits : ∀ o a, q a = false → fits o a) (xs : List α) :
    Each (byLatest p fits) (xs.filter q) ↔ Each (byLatest p fits) xs := by
  -- What is kept is not left out, so the latest one is the same.
  have hlatest : ∀ ys : List α, latest p (ys.filter q) = latest p ys := by
    intro ys
    unfold latest
    rw [List.filter_filter]
    congr 2
    funext a
    cases hpa : p a with
    | false => rfl
    | true => simp [hp a hpa]
  induction xs using List.reverseRecOn with
  | nil => rfl
  | append_singleton xs a ih =>
      refine Iff.trans ?_ ((and_congr_left' ih).trans (each_concat _ _).symm)
      rw [List.filter_append]
      cases hq : q a with
      | true =>
          have hone : [a].filter q = [a] := by simp [hq]
          rw [hone, each_concat]
          unfold byLatest
          rw [hlatest]
      | false =>
          have hnil : [a].filter q = [] := by simp [hq]
          rw [hnil, List.append_nil]
          exact (and_iff_left (hfits _ a hq)).symm

/-! ## §4. Loops that keep the latest event. -/

/-- What one turn of the loop does, where the loop keeps the latest event as `keep`:
it goes on after an event that fits, and returns something else otherwise. -/
structure Keeps (p : α → Bool) (fits : Option α → α → Prop) (enc : α → β) (keep : Option α → σ)
    (done : δ) (step : σ → β → Except E (Turn σ δ)) : Prop where
  next : ∀ o a, fits o a →
    step (keep o) (enc a) = .ok (.next (keep (if p a then some a else o)))
  stop : ∀ o a, ¬ fits o a → ∃ d, d ≠ done ∧ step (keep o) (enc a) = .ok (.stop d)

section Loop

variable {p : α → Bool} {fits : Option α → α → Prop} {enc : α → β} {keep : Option α → σ}
  {done : δ} {step : σ → β → Except E (Turn σ δ)}

theorem scan_from_iff (h : Keeps p fits enc keep done step) (pre xs : List α) :
    scan step (fun _ => done) (keep (latest p pre)) (xs.map enc) = .ok done ↔
      EachFrom (byLatest p fits) pre xs := by
  induction xs generalizing pre with
  | nil => simp [scan, EachFrom]
  | cons a xs ih =>
      by_cases hfits : fits (latest p pre) a
      · have hlatest : (if p a then some a else latest p pre) = latest p (pre ++ [a]) :=
          (latest_concat p pre a).symm
        rw [List.map_cons, scan, h.next _ _ hfits, hlatest]
        simp only [EachFrom, byLatest, hfits, true_and]
        exact ih (pre ++ [a])
      · obtain ⟨d, hd, hstep⟩ := h.stop _ _ hfits
        rw [List.map_cons, scan, hstep]
        simp [EachFrom, byLatest, hfits, hd]

/-- **A loop that keeps the latest event** comes to its end exactly when every event
fits the latest one before it. -/
theorem scan_accepts_iff (h : Keeps p fits enc keep done step) (xs : List α) :
    scan step (fun _ => done) (keep none) (xs.map enc) = .ok done ↔ Each (byLatest p fits) xs :=
  scan_from_iff h [] xs

end Loop

end Monitor
