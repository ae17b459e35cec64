/-
  ObligationRuntime.Lib.KeyOrder — JSON values up to the order of their keys.

  Two mappings with the same members are equal to the language, in whatever order their
  keys stand, and a store may keep them in an order of its own.  `sortKeys r` puts the
  keys of every mapping inside a value in the order `r`; values are the same when they
  become equal with their keys in the order of text.

  Sorting loses nothing where keys are unique, as they are in every mapping of the
  language (`UniqueKeys`).

  Main results:
    * `same_sortKeys` — a value with its keys in another order is the same,
    * `set_perm_cons`, `sameDict_set` — item assignment keeps mappings the same,
    * `reordered_iff_same` — the same values are those with the members of their mappings
      in another order.
-/
import ObligationRuntime.Lib.Value
import Mathlib.Data.List.Perm.Basic
import Mathlib.Data.List.Sort

namespace Py

/-! ## §1. Keys in order. -/

/-- A mapping with its members in the order of their keys. -/
def Dict.sortBy (r : String → String → Bool) (d : Dict) : Dict :=
  d.insertionSort fun m m' => r m.1 m'.1 = true

mutual
/-- Every mapping inside, with its keys in that order. -/
def Json.sortKeys (r : String → String → Bool) : Json → Json
  | .null => .null
  | .bool b => .bool b
  | .int n => .int n
  | .flt q => .flt q
  | .str s => .str s
  | .arr xs => .arr (Json.sortKeysList r xs)
  | .obj d => .obj (Dict.sortBy r (Json.sortKeysDict r d))
/-- `sortKeys`, on lists. -/
def Json.sortKeysList (r : String → String → Bool) : List Json → List Json
  | [] => []
  | x :: xs => Json.sortKeys r x :: Json.sortKeysList r xs
/-- `sortKeys`, on the members of a mapping. -/
def Json.sortKeysDict (r : String → String → Bool) : List (String × Json) → List (String × Json)
  | [] => []
  | (k, v) :: d => (k, Json.sortKeys r v) :: Json.sortKeysDict r d
end

mutual
/-- The test holds of every value inside. -/
def Json.all (p : Json → Bool) : Json → Bool
  | .null => p .null
  | .bool b => p (.bool b)
  | .int n => p (.int n)
  | .flt q => p (.flt q)
  | .str s => p (.str s)
  | .arr xs => p (.arr xs) && Json.allList p xs
  | .obj d => p (.obj d) && Json.allDict p d
/-- `all`, on lists. -/
def Json.allList (p : Json → Bool) : List Json → Bool
  | [] => true
  | x :: xs => Json.all p x && Json.allList p xs
/-- `all`, on the members of a mapping. -/
def Json.allDict (p : Json → Bool) : List (String × Json) → Bool
  | [] => true
  | (_, v) :: d => Json.all p v && Json.allDict p d
end

theorem Json.all_self {p : Json → Bool} {v : Json} (h : v.all p = true) : p v = true := by
  cases v with
  | arr xs => exact (Bool.and_eq_true_iff.mp h).1
  | obj d => exact (Bool.and_eq_true_iff.mp h).1
  | _ => exact h

theorem Json.allList_of_arr {p : Json → Bool} {xs : List Json} (h : (Json.arr xs).all p = true) :
    Json.allList p xs = true :=
  (Bool.and_eq_true_iff.mp h).2

theorem Json.allDict_of_obj {p : Json → Bool} {d : Dict} (h : (Json.obj d).all p = true) :
    Json.allDict p d = true :=
  (Bool.and_eq_true_iff.mp h).2

theorem Json.allDict_iff {p : Json → Bool} {d : Dict} :
    Json.allDict p d = true ↔ ∀ kv ∈ d, kv.2.all p = true := by
  induction d with
  | nil => simp [Json.allDict]
  | cons kv d ih =>
      obtain ⟨k, v⟩ := kv
      rw [Json.allDict, Bool.and_eq_true, ih, List.forall_mem_cons]

theorem Json.allList_iff {p : Json → Bool} {xs : List Json} :
    Json.allList p xs = true ↔ ∀ x ∈ xs, x.all p = true := by
  induction xs with
  | nil => simp [Json.allList]
  | cons x xs ih => rw [Json.allList, Bool.and_eq_true, ih, List.forall_mem_cons]

/-- The value is no float. -/
def Json.integral : Json → Bool
  | .flt _ => false
  | _ => true

/-- The keys of a mapping are unique. -/
def Json.keysUnique : Json → Bool
  | .obj d => decide (Dict.keys d).Nodup
  | _ => true

/-- The keys of every mapping inside are unique. -/
def Json.UniqueKeys (v : Json) : Prop := v.all Json.keysUnique = true

instance (v : Json) : Decidable v.UniqueKeys := inferInstanceAs (Decidable (_ = true))

theorem Json.uniqueKeys_obj {d : Dict} :
    (Json.obj d).UniqueKeys ↔ d.keys.Nodup ∧ Json.allDict Json.keysUnique d = true := by
  unfold Json.UniqueKeys Json.all
  simp [Json.keysUnique]

theorem Json.uniqueKeys_arr {xs : List Json} :
    (Json.arr xs).UniqueKeys ↔ Json.allList Json.keysUnique xs = true := by
  unfold Json.UniqueKeys Json.all
  simp [Json.keysUnique]

/-- The order of text. -/
def textOrder (a b : String) : Bool := decide (a ≤ b)

/-- The value with its keys in the order of text. -/
def Json.canonical (v : Json) : Json := v.sortKeys textOrder

/-- The same value, up to the order of keys. -/
def Json.Same (v w : Json) : Prop := v.canonical = w.canonical

/-- The same mapping, up to the order of keys. -/
def Dict.Same (d e : Dict) : Prop := Json.Same (.obj d) (.obj e)

@[simp] theorem Json.Same.refl (v : Json) : Json.Same v v := rfl

@[simp] theorem Dict.Same.refl (d : Dict) : Dict.Same d d := rfl

/-! ## §2. Sorting. -/

variable {r : String → String → Bool}

theorem Json.sortKeysDict_eq (d : List (String × Json)) :
    Json.sortKeysDict r d = d.map fun m => (m.1, Json.sortKeys r m.2) := by
  induction d with
  | nil => rfl
  | cons m d ih =>
      rw [Json.sortKeysDict, ih]
      rfl

@[simp] theorem Json.keys_sortKeysDict (d : Dict) :
    Dict.keys (Json.sortKeysDict r d) = Dict.keys d := by
  rw [Json.sortKeysDict_eq]
  simp [Dict.keys, Function.comp_def]

theorem Dict.perm_sortBy (d : Dict) : (d.sortBy r).Perm d :=
  List.perm_insertionSort _ _

/-- **Sorting forgets the order**, where keys are unique. -/
theorem Dict.sortBy_perm {d e : Dict} (h : d.Perm e) (hkeys : d.keys.Nodup) :
    d.sortBy textOrder = e.sortBy textOrder := by
  have htotal : Std.Total fun m m' : String × Json => textOrder m.1 m'.1 = true :=
    ⟨fun m m' => by simpa [textOrder] using String.le_total m.1 m'.1⟩
  have htrans : IsTrans (String × Json) fun m m' => textOrder m.1 m'.1 = true :=
    ⟨fun a b c hab hbc => by
      simp only [textOrder, decide_eq_true_eq] at hab hbc ⊢
      exact String.le_trans hab hbc⟩
  refine List.Perm.eq_of_pairwise ?_ (List.pairwise_insertionSort _ d)
    (List.pairwise_insertionSort _ e) ((d.perm_sortBy).trans (h.trans (e.perm_sortBy).symm))
  intro m m' hm hm' hle hge
  simp only [textOrder, decide_eq_true_eq] at hle hge
  -- Equal keys of one mapping are the key of one member.
  have hmd : m ∈ d := (d.perm_sortBy).mem_iff.mp hm
  have hmd' : m' ∈ d := h.symm.mem_iff.mp ((e.perm_sortBy).mem_iff.mp hm')
  exact List.inj_on_of_nodup_map hkeys hmd hmd' (String.le_antisymm hle hge)

/-- Mappings with the same members in order have the same members. -/
theorem Json.perm_of_canonical {d e : Dict}
    (h : (Json.obj d).canonical = (Json.obj e).canonical) :
    (Json.sortKeysDict textOrder d).Perm (Json.sortKeysDict textOrder e) := by
  have hsorted : Dict.sortBy textOrder (Json.sortKeysDict textOrder d) =
      Dict.sortBy textOrder (Json.sortKeysDict textOrder e) := Json.obj.inj h
  refine (Dict.perm_sortBy (r := textOrder) _).symm.trans ?_
  rw [hsorted]
  exact Dict.perm_sortBy _

mutual
/-- **A value with its keys in another order is the same.** -/
theorem Json.canonical_sortKeys : ∀ (v : Json), v.UniqueKeys →
    (v.sortKeys r).canonical = v.canonical
  | .null, _ => rfl
  | .bool _, _ => rfl
  | .int _, _ => rfl
  | .flt _, _ => rfl
  | .str _, _ => rfl
  | .arr xs, h => congrArg Json.arr
      (Json.canonical_sortKeysList xs (Json.uniqueKeys_arr.mp h))
  | .obj d, h => by
      obtain ⟨hnodup, hall⟩ := Json.uniqueKeys_obj.mp h
      have hdict := Json.canonical_sortKeysDict d hall
      have hperm : (Json.sortKeysDict textOrder (Dict.sortBy r (Json.sortKeysDict r d))).Perm
          (Json.sortKeysDict textOrder d) := by
        rw [← hdict, Json.sortKeysDict_eq, Json.sortKeysDict_eq (Json.sortKeysDict r d)]
        exact (Dict.perm_sortBy _).map _
      refine congrArg Json.obj (Dict.sortBy_perm hperm ?_)
      have hkeys : (Dict.keys (Dict.sortBy r (Json.sortKeysDict r d))).Perm (Dict.keys d) := by
        have hmap := (Dict.perm_sortBy (r := r) (Json.sortKeysDict r d)).map Prod.fst
        have hd : (Json.sortKeysDict r d).map Prod.fst = Dict.keys d := Json.keys_sortKeysDict d
        rwa [hd] at hmap
      rw [Json.keys_sortKeysDict]
      exact hkeys.nodup_iff.mpr hnodup
theorem Json.canonical_sortKeysList : ∀ (xs : List Json),
    Json.allList Json.keysUnique xs = true →
      Json.sortKeysList textOrder (Json.sortKeysList r xs) = Json.sortKeysList textOrder xs
  | [], _ => rfl
  | x :: xs, h =>
      have hx := Bool.and_eq_true_iff.mp h
      List.cons_eq_cons.mpr ⟨Json.canonical_sortKeys x hx.1, Json.canonical_sortKeysList xs hx.2⟩
theorem Json.canonical_sortKeysDict : ∀ (d : List (String × Json)),
    Json.allDict Json.keysUnique d = true →
      Json.sortKeysDict textOrder (Json.sortKeysDict r d) = Json.sortKeysDict textOrder d
  | [], _ => rfl
  | (k, v) :: d, h =>
      have hv := Bool.and_eq_true_iff.mp h
      List.cons_eq_cons.mpr ⟨congrArg (Prod.mk k) (Json.canonical_sortKeys v hv.1),
        Json.canonical_sortKeysDict d hv.2⟩
end

theorem Json.same_sortKeys {v : Json} (h : v.UniqueKeys) : Json.Same (v.sortKeys r) v :=
  Json.canonical_sortKeys v h

/-! ## §3. Item assignment. -/

theorem Dict.keys_set (d : Dict) (k : String) (v : Json) :
    (d.set k v).keys = if k ∈ d.keys then d.keys else d.keys ++ [k] := by
  induction d with
  | nil => rfl
  | cons m d ih =>
      obtain ⟨k', w⟩ := m
      by_cases hk : k' = k
      · subst hk
        simp [Dict.set, Dict.keys]
      · have hk' : ¬ k = k' := fun h => hk h.symm
        have hset : Dict.keys (Dict.set ((k', w) :: d) k v) = k' :: Dict.keys (Dict.set d k v) := by
          simp [Dict.set, hk, Dict.keys]
        rw [hset, ih]
        by_cases hmem : k ∈ Dict.keys d
        · have hmem' : k ∈ Dict.keys ((k', w) :: d) := List.mem_cons_of_mem _ hmem
          rw [if_pos hmem, if_pos hmem']
          rfl
        · have hmem' : k ∉ Dict.keys ((k', w) :: d) := by
            simpa [Dict.keys, hk'] using hmem
          rw [if_neg hmem, if_neg hmem']
          rfl

theorem Dict.nodup_keys_set {d : Dict} (h : d.keys.Nodup) (k : String) (v : Json) :
    (d.set k v).keys.Nodup := by
  rw [Dict.keys_set]
  split
  · exact h
  next hk => exact List.nodup_append.mpr ⟨h, List.nodup_singleton k, by
      intro a ha b hb
      rw [List.mem_singleton.mp hb]
      exact fun hab => hk (hab ▸ ha)⟩

/-- **Item assignment**, up to order: the other members, and the new one. -/
theorem Dict.set_perm_cons {d : Dict} (h : d.keys.Nodup) (k : String) (v : Json) :
    (d.set k v).Perm ((k, v) :: d.filter fun m => decide (m.1 ≠ k)) := by
  induction d with
  | nil => exact .refl _
  | cons m d ih =>
      obtain ⟨k', w⟩ := m
      obtain ⟨hnew, hd⟩ := List.nodup_cons.mp h
      by_cases hk : k' = k
      · subst hk
        -- The key is there once, so no other member has it.
        have hrest : d.filter (fun m => decide (m.1 ≠ k')) = d := by
          rw [List.filter_eq_self]
          intro m hm
          have hmem : m.1 ∈ d.map Prod.fst := List.mem_map_of_mem hm
          have hne : m.1 ≠ k' := fun he => hnew (he ▸ hmem)
          simpa using hne
        have hfilter : ((k', w) :: d).filter (fun m => decide (m.1 ≠ k')) = d := by
          rw [List.filter_cons_of_neg (by simp), hrest]
        rw [hfilter, Dict.set, if_pos rfl]
      · have hset : Dict.set ((k', w) :: d) k v = (k', w) :: Dict.set d k v := by
          simp [Dict.set, hk]
        have hfilter : ((k', w) :: d).filter (fun m => decide (m.1 ≠ k)) =
            (k', w) :: d.filter fun m => decide (m.1 ≠ k) := by
          simp [hk]
        rw [hset, hfilter]
        exact ((ih hd).cons _).trans (.swap _ _ _)

theorem Dict.set_perm {d e : Dict} (h : d.Perm e) (hkeys : d.keys.Nodup) (k : String) (v : Json) :
    (d.set k v).Perm (e.set k v) := by
  have hkeys' : e.keys.Nodup := (h.map Prod.fst).nodup_iff.mp hkeys
  exact (Dict.set_perm_cons hkeys k v).trans
    (((h.filter _).cons _).trans (Dict.set_perm_cons hkeys' k v).symm)

theorem Json.sortKeysDict_set (d : Dict) (k : String) (v : Json) :
    Json.sortKeysDict r (d.set k v) = Dict.set (Json.sortKeysDict r d) k (v.sortKeys r) := by
  induction d with
  | nil => rfl
  | cons m d ih =>
      obtain ⟨k', w⟩ := m
      by_cases hk : k' = k
      · simp [Dict.set, Json.sortKeysDict, hk]
      · simp [Dict.set, Json.sortKeysDict, hk, ih]

/-- **Item assignment keeps mappings the same.** -/
theorem Dict.Same.set {d e : Dict} (h : Dict.Same d e) (hd : d.keys.Nodup) (k : String)
    (v : Json) : Dict.Same (d.set k v) (e.set k v) := by
  have hperm : (Json.sortKeysDict textOrder d).Perm (Json.sortKeysDict textOrder e) :=
    Json.perm_of_canonical h
  have hkeys : (Dict.keys (Json.sortKeysDict textOrder d)).Nodup := by
    rw [Json.keys_sortKeysDict]
    exact hd
  show Json.obj (Dict.sortBy _ (Json.sortKeysDict _ (d.set k v))) =
    Json.obj (Dict.sortBy _ (Json.sortKeysDict _ (e.set k v)))
  rw [Json.sortKeysDict_set, Json.sortKeysDict_set]
  exact congrArg Json.obj (Dict.sortBy_perm (Dict.set_perm hperm hkeys k _)
    (Dict.nodup_keys_set hkeys k _))

/-! ## §4. Members in another order. -/

mutual
/-- The second value is the first with the members of its mappings in another order. -/
def Json.Reordered : Json → Json → Prop
  | .null, w => w = .null
  | .bool b, w => w = .bool b
  | .int n, w => w = .int n
  | .flt q, w => w = .flt q
  | .str s, w => w = .str s
  | .arr xs, w => ∃ ys, w = .arr ys ∧ Json.ReorderedList xs ys
  | .obj d, w => ∃ e e', w = .obj e ∧ e.Perm e' ∧ Json.ReorderedDict d e'
/-- `Reordered`, element by element. -/
def Json.ReorderedList : List Json → List Json → Prop
  | [], ys => ys = []
  | x :: xs, ys => ∃ y ys', ys = y :: ys' ∧ Json.Reordered x y ∧ Json.ReorderedList xs ys'
/-- `Reordered`, member by member. -/
def Json.ReorderedDict : List (String × Json) → List (String × Json) → Prop
  | [], e => e = []
  | (k, v) :: d, e => ∃ w e', e = (k, w) :: e' ∧ Json.Reordered v w ∧ Json.ReorderedDict d e'
end

/-- Members that become a list in some order can be put in that order. -/
theorem Json.exists_perm_sortKeysDict {d e : List (String × Json)}
    (h : (Json.sortKeysDict r d).Perm (Json.sortKeysDict r e)) :
    ∃ e', e.Perm e' ∧ Json.sortKeysDict r d = Json.sortKeysDict r e' := by
  rw [Json.sortKeysDict_eq, Json.sortKeysDict_eq] at h
  have hcomp := List.eq_map_comp_perm fun m : String × Json => (m.1, Json.sortKeys r m.2)
  obtain ⟨e', hmap, hperm⟩ := (congrFun (congrFun hcomp _) e).mpr h
  refine ⟨e', hperm.symm, ?_⟩
  rw [Json.sortKeysDict_eq, Json.sortKeysDict_eq]
  exact hmap

mutual
/-- Values that are the same differ in the order of members. -/
theorem Json.Reordered.of_same : ∀ (v w : Json), v.canonical = w.canonical → v.Reordered w
  | .null, w, h => by cases w <;> first | rfl | cases h
  | .bool _, w, h => by cases w <;> first | (cases h; rfl) | cases h
  | .int _, w, h => by cases w <;> first | (cases h; rfl) | cases h
  | .flt _, w, h => by cases w <;> first | (cases h; rfl) | cases h
  | .str _, w, h => by cases w <;> first | (cases h; rfl) | cases h
  | .arr xs, w, h => by
      cases w with
      | arr ys => exact ⟨ys, rfl, Json.ReorderedList.of_same xs ys (Json.arr.inj h)⟩
      | _ => cases h
  | .obj d, w, h => by
      cases w with
      | obj e =>
          obtain ⟨e', hperm, hmap⟩ := Json.exists_perm_sortKeysDict (Json.perm_of_canonical h)
          exact ⟨e, e', rfl, hperm, Json.ReorderedDict.of_same d e' hmap⟩
      | _ => cases h
theorem Json.ReorderedList.of_same : ∀ (xs ys : List Json),
    Json.sortKeysList textOrder xs = Json.sortKeysList textOrder ys → Json.ReorderedList xs ys
  | [], ys, h => by
      cases ys with
      | nil => rfl
      | cons y ys => cases h
  | x :: xs, ys, h => by
      cases ys with
      | nil => cases h
      | cons y ys =>
          obtain ⟨hx, hxs⟩ := List.cons.inj h
          exact ⟨y, ys, rfl, Json.Reordered.of_same x y hx, Json.ReorderedList.of_same xs ys hxs⟩
theorem Json.ReorderedDict.of_same : ∀ (d e : List (String × Json)),
    Json.sortKeysDict textOrder d = Json.sortKeysDict textOrder e → Json.ReorderedDict d e
  | [], e, h => by
      cases e with
      | nil => rfl
      | cons m e => cases h
  | (k, v) :: d, e, h => by
      cases e with
      | nil => cases h
      | cons m e =>
          obtain ⟨l, w⟩ := m
          obtain ⟨hm, hd⟩ := List.cons.inj h
          obtain ⟨rfl, hv⟩ := Prod.mk.inj hm
          exact ⟨w, e, rfl, Json.Reordered.of_same v w hv, Json.ReorderedDict.of_same d e hd⟩
end

mutual
/-- Values that differ in the order of members are the same, where keys are unique. -/
theorem Json.Reordered.same : ∀ (v w : Json), v.UniqueKeys → v.Reordered w →
    v.canonical = w.canonical
  | .null, w, _, h => by rw [h]
  | .bool _, w, _, h => by rw [h]
  | .int _, w, _, h => by rw [h]
  | .flt _, w, _, h => by rw [h]
  | .str _, w, _, h => by rw [h]
  | .arr xs, w, hkeys, h => by
      obtain ⟨ys, rfl, hlist⟩ := h
      exact congrArg Json.arr (Json.ReorderedList.same xs ys (Json.uniqueKeys_arr.mp hkeys) hlist)
  | .obj d, w, hkeys, h => by
      obtain ⟨e, e', rfl, hperm, hdict⟩ := h
      obtain ⟨hnodup, hall⟩ := Json.uniqueKeys_obj.mp hkeys
      have hsame := Json.ReorderedDict.same d e' hall hdict
      have hpermuted : (Json.sortKeysDict textOrder d).Perm (Json.sortKeysDict textOrder e) := by
        rw [hsame, Json.sortKeysDict_eq, Json.sortKeysDict_eq]
        exact hperm.symm.map _
      refine congrArg Json.obj (Dict.sortBy_perm hpermuted ?_)
      rw [Json.keys_sortKeysDict]
      exact hnodup
theorem Json.ReorderedList.same : ∀ (xs ys : List Json),
    Json.allList Json.keysUnique xs = true → Json.ReorderedList xs ys →
      Json.sortKeysList textOrder xs = Json.sortKeysList textOrder ys
  | [], ys, _, h => by rw [h]
  | x :: xs, ys, hkeys, h => by
      obtain ⟨y, ys', rfl, hx, hxs⟩ := h
      obtain ⟨hkx, hkxs⟩ := Bool.and_eq_true_iff.mp hkeys
      exact List.cons_eq_cons.mpr
        ⟨Json.Reordered.same x y hkx hx, Json.ReorderedList.same xs ys' hkxs hxs⟩
theorem Json.ReorderedDict.same : ∀ (d e : List (String × Json)),
    Json.allDict Json.keysUnique d = true → Json.ReorderedDict d e →
      Json.sortKeysDict textOrder d = Json.sortKeysDict textOrder e
  | [], e, _, h => by rw [h]
  | (k, v) :: d, e, hkeys, h => by
      obtain ⟨w, e', rfl, hv, hd⟩ := h
      obtain ⟨hkv, hkd⟩ := Bool.and_eq_true_iff.mp hkeys
      exact List.cons_eq_cons.mpr ⟨congrArg (Prod.mk k) (Json.Reordered.same v w hkv hv),
        Json.ReorderedDict.same d e' hkd hd⟩
end

/-- **The same values** are those with the members of their mappings in another order. -/
theorem Json.reordered_iff_same {v w : Json} (h : v.UniqueKeys) :
    v.Reordered w ↔ Json.Same v w := by
  constructor
  · exact Json.Reordered.same v w h
  · exact Json.Reordered.of_same v w

/-! ## §5. What sorting keeps. -/

mutual
/-- Keys in another order: as many floats. -/
theorem Json.integral_sortKeys : ∀ (v : Json), v.all Json.integral = true →
    (v.sortKeys r).all Json.integral = true
  | .null, h => h
  | .bool _, h => h
  | .int _, h => h
  | .flt _, h => h
  | .str _, h => h
  | .arr xs, h => Json.integral_sortKeysList xs (Json.allList_of_arr h)
  | .obj d, h => by
      have hdict := Json.integral_sortKeysDict d (Json.allDict_of_obj h)
      show Json.allDict Json.integral (Dict.sortBy r (Json.sortKeysDict r d)) = true
      rw [Json.allDict_iff] at hdict ⊢
      intro m hm
      exact hdict m ((Dict.perm_sortBy _).mem_iff.mp hm)
theorem Json.integral_sortKeysList : ∀ (xs : List Json), Json.allList Json.integral xs = true →
    Json.allList Json.integral (Json.sortKeysList r xs) = true
  | [], _ => rfl
  | x :: xs, h =>
      have hx := Bool.and_eq_true_iff.mp h
      Bool.and_eq_true_iff.mpr ⟨Json.integral_sortKeys x hx.1, Json.integral_sortKeysList xs hx.2⟩
theorem Json.integral_sortKeysDict : ∀ (d : List (String × Json)),
    Json.allDict Json.integral d = true → Json.allDict Json.integral (Json.sortKeysDict r d) = true
  | [], _ => rfl
  | (_, v) :: d, h =>
      have hv := Bool.and_eq_true_iff.mp h
      Bool.and_eq_true_iff.mpr ⟨Json.integral_sortKeys v hv.1, Json.integral_sortKeysDict d hv.2⟩
end

end Py
