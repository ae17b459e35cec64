/-
  ObligationRuntime.Lib.DictUpdate — merging mappings, and `==` as an equivalence.

  `d.update(e)` assigns the members of `e` one after the other; on mappings, whose keys
  are unique, it is a lookup in `e` first and in `d` then.

  `==` compares numbers by value and mappings without the order of their keys.  It is an
  equivalence on the values of the language, where the keys of every mapping are unique.

  Main results:
    * `Dict.get?_update`, `Dict.get?_updateAll` — what is found after merging,
    * `Dict.Unique.update` — merging keeps keys unique,
    * `Json.pyEq_refl`, `Json.pyEq_symm`, `Json.pyEq_trans` — `==` is an equivalence,
    * `Dict.Gathers.agreeOn_iff`, `Dict.Gathers.sameOn` — mappings that agree with each
      other merge to the same in every order.
-/
import ObligationRuntime.Lib.KeyOrder

namespace Py

/-! ## §1. Members. -/

/-- The keys of the mapping, and of every mapping in it, are unique. -/
def Dict.Unique (d : Dict) : Prop := (Json.obj d).UniqueKeys

instance (d : Dict) : Decidable d.Unique :=
  inferInstanceAs (Decidable ((Json.obj d).all Json.keysUnique = true))

namespace Dict

variable {d e : Dict} {k : String} {v : Json}

/-- Unique keys, in the mapping and in its values. -/
theorem unique_iff : Unique d ↔ d.keys.Nodup ∧ ∀ kv ∈ d, kv.2.UniqueKeys := by
  unfold Unique
  rw [Json.uniqueKeys_obj, Json.allDict_iff]
  rfl

theorem unique_nil : Unique [] := unique_iff.mpr ⟨List.nodup_nil, by simp⟩

/-- What is found is a member. -/
theorem mem_of_get? (h : d.get? k = some v) : (k, v) ∈ d := by
  induction d with
  | nil => cases h
  | cons kv d ih =>
      obtain ⟨l, w⟩ := kv
      rw [get?_cons] at h
      split at h
      next hk =>
        obtain rfl := Option.some.inj h
        subst hk
        exact List.mem_cons_self ..
      · exact List.mem_cons_of_mem _ (ih h)

/-- Nothing is found exactly where the key is not there. -/
theorem get?_eq_none_iff : d.get? k = none ↔ k ∉ d.keys := by
  induction d with
  | nil => simp [keys]
  | cons kv d ih =>
      obtain ⟨l, w⟩ := kv
      rw [get?_cons]
      by_cases hk : l = k
      · simp [hk, keys]
      · rw [if_neg hk, ih]
        have hk' : ¬ k = l := fun h => hk h.symm
        simp [keys, hk']

/-- A member is found, where keys are unique. -/
theorem get?_of_mem (hd : d.keys.Nodup) (h : (k, v) ∈ d) : d.get? k = some v := by
  induction d with
  | nil => cases h
  | cons kv d ih =>
      obtain ⟨l, w⟩ := kv
      obtain ⟨hnew, hrest⟩ := List.nodup_cons.mp hd
      rw [get?_cons]
      rcases List.mem_cons.mp h with h | h
      · obtain ⟨rfl, rfl⟩ := Prod.mk.inj h
        exact if_pos rfl
      · have hmem : k ∈ d.map Prod.fst := List.mem_map_of_mem (f := Prod.fst) h
        have hne : l ≠ k := fun he => hnew (he ▸ hmem)
        rw [if_neg hne]
        exact ih hrest h

/-- The values of a mapping have unique keys. -/
theorem Unique.value (hd : Unique d) (h : d.get? k = some v) : v.UniqueKeys :=
  (unique_iff.mp hd).2 _ (mem_of_get? h)

/-! ## §2. Merging. -/

/-- After an assignment a value is the new one or an old one. -/
theorem mem_set {kv : String × Json} (h : kv ∈ d.set k v) : kv.2 = v ∨ kv ∈ d := by
  induction d with
  | nil => exact .inl (congrArg Prod.snd (List.mem_singleton.mp h))
  | cons m d ih =>
      obtain ⟨l, w⟩ := m
      rw [set] at h
      split at h
      · rcases List.mem_cons.mp h with rfl | h
        · exact .inl rfl
        · exact .inr (List.mem_cons_of_mem _ h)
      · rcases List.mem_cons.mp h with rfl | h
        · exact .inr (List.mem_cons_self ..)
        · exact (ih h).imp_right (List.mem_cons_of_mem _)

/-- An assignment keeps the keys unique. -/
theorem Unique.set (hd : Unique d) (hv : v.UniqueKeys) (k : String) : Unique (d.set k v) := by
  obtain ⟨hkeys, hvalues⟩ := unique_iff.mp hd
  refine unique_iff.mpr ⟨nodup_keys_set hkeys k v, fun kv hkv => ?_⟩
  rcases mem_set hkv with h | h
  · exact h ▸ hv
  · exact hvalues kv h

/-- `d.update(e)`. -/
def update (d e : Dict) : Dict := e.foldl (fun d kv => d.set kv.1 kv.2) d

/-- **What is found after a merge**: what the second mapping has, else the first. -/
theorem get?_update (he : e.keys.Nodup) (d : Dict) (k : String) :
    (d.update e).get? k = (e.get? k).or (d.get? k) := by
  induction e generalizing d with
  | nil => rfl
  | cons kv e ih =>
      obtain ⟨l, w⟩ := kv
      obtain ⟨hnew, hrest⟩ := List.nodup_cons.mp he
      have hstep : (d.update ((l, w) :: e)).get? k = (get? e k).or ((d.set l w).get? k) :=
        ih hrest _
      rw [hstep, get?_cons]
      by_cases hk : l = k
      · subst hk
        rw [if_pos rfl, get?_set_self, get?_eq_none_iff.mpr hnew]
        rfl
      · rw [if_neg hk, get?_set_ne _ hk]

/-- A new key goes last. -/
theorem set_of_not_mem (h : k ∉ d.keys) (v : Json) : d.set k v = d ++ [(k, v)] := by
  induction d with
  | nil => rfl
  | cons kv d ih =>
      obtain ⟨l, w⟩ := kv
      have hne : l ≠ k := fun he => h (he ▸ List.mem_cons_self ..)
      have hrest : k ∉ Dict.keys d := fun hmem => h (List.mem_cons_of_mem _ hmem)
      rw [Dict.set, if_neg hne, ih hrest]
      rfl

/-- Merging a mapping with other keys. -/
theorem update_eq_append (h : keys (d ++ e) |>.Nodup) : d.update e = d ++ e := by
  induction e generalizing d with
  | nil => exact (List.append_nil d).symm
  | cons kv e ih =>
      obtain ⟨l, w⟩ := kv
      have hnew : l ∉ d.keys := by
        intro hmem
        rw [keys, List.map_append] at h
        exact (List.nodup_append.mp h).2.2 l hmem l (List.mem_cons_self ..) rfl
      have hstep : d.update ((l, w) :: e) = (d.set l w).update e := rfl
      rw [List.append_cons] at h ⊢
      rw [hstep, set_of_not_mem hnew, ih h]

/-- An update of the empty mapping is the other one. -/
theorem nil_update (he : e.keys.Nodup) : update [] e = e := update_eq_append he

/-- **Merging keeps keys unique.** -/
theorem Unique.update (hd : Unique d) (he : Unique e) : Unique (d.update e) := by
  have hvalues := (unique_iff.mp he).2
  clear he
  induction e generalizing d with
  | nil => exact hd
  | cons kv e ih =>
      exact ih (hd.set (hvalues kv (List.mem_cons_self ..)) kv.1) fun m hm =>
        hvalues m (List.mem_cons_of_mem _ hm)

/-- Mappings merged one after the other. -/
def updateAll (d : Dict) (es : List Dict) : Dict := es.foldl update d

/-- Updates keep the keys unique. -/
theorem Unique.updateAll {es : List Dict} (hd : Unique d) (hes : ∀ e ∈ es, Unique e) :
    Unique (d.updateAll es) := by
  induction es generalizing d with
  | nil => exact hd
  | cons e es ih =>
      rw [List.forall_mem_cons] at hes
      exact ih (hd.update hes.1) hes.2

/-- What is found after several merges: what the last mapping that has the key has. -/
theorem get?_updateAll {es : List Dict} (hes : ∀ e ∈ es, Unique e) (d : Dict) (k : String) :
    (d.updateAll es).get? k = (es.reverse.findSome? (·.get? k)).or (d.get? k) := by
  induction es generalizing d with
  | nil => rfl
  | cons e es ih =>
      rw [List.forall_mem_cons] at hes
      -- The rest of the mappings come later, and so are asked first.
      have hstep : (d.updateAll (e :: es)).get? k =
          (es.reverse.findSome? (·.get? k)).or ((d.update e).get? k) := ih hes.2 _
      have hlast : (e :: es).reverse.findSome? (·.get? k) =
          (es.reverse.findSome? (·.get? k)).or (e.get? k) := by
        rw [List.reverse_cons, List.findSome?_append]
        congr 1
        cases h : e.get? k <;> simp [h]
      rw [hstep, hlast, get?_update (unique_iff.mp hes.1).1, Option.or_assoc]

/-- The mapping without some keys. -/
def without (ks : List String) (d : Dict) : Dict := d.filter fun kv => decide (kv.1 ∉ ks)

/-- What is found without some of the keys. -/
theorem get?_without (ks : List String) (d : Dict) (k : String) :
    (d.without ks).get? k = if k ∈ ks then none else d.get? k := by
  induction d with
  | nil => exact (ite_self _).symm
  | cons kv d ih =>
      obtain ⟨l, w⟩ := kv
      unfold without at ih ⊢
      by_cases hl : l ∈ ks
      · rw [List.filter_cons_of_neg (by simp [hl]), ih, get?_cons]
        by_cases hk : k ∈ ks
        · rw [if_pos hk, if_pos hk]
        · have hne : l ≠ k := fun h => hk (h ▸ hl)
          rw [if_neg hk, if_neg hk, if_neg hne]
      · rw [List.filter_cons_of_pos (by simp [hl]), get?_cons, ih, get?_cons]
        by_cases hlk : l = k
        · subst hlk
          rw [if_pos rfl, if_neg hl, if_pos rfl]
        · rw [if_neg hlk, if_neg hlk]

/-- The keys that are left are unique. -/
theorem Unique.without (hd : Unique d) (ks : List String) : Unique (d.without ks) := by
  obtain ⟨hkeys, hvalues⟩ := unique_iff.mp hd
  refine unique_iff.mpr ⟨?_, fun kv hkv => hvalues kv (List.mem_of_mem_filter hkv)⟩
  exact (List.filter_sublist.map Prod.fst).nodup hkeys

/-- Keys that are not there take nothing away. -/
theorem without_eq_self {ks : List String} (h : ∀ k ∈ ks, d.get? k = none) :
    d.without ks = d := by
  rw [without, List.filter_eq_self]
  intro kv hkv
  have hmem : kv.1 ∈ d.keys := List.mem_map_of_mem hkv
  have hnot : kv.1 ∉ ks := fun hk => get?_eq_none_iff.mp (h _ hk) hmem
  simpa using hnot

end Dict

/-! ## §3. `==` -/

/-- Mappings are compared by the keys of the first, -/
theorem Json.pyEqDict_iff {xs ys : Dict} :
    Json.pyEqDict xs ys = true ↔
      ∀ kv ∈ xs, ∃ y, ys.get? kv.1 = some y ∧ Json.pyEq kv.2 y = true := by
  induction xs with
  | nil => simp [Json.pyEqDict]
  | cons kv xs ih =>
      obtain ⟨k, x⟩ := kv
      rw [Json.pyEqDict, Bool.and_eq_true, ih, List.forall_mem_cons]
      refine and_congr_left fun _ => ?_
      cases ys.get? k <;> simp

/-- and by their lengths. -/
theorem Json.pyEq_obj_iff {xs ys : Dict} :
    Json.pyEq (.obj xs) (.obj ys) = true ↔
      xs.length = ys.length ∧
        ∀ kv ∈ xs, ∃ y, ys.get? kv.1 = some y ∧ Json.pyEq kv.2 y = true := by
  rw [Json.pyEq, Bool.and_eq_true, decide_eq_true_eq, Json.pyEqDict_iff]

theorem Json.pyEq_arr (xs ys : List Json) :
    Json.pyEq (.arr xs) (.arr ys) = Json.pyEqList xs ys := by
  rw [Json.pyEq]

/-- Of two mappings that are `==`, the second has the keys of the first and no others. -/
theorem Json.perm_keys_of_pyEq {xs ys : Dict} (hx : xs.keys.Nodup)
    (h : Json.pyEq (.obj xs) (.obj ys) = true) : xs.keys.Perm ys.keys := by
  obtain ⟨hlen, hall⟩ := Json.pyEq_obj_iff.mp h
  have hsub : xs.keys ⊆ ys.keys := by
    intro k hk
    obtain ⟨kv, hkv, rfl⟩ := List.mem_map.mp hk
    obtain ⟨y, hy, -⟩ := hall kv hkv
    have hmem : (kv.1, y) ∈ ys := Dict.mem_of_get? hy
    exact List.mem_map.mpr ⟨_, hmem, rfl⟩
  refine (List.subperm_of_subset hx hsub).perm_of_length_le ?_
  simp [Dict.keys, hlen]

mutual
/-- **`==` is reflexive.** -/
theorem Json.pyEq_refl : ∀ a : Json, a.UniqueKeys → a.pyEq a = true
  | .arr xs, h => by
      rw [Json.pyEq_arr]
      exact Json.pyEqList_refl xs (Json.allList_iff.mp (Json.uniqueKeys_arr.mp h))
  | .obj xs, h => by
      obtain ⟨hkeys, hvalues⟩ := Dict.unique_iff.mp h
      refine Json.pyEq_obj_iff.mpr ⟨rfl, fun kv hkv => ?_⟩
      exact ⟨kv.2, Dict.get?_of_mem hkeys hkv, Json.pyEqDict_refl xs kv hkv (hvalues kv hkv)⟩
  | .null, _ => by simp [Json.pyEq]
  | .bool _, _ => by simp [Json.pyEq, Json.number?]
  | .int _, _ => by simp [Json.pyEq, Json.number?]
  | .flt _, _ => by simp [Json.pyEq, Json.number?]
  | .str _, _ => by simp [Json.pyEq]

/-- Equality is reflexive on lists, -/
theorem Json.pyEqList_refl : ∀ xs : List Json, (∀ x ∈ xs, x.UniqueKeys) →
    Json.pyEqList xs xs = true
  | [], _ => by simp [Json.pyEqList]
  | x :: xs, h => by
      rw [List.forall_mem_cons] at h
      rw [Json.pyEqList, Bool.and_eq_true]
      exact ⟨Json.pyEq_refl x h.1, Json.pyEqList_refl xs h.2⟩

/-- and on the values of a mapping. -/
theorem Json.pyEqDict_refl : ∀ xs : List (String × Json), ∀ kv ∈ xs, kv.2.UniqueKeys →
    kv.2.pyEq kv.2 = true
  | [], _, hkv, _ => by cases hkv
  | (_, x) :: xs, kv, hkv, h => by
      rcases List.mem_cons.mp hkv with rfl | hkv
      · exact Json.pyEq_refl x h
      · exact Json.pyEqDict_refl xs kv hkv h
end

mutual
/-- **`==` is symmetric.** -/
theorem Json.pyEq_symm : ∀ a b : Json, a.UniqueKeys → b.UniqueKeys → a.pyEq b = true →
    b.pyEq a = true
  | .arr xs, b, ha, hb, h => by
      cases b with
      | arr ys =>
          rw [Json.pyEq_arr] at h ⊢
          exact Json.pyEqList_symm xs ys (Json.allList_iff.mp (Json.uniqueKeys_arr.mp ha))
            (Json.allList_iff.mp (Json.uniqueKeys_arr.mp hb)) h
      | _ => simp [Json.pyEq, Json.number?] at h
  | .obj xs, b, ha, hb, h => by
      cases b with
      | obj ys =>
          obtain ⟨hxkeys, hxvalues⟩ := Dict.unique_iff.mp ha
          obtain ⟨hykeys, hyvalues⟩ := Dict.unique_iff.mp hb
          obtain ⟨hlen, hall⟩ := Json.pyEq_obj_iff.mp h
          refine Json.pyEq_obj_iff.mpr ⟨hlen.symm, fun kv hkv => ?_⟩
          -- The key is one of the first mapping's, with a value that is `==`.
          have hmem : kv.1 ∈ Dict.keys xs :=
            (Json.perm_keys_of_pyEq hxkeys h).mem_iff.mpr (List.mem_map_of_mem hkv)
          obtain ⟨⟨k, x⟩, hx, hk⟩ := List.mem_map.mp hmem
          obtain ⟨y, hy, heq⟩ := hall (k, x) hx
          have hk' : k = kv.1 := hk
          subst hk'
          obtain rfl : kv.2 = y := Option.some.inj ((Dict.get?_of_mem hykeys hkv).symm.trans hy)
          exact ⟨x, Dict.get?_of_mem hxkeys hx,
            Json.pyEqDict_symm xs (kv.1, x) hx kv.2 (hxvalues _ hx) (hyvalues _ hkv) heq⟩
      | _ => simp [Json.pyEq, Json.number?] at h
  | .null, b, _, _, h => by cases b <;> simp_all [Json.pyEq, Json.number?]
  | .bool _, b, _, _, h => by cases b <;> simp_all [Json.pyEq, Json.number?]
  | .int _, b, _, _, h => by cases b <;> simp_all [Json.pyEq, Json.number?]
  | .flt _, b, _, _, h => by cases b <;> simp_all [Json.pyEq, Json.number?]
  | .str _, b, _, _, h => by cases b <;> simp_all [Json.pyEq, Json.number?]

/-- It is symmetric on lists, -/
theorem Json.pyEqList_symm : ∀ xs ys : List Json, (∀ x ∈ xs, x.UniqueKeys) →
    (∀ y ∈ ys, y.UniqueKeys) → Json.pyEqList xs ys = true → Json.pyEqList ys xs = true
  | [], ys, _, _, h => by
      cases ys with
      | nil => rfl
      | cons y ys => simp [Json.pyEqList] at h
  | x :: xs, ys, hx, hy, h => by
      cases ys with
      | nil => simp [Json.pyEqList] at h
      | cons y ys =>
          rw [Json.pyEqList, Bool.and_eq_true] at h ⊢
          rw [List.forall_mem_cons] at hx hy
          exact ⟨Json.pyEq_symm x y hx.1 hy.1 h.1, Json.pyEqList_symm xs ys hx.2 hy.2 h.2⟩

/-- and on the values of a mapping. -/
theorem Json.pyEqDict_symm : ∀ xs : List (String × Json), ∀ kv ∈ xs, ∀ y : Json,
    kv.2.UniqueKeys → y.UniqueKeys → kv.2.pyEq y = true → y.pyEq kv.2 = true
  | [], _, hkv, _, _, _, _ => by cases hkv
  | (_, x) :: xs, kv, hkv, y, hx, hy, h => by
      rcases List.mem_cons.mp hkv with rfl | hkv
      · exact Json.pyEq_symm x y hx hy h
      · exact Json.pyEqDict_symm xs kv hkv y hx hy h
end

mutual
/-- **`==` is transitive.** -/
theorem Json.pyEq_trans : ∀ a b c : Json, a.pyEq b = true → b.pyEq c = true → a.pyEq c = true
  | .arr xs, b, c, hab, hbc => by
      cases b with
      | arr ys =>
          cases c with
          | arr zs =>
              rw [Json.pyEq_arr] at hab hbc ⊢
              exact Json.pyEqList_trans xs ys zs hab hbc
          | _ => simp [Json.pyEq, Json.number?] at hbc
      | _ => simp [Json.pyEq, Json.number?] at hab
  | .obj xs, b, c, hab, hbc => by
      cases b with
      | obj ys =>
          cases c with
          | obj zs =>
              obtain ⟨hlen, hall⟩ := Json.pyEq_obj_iff.mp hab
              obtain ⟨hlen', hall'⟩ := Json.pyEq_obj_iff.mp hbc
              -- A member of the first is looked up in the second, and what is found in the third.
              refine Json.pyEq_obj_iff.mpr ⟨hlen.trans hlen', fun kv hkv => ?_⟩
              obtain ⟨y, hy, hxy⟩ := hall kv hkv
              obtain ⟨z, hz, hyz⟩ := hall' _ (Dict.mem_of_get? hy)
              exact ⟨z, hz, Json.pyEqDict_trans xs kv hkv y z hxy hyz⟩
          | _ => simp [Json.pyEq, Json.number?] at hbc
      | _ => simp [Json.pyEq, Json.number?] at hab
  | .null, b, c, hab, hbc => by cases b <;> cases c <;> simp_all [Json.pyEq, Json.number?]
  | .bool _, b, c, hab, hbc => by cases b <;> cases c <;> simp_all [Json.pyEq, Json.number?]
  | .int _, b, c, hab, hbc => by cases b <;> cases c <;> simp_all [Json.pyEq, Json.number?]
  | .flt _, b, c, hab, hbc => by cases b <;> cases c <;> simp_all [Json.pyEq, Json.number?]
  | .str _, b, c, hab, hbc => by cases b <;> cases c <;> simp_all [Json.pyEq, Json.number?]

/-- It is transitive on lists, -/
theorem Json.pyEqList_trans : ∀ xs ys zs : List Json, Json.pyEqList xs ys = true →
    Json.pyEqList ys zs = true → Json.pyEqList xs zs = true
  | [], ys, zs, hxy, hyz => by
      cases ys with
      | nil => exact hyz
      | cons y ys => simp [Json.pyEqList] at hxy
  | x :: xs, ys, zs, hxy, hyz => by
      cases ys with
      | nil => simp [Json.pyEqList] at hxy
      | cons y ys =>
          cases zs with
          | nil => simp [Json.pyEqList] at hyz
          | cons z zs =>
              rw [Json.pyEqList, Bool.and_eq_true] at hxy hyz ⊢
              exact ⟨Json.pyEq_trans x y z hxy.1 hyz.1, Json.pyEqList_trans xs ys zs hxy.2 hyz.2⟩

/-- and on the values of a mapping. -/
theorem Json.pyEqDict_trans : ∀ xs : List (String × Json), ∀ kv ∈ xs, ∀ y z : Json,
    kv.2.pyEq y = true → y.pyEq z = true → kv.2.pyEq z = true
  | [], _, hkv, _, _, _, _ => by cases hkv
  | (_, x) :: xs, kv, hkv, y, z, hxy, hyz => by
      rcases List.mem_cons.mp hkv with rfl | hkv
      · exact Json.pyEq_trans x y z hxy hyz
      · exact Json.pyEqDict_trans xs kv hkv y z hxy hyz
end

/-! ## §4. Mappings that agree. -/

namespace Dict

/-- Two mappings have the same values at the keys that both of them have. -/
def AgreeOn (ks : List String) (d e : Dict) : Prop :=
  ∀ k ∈ ks, ∀ v w, d.get? k = some v → e.get? k = some w → v.pyEq w = true

/-- Two mappings have the same keys of these, with the same values. -/
def SameOn (ks : List String) (d e : Dict) : Prop :=
  ∀ k ∈ ks, Option.Rel (fun v w => v.pyEq w = true) (d.get? k) (e.get? k)

variable {ks : List String} {d e acc acc' : Dict} {seen seen' : List Dict} {k : String} {v w : Json}

/-- Agreement is symmetric. -/
theorem AgreeOn.symm (hd : d.Unique) (he : e.Unique) (h : AgreeOn ks d e) : AgreeOn ks e d :=
  fun k hk v w hv hw => Json.pyEq_symm w v (hd.value hw) (he.value hv) (h k hk w v hw hv)

/-- Agreement of every two mappings does not depend on their order. -/
theorem pairwise_agreeOn_perm (h : seen.Perm seen') (hseen : ∀ s ∈ seen, Unique s)
    (hagree : seen.Pairwise (AgreeOn ks)) : seen'.Pairwise (AgreeOn ks) := by
  have hsymm : ∀ {d e : Dict}, (d.Unique → e.Unique → AgreeOn ks d e) →
      e.Unique → d.Unique → AgreeOn ks e d :=
    fun hde he hd => (hde hd he).symm hd he
  have hseen' : ∀ s ∈ seen', Unique s := fun s hs => hseen s (h.mem_iff.mpr hs)
  -- The relation is symmetric only between mappings with unique keys.
  have hguarded : seen.Pairwise fun d e => d.Unique → e.Unique → AgreeOn ks d e :=
    hagree.imp fun hde _ _ => hde
  exact (h.pairwise hguarded hsymm).imp_of_mem fun hd he hde => hde (hseen' _ hd) (hseen' _ he)

/-- The mapping holds, at these keys, what all of the mappings have. -/
structure Gathers (ks : List String) (seen : List Dict) (acc : Dict) : Prop where
  covers : ∀ k ∈ ks, ∀ s ∈ seen, ∀ v, s.get? k = some v →
    ∃ w, acc.get? k = some w ∧ v.pyEq w = true
  drawn : ∀ k w, acc.get? k = some w → ∃ s ∈ seen, s.get? k = some w

/-- From nothing nothing is gathered. -/
theorem gathers_nil (ks : List String) : Gathers ks [] [] where
  covers _ _ s hs := by cases hs
  drawn _ _ hw := by cases hw

/-- A mapping agrees with what was gathered exactly when it agrees with each of them. -/
theorem Gathers.agreeOn_iff (h : Gathers ks seen acc) :
    AgreeOn ks acc e ↔ ∀ s ∈ seen, AgreeOn ks s e := by
  constructor
  · intro hacc s hs k hk v u hv hu
    obtain ⟨w, hw, hvw⟩ := h.covers k hk s hs v hv
    exact Json.pyEq_trans v w u hvw (hacc k hk w u hw hu)
  · intro hseen k hk w u hw hu
    obtain ⟨s, hs, hsw⟩ := h.drawn k w hw
    exact hseen s hs k hk w u hsw hu

/-- One more mapping, which agrees. -/
theorem Gathers.update (h : Gathers ks seen acc) (he : e.Unique) (hagree : AgreeOn ks acc e) :
    Gathers ks (seen ++ [e]) (acc.update e) where
  covers k hk s hs v hv := by
    rw [get?_update (unique_iff.mp he).1]
    rcases List.mem_append.mp hs with hs | hs
    · -- A value from before is `==` to the gathered one, and that to the new one.
      obtain ⟨w, hw, hvw⟩ := h.covers k hk s hs v hv
      cases hu : e.get? k with
      | none => exact ⟨w, hw, hvw⟩
      | some u => exact ⟨u, rfl, Json.pyEq_trans v w u hvw (hagree k hk w u hw hu)⟩
    · obtain rfl := List.mem_singleton.mp hs
      rw [hv]
      exact ⟨v, rfl, Json.pyEq_refl v (he.value hv)⟩
  drawn k w hw := by
    rw [get?_update (unique_iff.mp he).1] at hw
    cases hu : e.get? k with
    | none =>
        rw [hu] at hw
        obtain ⟨s, hs, hsw⟩ := h.drawn k w hw
        exact ⟨s, List.mem_append_left _ hs, hsw⟩
    | some u =>
        rw [hu] at hw
        obtain rfl : u = w := Option.some.inj hw
        exact ⟨e, List.mem_append_right _ (List.mem_singleton_self e), hu⟩

/-- What is gathered does not depend on the order. -/
theorem Gathers.sameOn (h : Gathers ks seen acc) (h' : Gathers ks seen' acc')
    (hmem : ∀ s, s ∈ seen ↔ s ∈ seen') : SameOn ks acc acc' := by
  intro k hk
  cases hw : acc.get? k with
  | some w =>
      obtain ⟨s, hs, hsw⟩ := h.drawn k w hw
      obtain ⟨w', hw', hww'⟩ := h'.covers k hk s ((hmem s).mp hs) w hsw
      rw [hw']
      exact .some hww'
  | none =>
      cases hw' : acc'.get? k with
      | none => exact .none
      | some w' =>
          -- What the second holds comes from a mapping that the first covers.
          obtain ⟨s, hs, hsw⟩ := h'.drawn k w' hw'
          obtain ⟨w, hw'', -⟩ := h.covers k hk s ((hmem s).mpr hs) w' hsw
          rw [hw] at hw''
          cases hw''

end Dict

end Py
