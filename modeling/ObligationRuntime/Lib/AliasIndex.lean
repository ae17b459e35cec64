/-
  ObligationRuntime.Lib.AliasIndex — records found by a key of their own, or by an alias.

  A record has a key of its own and may have an alias.  The live records are a list, the
  most recent first; a record that is put takes the place of the one with its own key.
  An index answers for each key with one record.  It is kept by writing a record under
  both its keys and by removing, with a record, the alias the record has.

  Nothing in an index says when an alias is left over, or shared.  `Careful` is the
  condition on a put under which neither happens.

  Main results:
    * `Sound.place`, `Sound.remove` — no two live records share a key,
    * `Indexes.put`, `Indexes.remove` — the index finds exactly the live records,
    * `careful_of_agree` — an index that goes on finding them had a careful put.
-/
import Mathlib.Data.List.Basic
import Mathlib.Data.Option.Basic

namespace AliasIndex

/-! ## §1. Records and their keys. -/

/-- The key of a record, and its alias. -/
structure Keys (K R : Type) where
  own : R → K
  aliasOf : R → Option K

section

variable {K R : Type} [DecidableEq K] (κ : Keys K R)

/-- The record is found by this key. -/
def Keys.Has (r : R) (k : K) : Prop := κ.own r = k ∨ κ.aliasOf r = some k

instance (r : R) (k : K) : Decidable (κ.Has r k) :=
  inferInstanceAs (Decidable (κ.own r = k ∨ κ.aliasOf r = some k))

/-- The live records without the one of this key. -/
def remove (live : List R) (k : K) : List R := live.filter fun r => κ.own r ≠ k

/-- The live records with this one, in the place of the one with its key. -/
def place (live : List R) (r : R) : List R := r :: remove κ live (κ.own r)

/-- The most recent record with this key. -/
def latest (live : List R) (k : K) : Option R := live.find? fun r => κ.Has r k

/-- The index with a record under both its keys. -/
def putIndex (f : K → Option R) (r : R) (k : K) : Option R := if κ.Has r k then some r else f k

/-- The index without a key, and without the alias of the record it finds there. -/
def removeIndex (f : K → Option R) (k k' : K) : Option R :=
  if k' = k ∨ (f k).bind κ.aliasOf = some k' then none else f k'

/-- **A careful put**: the record takes no alias that another live record has, and it does
not give up an alias that its own key has. -/
def Careful (live : List R) (r : R) : Prop :=
  (∀ l ∈ live, κ.own l ≠ κ.own r → κ.aliasOf r = none ∨ κ.aliasOf l ≠ κ.aliasOf r) ∧
    ∀ l ∈ live, κ.own l = κ.own r → κ.aliasOf l = none ∨ κ.aliasOf l = κ.aliasOf r

instance (live : List R) (r : R) : Decidable (Careful κ live r) :=
  inferInstanceAs (Decidable (_ ∧ _))

/-! ## §2. Live records. -/

/-- No two of the records share a key; `S` and `T` tell own keys from aliases. -/
structure Sound (S T : K → Prop) (live : List R) : Prop where
  own_typed : ∀ l ∈ live, S (κ.own l)
  alias_typed : ∀ l ∈ live, ∀ t, κ.aliasOf l = some t → T t
  own_unique : ∀ l ∈ live, ∀ l' ∈ live, κ.own l = κ.own l' → l = l'
  alias_unique : ∀ l ∈ live, ∀ l' ∈ live, ∀ t, κ.aliasOf l = some t → κ.aliasOf l' = some t → l = l'

/-- The index finds the live records, and nothing else. -/
def Indexes (f : K → Option R) (live : List R) : Prop :=
  ∀ k r, f k = some r ↔ r ∈ live ∧ κ.Has r k

variable {κ} {S T : K → Prop} {live : List R} {f : K → Option R}

/-- What is live after a removal, -/
theorem mem_remove {r : R} {k : K} : r ∈ remove κ live k ↔ r ∈ live ∧ κ.own r ≠ k := by
  simp [remove]

/-- and after a put. -/
theorem mem_place {r x : R} :
    x ∈ place κ live r ↔ x = r ∨ x ∈ live ∧ κ.own x ≠ κ.own r := by
  rw [place, List.mem_cons, mem_remove]

omit [DecidableEq K] in
/-- Without records nothing is shared. -/
theorem sound_nil : Sound κ S T ([] : List R) := by
  constructor <;> intro l hl <;> cases hl

omit [DecidableEq K] in
/-- The empty index finds what is live: nothing. -/
theorem indexes_nil : Indexes κ (fun _ => none) ([] : List R) := by
  intro k r
  simp

omit [DecidableEq K] in
/-- An own key is no record's alias. -/
theorem Sound.own_ne_alias (h : Sound κ S T live) (hdisj : ∀ k, S k → ¬ T k) {l : R} {k : K}
    (hl : l ∈ live) (hk : S k) : κ.aliasOf l ≠ some k := by
  intro halias
  exact hdisj k hk (h.alias_typed l hl k halias)

omit [DecidableEq K] in
/-- An alias is no record's own key. -/
theorem Sound.alias_ne_own (h : Sound κ S T live) (hdisj : ∀ k, S k → ¬ T k) {l : R} {t : K}
    (hl : l ∈ live) (ht : T t) : κ.own l ≠ t := by
  rintro rfl
  exact hdisj _ (h.own_typed l hl) ht

omit [DecidableEq K] in
/-- No two live records are found by one key. -/
theorem Sound.unique (h : Sound κ S T live) (hdisj : ∀ k, S k → ¬ T k) {l l' : R} {k : K}
    (hl : l ∈ live) (hl' : l' ∈ live) (hk : κ.Has l k) (hk' : κ.Has l' k) : l = l' := by
  rcases hk with hown | halias
  · subst hown
    rcases hk' with hown' | halias'
    · exact h.own_unique l hl l' hl' hown'.symm
    · exact absurd halias' (h.own_ne_alias hdisj hl' (h.own_typed l hl))
  · rcases hk' with hown' | halias'
    · exact absurd hown' (h.alias_ne_own hdisj hl' (h.alias_typed l hl k halias))
    · exact h.alias_unique l hl l' hl' k halias halias'

/-- **The most recent record** with a key is the only one. -/
theorem Sound.latest_iff (h : Sound κ S T live) (hdisj : ∀ k, S k → ¬ T k) (k : K) (r : R) :
    latest κ live k = some r ↔ r ∈ live ∧ κ.Has r k := by
  constructor
  · intro hr
    exact ⟨List.mem_of_find?_eq_some hr, by simpa using List.find?_some hr⟩
  · rintro ⟨hmem, hhas⟩
    cases hfound : latest κ live k with
    | none => exact absurd hhas (by simpa using List.find?_eq_none.mp hfound r hmem)
    | some l =>
        have hl : l ∈ live := List.mem_of_find?_eq_some hfound
        have hk : κ.Has l k := by simpa using List.find?_some hfound
        rw [h.unique hdisj hl hmem hk hhas]

/-- The index finds what is most recent. -/
theorem Indexes.eq_latest (hf : Indexes κ f live) (h : Sound κ S T live)
    (hdisj : ∀ k, S k → ¬ T k) (k : K) : f k = latest κ live k := by
  apply Option.ext
  intro r
  show f k = some r ↔ latest κ live k = some r
  rw [hf k r, h.latest_iff hdisj k r]

/-! ## §3. What a put and a removal keep. -/

/-- A removal shares no key. -/
theorem Sound.remove (h : Sound κ S T live) (k : K) : Sound κ S T (remove κ live k) where
  own_typed l hl := h.own_typed l (mem_remove.mp hl).1
  alias_typed l hl := h.alias_typed l (mem_remove.mp hl).1
  own_unique l hl l' hl' := h.own_unique l (mem_remove.mp hl).1 l' (mem_remove.mp hl').1
  alias_unique l hl l' hl' := h.alias_unique l (mem_remove.mp hl).1 l' (mem_remove.mp hl').1

/-- **A careful put keeps the keys apart.** -/
theorem Sound.place (h : Sound κ S T live) {r : R} (hown : S (κ.own r))
    (halias : ∀ t, κ.aliasOf r = some t → T t) (hcareful : Careful κ live r) :
    Sound κ S T (place κ live r) where
  own_typed l hl := by
    rcases mem_place.mp hl with rfl | ⟨hmem, -⟩
    · exact hown
    · exact h.own_typed l hmem
  alias_typed l hl := by
    rcases mem_place.mp hl with rfl | ⟨hmem, -⟩
    · exact halias
    · exact h.alias_typed l hmem
  own_unique l hl l' hl' heq := by
    rcases mem_place.mp hl with rfl | ⟨hmem, hne⟩ <;>
      rcases mem_place.mp hl' with rfl | ⟨hmem', hne'⟩
    · rfl
    · exact absurd heq.symm hne'
    · exact absurd heq hne
    · exact h.own_unique l hmem l' hmem' heq
  alias_unique l hl l' hl' t ht ht' := by
    rcases mem_place.mp hl with rfl | ⟨hmem, hne⟩ <;>
      rcases mem_place.mp hl' with rfl | ⟨hmem', hne'⟩
    · rfl
    · -- The record that stays had the alias already, which a careful put rules out.
      rcases hcareful.1 l' hmem' hne' with hnone | hother
      · rw [hnone] at ht
        cases ht
      · exact absurd (ht'.trans ht.symm) hother
    · rcases hcareful.1 l hmem hne with hnone | hother
      · rw [hnone] at ht'
        cases ht'
      · exact absurd (ht.trans ht'.symm) hother
    · exact h.alias_unique l hmem l' hmem' t ht ht'

/-- **The index finds the live records** after a careful put. -/
theorem Indexes.put (hf : Indexes κ f live) (h : Sound κ S T live) (hdisj : ∀ k, S k → ¬ T k)
    {r : R} (hown : S (κ.own r)) (halias : ∀ t, κ.aliasOf r = some t → T t)
    (hcareful : Careful κ live r) : Indexes κ (putIndex κ f r) (AliasIndex.place κ live r) := by
  intro k x
  unfold putIndex
  rw [mem_place]
  by_cases hk : κ.Has r k
  · rw [if_pos hk]
    constructor
    · intro hx
      cases hx
      exact ⟨.inl rfl, hk⟩
    · rintro ⟨rfl | ⟨hmem, hne⟩, hx⟩
      · rfl
      · -- Another record with a key of this one shares its alias.
        exfalso
        rcases hk with hr | hr <;> rcases hx with hl | hl
        · exact hne (hl.trans hr.symm)
        · exact h.own_ne_alias hdisj hmem (hr ▸ hown) hl
        · exact h.alias_ne_own hdisj hmem (halias k hr) hl
        · rcases hcareful.1 x hmem hne with hnone | hother
          · rw [hnone] at hr
            cases hr
          · exact hother (hl.trans hr.symm)
  · rw [if_neg hk, hf k x]
    constructor
    · rintro ⟨hmem, hx⟩
      refine ⟨.inr ⟨hmem, fun hsame => ?_⟩, hx⟩
      -- The record of the same key has no key that this one has not.
      rcases hx with hl | hl
      · exact hk (.inl (hsame ▸ hl))
      · rcases hcareful.2 x hmem hsame with hnone | heq
        · rw [hnone] at hl
          cases hl
        · exact hk (.inr (heq ▸ hl))
    · rintro ⟨rfl | ⟨hmem, -⟩, hx⟩
      · exact absurd hx hk
      · exact ⟨hmem, hx⟩

/-- **The index finds the live records** after a removal. -/
theorem Indexes.remove (hf : Indexes κ f live) (h : Sound κ S T live) (hdisj : ∀ k, S k → ¬ T k)
    {k : K} (hk : S k) : Indexes κ (removeIndex κ f k) (AliasIndex.remove κ live k) := by
  intro k' x
  unfold removeIndex
  rw [mem_remove]
  split
  next hgone =>
    constructor
    · intro hx
      cases hx
    · rintro ⟨⟨hmem, hne⟩, hx⟩
      exfalso
      rcases hgone with rfl | halias
      · rcases hx with hl | hl
        · exact hne hl
        · exact h.own_ne_alias hdisj hmem hk hl
      · -- The alias is that of the record removed: no other has it.
        obtain ⟨l, hl, ht⟩ := Option.bind_eq_some_iff.mp halias
        obtain ⟨hlive, hhas⟩ := (hf k l).mp hl
        rcases hx with hx | hx
        · exact h.alias_ne_own hdisj hmem (h.alias_typed l hlive k' ht) hx
        · obtain rfl := h.alias_unique x hmem l hlive k' hx ht
          rcases hhas with hhas | hhas
          · exact hne hhas
          · exact h.own_ne_alias hdisj hmem hk hhas
  next hkept =>
    rw [not_or] at hkept
    rw [hf k' x]
    constructor
    · rintro ⟨hmem, hx⟩
      refine ⟨⟨hmem, fun hown => ?_⟩, hx⟩
      rcases hx with hl | hl
      · exact hkept.1 (hl.symm.trans hown)
      · have hfound : f k = some x := (hf k x).mpr ⟨hmem, .inl hown⟩
        exact hkept.2 (by rw [hfound]; exact hl)
    · rintro ⟨⟨hmem, -⟩, hx⟩
      exact ⟨hmem, hx⟩

/-! ## §4. What goes wrong otherwise. -/

/-- **Only a careful put** leaves the index, and each live record, with the most recent
record at every alias. -/
theorem careful_of_agree (hf : Indexes κ f live) (h : Sound κ S T live)
    (hdisj : ∀ k, S k → ¬ T k) {r : R} (hown : S (κ.own r))
    (halias : ∀ t, κ.aliasOf r = some t → T t)
    (hindex : ∀ t, T t →
      (putIndex κ f r t).map κ.own = (latest κ (AliasIndex.place κ live r) t).map κ.own)
    (htable : ∀ x ∈ AliasIndex.place κ live r, ∀ t, T t → κ.Has x t →
      some (κ.own x) = (latest κ (AliasIndex.place κ live r) t).map κ.own) :
    Careful κ live r := by
  constructor
  · intro l hl hne
    by_contra hshared
    rw [not_or, not_not] at hshared
    obtain ⟨hsome, hsame⟩ := hshared
    obtain ⟨t, ht⟩ := Option.ne_none_iff_exists'.mp hsome
    -- The new record is the most recent with the alias, and the other one has it too.
    have hfirst : latest κ (AliasIndex.place κ live r) t = some r :=
      List.find?_cons_of_pos (by simp [Keys.Has, ht])
    have hother := htable l (mem_place.mpr (.inr ⟨hl, hne⟩)) t (halias t ht)
      (.inr (hsame.trans ht))
    rw [hfirst] at hother
    exact hne (Option.some.inj hother)
  · intro l hl hsame
    by_contra hleft
    rw [not_or] at hleft
    obtain ⟨hsome, hne⟩ := hleft
    obtain ⟨t, ht⟩ := Option.ne_none_iff_exists'.mp hsome
    have hT : T t := h.alias_typed l hl t ht
    -- The index still has the old record at the alias, which no live record has.
    have hr : ¬ κ.Has r t := by
      rintro (hr | hr)
      · exact hdisj t (hr ▸ hown) hT
      · exact hne (ht.trans hr.symm)
    have hindexed : putIndex κ f r t = some l := by
      rw [putIndex, if_neg hr]
      exact (hf t l).mpr ⟨hl, .inr ht⟩
    have hnone : latest κ (AliasIndex.place κ live r) t = none := by
      refine List.find?_eq_none.mpr fun x hx => ?_
      rw [decide_eq_true_eq]
      rcases mem_place.mp hx with rfl | ⟨hmem, hother⟩
      · exact hr
      · rintro (hx | hx)
        · exact h.alias_ne_own hdisj hmem hT hx
        · obtain rfl := h.alias_unique x hmem l hl t hx ht
          exact hother hsame
    have hbad := hindex t hT
    rw [hindexed, hnone] at hbad
    cases hbad

end

end AliasIndex
