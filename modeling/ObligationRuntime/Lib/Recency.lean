/-
  ObligationRuntime.Lib.Recency — caches whose entries carry the time of their last use.

  A cache is a mapping in the order in which its keys came.  A history says which keys
  were used, and when; a cache tracks it when each entry has the time its key was last
  used at.  Then the entry of the least time is the one that was used least recently,
  where no two uses have one time.

  Main results:
    * `Tracks.use` — what keeps a cache on its history,
    * `Tracks.oldest` — the oldest entry is the least recently used one.
-/
import Mathlib.Data.List.MinMax
import Mathlib.Data.List.Nodup

namespace Recency

/-! ## §1. Caches. -/

/-- An entry, with the time of its last use. -/
structure Entry (K V T : Type) where
  key : K
  value : V
  used : T
  deriving DecidableEq, Repr

section

variable {K V T : Type} [DecidableEq K]

/-- The entry of a key. -/
def find (c : List (Entry K V T)) (k : K) : Option (Entry K V T) :=
  c.find? fun e => decide (e.key = k)

/-- `c.pop(k, None)`. -/
def pop (c : List (Entry K V T)) (k : K) : List (Entry K V T) :=
  c.filter fun e => decide (e.key ≠ k)

/-- `c[k] = ..`: an entry that is there keeps its place. -/
def store (c : List (Entry K V T)) (e : Entry K V T) : List (Entry K V T) :=
  if (find c e.key).isSome then c.map fun e' => if e'.key = e.key then e else e' else c ++ [e]

/-- The keys, in order. -/
def keys (c : List (Entry K V T)) : List K := c.map Entry.key

variable {c : List (Entry K V T)} {k : K} {e e' : Entry K V T}

/-- What is found is an entry of the key, -/
theorem find_some (h : find c k = some e) : e ∈ c ∧ e.key = k := by
  refine ⟨List.mem_of_find?_eq_some h, ?_⟩
  simpa using List.find?_some h

/-- and nothing is found where there is none. -/
theorem find_none (h : find c k = none) : ∀ e ∈ c, e.key ≠ k := by
  intro e he
  simpa using List.find?_eq_none.mp h e he

omit [DecidableEq K] in
/-- The entry of a key is the only one, where keys are unique. -/
theorem eq_of_key (hkeys : (keys c).Nodup) (he : e ∈ c) (he' : e' ∈ c) (hkey : e.key = e'.key) :
    e = e' :=
  List.inj_on_of_nodup_map hkeys he he' hkey

/-- So it is the one that is found. -/
theorem find_of_mem (hkeys : (keys c).Nodup) (he : e ∈ c) : find c e.key = some e := by
  cases hfind : find c e.key with
  | none => exact absurd rfl (find_none hfind e he)
  | some e' =>
      obtain ⟨he', hkey⟩ := find_some hfind
      rw [eq_of_key hkeys he' he hkey]

/-- The entries after a removal. -/
@[simp] theorem mem_pop : e ∈ pop c k ↔ e ∈ c ∧ e.key ≠ k := by
  simp [pop]

/-- A key that is not there is not popped. -/
theorem pop_of_find_none (h : find c k = none) : pop c k = c := by
  unfold pop
  rw [List.filter_eq_self]
  intro e he
  simpa using find_none h e he

/-- A removal keeps the keys apart, -/
theorem nodup_pop (h : (keys c).Nodup) (k : K) : (keys (pop c k)).Nodup :=
  h.sublist (List.filter_sublist.map _)

/-- and adds nothing. -/
theorem length_pop_le (c : List (Entry K V T)) (k : K) : (pop c k).length ≤ c.length :=
  List.length_filter_le ..

/-- An entry that goes leaves one entry less, or fewer. -/
theorem length_pop_lt (h : e ∈ c) : (pop c e.key).length < c.length :=
  List.length_filter_lt_length_iff_exists.mpr ⟨e, h, by simp⟩

/-- An entry that is there keeps its place, -/
theorem keys_store_of_find (h : (find c e.key).isSome = true) : keys (store c e) = keys c := by
  unfold store keys
  rw [if_pos h, List.map_map]
  refine List.map_congr_left fun e' _ => ?_
  by_cases hkey : e'.key = e.key
  · simp [hkey]
  · simp [hkey]

/-- and a new one goes last. -/
theorem keys_store_of_none (h : find c e.key = none) : keys (store c e) = keys c ++ [e.key] := by
  unfold store keys
  rw [h]
  simp

/-- The entries after a store. -/
theorem mem_store : e' ∈ store c e ↔ e' = e ∨ e' ∈ c ∧ e'.key ≠ e.key := by
  cases h : find c e.key with
  | none =>
      have hnew := find_none h
      rw [store, h]
      simp only [Option.isSome_none, Bool.false_eq_true, if_false, List.mem_append,
        List.mem_singleton]
      constructor
      · rintro (hmem | rfl)
        · exact .inr ⟨hmem, hnew e' hmem⟩
        · exact .inl rfl
      · rintro (rfl | ⟨hmem, -⟩)
        · exact .inr rfl
        · exact .inl hmem
  | some found =>
      obtain ⟨hfound, hkey⟩ := find_some h
      rw [store, h]
      simp only [Option.isSome_some, if_true, List.mem_map]
      constructor
      · -- An entry with the key is replaced where it stands.
        rintro ⟨x, hx, rfl⟩
        by_cases hxk : x.key = e.key
        · exact .inl (if_pos hxk)
        · rw [if_neg hxk]
          exact .inr ⟨hx, hxk⟩
      · rintro (rfl | ⟨hmem, hne⟩)
        · exact ⟨found, hfound, if_pos hkey⟩
        · exact ⟨e', hmem, if_neg hne⟩

/-- A store keeps the keys apart. -/
theorem nodup_store (h : (keys c).Nodup) (e : Entry K V T) : (keys (store c e)).Nodup := by
  cases hfind : find c e.key with
  | none =>
      rw [keys_store_of_none hfind]
      refine List.nodup_append.mpr ⟨h, List.nodup_singleton _, ?_⟩
      intro a ha b hb
      obtain ⟨x, hx, rfl⟩ := List.mem_map.mp ha
      rw [List.mem_singleton.mp hb]
      exact find_none hfind x hx
  | some found =>
      rw [keys_store_of_find (by rw [hfind]; rfl)]
      exact h

/-- It adds nothing where the key is there, -/
theorem length_store_of_find (h : (find c e.key).isSome = true) :
    (store c e).length = c.length := by
  unfold store
  rw [if_pos h, List.length_map]

/-- An entry that is there is stored in its place. -/
theorem length_store_mem (hkeys : (keys c).Nodup) (he : e' ∈ c) (hkey : e'.key = e.key) :
    (store c e).length = c.length := by
  refine length_store_of_find ?_
  rw [← hkey, find_of_mem hkeys he]
  rfl

/-- and else one entry. -/
theorem length_store_le (c : List (Entry K V T)) (e : Entry K V T) :
    (store c e).length ≤ c.length + 1 := by
  unfold store
  split
  · rw [List.length_map]
    omega
  · simp

end

/-! ## §2. Histories. -/

section

variable {K V T : Type} [DecidableEq K]

/-- When a key was last used. -/
def lastUse (h : List (K × T)) (k : K) : Option T :=
  (h.reverse.find? fun u => decide (u.1 = k)).map Prod.snd

/-- The first key was last used before the second. -/
def LessRecent [LT T] (h : List (K × T)) (k k' : K) : Prop :=
  ∃ t t', lastUse h k = some t ∧ lastUse h k' = some t' ∧ t < t'

/-- **The cache tracks the history**: each entry has the time of its key's last use. -/
def Tracks (h : List (K × T)) (c : List (Entry K V T)) : Prop :=
  ∀ e ∈ c, lastUse h e.key = some e.used

variable {h : List (K × T)} {c : List (Entry K V T)} {k k' : K} {t : T}

/-- The last use is the latest of the key, -/
theorem lastUse_self : lastUse (h ++ [(k, t)]) k = some t := by
  simp [lastUse]

/-- whatever happens to other keys. -/
theorem lastUse_other (hne : k' ≠ k) : lastUse (h ++ [(k, t)]) k' = lastUse h k' := by
  simp [lastUse, hne.symm]

/-- It is a use. -/
theorem mem_of_lastUse (hk : lastUse h k = some t) : (k, t) ∈ h := by
  obtain ⟨u, hu, rfl⟩ := Option.map_eq_some_iff.mp hk
  have hkey : u.1 = k := by simpa using List.find?_some hu
  rw [← hkey]
  exact List.mem_reverse.mp (List.mem_of_find?_eq_some hu)

/-- Keys that were last used at one time are one key. -/
theorem lastUse_inj (htimes : (h.map Prod.snd).Nodup) (hk : lastUse h k = some t)
    (hk' : lastUse h k' = some t) : k = k' := by
  have hpair : (k, t) = (k', t) :=
    List.inj_on_of_nodup_map htimes (mem_of_lastUse hk) (mem_of_lastUse hk') rfl
  exact (Prod.mk.inj hpair).1

/-- **A use of a key**: its entry goes, or is stored with the time of the use, and others
stay or go. -/
theorem Tracks.use {c' : List (Entry K V T)} (hc : Tracks h c)
    (hsub : ∀ e ∈ c', e.key = k ∧ e.used = t ∨ e.key ≠ k ∧ e ∈ c) :
    Tracks (h ++ [(k, t)]) c' := by
  intro e he
  rcases hsub e he with ⟨rfl, rfl⟩ | ⟨hne, hmem⟩
  · exact lastUse_self
  · rw [lastUse_other hne]
    exact hc e hmem

end

/-! ## §3. The oldest entry. -/

section

variable {K V T : Type} [LinearOrder T] {c : List (Entry K V T)}

/-- `min(c, key=..)`: the first entry of the least time. -/
def oldest (c : List (Entry K V T)) : Option (Entry K V T) := c.argmin Entry.used

/-- The oldest entry is one, -/
theorem oldest_mem {e : Entry K V T} (he : oldest c = some e) : e ∈ c := List.argmin_mem he

/-- none is older, -/
theorem oldest_le {e e' : Entry K V T} (he : oldest c = some e) (he' : e' ∈ c) :
    e.used ≤ e'.used := List.le_of_mem_argmin he' he

/-- and there is one where there is any. -/
theorem oldest_isSome (hc : c ≠ []) : ∃ e, oldest c = some e := by
  cases h : oldest c with
  | some e => exact ⟨e, rfl⟩
  | none => exact absurd (List.argmin_eq_none.mp h) hc

/-- **The oldest entry is the least recently used**, where no two uses have one time. -/
theorem Tracks.oldest [DecidableEq K] {h : List (K × T)} {e e' : Entry K V T}
    (hc : Tracks h c) (htimes : (h.map Prod.snd).Nodup) (he : oldest c = some e) (he' : e' ∈ c) (hne : e'.key ≠ e.key) :
    LessRecent h e.key e'.key := by
  have hold := hc e (oldest_mem he)
  have hnew := hc e' he'
  refine ⟨e.used, e'.used, hold, hnew, lt_of_le_of_ne (oldest_le he he') ?_⟩
  intro hsame
  rw [← hsame] at hnew
  exact hne (lastUse_inj htimes hnew hold)

end

end Recency
