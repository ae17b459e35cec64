/-
  ObligationRuntime.Lib.TreeCopy — copies of a tree, entry by entry.

  A copy comes to the entries of its source one at a time, in any order that takes a
  directory before what is in it, and others may act on the disk in between.  An entry
  may fail; the copy goes on to the others and remembers that one has failed.

  `CopyOf t u pending` is the invariant of a copy that has not failed: what it has made
  is in the source, and what it has not made yet lies below an entry it has still to come
  to.  So once nothing is pending the copy is the source.

  Main results:
    * `CopyOf.whole` — a copy that has come to every entry is whole,
    * `copyNext_copyOf` — what one entry keeps,
    * `copyNext_sameOutside` — a copy stays below its directory.
-/
import ObligationRuntime.Lib.FileTree
import Mathlib.Data.List.Dedup

namespace FileTree

variable {N α : Type}

/-! ## §1. Disks. -/

/-- A file system, with the paths where there is something. -/
structure Disk (N α : Type) where
  fs : FileSystem N α
  paths : List (List N)
  covers : ∀ q, (fs q).isSome → q ∈ paths

namespace Disk

variable [DecidableEq N]

/-- The names in a directory. -/
def scandir (d : Disk N α) (p : List N) : List N :=
  (d.paths.filterMap fun q =>
    if q.dropLast = p ∧ (d.fs q).isSome then q.getLast? else none).dedup

/-- The names in a directory are those of its entries. -/
theorem mem_scandir {d : Disk N α} {p : List N} {a : N} :
    a ∈ d.scandir p ↔ (d.fs (p ++ [a])).isSome := by
  rw [scandir, List.mem_dedup, List.mem_filterMap]
  constructor
  · rintro ⟨q, -, hq⟩
    split at hq
    next h =>
      obtain ⟨rfl, hsome⟩ := h
      rwa [List.dropLast_append_getLast? a hq]
    · cases hq
  · intro h
    exact ⟨p ++ [a], d.covers _ h, by simp [h]⟩

/-- `mkdir` with its parents. -/
def mkdirs (d : Disk N α) (p : List N) : Option (Disk N α) :=
  match h : FileTree.mkdirs d.fs p with
  | none => none
  | some fs =>
      some
        { fs
          paths := p.inits ++ d.paths
          covers := by
            obtain ⟨-, rfl⟩ := mkdirs_eq_some_iff.mp h
            intro q hq
            by_cases hp : q <+: p
            · exact List.mem_append_left _ ((List.mem_inits q p).mpr hp)
            · exact List.mem_append_right _ (d.covers q (by simpa [hp] using hq)) }

/-- Make a directory that is not there, with its parents. -/
def makedirs (d : Disk N α) (p : List N) : Option (Disk N α) :=
  if (d.fs p).isSome then none else d.mkdirs p

/-- Write a file in a directory that exists. -/
def write (d : Disk N α) (p : List N) (content : α) : Option (Disk N α) :=
  match h : FileTree.write d.fs p content with
  | none => none
  | some fs =>
      some
        { fs
          paths := p :: d.paths
          covers := by
            intro q hq
            by_cases hp : q = p
            · exact hp ▸ List.mem_cons_self ..
            · obtain ⟨-, -, rfl⟩ := write_eq_some_iff.mp h
              rw [Function.update_of_ne hp] at hq
              exact List.mem_cons_of_mem _ (d.covers q hq) }

/-- The disk does what the file system does: directories, -/
theorem mkdirs_fs {d d' : Disk N α} {p : List N} (h : d.mkdirs p = some d') :
    FileTree.mkdirs d.fs p = some d'.fs := by
  unfold mkdirs at h
  split at h
  · cases h
  next fs hfs =>
    obtain rfl := Option.some.inj h
    exact hfs

/-- new ones, -/
theorem makedirs_fs {d d' : Disk N α} {p : List N} (h : d.makedirs p = some d') :
    d.fs p = none ∧ FileTree.mkdirs d.fs p = some d'.fs := by
  unfold makedirs at h
  split at h
  · cases h
  next hnone => exact ⟨Option.not_isSome_iff_eq_none.mp hnone, mkdirs_fs h⟩

/-- and writes. -/
theorem write_fs {d d' : Disk N α} {p : List N} {content : α} (h : d.write p content = some d') :
    FileTree.write d.fs p content = some d'.fs := by
  unfold write at h
  split at h
  · cases h
  next fs hfs =>
    obtain rfl := Option.some.inj h
    exact hfs

end Disk

/-- Directories stay directories. -/
def KeepsDirs (fs fs' : FileSystem N α) : Prop := ∀ q, fs q = some .dir → fs' q = some .dir

theorem KeepsDirs.refl (fs : FileSystem N α) : KeepsDirs fs fs := fun _ h => h

theorem KeepsDirs.trans {fs fs' fs'' : FileSystem N α} (h : KeepsDirs fs fs')
    (h' : KeepsDirs fs' fs'') : KeepsDirs fs fs'' := fun q hq => h' q (h q hq)

/-- Directories stay, -/
theorem KeepsDirs.isDir {fs fs' : FileSystem N α} {p : List N} (h : KeepsDirs fs fs')
    (hp : IsDir fs p) : IsDir fs' p := fun q hq => h q (hp q hq)

/-- where others are made, -/
theorem mkdirs_keepsDirs [DecidableEq N] {fs fs' : FileSystem N α} {p : List N}
    (h : mkdirs fs p = some fs') : KeepsDirs fs fs' := fun _ hq => mkdirs_keeps h hq

/-- Nothing is made but on the way. -/
theorem mkdirs_elsewhere [DecidableEq N] {fs fs' : FileSystem N α} {p q : List N}
    (h : mkdirs fs p = some fs') (hq : ¬ q <+: p) : fs' q = fs q := by
  obtain ⟨-, rfl⟩ := mkdirs_eq_some_iff.mp h
  simp [hq]

/-- and where files are written. -/
theorem write_keepsDirs [DecidableEq N] {fs fs' : FileSystem N α} {p : List N} {content : α}
    (h : write fs p content = some fs') : KeepsDirs fs fs' := by
  obtain ⟨hdir, -, rfl⟩ := write_eq_some_iff.mp h
  intro q hq
  rw [Function.update_of_ne ?_, hq]
  rintro rfl
  exact hdir hq

/-- The tree of a path that is not on the way is the same. -/
theorem mkdirs_sub_eq [DecidableEq N] {fs fs' : FileSystem N α} {p q : List N}
    (h : mkdirs fs p = some fs') (hq : ¬ q <+: p) : sub fs' q = sub fs q := by
  funext s
  rw [sub_apply, sub_apply, mkdirs_elsewhere h]
  exact fun hs => hq ((List.prefix_append q s).trans hs)

/-- Only directories have something in them. -/
def Closed (t : FileSystem N α) : Prop := ∀ q a, (t (q ++ [a])).isSome → t q = some .dir

/-- On the way to an entry there are directories. -/
theorem Closed.above {t : FileSystem N α} (ht : Closed t) {q : List N} {a : N} {s : List N}
    (h : (t (q ++ a :: s)).isSome) : t q = some .dir ∧ (t (q ++ [a])).isSome := by
  induction s using List.reverseRecOn with
  | nil => exact ⟨ht q a h, h⟩
  | append_singleton s b ih =>
      rw [← List.cons_append, ← List.append_assoc] at h
      exact ih (by rw [ht _ b h]; rfl)

/-- Below nothing there is nothing. -/
theorem Closed.below_none {t : FileSystem N α} (ht : Closed t) {q : List N} (h : t q = none)
    (a : N) (s : List N) : t (q ++ a :: s) = none := by
  rw [← Option.not_isSome_iff_eq_none]
  intro hs
  rw [(ht.above hs).1] at h
  cases h

/-- A tree stays one where directories are made, -/
theorem mkdirs_closed [DecidableEq N] {fs fs' : FileSystem N α} {p : List N} (hfs : Closed fs)
    (h : mkdirs fs p = some fs') : Closed fs' := by
  intro q a hq
  by_cases hp : q ++ [a] <+: p
  · exact mkdirs_isDir h q ((List.prefix_append q [a]).trans hp)
  · rw [mkdirs_elsewhere h hp] at hq
    exact mkdirs_keeps h (hfs q a hq)

/-- and where files are written. -/
theorem write_closed [DecidableEq N] {fs fs' : FileSystem N α} {p : List N} {content : α}
    (hfs : Closed fs) (h : write fs p content = some fs') : Closed fs' := by
  obtain ⟨-, hparent, hfs'⟩ := write_eq_some_iff.mp h
  intro q a hq
  refine write_keepsDirs h q ?_
  by_cases hp : q ++ [a] = p
  · -- The file is written in a directory that exists.
    rw [← hp, List.dropLast_concat] at hparent
    exact hparent
  · rw [hfs', Function.update_of_ne hp] at hq
    exact hfs q a hq

/-! ## §2. Copies. -/

/-- A copy under way: the entries it has still to come to, and whether one has failed. -/
structure Copy (N : Type) where
  pending : List (List N)
  failed : Bool := false
  deriving DecidableEq, Repr

/-- A copy that has come to every entry, and none has failed. -/
def Copy.Whole (c : Copy N) : Prop := c.pending = [] ∧ c.failed = false

instance (c : Copy N) : Decidable c.Whole := by unfold Copy.Whole; infer_instance

section

variable [DecidableEq N] (src : Disk N α) (p : List N) (d : Disk N α) (r : List N)

/-- What is in a directory of the source. -/
def entriesBelow (q : List N) : List (List N) :=
  match src.fs (p ++ q) with
  | some .dir => (src.scandir (p ++ q)).map fun a => q ++ [a]
  | _ => []

/-- Copy one entry; a directory is made, without what is in it. -/
def copyEntry (q : List N) : Option (Disk N α) :=
  match src.fs (p ++ q) with
  | none => none
  | some .dir => d.makedirs (r ++ q)
  | some (.file content) => d.write (r ++ q) content

/-- Come to one entry, which is copied or fails.  A directory brings what is in it. -/
def copyNext (c : Copy N) (q : List N) (ok : Bool) : Disk N α × Copy N :=
  if q ∈ c.pending then
    match if ok then copyEntry src p d r q else none with
    | none => (d, { pending := c.pending.erase q, failed := true })
    | some d' => (d', { c with pending := c.pending.erase q ++ entriesBelow src p q })
  else (d, c)

end

/-! ## §3. What a copy has made. -/

/-- **A copy under way**, that has not failed. -/
structure CopyOf (t u : FileSystem N α) (pending : List (List N)) : Prop where
  same : ∀ q e, u q = some e → t q = some e
  reached : ∀ q, (t q).isSome → (u q).isSome ∨ ∃ w ∈ pending, w <+: q

/-- **A copy that has come to every entry is whole.** -/
theorem CopyOf.whole {t u : FileSystem N α} (h : CopyOf t u []) : u = t := by
  funext q
  cases ht : t q with
  | none =>
      cases hu : u q with
      | none => rfl
      | some e =>
          rw [h.same q e hu] at ht
          cases ht
  | some e =>
      rcases h.reached q (by rw [ht]; rfl) with hu | ⟨w, hw, -⟩
      · obtain ⟨e', he'⟩ := Option.isSome_iff_exists.mp hu
        rw [he', ← h.same q e' he', ht]
      · cases hw

/-- A copy begins with the directory and what is in it still to come. -/
theorem CopyOf.begin [DecidableEq N] {src : Disk N α} {p : List N} {u : FileSystem N α}
    (ht : Closed (sub src.fs p)) (hroot : src.fs p = some .dir) (hu : u [] = some .dir)
    (hempty : ∀ a q, u (a :: q) = none) :
    CopyOf (sub src.fs p) u (entriesBelow src p []) := by
  refine ⟨fun q e hq => ?_, fun q hq => ?_⟩
  · cases q with
    | nil =>
        rw [sub_apply, List.append_nil, hroot, ← hu]
        exact hq
    | cons a q => rw [hempty] at hq; cases hq
  · cases q with
    | nil => exact .inl (by rw [hu]; rfl)
    | cons a q =>
        have hentry := (ht.above (q := []) hq).2
        refine .inr ⟨[a], ?_, by simp⟩
        simp only [entriesBelow, List.append_nil, hroot, List.nil_append, List.mem_map]
        exact ⟨a, Disk.mem_scandir.mpr hentry, rfl⟩

/-- One more entry. -/
theorem CopyOf.next [DecidableEq N] {src : Disk N α} {p q : List N} {u u' : FileSystem N α}
    {pending : List (List N)} (ht : Closed (sub src.fs p)) (h : CopyOf (sub src.fs p) u pending)
    (hsame : ∀ s e, u' s = some e → sub src.fs p s = some e)
    (hkeep : ∀ s, (u s).isSome → (u' s).isSome) (hq : (u' q).isSome) :
    CopyOf (sub src.fs p) u' (pending.erase q ++ entriesBelow src p q) := by
  refine ⟨hsame, fun s hs => ?_⟩
  rcases h.reached s hs with hu | ⟨w, hw, hws⟩
  · exact .inl (hkeep s hu)
  · by_cases hwq : w = q
    · -- The entry itself, or something in it.
      subst hwq
      obtain ⟨_ | ⟨a, v⟩, rfl⟩ := hws
      · rw [List.append_nil]
        exact .inl hq
      · obtain ⟨hdir, hentry⟩ := ht.above hs
        refine .inr ⟨w ++ [a], List.mem_append_right _ ?_, ⟨v, by simp⟩⟩
        rw [sub_apply] at hdir
        simp only [entriesBelow, hdir, List.mem_map]
        rw [sub_apply, ← List.append_assoc] at hentry
        exact ⟨a, Disk.mem_scandir.mpr hentry, rfl⟩
    · exact .inr ⟨w, List.mem_append_left _ ((List.mem_erase_of_ne hwq).mpr hw), hws⟩

/-! ## §4. What one entry keeps. -/

section

variable [DecidableEq N] {src : Disk N α} {p : List N} {d d' : Disk N α} {r q : List N}

/-- One entry is copied below the directory. -/
theorem copyEntry_spec (hr : IsDir d.fs r) (h : copyEntry src p d r q = some d') :
    ∃ u', d'.fs = graft d.fs r u' ∧ (u' q).isSome ∧
      (∀ s, (sub d.fs r s).isSome → (u' s).isSome) ∧
      ∀ s e, u' s = some e → sub d.fs r s = some e ∨
        (s <+: q ∧ e = .dir ∧ src.fs (p ++ q) = some .dir) ∨
        (s = q ∧ src.fs (p ++ q) = some e) := by
  unfold copyEntry at h
  split at h
  · cases h
  -- A directory: it is made with its parents, and what was there stays.
  next hsrc =>
    obtain ⟨-, hmk⟩ := Disk.makedirs_fs h
    rw [mkdirs_append hr] at hmk
    obtain ⟨u', hu', hfs⟩ := Option.map_eq_some_iff.mp hmk
    have hdir := mkdirs_isDir hu'
    refine ⟨u', hfs.symm, by rw [hdir.self]; rfl, fun s hs => ?_, fun s e hs => ?_⟩
    · obtain ⟨e, he⟩ := Option.isSome_iff_exists.mp hs
      rw [mkdirs_keeps hu' he]
      rfl
    · obtain ⟨-, rfl⟩ := mkdirs_eq_some_iff.mp hu'
      simp only at hs
      split at hs
      next hmade => exact .inr (.inl ⟨hmade.1, (Option.some.inj hs).symm, hsrc⟩)
      next => exact .inl hs
  -- A file: only its own entry is written.
  next content hsrc =>
    have hw := Disk.write_fs h
    rw [write_append hr] at hw
    obtain ⟨u', hu', hfs⟩ := Option.map_eq_some_iff.mp hw
    obtain ⟨-, -, rfl⟩ := write_eq_some_iff.mp hu'
    refine ⟨_, hfs.symm, by rw [Function.update_self]; rfl, fun s hs => ?_, fun s e hs => ?_⟩
    · by_cases hsq : s = q
      · rw [hsq, Function.update_self]
        rfl
      · rwa [Function.update_of_ne hsq]
    · by_cases hsq : s = q
      · rw [hsq, Function.update_self] at hs
        exact .inr (.inr ⟨hsq, by rw [hsrc, hs]⟩)
      · rw [Function.update_of_ne hsq] at hs
        exact .inl hs

variable {c : Copy N} {ok : Bool}

/-- A copy that has come to every entry is over. -/
theorem copyNext_of_nil (h : c.pending = []) : copyNext src p d r c q ok = (d, c) := by
  simp [copyNext, h]

/-- What coming to an entry leaves: the disk, or the entry copied. -/
theorem copyNext_cases (src : Disk N α) (p : List N) (d : Disk N α) (r : List N) (c : Copy N)
    (q : List N) (ok : Bool) :
    copyNext src p d r c q ok = (d, c) ∨
      ((copyNext src p d r c q ok).1 = d ∧ (copyNext src p d r c q ok).2.failed = true) ∨
      ∃ d', copyEntry src p d r q = some d' ∧ copyNext src p d r c q ok =
        (d', { c with pending := c.pending.erase q ++ entriesBelow src p q }) := by
  unfold copyNext
  split
  · split
    · exact .inr (.inl ⟨rfl, rfl⟩)
    next d' h =>
      cases ok with
      | false => cases h
      | true => exact .inr (.inr ⟨d', h, rfl⟩)
  · exact .inl rfl

/-- **A copy stays below its directory.** -/
theorem copyNext_sameOutside (hr : IsDir d.fs r) :
    SameOutside r d.fs (copyNext src p d r c q ok).1.fs := by
  rcases copyNext_cases src p d r c q ok with h | ⟨h, -⟩ | ⟨d', hd', h⟩
  · rw [h]
    exact SameOutside.refl r d.fs
  · rw [h]
    exact SameOutside.refl r d.fs
  · obtain ⟨u', hu', -⟩ := copyEntry_spec hr hd'
    rw [h, hu']
    exact sameOutside_graft d.fs r u'

/-- A copy keeps the directories. -/
theorem copyNext_keepsDirs : KeepsDirs d.fs (copyNext src p d r c q ok).1.fs := by
  rcases copyNext_cases src p d r c q ok with h | ⟨h, -⟩ | ⟨d', hd', h⟩
  · rw [h]
    exact KeepsDirs.refl d.fs
  · rw [h]
    exact KeepsDirs.refl d.fs
  · rw [h]
    unfold copyEntry at hd'
    split at hd'
    · cases hd'
    · exact mkdirs_keepsDirs (Disk.makedirs_fs hd').2
    · exact write_keepsDirs (Disk.write_fs hd')

/-- A copy puts nothing but in directories. -/
theorem copyNext_closed (hd : Closed d.fs) : Closed (copyNext src p d r c q ok).1.fs := by
  rcases copyNext_cases src p d r c q ok with h | ⟨h, -⟩ | ⟨d', hd', h⟩
  · rw [h]
    exact hd
  · rw [h]
    exact hd
  · rw [h]
    unfold copyEntry at hd'
    split at hd'
    · cases hd'
    · exact mkdirs_closed hd (Disk.makedirs_fs hd').2
    · exact write_closed hd (Disk.write_fs hd')

/-- **What one entry keeps**, where the copy has not failed. -/
theorem copyNext_copyOf (hr : IsDir d.fs r) (ht : Closed (sub src.fs p))
    (h : c.failed = false → CopyOf (sub src.fs p) (sub d.fs r) c.pending)
    (hok : (copyNext src p d r c q ok).2.failed = false) :
    CopyOf (sub src.fs p) (sub (copyNext src p d r c q ok).1.fs r)
      (copyNext src p d r c q ok).2.pending := by
  rcases copyNext_cases src p d r c q ok with hn | ⟨-, hn⟩ | ⟨d', hd', hn⟩
  · rw [hn] at hok ⊢
    exact h hok
  · rw [hn] at hok
    cases hok
  · rw [hn] at hok ⊢
    have hcopy := h hok
    obtain ⟨u', hu', hq, hkeep, hmade⟩ := copyEntry_spec hr hd'
    simp only [hu', sub_graft]
    refine hcopy.next ht (fun s e hs => ?_) hkeep hq
    rcases hmade s e hs with hold | ⟨⟨v, rfl⟩, rfl, hdir⟩ | ⟨rfl, hsrc⟩
    · exact hcopy.same s e hold
    · -- A directory on the way to one of the source.
      cases v with
      | nil => rwa [List.append_nil] at hdir
      | cons a v =>
          refine (ht.above (a := a) (s := v) ?_).1
          rw [sub_apply, hdir]
          rfl
    · exact hsrc

end

end FileTree
