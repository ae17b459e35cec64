/-
  ObligationRuntime.Lib.FileTree — file systems, and operations that stay below a
  directory.

  A file system says what is at each path.  `sub` takes the tree below a path out of
  it and `graft` puts one there, so an operation that stays below a directory is one
  on the tree of that directory, grafted back (`Within`): what it leaves alone, and
  that two of them commute, follows from the laws of `graft`.

  Main results:
    * `putAll_written`, `putAll_unwritten` — what writes leave,
    * `putAll_within` — writes below a directory stay below it,
    * `Within.comm` — operations below directories that lie apart commute.
-/
import Mathlib.Data.List.Infix
import Mathlib.Logic.Function.Basic

namespace FileTree

/-! ## §1. File systems. -/

/-- What is at a path. -/
inductive Entry (α : Type) where
  | dir
  | file (content : α)
  deriving DecidableEq

/-- Is it a file? -/
def Entry.isFile {α : Type} : Entry α → Bool
  | .dir => false
  | .file _ => true

/-- What there is, by path: the names on the way down from the root. -/
abbrev FileSystem (N α : Type) := List N → Option (Entry α)

/-- Neither path leads through the other. -/
def Apart {N : Type} (p q : List N) : Prop := ¬ p <+: q ∧ ¬ q <+: p

section

variable {N α : Type}

theorem Apart.symm {p q : List N} (h : Apart p q) : Apart q p := ⟨h.2, h.1⟩

/-- Below paths that lie apart there is no common path. -/
theorem Apart.not_below {p q r : List N} (h : Apart p q) (hp : p <+: r) : ¬ q <+: r := by
  intro hq
  rcases List.prefix_or_prefix_of_prefix hp hq with hpq | hqp
  · exact h.1 hpq
  · exact h.2 hqp

/-- Paths lie apart from where they first differ. -/
theorem apart_of_ne (p : List N) {a b : N} (hab : a ≠ b) (q r : List N) :
    Apart (p ++ a :: q) (p ++ b :: r) := by
  constructor
  · intro h
    exact hab (List.cons_prefix_cons.mp ((List.prefix_append_right_inj p).mp h)).1
  · intro h
    exact hab (List.cons_prefix_cons.mp ((List.prefix_append_right_inj p).mp h)).1.symm

/-- A path does not lead through one below it. -/
theorem below_not_above (p : List N) (a : N) (q : List N) : ¬ p ++ a :: q <+: p := by
  intro h
  have hlen := h.length_le
  simp only [List.length_append, List.length_cons] at hlen
  omega

/-- The path and every one on the way to it are directories. -/
def IsDir (fs : FileSystem N α) (p : List N) : Prop := ∀ q, q <+: p → fs q = some .dir

/-- What is above a directory is one. -/
theorem IsDir.mono {fs : FileSystem N α} {p q : List N} (h : IsDir fs p) (hq : q <+: p) :
    IsDir fs q := fun r hr => h r (hr.trans hq)

/-- A directory is there. -/
theorem IsDir.self {fs : FileSystem N α} {p : List N} (h : IsDir fs p) : fs p = some .dir :=
  h p (List.prefix_refl p)

/-- Nothing differs but below the path. -/
def SameOutside (p : List N) (fs fs' : FileSystem N α) : Prop := ∀ q, ¬ p <+: q → fs' q = fs q

theorem SameOutside.refl (p : List N) (fs : FileSystem N α) : SameOutside p fs fs :=
  fun _ _ => rfl

theorem SameOutside.trans {p : List N} {fs fs' fs'' : FileSystem N α} (h : SameOutside p fs fs')
    (h' : SameOutside p fs' fs'') : SameOutside p fs fs'' :=
  fun q hq => (h' q hq).trans (h q hq)

/-- What differs below a path differs below any on the way to it. -/
theorem SameOutside.widen {p q : List N} {fs fs' : FileSystem N α} (h : SameOutside p fs fs')
    (hq : q <+: p) : SameOutside q fs fs' :=
  fun r hr => h r fun hp => hr (hq.trans hp)

/-! ## §2. Trees in a file system. -/

/-- The tree below a path. -/
def sub (fs : FileSystem N α) (p : List N) : FileSystem N α := fun q => fs (p ++ q)

@[simp] theorem sub_apply (fs : FileSystem N α) (p q : List N) : sub fs p q = fs (p ++ q) := rfl

/-- The tree of a path that lies apart is the same. -/
theorem SameOutside.sub_eq {p q : List N} {fs fs' : FileSystem N α} (h : SameOutside p fs fs')
    (hpq : Apart p q) : sub fs' q = sub fs q := by
  funext r
  exact h _ fun hp => hpq.symm.not_below (List.prefix_append q r) hp

/-- A tree whose root is a directory. -/
structure Directory (N α : Type) where
  entry : FileSystem N α
  root : entry [] = some .dir

/-- A directory is its entries. -/
@[ext] theorem Directory.ext {d d' : Directory N α} (h : d.entry = d'.entry) : d = d' := by
  cases d
  cases d'
  cases h
  rfl

/-- The directory at a path. -/
def directoryAt (fs : FileSystem N α) (p : List N) : Option (Directory N α) :=
  match h : fs p with
  | some .dir => some ⟨sub fs p, by rw [sub_apply, List.append_nil, h]⟩
  | _ => none

/-- The directory at a path has what stands below the path. -/
theorem directoryAt_eq_some {fs : FileSystem N α} {p : List N} {d : Directory N α}
    (h : directoryAt fs p = some d) : d.entry = sub fs p := by
  unfold directoryAt at h
  split at h
  · obtain rfl := Option.some.inj h
    rfl
  · cases h

/-- The directory with some of its entries. -/
def Directory.restrict (d : Directory N α) (keep : List N → Bool) : Directory N α where
  entry := fun q => if q.isEmpty || keep q then d.entry q else none
  root := d.root

/-- The directories on the way to a path that lies apart are the same. -/
theorem SameOutside.isDir {p q : List N} {fs fs' : FileSystem N α} (h : SameOutside p fs fs')
    (hpq : ¬ p <+: q) (hq : IsDir fs q) : IsDir fs' q := by
  intro r hr
  rw [h r fun hp => hpq (hp.trans hr)]
  exact hq r hr

end

section

variable {N α : Type} [DecidableEq N]

/-- The file system with a tree at a path. -/
def graft (fs : FileSystem N α) (p : List N) (t : FileSystem N α) : FileSystem N α :=
  fun q => if p <+: q then t (q.drop p.length) else fs q

variable {fs : FileSystem N α} {p q : List N} {t : FileSystem N α}

/-- Below the path there is the new tree, -/
theorem graft_append (fs : FileSystem N α) (p q : List N) (t : FileSystem N α) :
    graft fs p t (p ++ q) = t q := by
  simp [graft]

/-- all of it. -/
@[simp] theorem sub_graft (fs : FileSystem N α) (p : List N) (t : FileSystem N α) :
    sub (graft fs p t) p = t := by
  funext q
  exact graft_append fs p q t

/-- What stands there may be put there. -/
@[simp] theorem graft_sub (fs : FileSystem N α) (p : List N) : graft fs p (sub fs p) = fs := by
  funext q
  by_cases h : p <+: q
  · obtain ⟨r, rfl⟩ := h
    rw [graft_append, sub_apply]
  · simp [graft, h]

/-- The tree that was put last stands. -/
@[simp] theorem graft_graft (fs : FileSystem N α) (p : List N) (t u : FileSystem N α) :
    graft (graft fs p t) p u = graft fs p u := by
  funext q
  by_cases h : p <+: q <;> simp [graft, h]

/-- Nothing outside changes. -/
theorem sameOutside_graft (fs : FileSystem N α) (p : List N) (t : FileSystem N α) :
    SameOutside p fs (graft fs p t) := by
  intro q hq
  simp [graft, hq]

/-- Trees at paths that lie apart are put there in either order. -/
theorem graft_comm (h : Apart p q) (fs t u : FileSystem N α) :
    graft (graft fs p t) q u = graft (graft fs q u) p t := by
  funext r
  by_cases hp : p <+: r
  · simp [graft, hp, h.not_below hp]
  · simp [graft, hp]

/-- A tree whose root is a directory. -/
theorem isDir_graft (h : IsDir fs p) (ht : t [] = some .dir) : IsDir (graft fs p t) p := by
  intro q hq
  by_cases hpq : p <+: q
  · obtain rfl : p = q := hpq.eq_of_length_le hq.length_le
    simpa [graft] using ht
  · simpa [graft, hpq] using h q hq

/-! ## §3. Operations. -/

/-- `mkdir` with its parents: nothing is made where a file is in the way. -/
def mkdirs (fs : FileSystem N α) (p : List N) : Option (FileSystem N α) :=
  if p.inits.any fun q => (fs q).any Entry.isFile then none
  else some fun q => if q <+: p ∧ (fs q).isNone then some .dir else fs q

/-- Write a file in a directory that exists. -/
def write (fs : FileSystem N α) (p : List N) (content : α) : Option (FileSystem N α) :=
  match fs p, fs p.dropLast with
  | some .dir, _ => none
  | _, some .dir => some (Function.update fs p (some (.file content)))
  | _, _ => none

/-- Write a file, making its directory: what is left, and whether it was written. -/
def put (fs : FileSystem N α) (p : List N) (content : α) : FileSystem N α × Bool :=
  match mkdirs fs p.dropLast with
  | none => (fs, false)
  | some fs' =>
      match write fs' p content with
      | none => (fs', false)
      | some fs'' => (fs'', true)

/-- Write files one after another, up to the first that is not written. -/
def putAll : FileSystem N α → List (List N × α) → FileSystem N α × Bool
  | fs, [] => (fs, true)
  | fs, w :: ws =>
      if (put fs w.1 w.2).2 then putAll (put fs w.1 w.2).1 ws else ((put fs w.1 w.2).1, false)

/-- Put a tree at a path where there is nothing, making its parents. -/
def copyTree (fs : FileSystem N α) (p : List N) (t : FileSystem N α) :
    Option (FileSystem N α) :=
  if (fs p).isSome then none else (mkdirs fs p).map fun fs' => graft fs' p t

/-- What `mkdirs` makes, where no file is in the way. -/
theorem mkdirs_eq_some_iff {fs' : FileSystem N α} :
    mkdirs fs p = some fs' ↔ (∀ q, q <+: p → fs q = none ∨ fs q = some .dir) ∧
      fs' = fun q => if q <+: p ∧ (fs q).isNone then some .dir else fs q := by
  -- A file on the way is the only thing that stops it.
  have hway : (p.inits.any fun q => (fs q).any Entry.isFile) = true ↔
      ¬ ∀ q, q <+: p → fs q = none ∨ fs q = some .dir := by
    simp only [List.any_eq_true, List.mem_inits, not_forall]
    constructor
    · rintro ⟨q, hq, hfile⟩
      refine ⟨q, hq, ?_⟩
      rcases h : fs q with - | (- | content)
      · simp [h] at hfile
      · simp [h, Entry.isFile] at hfile
      · simp
    · rintro ⟨q, hq, hnot⟩
      refine ⟨q, hq, ?_⟩
      rcases h : fs q with - | (- | content)
      · simp [h] at hnot
      · simp [h] at hnot
      · rfl
  unfold mkdirs
  by_cases h : ∀ q, q <+: p → fs q = none ∨ fs q = some .dir
  · rw [if_neg fun hany => hway.mp hany h, Option.some.injEq]
    exact ⟨fun e => ⟨h, e.symm⟩, fun e => e.2.symm⟩
  · rw [if_pos (hway.mpr h)]
    simp [h]

/-- After `mkdirs` there is a directory. -/
theorem mkdirs_isDir {fs' : FileSystem N α} (h : mkdirs fs p = some fs') : IsDir fs' p := by
  obtain ⟨hway, rfl⟩ := mkdirs_eq_some_iff.mp h
  intro q hq
  rcases hway q hq with hnone | hdir
  · simp [hq, hnone]
  · simp [hdir]

/-- What is there stays. -/
theorem mkdirs_keeps {fs' : FileSystem N α} (h : mkdirs fs p = some fs') {e : Entry α}
    (hq : fs q = some e) : fs' q = some e := by
  obtain ⟨-, rfl⟩ := mkdirs_eq_some_iff.mp h
  simp [hq]

/-- Directories that exist are not made. -/
theorem mkdirs_of_isDir (h : IsDir fs p) : mkdirs fs p = some fs := by
  refine mkdirs_eq_some_iff.mpr ⟨fun q hq => .inr (h q hq), ?_⟩
  funext q
  by_cases hq : q <+: p
  · simp [h q hq]
  · simp [hq]

/-- What `write` leaves, where it writes. -/
theorem write_eq_some_iff {fs' : FileSystem N α} {content : α} :
    write fs p content = some fs' ↔ fs p ≠ some .dir ∧ fs p.dropLast = some .dir ∧
      fs' = Function.update fs p (some (.file content)) := by
  unfold write
  split
  next hdir => simp [hdir]
  next hparent hne =>
    rw [Option.some.injEq, eq_comm]
    exact ⟨fun h => ⟨hne, hparent, h⟩, fun h => h.2.2⟩
  next hne hparent =>
    exact ⟨nofun, fun h => absurd h.2.1 hparent⟩

/-- **What `put` leaves**, where it writes: the file, and the directories it makes. -/
theorem put_ok {content : α} (h : (put fs p content).2 = true) (q : List N) :
    (put fs p content).1 q = if q = p then some (.file content)
      else if q <+: p.dropLast ∧ fs q = none then some .dir else fs q := by
  unfold put at h ⊢
  split at h
  · cases h
  next made hmade =>
    obtain ⟨-, rfl⟩ := mkdirs_eq_some_iff.mp hmade
    split at h
    · cases h
    next fs' hwrite =>
      obtain ⟨-, -, rfl⟩ := write_eq_some_iff.mp hwrite
      simp only [Function.update_apply, Option.isNone_iff_eq_none]

/-- What the last of the writes gives a file. -/
def lastWritten : List (List N × α) → List N → Option α
  | [], _ => none
  | w :: ws, q => (lastWritten ws q).or (if w.1 = q then some w.2 else none)

/-- A file that is written is given something. -/
theorem lastWritten_isSome {ws : List (List N × α)} {w : List N × α} (h : w ∈ ws) :
    ∃ content, lastWritten ws w.1 = some content := by
  induction ws with
  | nil => cases h
  | cons v ws ih =>
      unfold lastWritten
      cases hlast : lastWritten ws w.1 with
      | some content => exact ⟨content, rfl⟩
      | none =>
          rcases List.mem_cons.mp h with rfl | hmem
          · exact ⟨w.2, by simp⟩
          · obtain ⟨content, hcontent⟩ := ih hmem
            rw [hlast] at hcontent
            cases hcontent

/-- A file that is given something is written. -/
theorem mem_of_lastWritten {ws : List (List N × α)} {q : List N} {content : α}
    (h : lastWritten ws q = some content) : ∃ w ∈ ws, w.1 = q := by
  induction ws with
  | nil => cases h
  | cons v ws ih =>
      unfold lastWritten at h
      rcases Option.or_eq_some_iff.mp h with hlast | ⟨-, hv⟩
      · obtain ⟨w, hw, hq⟩ := ih hlast
        exact ⟨w, List.mem_cons_of_mem _ hw, hq⟩
      · by_cases hq : v.1 = q
        · exact ⟨v, List.mem_cons_self .., hq⟩
        · rw [if_neg hq] at hv
          cases hv

/-- The first write, where all of them are made. -/
theorem putAll_cons_ok {w : List N × α} {ws : List (List N × α)}
    (h : (putAll fs (w :: ws)).2 = true) :
    (put fs w.1 w.2).2 = true ∧ putAll fs (w :: ws) = putAll (put fs w.1 w.2).1 ws := by
  rw [putAll] at h ⊢
  split at h
  next hput => exact ⟨hput, by rw [if_pos hput]⟩
  · cases h

/-- **What writes leave at a path that they do not write**: a directory, where they make
one. -/
theorem putAll_unwritten {ws : List (List N × α)} (h : (putAll fs ws).2 = true)
    (hq : lastWritten ws q = none) :
    (putAll fs ws).1 q =
      if fs q = none ∧ ∃ w ∈ ws, q <+: w.1.dropLast then some .dir else fs q := by
  induction ws generalizing fs with
  | nil => simp [putAll]
  | cons w ws ih =>
      obtain ⟨hput, hrest⟩ := putAll_cons_ok h
      rw [hrest] at h ⊢
      obtain ⟨hlast, hw⟩ := Option.or_eq_none_iff.mp hq
      have hne : ¬ q = w.1 := by
        rintro rfl
        simp at hw
      rw [ih h hlast, put_ok hput, if_neg hne]
      by_cases hmade : q <+: w.1.dropLast ∧ fs q = none
      · rw [if_pos hmade, if_neg (by simp), if_pos]
        exact ⟨hmade.2, w, List.mem_cons_self .., hmade.1⟩
      · have hiff : (fs q = none ∧ ∃ v ∈ w :: ws, q <+: v.1.dropLast) ↔
            fs q = none ∧ ∃ v ∈ ws, q <+: v.1.dropLast := by
          rw [List.exists_mem_cons_iff]
          tauto
        rw [if_neg hmade]
        simp only [hiff]

/-- **What writes leave in a file**: the last one counts. -/
theorem putAll_written {ws : List (List N × α)} (h : (putAll fs ws).2 = true) {content : α}
    (hq : lastWritten ws q = some content) : (putAll fs ws).1 q = some (.file content) := by
  induction ws generalizing fs with
  | nil => cases hq
  | cons w ws ih =>
      obtain ⟨hput, hrest⟩ := putAll_cons_ok h
      rw [hrest] at h ⊢
      rcases Option.or_eq_some_iff.mp hq with hlast | ⟨hnone, hw⟩
      · exact ih h hlast
      · by_cases hwq : w.1 = q
        · subst hwq
          obtain rfl : w.2 = content := by simpa using hw
          rw [putAll_unwritten h hnone, put_ok hput, if_pos rfl, if_neg (by simp)]
        · rw [if_neg hwq] at hw
          cases hw

/-! ## §4. Operations below a directory. -/

/-- The operation is one on the tree below the path. -/
structure Within {β : Type} (p : List N) (op opTree : FileSystem N α → FileSystem N α × β) :
    Prop where
  eq : ∀ fs, IsDir fs p → op fs = (graft fs p (opTree (sub fs p)).1, (opTree (sub fs p)).2)
  keeps : ∀ t, t [] = some .dir → (opTree t).1 [] = some .dir

section

variable {β : Type} {op opTree op' opTree' : FileSystem N α → FileSystem N α × β}

/-- An operation within a directory changes nothing outside, -/
theorem Within.sameOutside (h : Within p op opTree) (hfs : IsDir fs p) :
    SameOutside p fs (op fs).1 := by
  rw [h.eq fs hfs]
  exact sameOutside_graft fs p _

/-- and leaves the directory. -/
theorem Within.isDir (h : Within p op opTree) (hfs : IsDir fs p) : IsDir (op fs).1 p := by
  rw [h.eq fs hfs]
  refine isDir_graft hfs (h.keeps _ ?_)
  rw [sub_apply, List.append_nil]
  exact hfs.self

/-- The answer is made of the one below the path. -/
theorem Within.answer {γ : Type} (h : Within p op opTree) (f : β → γ) :
    Within p (fun fs => ((op fs).1, f (op fs).2)) (fun t => ((opTree t).1, f (opTree t).2)) where
  eq fs hfs := by rw [h.eq fs hfs]
  keeps := h.keeps

/-- **Operations below directories that lie apart commute**, and each answers what it
would have answered before the other. -/
theorem Within.comm (h : Within p op opTree) (h' : Within q op' opTree') (hpq : Apart p q)
    (hp : IsDir fs p) (hq : IsDir fs q) :
    (op' (op fs).1).1 = (op (op' fs).1).1 ∧ (op' (op fs).1).2 = (op' fs).2 ∧
      (op (op' fs).1).2 = (op fs).2 := by
  have hout := h.sameOutside hp
  have hout' := h'.sameOutside hq
  have hq' : IsDir (op fs).1 q := hout.isDir hpq.1 hq
  have hp' : IsDir (op' fs).1 p := hout'.isDir hpq.2 hp
  have hsub : sub (op fs).1 q = sub fs q := hout.sub_eq hpq
  have hsub' : sub (op' fs).1 p = sub fs p := hout'.sub_eq hpq.symm
  rw [h'.eq _ hq', h.eq _ hp', hsub, hsub', h.eq fs hp, h'.eq fs hq]
  exact ⟨graft_comm hpq fs _ _, rfl, rfl⟩

end

/-- Directories are made below the path. -/
theorem mkdirs_append (h : IsDir fs p) (r : List N) :
    mkdirs fs (p ++ r) = (mkdirs (sub fs p) r).map (graft fs p) := by
  -- No file is in the way above the path.
  have hway : (∀ q, q <+: p ++ r → fs q = none ∨ fs q = some .dir) ↔
      ∀ q, q <+: r → sub fs p q = none ∨ sub fs p q = some .dir := by
    constructor
    · intro hall q hq
      exact hall (p ++ q) ((List.prefix_append_right_inj p).mpr hq)
    · intro hall q hq
      rcases List.prefix_or_prefix_of_prefix hq (List.prefix_append p r) with hqp | hpq
      · exact .inr (h q hqp)
      · obtain ⟨s, rfl⟩ := hpq
        exact hall s ((List.prefix_append_right_inj p).mp hq)
  cases hm : mkdirs (sub fs p) r with
  | none =>
      rw [Option.map_none, ← Option.not_isSome_iff_eq_none, Option.isSome_iff_exists]
      rintro ⟨fs', hfs'⟩
      have hall := hway.mp (mkdirs_eq_some_iff.mp hfs').1
      rw [mkdirs_eq_some_iff.mpr ⟨hall, rfl⟩] at hm
      cases hm
  | some t =>
      obtain ⟨hall, rfl⟩ := mkdirs_eq_some_iff.mp hm
      refine mkdirs_eq_some_iff.mpr ⟨hway.mpr hall, ?_⟩
      funext q
      by_cases hq : p <+: q
      · obtain ⟨s, rfl⟩ := hq
        rw [graft_append]
        simp
      · by_cases hqr : q <+: p ++ r
        · -- Above the path there are directories already.
          rcases List.prefix_or_prefix_of_prefix hqr (List.prefix_append p r) with hqp | hpq
          · simp [graft, hq, h q hqp]
          · exact absurd hpq hq
        · simp [graft, hq, hqr]

/-- One entry is put below the path. -/
theorem update_append (fs : FileSystem N α) (p r : List N) (e : Option (Entry α)) :
    Function.update fs (p ++ r) e = graft fs p (Function.update (sub fs p) r e) := by
  funext q
  by_cases hq : p <+: q
  · obtain ⟨s, rfl⟩ := hq
    rw [graft_append]
    by_cases hs : s = r
    · subst hs
      simp
    · have hne : p ++ s ≠ p ++ r := fun h => hs (List.append_cancel_left h)
      rw [Function.update_of_ne hne, Function.update_of_ne hs, sub_apply]
  · have hne : q ≠ p ++ r := by
      rintro rfl
      exact hq (List.prefix_append p r)
    rw [Function.update_of_ne hne]
    simp [graft, hq]

/-- A file is written below the path. -/
theorem write_append (h : IsDir fs p) (r : List N) (content : α) :
    write fs (p ++ r) content = (write (sub fs p) r content).map (graft fs p) := by
  by_cases hr : r = []
  · subst hr
    simp [write, h.self]
  · unfold write
    rw [List.dropLast_append_of_ne_nil hr, sub_apply, sub_apply]
    split
    · rfl
    · rw [Option.map_some, update_append]
    · rfl

/-- A write leaves the root of a tree a directory, -/
theorem write_keeps_root {t t' : FileSystem N α} {r : List N} {content : α}
    (ht : t [] = some .dir) (h : write t r content = some t') : t' [] = some .dir := by
  obtain ⟨hdir, -, rfl⟩ := write_eq_some_iff.mp h
  rw [Function.update_of_ne ?_, ht]
  rintro rfl
  exact hdir ht

/-- **A file is put below the path.** -/
theorem put_append (h : IsDir fs p) (r : List N) (content : α) :
    put fs (p ++ r) content =
      (graft fs p (put (sub fs p) r content).1, (put (sub fs p) r content).2) := by
  have hroot : sub fs p [] = some .dir := by
    rw [sub_apply, List.append_nil]
    exact h.self
  have hmk : mkdirs fs (p ++ r).dropLast = (mkdirs (sub fs p) r.dropLast).map (graft fs p) := by
    by_cases hr : r = []
    · -- The directory of the path itself is there.
      subst hr
      have hdir : IsDir (sub fs p) [] := by
        intro q hq
        rw [List.prefix_nil.mp hq]
        exact hroot
      rw [List.append_nil, mkdirs_of_isDir (h.mono (List.dropLast_prefix p)), List.dropLast_nil,
        mkdirs_of_isDir hdir, Option.map_some, graft_sub]
    · rw [List.dropLast_append_of_ne_nil hr, mkdirs_append h]
  unfold put
  rw [hmk]
  cases hm : mkdirs (sub fs p) r.dropLast with
  | none => simp
  | some t =>
      have hdir : IsDir (graft fs p t) p := isDir_graft h (mkdirs_keeps hm hroot)
      simp only [Option.map_some, write_append hdir, sub_graft]
      cases write t r content with
      | none => rfl
      | some t' => simp

/-- and so does a put. -/
theorem put_keeps_root {t : FileSystem N α} (r : List N) (content : α)
    (ht : t [] = some .dir) : (put t r content).1 [] = some .dir := by
  unfold put
  split
  · exact ht
  next t' hm =>
    have ht' := mkdirs_keeps hm ht
    split
    · exact ht'
    next t'' hw => exact write_keeps_root ht' hw

/-- A write changes nothing but its file. -/
theorem write_sameOutside {fs' : FileSystem N α} {content : α}
    (h : write fs p content = some fs') : SameOutside p fs fs' := by
  obtain ⟨-, -, rfl⟩ := write_eq_some_iff.mp h
  intro q hq
  rw [Function.update_of_ne]
  rintro rfl
  exact hq (List.prefix_refl q)

/-- **Writes below a directory stay below it.** -/
theorem putAll_within {ws : List (List N × α)} (hws : ∀ w ∈ ws, p <+: w.1) :
    Within p (fun fs => putAll fs ws)
      (fun t => putAll t (ws.map fun w => (w.1.drop p.length, w.2))) := by
  constructor
  · -- Each write is one in the subtree, and leaves the path a directory for the next.
    induction ws with
    | nil => simp [putAll]
    | cons w ws ih =>
        intro fs hfs
        obtain ⟨r, hr⟩ := hws w (List.mem_cons_self ..)
        have hroot : sub fs p [] = some .dir := by
          rw [sub_apply, List.append_nil]
          exact hfs.self
        have hdir : IsDir (graft fs p (put (sub fs p) r w.2).1) p :=
          isDir_graft hfs (put_keeps_root r w.2 hroot)
        simp only [putAll, List.map_cons, ← hr, put_append hfs, List.drop_left]
        split
        · rw [ih (fun v hv => hws v (List.mem_cons_of_mem _ hv)) _ hdir, sub_graft, graft_graft]
        · rfl
  · -- A write below the path leaves its root a directory.
    intro t ht
    generalize ws.map (fun w => (w.1.drop p.length, w.2)) = vs
    induction vs generalizing t with
    | nil => exact ht
    | cons v vs ih =>
        have hput := put_keeps_root v.1 v.2 ht
        unfold putAll
        split
        · exact ih _ hput
        · exact hput

/-! ## §5. Copies. -/

/-- A tree is put where there is nothing. -/
theorem copyTree_eq_some_iff {fs' : FileSystem N α} :
    copyTree fs p t = some fs' ↔
      fs p = none ∧ ∃ made, mkdirs fs p = some made ∧ graft made p t = fs' := by
  unfold copyTree
  cases hp : fs p with
  | some e => simp
  | none => simp

/-- After a copy there is what was copied, -/
theorem sub_copyTree {fs' : FileSystem N α} (h : copyTree fs p t = some fs') : sub fs' p = t := by
  obtain ⟨-, made, -, rfl⟩ := copyTree_eq_some_iff.mp h
  exact sub_graft made p t

/-- Directories are made below the last one on the way that is there. -/
theorem mkdirs_sameOutside {fs' : FileSystem N α} {a : N} {r : List N} (hq : IsDir fs q)
    (h : mkdirs fs (q ++ a :: r) = some fs') : SameOutside (q ++ [a]) fs fs' := by
  obtain ⟨-, rfl⟩ := mkdirs_eq_some_iff.mp h
  intro s hs
  by_cases hsq : s <+: q ++ a :: r
  · -- A shorter path leads to a directory that is there.
    have hsq' : s <+: q := by
      rcases List.prefix_or_prefix_of_prefix hsq (List.prefix_append q (a :: r)) with h | h
      · exact h
      · obtain ⟨u, rfl⟩ := h
        cases u with
        | nil => simp
        | cons b u =>
            obtain ⟨rfl, -⟩ :=
              List.cons_prefix_cons.mp ((List.prefix_append_right_inj q).mp hsq)
            exact absurd ((List.prefix_append_right_inj q).mpr (by simp)) hs
    simp [hq s hsq']
  · simp [hsq]

/-- A copy changes nothing but below the last directory on the way that is there. -/
theorem copyTree_sameOutside {fs' : FileSystem N α} {a : N} {r : List N} (hq : IsDir fs q)
    (h : copyTree fs (q ++ a :: r) t = some fs') : SameOutside (q ++ [a]) fs fs' := by
  obtain ⟨-, made, hmade, rfl⟩ := copyTree_eq_some_iff.mp h
  have hbelow : q ++ [a] <+: q ++ a :: r := (List.prefix_append_right_inj q).mpr (by simp)
  exact (mkdirs_sameOutside hq hmade).trans ((sameOutside_graft made _ t).widen hbelow)

/-- in a directory. -/
theorem copyTree_isDir {fs' : FileSystem N α} (ht : t [] = some .dir)
    (h : copyTree fs p t = some fs') : IsDir fs' p := by
  obtain ⟨-, made, hmade, rfl⟩ := copyTree_eq_some_iff.mp h
  exact isDir_graft (mkdirs_isDir hmade) ht

/-- Below a directory there is room where there is nothing yet. -/
theorem mkdirs_room {a : N} {r : List N} (hq : IsDir fs q) (hnone : ∀ s, fs (q ++ a :: s) = none) :
    ∃ fs', mkdirs fs (q ++ a :: r) = some fs' ∧
      ∀ s, ¬ s <+: q ++ a :: r → fs' s = fs s := by
  refine ⟨_, mkdirs_eq_some_iff.mpr ⟨fun s hs => ?_, rfl⟩, fun s hs => by simp [hs]⟩
  rcases List.prefix_or_prefix_of_prefix hs (List.prefix_append q (a :: r)) with hsq | hqs
  · exact .inr (hq s hsq)
  · obtain ⟨u, rfl⟩ := hqs
    cases u with
    | nil => exact .inr (hq _ (by simp))
    | cons b u =>
        obtain ⟨rfl, -⟩ := List.cons_prefix_cons.mp ((List.prefix_append_right_inj q).mp hs)
        exact .inl (hnone u)

/-- Below a directory a copy is put where there is nothing yet. -/
theorem copyTree_room {a : N} (hq : IsDir fs q) (hnone : ∀ s, fs (q ++ a :: s) = none) :
    ∃ fs', copyTree fs (q ++ [a]) t = some fs' := by
  obtain ⟨made, hmade, -⟩ := mkdirs_room (r := []) hq hnone
  exact ⟨_, copyTree_eq_some_iff.mpr ⟨hnone [], made, hmade, rfl⟩⟩

/-- In a directory a file is written where there is nothing yet. -/
theorem write_room {a : N} (content : α) (hq : fs q = some .dir) (hnone : fs (q ++ [a]) = none) :
    ∃ fs', write fs (q ++ [a]) content = some fs' := by
  refine ⟨Function.update fs (q ++ [a]) (some (.file content)), ?_⟩
  simp only [write, hnone, List.dropLast_concat, hq]

end

end FileTree
