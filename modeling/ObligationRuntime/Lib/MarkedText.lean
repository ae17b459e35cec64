/-
  ObligationRuntime.Lib.MarkedText — `re.sub` that keeps the first part of a match.

  A pattern says, at a place of a text, how much of a match is kept and how much is replaced.
  The text is scanned once, from the left, and every character of it is marked: as kept, or
  as the first or a further one of a part that is replaced.  The marks of a text put together
  from parts can then be compared with those of its parts.

  Main results:
    * `marks_text` — the marks are of the text,
    * `erase_append` — replacing goes part by part,
    * `runs_infix` — what is replaced is a piece of the text,
    * `infix_shown` — where a word without stars is found once the covers are put on.
-/
import Mathlib.Data.List.Infix

namespace MarkedText

/-! ## §1. Patterns and marks. -/

/-- How a character is marked. -/
inductive Mark where
  | kept
  | first
  | more
  deriving DecidableEq, Repr

/-- A text whose characters are marked. -/
abbrev Marked := List (Char × Mark)

/-- A pattern, at a place given by the character before it and the text that follows: the
lengths of what is kept and of what is replaced, where it matches. -/
abbrev Pattern := Option Char → List Char → Option (Nat × Nat)

section

variable (p : Pattern)

/-- The marks of a text, with what is left of a match: how many characters are still kept,
then how many are replaced, and how the next of these is marked. -/
def marksFrom : Option Char → Nat → Nat → Mark → List Char → Marked
  | _, _, _, _, [] => []
  | _, kept + 1, replaced, mark, c :: cs =>
      (c, .kept) :: marksFrom (some c) kept replaced mark cs
  | _, 0, replaced + 1, mark, c :: cs => (c, mark) :: marksFrom (some c) 0 replaced .more cs
  -- Outside a match the pattern is tried; its match starts with a character that is kept.
  | before, 0, 0, _, c :: cs =>
      match p before (c :: cs) with
      | none => (c, .kept) :: marksFrom (some c) 0 0 .first cs
      | some (kept, replaced) => (c, .kept) :: marksFrom (some c) (kept - 1) replaced .first cs

/-- The marks of a text. -/
def marks (cs : List Char) : Marked := marksFrom p none 0 0 .first cs

theorem marksFrom_text (before : Option Char) (kept replaced : Nat) (mark : Mark)
    (cs : List Char) : (marksFrom p before kept replaced mark cs).map Prod.fst = cs := by
  induction cs generalizing before kept replaced mark with
  | nil => simp [marksFrom]
  | cons c cs ih =>
      cases kept with
      | succ kept => simp [marksFrom, ih]
      | zero =>
          cases replaced with
          | succ replaced => simp [marksFrom, ih]
          | zero =>
              rw [marksFrom]
              split <;> simp [ih]

/-- **The marks are of the text.** -/
@[simp] theorem marks_text (cs : List Char) : (marks p cs).map Prod.fst = cs :=
  marksFrom_text p none 0 0 .first cs

end

/-! ## §2. Replacing. -/

/-- What stands for a marked character: itself, or the mask at the first one of a part that
is replaced. -/
def replacement (mask : List Char) : Char × Mark → List Char
  | (c, .kept) => [c]
  | (_, .first) => mask
  | (_, .more) => []

/-- The text with the mask for every part that is replaced. -/
def erase (mask : List Char) (ms : Marked) : List Char := ms.flatMap (replacement mask)

/-- `re.sub`. -/
def sub (p : Pattern) (mask cs : List Char) : List Char := erase mask (marks p cs)

/-- **Replacing goes part by part.** -/
@[simp] theorem erase_append (mask : List Char) (ms ns : Marked) :
    erase mask (ms ++ ns) = erase mask ms ++ erase mask ns := by
  simp [erase]

@[simp] theorem erase_cons (mask : List Char) (m : Char × Mark) (ms : Marked) :
    erase mask (m :: ms) = replacement mask m ++ erase mask ms := by
  simp [erase]

@[simp] theorem erase_nil (mask : List Char) : erase mask [] = [] := rfl

/-- The marks of a part that is replaced. -/
def partMarks : List Char → Marked
  | [] => []
  | c :: cs => (c, .first) :: cs.map fun c => (c, .more)

/-- The marks of a piece of a text that is kept, or is replaced from its start or from
before it. -/
def pieceMarks : Mark → List Char → Marked
  | .kept, cs => cs.map fun c => (c, .kept)
  | .first, cs => partMarks cs
  | .more, cs => cs.map fun c => (c, .more)

/-- The marks of a part are on its characters. -/
theorem pieceMarks_text (m : Mark) (cs : List Char) : (pieceMarks m cs).map Prod.fst = cs := by
  cases m with
  | kept => simp [pieceMarks, Function.comp_def]
  | first => cases cs <;> simp [pieceMarks, partMarks, Function.comp_def]
  | more => simp [pieceMarks, Function.comp_def]

section

variable {mask : List Char}

theorem erase_map_kept (K : List Char) : erase mask (K.map fun c => (c, .kept)) = K := by
  induction K with
  | nil => rfl
  | cons c K ih => rw [List.map_cons, erase_cons, ih]; rfl

theorem erase_map_more (cs : List Char) : erase mask (cs.map fun c => (c, .more)) = [] := by
  induction cs with
  | nil => rfl
  | cons c cs ih => rw [List.map_cons, erase_cons, ih]; rfl

theorem erase_partMarks {s : List Char} (h : s ≠ []) : erase mask (partMarks s) = mask := by
  obtain ⟨c, cs, rfl⟩ := List.exists_cons_of_ne_nil h
  rw [partMarks, erase_cons, replacement, erase_map_more, List.append_nil]

end

/-! ## §3. What is replaced. -/

/-- The parts that are replaced. -/
def runs : Marked → List (List Char)
  | [] => []
  | (c, .first) :: ms =>
      (c :: (ms.takeWhile fun m => m.2 = .more).map Prod.fst) :: runs ms
  | _ :: ms => runs ms

/-- **What is replaced is a piece of the text.** -/
theorem runs_infix {ms : Marked} {r : List Char} (h : r ∈ runs ms) : r <:+: ms.map Prod.fst := by
  induction ms with
  | nil => cases h
  | cons m ms ih =>
      have hlater : r ∈ runs ms → r <:+: (m :: ms).map Prod.fst := fun hr =>
        (ih hr).trans (List.suffix_cons _ _).isInfix
      obtain ⟨c, mark⟩ := m
      cases mark with
      | kept => exact hlater h
      | more => exact hlater h
      | first =>
          rcases List.mem_cons.mp h with rfl | h
          · -- The part that starts here: what follows of it is a prefix of the rest.
            have hprefix : (ms.takeWhile fun m => m.2 = .more) <+: ms := List.takeWhile_prefix _
            exact ((List.cons_prefix_cons.mpr ⟨rfl, hprefix.map Prod.fst⟩)).isInfix
          · exact hlater h

/-! ## §4. Covers. -/

/-- A text with some of its characters covered: how many stars stand for each of these. -/
abbrev Covered := List (Char × Option Nat)

/-- What is seen of a character. -/
def seen (star : Char) : Char × Option Nat → List Char
  | (c, none) => [c]
  | (_, some n) => List.replicate n star

/-- What is seen of a text. -/
def shown (star : Char) (cover : Covered) : List Char := cover.flatMap (seen star)

/-- The marks of a text as covers, with a mask of so many stars. -/
def Marked.cover (width : Nat) (ms : Marked) : Covered :=
  ms.map fun m =>
    match m.2 with
    | .kept => (m.1, none)
    | .first => (m.1, some width)
    | .more => (m.1, some 0)

/-- The word is read in the characters that are not covered; stars between them are a
break. -/
def Uncovered (word : List Char) (cover : Covered) : Prop :=
  word.map (·, none) <:+: cover.filter fun m => m.2 ≠ some 0

instance (word : List Char) (cover : Covered) : Decidable (Uncovered word cover) :=
  inferInstanceAs (Decidable (_ <:+: _))

section

variable {star : Char}

@[simp] theorem shown_nil : shown star [] = [] := rfl

@[simp] theorem shown_cons (m : Char × Option Nat) (cover : Covered) :
    shown star (m :: cover) = seen star m ++ shown star cover := by
  simp [shown]

@[simp] theorem shown_append (cover later : Covered) :
    shown star (cover ++ later) = shown star cover ++ shown star later := by
  simp [shown]

/-- **The covers of the marks** show the text with the mask. -/
theorem shown_cover (width : Nat) (ms : Marked) :
    shown star (Marked.cover width ms) = erase (List.replicate width star) ms := by
  induction ms with
  | nil => rfl
  | cons m ms ih =>
      obtain ⟨c, mark⟩ := m
      rw [Marked.cover, List.map_cons, shown_cons, erase_cons]
      congr 1
      cases mark <;> rfl

/-- Stars hide nothing that follows them. -/
theorem infix_stars {word : List Char} (h : star ∉ word) (n : Nat) (cs : List Char) :
    word <:+: List.replicate n star ++ cs ↔ word <:+: cs := by
  induction n with
  | zero => simp
  | succ n ih =>
      rw [List.replicate_succ, List.cons_append, List.infix_cons_iff, ih, or_iff_right_iff_imp]
      cases word with
      | nil => exact fun _ => List.nil_infix
      | cons c word =>
          intro hprefix
          obtain ⟨rfl, -⟩ := List.cons_prefix_cons.mp hprefix
          exact absurd (List.mem_cons_self ..) h

/-- A word that is seen at the start is there uncovered. -/
theorem prefix_shown {word : List Char} (h : star ∉ word) (cover : Covered) :
    word <+: shown star cover ↔
      word.map (·, none) <+: cover.filter fun m : Char × Option Nat => m.2 ≠ some 0 := by
  induction cover generalizing word with
  | nil => cases word <;> simp
  | cons m cover ih =>
      cases word with
      | nil => simp
      | cons d word =>
          obtain ⟨hd, hword⟩ := not_or.mp (fun hmem => h (List.mem_cons.mpr hmem))
          obtain ⟨c, _ | _ | n⟩ := m
          · -- An uncovered character is compared with the first one of the word.
            simp [seen, List.cons_prefix_cons, ih hword]
          · simpa [seen] using ih h
          · simp [seen, List.replicate_succ, List.cons_prefix_cons, Ne.symm hd]

/-- **Where a word without stars is found** in what is seen: where it is read uncovered. -/
theorem infix_shown {word : List Char} (h : star ∉ word) (cover : Covered) :
    word <:+: shown star cover ↔ Uncovered word cover := by
  rw [Uncovered]
  induction cover with
  | nil => cases word <;> simp
  | cons m cover ih =>
      obtain ⟨c, _ | _ | n⟩ := m
      · have hprefix := prefix_shown h ((c, none) :: cover)
        simp only [shown_cons, seen, List.singleton_append, List.filter_cons] at hprefix ⊢
        simp only [List.infix_cons_iff, ih, hprefix, ne_eq, reduceCtorEq, not_false_eq_true,
          decide_true, if_true]
      · simpa [seen] using ih
      · -- Stars are no part of the word, so it is read before them or after them.
        rw [shown_cons, seen, infix_stars h, ih]
        cases word with
        | nil => simp
        | cons d word => simp [List.infix_cons_iff, List.cons_prefix_cons]

end

end MarkedText
