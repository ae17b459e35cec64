/-
  ObligationRuntime.Lib.PathWords — where a word can stand in a path.

  A path is its segments, each behind a slash.  A client that looks for "/word" in the text
  of a path finds it where a segment begins with the word, and nowhere else; one that looks
  at the end of the text finds it where the last segment is the word.

  Main results:
    * `slash_infix_iff` — "/word" occurs in a path,
    * `slash_suffix_iff` — a path ends in "/word".
-/
import Mathlib.Data.List.Infix

namespace PathWords

/-- The text of segments, each behind a slash. -/
def text (ss : List (List Char)) : List Char := ss.flatMap fun s => '/' :: s

@[simp] theorem text_nil : text [] = [] := rfl

@[simp] theorem text_cons (s : List Char) (ss : List (List Char)) :
    text (s :: ss) = '/' :: (s ++ text ss) := rfl

@[simp] theorem text_append (ss ts : List (List Char)) :
    text (ss ++ ts) = text ss ++ text ts := List.flatMap_append

section

variable {w : List Char}

/-- A word without slashes that begins a segment and what follows it begins the segment. -/
theorem prefix_segment_iff (hw : '/' ∉ w) {s : List Char} (ss : List (List Char)) :
    w <+: s ++ text ss ↔ w <+: s := by
  constructor
  · intro h
    rcases List.prefix_or_prefix_of_prefix h (List.prefix_append s (text ss)) with h' | ⟨rest, rfl⟩
    · exact h'
    · have hrest := (List.prefix_append_right_inj s).mp h
      cases rest with
      | nil => simp
      | cons c rest =>
          cases ss with
          | nil => simp at hrest
          | cons t ss =>
              -- What follows the segment is a slash, and the word has none.
              rw [text_cons, List.cons_prefix_cons] at hrest
              exact absurd (by simp [hrest.1]) hw
  · exact fun h => h.trans (List.prefix_append _ _)

/-- In a segment there is no slash to find. -/
theorem slash_infix_append {s : List Char} (hs : '/' ∉ s) (cs : List Char) :
    '/' :: w <:+: s ++ cs ↔ '/' :: w <:+: cs := by
  induction s with
  | nil => rfl
  | cons c s ih =>
      have hc : '/' ≠ c := fun h => hs (h ▸ List.mem_cons_self)
      rw [List.cons_append, List.infix_cons_iff, ih fun h => hs (List.mem_cons_of_mem _ h)]
      simp [List.cons_prefix_cons, hc]

/-- **"/word" occurs in a path** where a segment begins with the word. -/
theorem slash_infix_iff (hw : '/' ∉ w) {ss : List (List Char)} (hss : ∀ s ∈ ss, '/' ∉ s) :
    '/' :: w <:+: text ss ↔ ∃ s ∈ ss, w <+: s := by
  induction ss with
  | nil => simp
  | cons s ss ih =>
      have hrest := ih fun t ht => hss t (List.mem_cons_of_mem _ ht)
      rw [text_cons, List.infix_cons_iff, List.cons_prefix_cons,
        slash_infix_append (hss s List.mem_cons_self), hrest, prefix_segment_iff hw]
      simp

/-- What stands behind the last slash is one thing. -/
theorem last_word_unique {a b s : List Char} (hw : '/' ∉ w) (hs : '/' ∉ s)
    (h : a ++ '/' :: w = b ++ '/' :: s) : w = s := by
  have hsolid : ∀ {cs : List Char}, '/' ∉ cs → ∀ c ∈ cs.reverse, decide (c ≠ '/') = true := by
    intro cs hcs c hc
    refine decide_eq_true fun heq => hcs ?_
    rw [← heq]
    exact List.mem_reverse.mp hc
  have hreverse : w.reverse ++ '/' :: a.reverse = s.reverse ++ '/' :: b.reverse := by
    simpa using congrArg List.reverse h
  have htake := congrArg (List.takeWhile fun c => decide (c ≠ '/')) hreverse
  rw [List.takeWhile_append_of_pos (hsolid hw), List.takeWhile_append_of_pos (hsolid hs)] at htake
  simpa using htake

/-- **A path ends in "/word"** where its last segment is the word. -/
theorem slash_suffix_iff (hw : '/' ∉ w) {ss : List (List Char)} {s : List Char} (hs : '/' ∉ s) :
    '/' :: w <:+ text (ss ++ [s]) ↔ s = w := by
  have htext : text (ss ++ [s]) = text ss ++ '/' :: s := by simp
  rw [htext]
  constructor
  · rintro ⟨a, ha⟩
    exact (last_word_unique hw hs ha).symm
  · rintro rfl
    exact List.suffix_append _ _

end

end PathWords
