/-
  ObligationRuntime.Lib.SolidPieces — a text cut at separators, with the blanks
  around the pieces and the blank pieces dropped.

  A reader of loose text splits it, strips what it gets and skips what is empty.
  `solidPieces p` is that reader for the separators `p`.  It cannot see blanks at the
  edges of the text or of a piece, nor how many separators stand between two pieces,
  so that `\r\n` is no different from `\n` to it.

  Main results:
    * `solidPieces_blank_append`, `solidPieces_append_blank` — blanks around a text,
    * `solidPieces_intercalate` — a joined text has the pieces of its parts,
    * `solid_splitLines` — the solid lines of `splitlines` are the pieces between
      line breaks.
-/
import ObligationRuntime.Lib.Text

namespace Py

/-! ## §1. Blank texts and phrases. -/

/-- Nothing but white space. -/
def Blank (cs : List Char) : Prop := ∀ c ∈ cs, isSpace c = true

instance (cs : List Char) : Decidable (Blank cs) :=
  decidable_of_iff (cs.all isSpace = true) List.all_eq_true

/-- A text that can stand as a piece: not empty, stripped and without separators. -/
structure Phrase (p : Char → Bool) (cs : List Char) : Prop where
  ne_nil : cs ≠ []
  stripped : stripChars cs = cs
  plain : ∀ c ∈ cs, p c = false

/-! ## §2. The pieces. -/

variable {p : Char → Bool} {cs : List Char}

/-- The texts of a list, stripped, without the empty ones. -/
def solid (xs : List (List Char)) : List (List Char) := (xs.map stripChars).filter (· ≠ [])

@[simp] theorem solid_append (xs ys : List (List Char)) :
    solid (xs ++ ys) = solid xs ++ solid ys := by
  simp [solid]

/-- A reader that finds nothing in an empty text may be given the solid texts only. -/
theorem filterMap_solid {α : Type*} {f : List Char → Option α} (hf : f [] = none)
    (xs : List (List Char)) : (solid xs).filterMap f = (xs.map stripChars).filterMap f := by
  induction xs with
  | nil => rfl
  | cons x xs ih =>
      rw [← List.singleton_append, solid_append, List.filterMap_append, ih, List.map_append,
        List.filterMap_append]
      by_cases hx : stripChars x = []
      · simp [solid, hx, hf]
      · simp [solid, hx]

/-- The pieces of a text between the separators `p`, stripped, without the empty ones. -/
def solidPieces (p : Char → Bool) (cs : List Char) : List (List Char) := solid (cs.splitOnP p)

@[simp] theorem solidPieces_nil : solidPieces p [] = [] := by
  have hnil : stripChars [] = [] := rfl
  simp [solidPieces, solid, hnil]

/-- A text without separators is the only one to strip. -/
theorem solidPieces_plain (h : ∀ c ∈ cs, p c = false) : solidPieces p cs = solid [cs] := by
  rw [solidPieces, List.splitOnP_eq_singleton h]

/-- A separator divides the pieces. -/
theorem solidPieces_sep {c : Char} (hc : p c = true) (xs ys : List Char) :
    solidPieces p (xs ++ c :: ys) = solidPieces p xs ++ solidPieces p ys := by
  rw [solidPieces, List.splitOnP_append_cons xs ys hc, solid_append]
  rfl

/-- A phrase is its own only piece. -/
theorem Phrase.solidPieces (h : Phrase p cs) : solidPieces p cs = [cs] := by
  rw [solidPieces_plain h.plain]
  simp [solid, h.stripped, h.ne_nil]

/-! ## §3. Blanks at the edges. -/

/-- White space in front is not seen, -/
theorem solidPieces_cons_blank {c : Char} (hc : isSpace c = true) (cs : List Char) :
    solidPieces p (c :: cs) = solidPieces p cs := by
  by_cases hp : p c = true
  · have h := solidPieces_sep hp [] cs
    rwa [solidPieces_nil, List.nil_append, List.nil_append] at h
  · -- The blank goes to the first piece, which is stripped.
    rw [solidPieces, solidPieces, List.splitOnP_cons_eq_if_modifyHead, if_neg hp]
    cases cs.splitOnP p with
    | nil => rfl
    | cons x xs => simp [solid, stripChars_cons_blank hc]

/-- A last character that is no separator goes to the last piece. -/
theorem splitOnP_concat {c : Char} (hc : p c = false) : ∀ cs : List Char, ∃ init last,
    cs.splitOnP p = init ++ [last] ∧ (cs ++ [c]).splitOnP p = init ++ [last ++ [c]]
  | [] => ⟨[], [], by simp, by simp [List.splitOnP_cons_eq_if_modifyHead, hc]⟩
  | d :: cs => by
      obtain ⟨init, last, h, hconcat⟩ := splitOnP_concat hc cs
      rw [List.cons_append, List.splitOnP_cons_eq_if_modifyHead,
        List.splitOnP_cons_eq_if_modifyHead, h, hconcat]
      -- What comes in front does not reach the last piece, unless it is the only one.
      by_cases hd : p d = true
      · exact ⟨[] :: init, last, by simp [hd], by simp [hd]⟩
      · cases init with
        | nil => exact ⟨[], d :: last, by simp [hd], by simp [hd]⟩
        | cons x init => exact ⟨(d :: x) :: init, last, by simp [hd], by simp [hd]⟩

/-- and none behind. -/
theorem solidPieces_concat_blank {c : Char} (hc : isSpace c = true) (cs : List Char) :
    solidPieces p (cs ++ [c]) = solidPieces p cs := by
  by_cases hp : p c = true
  · rw [solidPieces_sep hp, solidPieces_nil, List.append_nil]
  · obtain ⟨init, last, h, hconcat⟩ := splitOnP_concat (Bool.eq_false_iff.mpr hp) cs
    rw [solidPieces, solidPieces, h, hconcat]
    simp [solid, stripChars_concat_blank hc]

/-- **Blanks in front of a text change nothing**, separators among them or not. -/
theorem solidPieces_blank_append {b : List Char} (hb : Blank b) (cs : List Char) :
    solidPieces p (b ++ cs) = solidPieces p cs := by
  induction b with
  | nil => rfl
  | cons c b ih =>
      rw [List.cons_append, solidPieces_cons_blank (hb c (by simp)),
        ih fun d hd => hb d (List.mem_cons_of_mem _ hd)]

/-- **Blanks behind a text change nothing.** -/
theorem solidPieces_append_blank {b : List Char} (hb : Blank b) (cs : List Char) :
    solidPieces p (cs ++ b) = solidPieces p cs := by
  induction b using List.reverseRecOn with
  | nil => rw [List.append_nil]
  | append_singleton b c ih =>
      rw [← List.append_assoc, solidPieces_concat_blank (hb c (by simp)),
        ih fun d hd => hb d (List.mem_append_left _ hd)]

/-- Stripping the text first changes nothing. -/
theorem solidPieces_stripChars (cs : List Char) :
    solidPieces p (stripChars cs) = solidPieces p cs := by
  obtain ⟨before, after, hbefore, hafter, heq⟩ := exists_stripChars cs
  rw [← heq, solidPieces_append_blank hafter, solidPieces_blank_append hbefore, heq]

/-- The final blanks may be dropped first. -/
theorem solidPieces_rdropWhile (cs : List Char) :
    solidPieces p (cs.rdropWhile isSpace) = solidPieces p cs := by
  have h := solidPieces_append_blank (p := p) (b := cs.rtakeWhile isSpace)
    (fun c hc => List.mem_rtakeWhile_imp hc) (cs.rdropWhile isSpace)
  rwa [List.rdropWhile_append_rtakeWhile, eq_comm] at h

/-! ## §4. Joined texts. -/

/-- What is in a joined text is in the separator or in a part. -/
theorem mem_intercalate {sep : List Char} {c : Char} : ∀ {as : List (List Char)},
    c ∈ sep.intercalate as → c ∈ sep ∨ ∃ a ∈ as, c ∈ a
  | [], h => by simp at h
  | [a], h => by simpa using Or.inr h
  | a :: b :: as, h => by
      rw [List.intercalate_cons_cons, List.mem_append, List.mem_append] at h
      rcases h with (h | h) | h
      · exact .inr ⟨a, by simp, h⟩
      · exact .inl h
      · rcases mem_intercalate h with h | ⟨x, hx, hc⟩
        · exact .inl h
        · exact .inr ⟨x, List.mem_cons_of_mem _ hx, hc⟩

/-- **A text joined with a separator has the pieces of its parts**; blanks may follow
the separator. -/
theorem solidPieces_intercalate {c : Char} (hc : p c = true) {b : List Char} (hb : Blank b) :
    ∀ xs : List (List Char), solidPieces p ((c :: b).intercalate xs) = xs.flatMap (solidPieces p)
  | [] => by simp
  | [x] => by simp
  | x :: y :: xs => by
      rw [List.intercalate_cons_cons, List.append_assoc, List.cons_append, solidPieces_sep hc,
        solidPieces_blank_append hb, solidPieces_intercalate hc hb (y :: xs)]
      rfl

/-- Phrases that are joined are found again. -/
theorem solidPieces_intercalate_phrases {c : Char} (hc : p c = true) {b : List Char}
    (hb : Blank b) {xs : List (List Char)} (h : ∀ x ∈ xs, Phrase p x) :
    solidPieces p ((c :: b).intercalate xs) = xs := by
  rw [solidPieces_intercalate hc hb, List.flatMap_congr fun x hx => (h x hx).solidPieces,
    List.flatMap_singleton']

/-- `[x.strip() for x in s.split(sep) if x.strip()]`. -/
theorem solid_split (sep : Char) (cs : List Char) :
    ((split sep (String.ofList cs)).map strip).filter (· ≠ "") =
      (solidPieces (· == sep) cs).map String.ofList := by
  rw [split, String.toList_ofList, List.splitOn_eq_splitOnP, solidPieces, solid]
  simp only [List.map_map, List.filter_map]
  simp [strip, Function.comp_def]

/-! ## §5. Lines. -/

/-- The line read so far stands in front of what follows. -/
theorem solid_splitLinesFrom (cur cs : List Char) (hcur : ∀ c ∈ cur, isLineBreak c = false) :
    solid (splitLinesFrom cur cs) = solidPieces isLineBreak (cur.reverse ++ cs) := by
  have hline : solidPieces isLineBreak cur.reverse = solid [cur.reverse] :=
    solidPieces_plain fun c hc => hcur c (by simpa using hc)
  fun_induction splitLinesFrom cur cs with
  | case1 => rfl
  | case2 cur hne => rw [List.append_nil, hline]
  | case3 cur cs ih =>
      -- The second character of `\r\n` is a blank at the front of the next line.
      have hr : isLineBreak '\r' = true := by decide
      have hn : isSpace '\n' = true := by decide
      rw [solidPieces_sep hr, solidPieces_cons_blank hn, hline, ← List.singleton_append,
        solid_append, ih (by simp) rfl]
      rfl
  | case4 cur c cs hcrlf hc ih =>
      rw [solidPieces_sep hc, hline, ← List.singleton_append, solid_append, ih (by simp) rfl]
      rfl
  | case5 cur c cs hcrlf hc ih =>
      have hplain : ∀ d ∈ c :: cur, isLineBreak d = false := by
        simpa using ⟨by simpa using hc, hcur⟩
      rw [ih hplain (solidPieces_plain fun d hd => hplain d (List.mem_reverse.mp hd)),
        List.reverse_cons, List.append_assoc, List.singleton_append]

/-- **The solid lines of a text are its pieces between line breaks.** -/
theorem solid_splitLines (cs : List Char) :
    solid (splitLinesFrom [] cs) = solidPieces isLineBreak cs :=
  solid_splitLinesFrom [] cs (by simp)

end Py
